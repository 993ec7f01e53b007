import BlockVolumes.Text.Blank
import BlockVolumes.Time.Basic

/-!
Times as RFC 3339 text. Reading takes any offset and some more freedom than the standard: signed
years, short fields, blanks before a field, `UTC` for `Z`. Writing gives UTC with `Z` and the
shortest of zero, three, six or nine digits of a second that lose nothing.
-/

namespace BlockVolumes.Time

open Text (trimStart isBlank)

inductive Fault
  | invalid
  | tooShort
  | tooLong
  | outOfRange
  | impossible
deriving DecidableEq

def Fault.message : Fault → String
  | .invalid => "input contains invalid characters"
  | .tooShort => "premature end of input"
  | .tooLong => "trailing input"
  | .outOfRange => "input is out of range"
  | .impossible => "no possible date and time matching input"

def digit? (c : Char) : Option Nat :=
  if '0' ≤ c ∧ c ≤ '9' then some (c.toNat - 48) else none

def digits : (most n : Nat) → List Char → Nat × List Char
  | 0, n, s => (n, s)
  | _ + 1, n, [] => (n, [])
  | most + 1, n, c :: s =>
    match digit? c with
    | some d => digits most (10 * n + d) s
    | none => (n, c :: s)

def number (most : Nat) (s : List Char) : Except Fault (Nat × List Char) :=
  match s with
  | [] => .error .tooShort
  | c :: _ => if (digit? c).isSome then .ok (digits most 0 s) else .error .invalid

def expect (c : Char) (s : List Char) : Except Fault (List Char) :=
  match trimStart s with
  | [] => .error .tooShort
  | d :: rest => if d = c then .ok rest else .error .invalid

def field (low high : Nat) (s : List Char) : Except Fault (Nat × List Char) := do
  let (n, rest) ← number 2 (trimStart s)
  if low ≤ n ∧ n ≤ high then .ok (n, rest) else .error .outOfRange

def year (s : List Char) : Except Fault (Int × List Char) := do
  let s := trimStart s
  let (n, rest) ← match s with
    | '-' :: rest => (number rest.length rest).map fun (n, rest) => (-(n : Int), rest)
    | '+' :: rest => (number rest.length rest).map fun (n, rest) => ((n : Int), rest)
    | _ => (number 4 s).map fun (n, rest) => ((n : Int), rest)
  if -2147483648 ≤ n ∧ n ≤ 2147483647 then .ok (n, rest) else .error .outOfRange

/-- A fraction of a second in nanoseconds; digits after the ninth are dropped. -/
def fraction (s : List Char) : Except Fault (Nat × List Char) :=
  match s with
  | '.' :: rest => do
    let (n, after) ← number 9 rest
    .ok (n * Nat.pow 10 (9 - (rest.length - after.length)),
      after.dropWhile fun c => (digit? c).isSome)
  | _ => .ok (0, s)

def twoDigits (s : List Char) : Except Fault (Nat × Nat × List Char) :=
  match s with
  | [] => .error .tooShort
  | [c] => .error (if c.toNat < 128 then .tooShort else .invalid)
  | c :: d :: rest =>
    match digit? c, digit? d with
    | some m, some n => .ok (m, n, rest)
    | _, _ => .error .invalid

def offset (s : List Char) : Except Fault (Int × List Char) :=
  let signed (sign : Int) (s : List Char) : Except Fault (Int × List Char) := do
    let (h, i, rest) ← twoDigits s
    let rest := rest.dropWhile fun c => c = ':' || isBlank c
    let (m, n, rest) ← twoDigits rest
    if m ≤ 5 then .ok (sign * (((10 * h + i) * 3600 + (10 * m + n) * 60 : Nat) : Int), rest)
    else .error .outOfRange
  match s with
  | 'Z' :: rest => .ok (0, rest)
  | 'z' :: rest => .ok (0, rest)
  | '+' :: rest => signed 1 rest
  | '-' :: rest => signed (-1) rest
  | '\u2212' :: rest => signed (-1) rest
  | [] => .error .tooShort
  | u :: t :: c :: rest =>
    if u.toUpper = 'U' ∧ t.toUpper = 'T' ∧ c.toUpper = 'C' then .ok (0, rest)
    else .error .invalid
  | _ => .error .invalid

def readChars (s : List Char) : Except Fault Time := do
  let (year, s) ← year s
  let s ← expect '-' s
  let (month, s) ← field 1 12 s
  let s ← expect '-' s
  let (day, s) ← field 1 31 s
  let s ← match s with
    | [] => .error .tooShort
    | c :: rest => if c = 't' ∨ c = 'T' ∨ c = ' ' then .ok rest else .error .invalid
  let (hour, s) ← field 0 23 s
  let s ← expect ':' s
  let (minute, s) ← field 0 59 s
  let s ← expect ':' s
  let (second, s) ← field 0 60 s
  let (fraction, s) ← fraction s
  let (offset, s) ← offset (trimStart s)
  if trimStart s ≠ [] then .error .tooLong
  let date : Calendar.Date := ⟨year, month, day⟩
  if !date.isValid || year < -262143 || 262142 < year then .error .outOfRange
  if 86400 ≤ offset.natAbs then .error .outOfRange
  let (second, nanos) := if second = 60 then (59, fraction + 1000000000) else (second, fraction)
  let seconds := date.toDays * 86400 + hour * 3600 + minute * 60 + second - offset
  match ofParts? seconds nanos with
  | some time => .ok time
  | none => .error .impossible

def read (s : String) : Except Fault Time := readChars s.toList

def padded (width n : Nat) : List Char :=
  let ds := Nat.toDigits 10 n
  List.replicate (width - ds.length) '0' ++ ds

def writeYear (year : Int) : List Char :=
  if 0 ≤ year ∧ year ≤ 9999 then padded 4 year.toNat
  else (if year < 0 then '-' else '+') :: padded 4 year.natAbs

def writeFraction (nanos : Nat) : List Char :=
  if nanos = 0 then []
  else if nanos % 1000000 = 0 then '.' :: padded 3 (nanos / 1000000)
  else if nanos % 1000 = 0 then '.' :: padded 6 (nanos / 1000)
  else '.' :: padded 9 nanos

def writeChars (t : Time) : List Char :=
  let date := Calendar.Date.ofDays (t.seconds / 86400)
  let ofDay := (t.seconds % 86400).toNat
  let second := ofDay % 60 + t.nanos / 1000000000
  writeYear date.year ++ '-' :: padded 2 date.month ++ '-' :: padded 2 date.day ++
    'T' :: padded 2 (ofDay / 3600) ++ ':' :: padded 2 (ofDay / 60 % 60) ++ ':' :: padded 2 second ++
    writeFraction (t.nanos % 1000000000) ++ ['Z']

def write (t : Time) : String := String.ofList t.writeChars

end BlockVolumes.Time
