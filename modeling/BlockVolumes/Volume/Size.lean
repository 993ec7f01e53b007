import BlockVolumes.Text.Blank

/-!
Sizes in bytes as people write them: digits, and perhaps a binary unit as in `512M`, `10 GiB`,
`1tb`.
-/

namespace BlockVolumes.Size

def digit? (c : Char) : Option Nat :=
  if '0' ≤ c ∧ c ≤ '9' then some (c.toNat - 48) else none

def digits (n : Nat) : List Char → Nat × List Char
  | [] => (n, [])
  | c :: rest =>
    match digit? c with
    | some d => digits (10 * n + d) rest
    | none => (n, c :: rest)

def power? (c : Char) : Option Nat :=
  match c.toLower with
  | 'k' => some 10
  | 'm' => some 20
  | 'g' => some 30
  | 't' => some 40
  | _ => none

def skipLetter (letter : Char) : List Char → List Char
  | [] => []
  | c :: rest => if c.toLower = letter then rest else c :: rest

def unit : List Char → Nat × List Char
  | [] => (0, [])
  | c :: rest =>
    match power? c with
    | some power => (power, rest)
    | none => (0, c :: rest)

def ofChars? (s : List Char) : Option UInt64 :=
  match s with
  | [] => none
  | c :: _ =>
    if (digit? c).isNone then none
    else
      let (n, rest) := digits 0 s
      let (power, rest) := unit (rest.dropWhile Text.isBlank)
      if skipLetter 'b' (skipLetter 'i' rest) = [] ∧ n <<< power < UInt64.size then
        some (UInt64.ofNat (n <<< power))
      else none

def read? (s : String) : Option UInt64 := ofChars? (Text.trim s.toList)

end BlockVolumes.Size
