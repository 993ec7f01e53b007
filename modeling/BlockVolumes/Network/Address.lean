import BlockVolumes.IoError
import BlockVolumes.Text.Blank

/-!
Network addresses: numeric ones with a port, and how an address to listen on is resolved.
-/

namespace BlockVolumes.Network

def digitIn? (base : Nat) (c : Char) : Option Nat :=
  let n := c.toNat
  let value :=
    if 48 ≤ n ∧ n ≤ 57 then n - 48
    else if 97 ≤ n ∧ n ≤ 122 then n - 87
    else if 65 ≤ n ∧ n ≤ 90 then n - 55
    else base
  if value < base then some value else none

def numberIn? (base : Nat) (digits : List Char) : Option Nat :=
  if digits = [] then none
  else digits.foldlM (fun n c => (digitIn? base c).map (base * n + ·)) 0

def decimalBelow? (limit : Nat) (s : List Char) : Option (List Char) := do
  let digits := s.takeWhile Char.isDigit
  if (← numberIn? 10 digits) < limit then some (s.drop digits.length) else none

def passChar? (c : Char) : List Char → Option (List Char)
  | x :: rest => if x = c then some rest else none
  | [] => none

def octet? (s : List Char) : Option (List Char) :=
  let digits := s.takeWhile Char.isDigit
  if 1 < digits.length ∧ digits.head? = some '0' then none else decimalBelow? 256 s

def ipv4? (s : List Char) : Option (List Char) := do
  octet? (← passChar? '.' (← octet? (← passChar? '.' (← octet? (← passChar? '.' (← octet? s))))))

def group? (s : List Char) : Option (List Char) :=
  let digits := s.takeWhile fun c => (digitIn? 16 c).isSome
  if digits = [] ∨ 4 < digits.length then none else some (s.drop digits.length)

/-- Up to `limit` groups with colons between them; the last two may be written as four numbers.
Tells how many there are, and whether they end so. -/
def groups (count : Nat) (s : List Char) : (limit : Nat) → Nat × Bool × List Char
  | 0 => (count, false, s)
  | limit + 1 =>
    match if count = 0 then some s else passChar? ':' s with
    | none => (count, false, s)
    | some start =>
      match if limit = 0 then none else ipv4? start, group? start with
      | some rest, _ => (count + 2, true, rest)
      | none, some rest => groups (count + 1) rest limit
      | none, none => (count, false, s)

def ipv6? (s : List Char) : Option (List Char) :=
  match groups 0 s 8 with
  | (8, _, rest) => some rest
  | (_, true, _) => none
  | (count, false, rest) => do
    let tail ← passChar? ':' (← passChar? ':' rest)
    let (_, _, rest) := groups 0 tail (7 - count)
    some rest

def portLimit : Nat := 65536

def withPort (rest : List Char) : Bool :=
  ((passChar? ':' rest).bind (decimalBelow? portLimit)) == some []

def pastZone (s : List Char) : Option (List Char) :=
  match passChar? '%' s with
  | some zone => decimalBelow? UInt32.size zone
  | none => some s

def bracketed? (s : List Char) : Option (List Char) := do
  passChar? ']' (← pastZone (← ipv6? (← passChar? '[' s)))

def isNumeric (s : List Char) : Bool :=
  (ipv4? s).any withPort || (bracketed? s).any withPort

def hostAndPort? (s : List Char) : Option (List Char × List Char) :=
  (Text.cut ':' s.reverse).map fun (port, host) => (host.reverse, port.reverse)

def resolve (address : String) : Except IoError Unit :=
  let s := address.toList
  if isNumeric s then .ok ()
  else match hostAndPort? s with
    | none => .error (.other "invalid socket address")
    | some (host, port) =>
      let digits := (passChar? '+' port).getD port
      if decimalBelow? portLimit digits ≠ some [] then .error (.other "invalid port value")
      else if host = "localhost".toList ∨ ipv4? host = some [] then .ok ()
      else .error (.other "failed to lookup address information: Name or service not known")

end BlockVolumes.Network
