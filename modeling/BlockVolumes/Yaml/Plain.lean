import BlockVolumes.Json.Error
import BlockVolumes.Yaml.Event

/-!
What plain scalars stand for: nothing, flags and numbers in their spellings, and text otherwise.
-/

namespace BlockVolumes.Yaml

def isNullWord (s : String) : Bool := ["null", "Null", "NULL", "~"].contains s

def flagWord? (s : String) : Option Bool :=
  if ["true", "True", "TRUE"].contains s then some true
  else if ["false", "False", "FALSE"].contains s then some false
  else none

def digitOf? (base : Nat) (c : Char) : Option Nat := (hexDigit? c).filter (· < base)

def natural? (base : Nat) (digits : List Char) : Option Nat :=
  if digits = [] then none
  else digits.foldlM (fun n c => (digitOf? base c).map (base * n + ·)) 0

def based? : List Char → Option (Nat × List Char)
  | '0' :: 'x' :: rest => some (16, rest)
  | '0' :: 'o' :: rest => some (8, rest)
  | '0' :: 'b' :: rest => some (2, rest)
  | _ => none

def withoutSign (s : List Char) : List Char :=
  match s with
  | '+' :: rest => rest
  | '-' :: rest => rest
  | _ => s

def isPadded (s : List Char) : Bool :=
  let digits := withoutSign s
  1 < digits.length && digits.head? == some '0' && digits.all Char.isDigit

def integer? (s : List Char) : Option Int := do
  let (negative, digits) := match s with
    | '+' :: rest => (false, rest)
    | '-' :: rest => (true, rest)
    | _ => (false, s)
  let n ← match (based? digits).bind fun (base, rest) => natural? base rest with
    | some n => some n
    | none => if isPadded s then none else natural? 10 digits
  if negative then (if n ≤ 1 <<< 127 then some (-(n : Int)) else none)
  else (if n < 1 <<< 128 then some (n : Int) else none)

def digitRun (s : List Char) : Nat × Nat × List Char :=
  let digits := s.takeWhile Char.isDigit
  (digits.foldl (fun n d => 10 * n + (d.toNat - 48)) 0, digits.length, s.drop digits.length)

def decimal? (s : List Char) : Option (Nat × Int) := do
  let (whole, wholeLength, rest) := digitRun s
  let (fraction, fractionLength, rest) := match rest with
    | '.' :: rest => digitRun rest
    | _ => (0, 0, rest)
  if wholeLength + fractionLength = 0 then none
  else
    let exponent ← match rest with
      | [] => some 0
      | c :: rest =>
        if c ≠ 'e' ∧ c ≠ 'E' then none
        else
          let negative := rest.head? == some '-'
          match digitRun (withoutSign rest) with
          | (_, 0, _) => none
          | (n, _, []) => some (if negative then -(n : Int) else n)
          | (_, _, _ :: _) => none
    some (whole * Nat.pow 10 fractionLength + fraction, exponent - fractionLength)

def nearestBits? (significand : Nat) (power : Int) : Option UInt64 :=
  let length : Int := (Nat.toDigits 10 significand).length
  let f : Float :=
    if significand = 0 ∨ power + length < -400 then 0
    else if 400 < power + length then 1.0 / 0.0
    else Float.ofScientific significand (power < 0) power.natAbs
  if f.isInf then none else some f.toBits

def infinity : UInt64 := 0x7FF0000000000000

def notANumber : UInt64 := 0x7FF8000000000000

def negated (bits : UInt64) : UInt64 := bits ^^^ 0x8000000000000000

def real? (s : String) : Option UInt64 :=
  if [".inf", ".Inf", ".INF", "+.inf", "+.Inf", "+.INF"].contains s then some infinity
  else if ["-.inf", "-.Inf", "-.INF"].contains s then some (negated infinity)
  else if [".nan", ".NaN", ".NAN"].contains s then some notANumber
  else do
    let (significand, power) ← decimal? (withoutSign s.toList)
    let bits ← nearestBits? significand power
    return if s.toList.head? = some '-' then negated bits else bits

def plainFound (s : String) : Found :=
  if s = "" ∨ isNullWord s then .null
  else match flagWord? s, integer? s.toList, real? s with
    | some b, _, _ => .flag b
    | _, some n, _ => .number (.integer n)
    | _, _, some bits => if isPadded s.toList then .text s else .number (.real bits)
    | _, _, _ => .text s

def coreTag (name : String) : String := "tag:yaml.org,2002:" ++ name

/-- What is wrong with a scalar where something else was expected. A tag that its text does not fit
is wrong first. -/
def Scalar.mismatch (s : Scalar) (expected : String) : Mismatch :=
  let unfit (kind : String) : Mismatch := .wrongValue (.text s.text) kind
  let plain : Mismatch :=
    .wrongType (if s.style = .plain then plainFound s.text else .text s.text) expected
  match s.tag with
  | none => plain
  | some tag =>
    if tag = coreTag "bool" then
      match flagWord? s.text with
      | some b => .wrongType (.flag b) expected
      | none => unfit "a boolean"
    else if tag = coreTag "int" then
      match integer? s.text.toList with
      | some n => .wrongType (.number (.integer n)) expected
      | none => unfit "an integer"
    else if tag = coreTag "float" then
      match real? s.text with
      | some bits => .wrongType (.number (.real bits)) expected
      | none => unfit "a float"
    else if tag = coreTag "null" then
      if isNullWord s.text then .wrongType .null expected else unfit "null"
    else if tag.toList.head? = some '!' then plain
    else .wrongType (.text s.text) expected

def describe : Found → String
  | .null => "unit value"
  | .number (.integer n) =>
    if UInt64.size ≤ n then "integer \x60" ++ toString n ++ "\x60 as u128"
    else if n < -(1 <<< 63 : Nat) then "integer \x60" ++ toString n ++ "\x60 as i128"
    else Json.describe (.number (.integer n))
  | .number (.real bits) => "floating point \x60" ++ String.ofList (Decimal.plain bits) ++ "\x60"
  | found => Json.describe found

end BlockVolumes.Yaml
