import BlockVolumes.Json.Error

/-!
The smallest parts of a JSON text: blanks, words, strings and numbers. Reading works on bytes and
stops at the first fault; a string's bytes have to be UTF-8 only where its text is wanted.
-/

namespace BlockVolumes.Json

abbrev Input := List UInt8

abbrev Reader (α : Type) := Input → Except Error (α × Input)

def fail {α : Type} (fault : Fault) : Except Error α := .error (.malformed fault)

def refuse {α : Type} (cause : Mismatch) : Except Error α := .error (.mismatch cause)

@[match_pattern] abbrev quote : UInt8 := 34
@[match_pattern] abbrev backslash : UInt8 := 92
@[match_pattern] abbrev comma : UInt8 := 44
@[match_pattern] abbrev colon : UInt8 := 58
@[match_pattern] abbrev openList : UInt8 := 91
@[match_pattern] abbrev closeList : UInt8 := 93
@[match_pattern] abbrev openObject : UInt8 := 123
@[match_pattern] abbrev closeObject : UInt8 := 125
@[match_pattern] abbrev minus : UInt8 := 45
@[match_pattern] abbrev plus : UInt8 := 43
@[match_pattern] abbrev point : UInt8 := 46
@[match_pattern] abbrev letterN : UInt8 := 110
@[match_pattern] abbrev letterT : UInt8 := 116
@[match_pattern] abbrev letterF : UInt8 := 102
@[match_pattern] abbrev letterU : UInt8 := 117

def isBlank (b : UInt8) : Bool := b == 32 || b == 10 || b == 9 || b == 13

def skipBlanks (input : Input) : Input := input.dropWhile isBlank

def word : (letters : List UInt8) → Input → Except Error Input
  | [], input => .ok input
  | _ :: _, [] => fail .endInValue
  | letter :: letters, b :: rest =>
    if b = letter then word letters rest else fail .expectedIdent

def nullTail : List UInt8 := [117, 108, 108]

def trueTail : List UInt8 := [114, 117, 101]

def falseTail : List UInt8 := [97, 108, 115, 101]

def hexValue? (b : UInt8) : Option Nat :=
  if 48 ≤ b ∧ b ≤ 57 then some (b.toNat - 48)
  else if 97 ≤ b ∧ b ≤ 102 then some (b.toNat - 87)
  else if 65 ≤ b ∧ b ≤ 70 then some (b.toNat - 55)
  else none

def fourHex (a b c d : UInt8) : Except Error Nat :=
  match hexValue? a, hexValue? b, hexValue? c, hexValue? d with
  | some a, some b, some c, some d => .ok (((a * 16 + b) * 16 + c) * 16 + d)
  | _, _, _, _ => fail .invalidEscape

def isTrailing (n : Nat) : Bool := 0xDC00 ≤ n && n ≤ 0xDFFF

def isLeading (n : Nat) : Bool := 0xD800 ≤ n && n ≤ 0xDBFF

def shortEscape? (b : UInt8) : Option UInt8 :=
  if b = quote then some quote
  else if b = backslash then some backslash
  else if b = 47 then some 47
  else if b = 98 then some 8
  else if b = letterF then some 12
  else if b = letterN then some 10
  else if b = 114 then some 13
  else if b = letterT then some 9
  else none

/-- The second escape of a surrogate pair, and the character that the pair stands for. -/
def trailingEscape (leading : Nat) : Reader Nat
  | [] => fail .endInString
  | [b] => fail (if b = backslash then .endInString else .endOfEscape)
  | b :: u :: rest =>
    if b ≠ backslash ∨ u ≠ letterU then fail .endOfEscape
    else
      match rest with
      | a :: b :: c :: d :: rest => do
        let n ← fourHex a b c d
        if isTrailing n then .ok (0x10000 + (leading - 0xD800) * 1024 + (n - 0xDC00), rest)
        else fail .loneSurrogate
      | _ => fail .endInString

/-- The character that stands after a backslash and a `u`. Two escapes that form a surrogate pair
are one character. -/
def unicodeEscape : Reader Nat
  | a :: b :: c :: d :: rest => do
    let n ← fourHex a b c d
    if isTrailing n then fail .loneSurrogate
    else if isLeading n then trailingEscape n rest
    else .ok (n, rest)
  | _ => fail .endInString

def escaped : Reader (List UInt8)
  | [] => fail .endInString
  | e :: rest =>
    if e = letterU then do
      let (n, rest) ← unicodeEscape rest
      .ok (String.utf8EncodeChar (Char.ofNat n), rest)
    else
      match shortEscape? e with
      | some b => .ok ([b], rest)
      | none => fail .invalidEscape

theorem trailingEscape_length {leading n : Nat} {input rest : Input}
    (read : trailingEscape leading input = .ok (n, rest)) : rest.length ≤ input.length := by
  unfold trailingEscape at read
  split at read
  · cases read
  · cases read
  · split at read
    · cases read
    · split at read
      · rename_i a b c d _
        cases hex : fourHex a b c d with
        | error => simp [hex, bind, Except.bind] at read
        | ok m =>
          simp only [hex, bind, Except.bind] at read
          split at read
          · obtain ⟨-, rfl⟩ := Prod.mk.inj (Except.ok.inj read)
            simp only [List.length_cons]
            omega
          · cases read
      · cases read

theorem unicodeEscape_length {n : Nat} {input rest : Input}
    (read : unicodeEscape input = .ok (n, rest)) : rest.length ≤ input.length := by
  unfold unicodeEscape at read
  split at read
  · rename_i a b c d _
    cases hex : fourHex a b c d with
    | error => simp [hex, bind, Except.bind] at read
    | ok m =>
      simp only [hex, bind, Except.bind] at read
      split at read
      · cases read
      · split at read
        · have := trailingEscape_length read
          simp only [List.length_cons]
          omega
        · cases read
          simp only [List.length_cons]
          omega
  · cases read

theorem escaped_length {bytes : List UInt8} {input rest : Input}
    (read : escaped input = .ok (bytes, rest)) : rest.length < input.length := by
  unfold escaped at read
  split at read
  · cases read
  · rename_i after
    split at read
    · cases code : unicodeEscape after with
      | error => simp [code, bind, Except.bind] at read
      | ok result =>
        simp only [code, bind, Except.bind] at read
        cases read
        have := unicodeEscape_length code
        simp only [List.length_cons]
        omega
    · split at read
      · cases read
        simp
      · cases read

def stringBody (reversed : List UInt8) : Reader (List UInt8)
  | [] => fail .endInString
  | b :: rest =>
    if b = quote then .ok (reversed.reverse, rest)
    else if b = backslash then
      match _read : escaped rest with
      | .ok (bytes, rest) => stringBody (bytes.reverse ++ reversed) rest
      | .error error => .error error
    else if b < 32 then fail .controlCharacter
    else stringBody (b :: reversed) rest
termination_by input => input.length
decreasing_by
  · have := escaped_length _read
    simp only [List.length_cons]
    omega
  · simp

def stringText : Reader String := fun input => do
  let (bytes, rest) ← stringBody [] input
  match String.fromUTF8? ⟨bytes.toArray⟩ with
  | some s => .ok (s, rest)
  | none => fail .invalidUnicode

/-- Passes over the rest of a string after its opening quote; escapes need only be well-formed. -/
def skipString : Input → Except Error Input
  | [] => fail .endInString
  | b :: rest =>
    if b = quote then .ok rest
    else if b = backslash then
      match rest with
      | [] => fail .endInString
      | letterU :: rest =>
        match rest with
        | a :: b :: c :: d :: rest => do
          let _ ← fourHex a b c d
          skipString rest
        | _ => fail .endInString
      | e :: rest => if (shortEscape? e).isSome then skipString rest else fail .invalidEscape
    else if b < 32 then fail .controlCharacter
    else skipString rest

def isDigit (b : UInt8) : Bool := 48 ≤ b && b ≤ 57

def startsWithDigit : Input → Bool
  | b :: _ => isDigit b
  | [] => false

def skipDigits (input : Input) : Input := input.dropWhile isDigit

def wordLimit : Nat := UInt64.size

/-- Reads digits onto `n` as long as the result fits a 64-bit word; counts those taken. -/
def grow (n taken : Nat) : Input → Nat × Nat × Input
  | [] => (n, taken, [])
  | b :: rest =>
    if isDigit b ∧ 10 * n + (b.toNat - 48) < wordLimit then
      grow (10 * n + (b.toNat - 48)) (taken + 1) rest
    else (n, taken, b :: rest)

/-- Multiplies by a power of ten, a step of at most 308 at a time; `none` on overflow. -/
def scale (f : Float) (exponent : Int) : (steps : Nat) → Option Float
  | 0 => some f
  | steps + 1 =>
    if exponent.natAbs ≤ 308 then
      let power := Float.ofScientific 1 false exponent.natAbs
      let scaled := if 0 ≤ exponent then f * power else f / power
      if 0 ≤ exponent ∧ scaled.isInf then none else some scaled
    else if f == 0 then some f
    else if 0 ≤ exponent then none
    else scale (f / Float.ofScientific 1 false 308) (exponent + 308) steps

def realNumber (negative : Bool) (f : Float) : Number := .real (if negative then -f else f).toBits

def real (negative : Bool) (significand : Nat) (exponent : Int) : Except Error Number :=
  match scale significand.toUInt64.toFloat exponent 4 with
  | some f => .ok (realNumber negative f)
  | none => fail .numberOutOfRange

def exponentDigits (n : Nat) : Input → Option Nat × Input
  | [] => (some n, [])
  | b :: rest =>
    if isDigit b then
      if 10 * n + (b.toNat - 48) < 1 <<< 31 then exponentDigits (10 * n + (b.toNat - 48)) rest
      else (none, skipDigits rest)
    else (some n, b :: rest)

def exponentPart (negative : Bool) (significand : Nat) (start : Int) : Reader Number := fun input =>
  let (down, input) : Bool × Input := match input with
    | plus :: rest => (false, rest)
    | minus :: rest => (true, rest)
    | _ => (false, input)
  match input with
  | [] => fail .endInValue
  | b :: _ =>
    if !isDigit b then fail .invalidNumber
    else do
      match exponentDigits 0 input with
      | (some e, rest) =>
        let n ← real negative significand (if down then start - e else start + e)
        .ok (n, rest)
      | (none, rest) =>
        if significand ≠ 0 ∧ !down then fail .numberOutOfRange
        else .ok (realNumber negative 0, rest)

def isExponentMark (b : UInt8) : Bool := b == 101 || b == 69

def realTail (negative : Bool) (significand : Nat) (exponent : Int) : Reader Number
  | b :: rest =>
    if isExponentMark b then exponentPart negative significand exponent rest
    else do .ok (← real negative significand exponent, b :: rest)
  | [] => do .ok (← real negative significand exponent, [])

/-- What follows the point of a number. Digits that no longer fit the word are dropped. -/
def fractionPart (negative : Bool) (significand : Nat) (exponent : Int) :
    Reader Number := fun input =>
  let (n, taken, rest) := grow significand 0 input
  if startsWithDigit rest then realTail negative n (exponent - taken) (skipDigits rest)
  else if taken = 0 then fail (if rest.isEmpty then .endInValue else .invalidNumber)
  else realTail negative n (exponent - taken) rest

/-- An integer without point or exponent. Minus zero and negative numbers below the 64-bit range
are no integers. -/
def whole (negative : Bool) (n : Nat) : Number :=
  if !negative then .integer n
  else if n = 0 ∨ 1 <<< 63 < n then realNumber true n.toUInt64.toFloat
  else .integer (-(n : Int))

def numberTail (negative : Bool) (n : Nat) : Reader Number
  | point :: rest => fractionPart negative n 0 rest
  | b :: rest =>
    if isExponentMark b then exponentPart negative n 0 rest
    else .ok (whole negative n, b :: rest)
  | [] => .ok (whole negative n, [])

def unsigned (negative : Bool) : Reader Number
  | [] => fail .endInValue
  | b :: rest =>
    if b = 48 then
      if startsWithDigit rest then fail .invalidNumber else numberTail negative 0 rest
    else if isDigit b then
      let (n, _, rest) := grow (b.toNat - 48) 0 rest
      if startsWithDigit rest then
        let after := skipDigits rest
        let dropped : Int := rest.length - after.length
        match after with
        | point :: after => fractionPart negative n dropped after
        | _ => realTail negative n dropped after
      else numberTail negative n rest
    else fail .invalidNumber

def number? : Input → Option (Except Error (Number × Input))
  | minus :: rest => some (unsigned true rest)
  | b :: rest => if isDigit b then some (unsigned false (b :: rest)) else none
  | [] => none

def skipExponent (input : Input) : Except Error Input :=
  let input := match input with
    | plus :: rest => rest
    | minus :: rest => rest
    | _ => input
  if startsWithDigit input then .ok (skipDigits input) else fail .invalidNumber

def skipRealTail : Input → Except Error Input
  | b :: rest => if isExponentMark b then skipExponent rest else .ok (b :: rest)
  | [] => .ok []

def skipUnsigned (input : Input) : Except Error Input :=
  if !startsWithDigit input then fail .invalidNumber
  else
    let rest := match input with
      | 48 :: rest => rest
      | _ => skipDigits input
    if startsWithDigit rest then fail .invalidNumber
    else match rest with
      | point :: rest =>
        if startsWithDigit rest then skipRealTail (skipDigits rest) else fail .invalidNumber
      | _ => skipRealTail rest

end BlockVolumes.Json
