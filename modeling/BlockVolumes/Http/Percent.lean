import BlockVolumes.Text.Utf8

/-!
Percent escapes, as they stand in paths and in queries.
-/

namespace BlockVolumes.Http

def hexValue? (b : UInt8) : Option Nat :=
  let n := b.toNat
  if 48 ≤ n ∧ n ≤ 57 then some (n - 48)
  else if 65 ≤ n ∧ n ≤ 70 then some (n - 55)
  else if 97 ≤ n ∧ n ≤ 102 then some (n - 87)
  else none

@[match_pattern] abbrev percentSign : UInt8 := 37

/-- Escapes become the bytes they stand for; a sign without two digits after it stays. -/
def unescape : List UInt8 → List UInt8
  | [] => []
  | [a] => [a]
  | [a, b] => [a, b]
  | b :: high :: low :: rest =>
    if b = percentSign then
      match hexValue? high, hexValue? low with
      | some h, some l => UInt8.ofNat (16 * h + l) :: unescape rest
      | _, _ => b :: unescape (high :: low :: rest)
    else b :: unescape (high :: low :: rest)

def splitBytes (separator : UInt8) : List UInt8 → List (List UInt8)
  | [] => [[]]
  | b :: rest =>
    if b = separator then [] :: splitBytes separator rest
    else match splitBytes separator rest with
      | [] => [[b]]
      | piece :: pieces => (b :: piece) :: pieces

def queryText (bytes : List UInt8) : String :=
  Text.decodeMended (unescape (bytes.map fun b => if b = 43 then 32 else b))

/-- The names and values of a query, in order. A part without `=` has an empty value. -/
def queryPairs (query : List UInt8) : List (String × String) :=
  ((splitBytes 38 query).filter (· ≠ [])).map fun part =>
    (queryText (part.takeWhile (· ≠ 61)), queryText ((part.dropWhile (· ≠ 61)).drop 1))

end BlockVolumes.Http
