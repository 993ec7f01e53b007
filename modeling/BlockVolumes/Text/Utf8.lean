/-!
Reading UTF-8 where it may be damaged: each part that is no character, as long as it could still
have become one, is read as a replacement character.
-/

namespace BlockVolumes.Text

def replacement : Char := '\uFFFD'

def isContinuation (b : UInt8) : Bool := 0x80 ≤ b && b ≤ 0xBF

/-- How a character of several bytes starts: the bits of its first byte, the least and greatest
second byte, and the number of bytes after that. -/
structure Lead where
  bits : Nat
  least : UInt8
  greatest : UInt8
  more : Nat

def lead? (b : UInt8) : Option Lead :=
  let n := b.toNat
  if 0xC2 ≤ n ∧ n ≤ 0xDF then some ⟨n - 0xC0, 0x80, 0xBF, 0⟩
  else if n = 0xE0 then some ⟨0, 0xA0, 0xBF, 1⟩
  else if n = 0xED then some ⟨0xD, 0x80, 0x9F, 1⟩
  else if 0xE1 ≤ n ∧ n ≤ 0xEF then some ⟨n - 0xE0, 0x80, 0xBF, 1⟩
  else if n = 0xF0 then some ⟨0, 0x90, 0xBF, 2⟩
  else if 0xF1 ≤ n ∧ n ≤ 0xF3 then some ⟨n - 0xF0, 0x80, 0xBF, 2⟩
  else if n = 0xF4 then some ⟨4, 0x80, 0x8F, 2⟩
  else none

def continued (value : Nat) : (count : Nat) → List UInt8 → Option Char × List UInt8
  | 0, rest => (some (Char.ofNat value), rest)
  | _ + 1, [] => (none, [])
  | count + 1, b :: rest =>
    if isContinuation b then continued (value * 64 + (b.toNat - 0x80)) count rest
    else (none, b :: rest)

theorem continued_length (value count : Nat) (rest : List UInt8) :
    (continued value count rest).2.length ≤ rest.length := by
  induction count generalizing value rest with
  | zero => simp [continued]
  | succ count ih =>
    cases rest with
    | nil => simp [continued]
    | cons b rest =>
      simp only [continued]
      split
      · exact Nat.le_succ_of_le (ih _ _)
      · exact Nat.le_refl _

/-- The next character, if there is one, and the bytes after it or after the damaged part. -/
def nextChar (b : UInt8) (rest : List UInt8) : Option Char × List UInt8 :=
  if b < 0x80 then (some (Char.ofNat b.toNat), rest)
  else match lead? b, rest with
    | none, _ => (none, rest)
    | some _, [] => (none, [])
    | some lead, second :: after =>
      if lead.least ≤ second ∧ second ≤ lead.greatest then
        continued (lead.bits * 64 + (second.toNat - 0x80)) lead.more after
      else (none, rest)

theorem nextChar_length (b : UInt8) (rest : List UInt8) :
    (nextChar b rest).2.length ≤ rest.length := by
  simp only [nextChar]
  split
  · exact Nat.le_refl _
  · split
    · exact Nat.le_refl _
    · exact Nat.le_refl _
    · split
      · exact Nat.le_succ_of_le (continued_length _ _ _)
      · exact Nat.le_refl _

def decoded : List UInt8 → List (Option Char)
  | [] => []
  | b :: rest =>
    (nextChar b rest).1 :: decoded (nextChar b rest).2
termination_by bytes => bytes.length
decreasing_by
  have := nextChar_length b rest
  simp only [List.length_cons]
  omega

def decodeMended (bytes : List UInt8) : String :=
  String.ofList ((decoded bytes).map (·.getD replacement))

def decode? (bytes : List UInt8) : Option String :=
  ((decoded bytes).mapM id).map String.ofList

end BlockVolumes.Text
