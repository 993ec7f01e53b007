import BlockVolumes.Json.Skip
import BlockVolumes.Json.Value
import BlockVolumes.Proofs.Text.Digits

/-! Strings and numbers read back from the text that is written of them. -/

namespace BlockVolumes.Json

open Text (utf8)

def IsPlain (b : UInt8) : Prop := b ≠ quote ∧ b ≠ backslash ∧ ¬ b < 32

instance : DecidablePred IsPlain := fun _ => inferInstanceAs (Decidable (_ ∧ _))

theorem stringBody_plain {b : UInt8} (plain : IsPlain b) (reversed : List UInt8) (rest : Input) :
    stringBody reversed (b :: rest) = stringBody (b :: reversed) rest := by
  obtain ⟨noQuote, noBackslash, large⟩ := plain
  rw [stringBody]
  simp [noQuote, noBackslash, large]

theorem stringBody_plains {bytes : List UInt8} (plain : ∀ b ∈ bytes, IsPlain b)
    (reversed : List UInt8) (rest : Input) :
    stringBody reversed (bytes ++ rest) = stringBody (bytes.reverse ++ reversed) rest := by
  induction bytes generalizing reversed with
  | nil => rfl
  | cons b bytes ih =>
    rw [List.cons_append, stringBody_plain (plain b List.mem_cons_self),
      ih fun b member => plain b (List.mem_cons_of_mem _ member)]
    simp

theorem stringBody_escaped {bytes : List UInt8} {input rest : Input}
    (read : escaped input = .ok (bytes, rest)) (reversed : List UInt8) :
    stringBody reversed (backslash :: input) = stringBody (bytes.reverse ++ reversed) rest := by
  rw [stringBody]
  simp only [show ¬ backslash = quote by decide, if_false, if_true]
  split
  · rename_i same
    rw [read] at same
    cases same
    rfl
  · rename_i failed
    rw [read] at failed
    cases failed

theorem stringBody_quote (reversed : List UInt8) (rest : Input) :
    stringBody reversed (quote :: rest) = .ok (reversed.reverse, rest) := by
  rw [stringBody]
  simp

theorem hexValue?_hexDigit : ∀ n < 16, hexValue? (UInt8.ofNat (hexDigit n).toNat) = some n := by
  decide

theorem utf8_hexDigit {n : Nat} (small : n < 16) :
    String.utf8EncodeChar (hexDigit n) = [UInt8.ofNat (hexDigit n).toNat] :=
  Text.utf8EncodeChar_of_small
    ((by decide : ∀ n < 16, (hexDigit n).toNat < 128) n small)

theorem escaped_control {c : Char} (control : c.toNat < 32) (rest : Input) :
    escaped (utf8 ['u', '0', '0', hexDigit (c.toNat / 16), hexDigit (c.toNat % 16)] ++ rest) =
      .ok (String.utf8EncodeChar c, rest) := by
  have high : c.toNat / 16 < 16 := by omega
  have low : c.toNat % 16 < 16 := by omega
  have digits : fourHex 48 48 (UInt8.ofNat (hexDigit (c.toNat / 16)).toNat)
      (UInt8.ofNat (hexDigit (c.toNat % 16)).toNat) = .ok c.toNat := by
    simp only [fourHex, hexValue?_hexDigit _ high, hexValue?_hexDigit _ low,
      show hexValue? 48 = some 0 by decide]
    exact congrArg _ (by omega)
  have bytes : utf8 ['u', '0', '0', hexDigit (c.toNat / 16), hexDigit (c.toNat % 16)] =
      [letterU, 48, 48, UInt8.ofNat (hexDigit (c.toNat / 16)).toNat,
        UInt8.ofNat (hexDigit (c.toNat % 16)).toNat] := by
    simp only [Text.utf8_cons, Text.utf8_nil, utf8_hexDigit high, utf8_hexDigit low]
    rfl
  have whole : isTrailing c.toNat = false ∧ isLeading c.toNat = false := by
    simp only [isTrailing, isLeading]
    constructor <;> simp <;> omega
  simp [bytes, escaped, unicodeEscape, digits, whole, bind, Except.bind]

theorem isPlain_of_mem {c : Char} {b : UInt8} (noQuote : c ≠ '"') (noBackslash : c ≠ '\\')
    (printable : ¬ c.toNat < 32) (member : b ∈ String.utf8EncodeChar c) : IsPlain b := by
  by_cases small : c.toNat < 128
  · rw [Text.utf8EncodeChar_of_small small, List.mem_singleton] at member
    subst member
    have byte : (UInt8.ofNat c.toNat).toNat = c.toNat := by
      simp
      omega
    refine ⟨fun same => noQuote ?_, fun same => noBackslash ?_, ?_⟩
    · exact Char.toNat_inj.1 (byte.symm.trans (congrArg UInt8.toNat same))
    · exact Char.toNat_inj.1 (byte.symm.trans (congrArg UInt8.toNat same))
    · rw [UInt8.lt_iff_toNat_lt, byte]
      exact printable
  · have large := Text.le_of_mem_utf8EncodeChar small member
    rw [UInt8.le_iff_toNat_le] at large
    refine ⟨?_, ?_, ?_⟩
    · rintro rfl
      exact absurd large (by decide)
    · rintro rfl
      exact absurd large (by decide)
    · rw [UInt8.lt_iff_toNat_lt]
      simp at large ⊢
      omega

theorem stringBody_escape (c : Char) (reversed : List UInt8) (rest : Input) :
    stringBody reversed (utf8 (escape c) ++ rest) =
      stringBody ((String.utf8EncodeChar c).reverse ++ reversed) rest := by
  unfold escape
  -- the escapes of two characters
  iterate 7
    split
    · rename_i same
      subst same
      exact stringBody_escaped rfl reversed
  split
  · rename_i control
    exact stringBody_escaped (escaped_control control rest) reversed
  · rename_i noQuote noBackslash _ _ _ _ _ printable
    have plain : ∀ b ∈ String.utf8EncodeChar c, IsPlain b :=
      fun b member => isPlain_of_mem noQuote noBackslash printable member
    simpa using stringBody_plains plain reversed rest

theorem stringBody_escapes (s : List Char) (reversed : List UInt8) (rest : Input) :
    stringBody reversed (utf8 (s.flatMap escape) ++ rest) =
      stringBody ((utf8 s).reverse ++ reversed) rest := by
  induction s generalizing reversed with
  | nil => rfl
  | cons c s ih =>
    rw [List.flatMap_cons, Text.utf8_append, List.append_assoc, stringBody_escape, ih]
    simp

theorem stringText_escapes (s : String) (rest : Input) :
    stringText (utf8 (s.toList.flatMap escape) ++ quote :: rest) = .ok (s, rest) := by
  have body : stringBody [] (utf8 (s.toList.flatMap escape) ++ quote :: rest) =
      .ok (utf8 s.toList, rest) := by
    rw [stringBody_escapes, stringBody_quote]
    simp
  simp [stringText, body, bind, Except.bind, Text.fromUTF8?_utf8]

theorem utf8_textChars (s : String) :
    utf8 (textChars s) = quote :: (utf8 (s.toList.flatMap escape) ++ [quote]) := by
  simp only [textChars, Text.utf8_cons, Text.utf8_append]
  rfl

def Stops : Input → Prop
  | [] => True
  | b :: _ => b = comma ∨ b = closeList ∨ b = closeObject

instance : DecidablePred Stops
  | [] => inferInstanceAs (Decidable True)
  | _ :: _ => inferInstanceAs (Decidable (_ ∨ _ ∨ _))

theorem Stops.noDigit {rest : Input} (stops : Stops rest) : startsWithDigit rest = false := by
  cases rest with
  | nil => rfl
  | cons b rest => rcases stops with rfl | rfl | rfl <;> rfl

theorem numberTail_of_stops {rest : Input} (stops : Stops rest) (negative : Bool) (n : Nat) :
    numberTail negative n rest = .ok (whole negative n, rest) := by
  cases rest with
  | nil => rfl
  | cons b rest => rcases stops with rfl | rfl | rfl <;> rfl

theorem toNat_digit {c : Char} (digit : c.isDigit = true) :
    (UInt8.ofNat c.toNat).toNat = c.toNat := by
  have := Text.bounds_of_isDigit digit
  simp
  omega

theorem isDigit_digit {c : Char} (digit : c.isDigit = true) :
    isDigit (UInt8.ofNat c.toNat) = true := by
  have bounds := Text.bounds_of_isDigit digit
  simp only [isDigit, Bool.and_eq_true, decide_eq_true_eq, UInt8.le_iff_toNat_le,
    toNat_digit digit]
  simpa using bounds

theorem isBlank_digit {c : Char} (digit : c.isDigit = true) :
    isBlank (UInt8.ofNat c.toNat) = false := by
  have bounds := Text.bounds_of_isDigit digit
  simp only [isBlank, Bool.or_eq_false_iff, beq_eq_false_iff_ne, ne_eq, ← UInt8.toNat_inj,
    toNat_digit digit]
  simp
  omega

theorem grow_digits {ds : List Char} (digits : ∀ c ∈ ds, c.isDigit = true) {rest : Input}
    (noDigit : startsWithDigit rest = false) (n taken : Nat)
    (fits : Nat.ofDigitChars 10 ds n < wordLimit) :
    grow n taken (utf8 ds ++ rest) = (Nat.ofDigitChars 10 ds n, taken + ds.length, rest) := by
  induction ds generalizing n taken with
  | nil =>
    cases rest with
    | nil => rfl
    | cons b rest =>
      have other : isDigit b = false := noDigit
      simp [grow, other]
  | cons c ds ih =>
    have digit := digits c List.mem_cons_self
    rw [Text.ofDigitChars_cons] at fits
    have below := Nat.lt_of_le_of_lt (Text.le_ofDigitChars ds _) fits
    have next := ih (fun c member => digits c (List.mem_cons_of_mem _ member)) _ (taken + 1) fits
    simp only [Text.utf8_digit digit, List.cons_append, grow, isDigit_digit digit,
      toNat_digit digit, true_and]
    rw [if_pos below, next, Text.ofDigitChars_cons, List.length_cons]
    exact congrArg _ (congrArg (·, rest) (by omega))

theorem number?_toDigits {n : Nat} (fits : n < wordLimit) {rest : Input} (stops : Stops rest) :
    number? (utf8 (Nat.toDigits 10 n) ++ rest) = some (.ok (.integer n, rest)) := by
  rcases Nat.eq_zero_or_pos n with rfl | positive
  · have tail := numberTail_of_stops stops false 0
    have zero : utf8 (Nat.toDigits 10 0) = [48] := rfl
    rw [zero, List.singleton_append, number?.eq_2 _ _ (by decide)]
    simp [show isDigit 48 = true by decide, unsigned, stops.noDigit, tail, whole]
  · obtain ⟨c, ds, digits, notZero⟩ := Text.toDigits_of_pos positive
    have digit : ∀ d ∈ c :: ds, d.isDigit = true := fun d member =>
      Text.isDigit_of_mem_toDigits (digits ▸ member)
    have value : Nat.ofDigitChars 10 ds (c.toNat - 48) = n := by
      have whole := Nat.ofDigitChars_ten_toDigits (n := n)
      rwa [digits, Text.ofDigitChars_cons, Nat.mul_zero, Nat.zero_add] at whole
    have first := digit c List.mem_cons_self
    have grown := grow_digits (fun d member => digit d (List.mem_cons_of_mem _ member))
      stops.noDigit (c.toNat - 48) 0 (value ▸ fits)
    have notMinus : UInt8.ofNat c.toNat ≠ minus := fun same =>
      absurd (isDigit_digit first) (by rw [same]; decide)
    have notByte : UInt8.ofNat c.toNat ≠ 48 := fun same =>
      notZero (Char.toNat_inj.1 ((toNat_digit first).symm.trans (congrArg UInt8.toNat same)))
    rw [digits, Text.utf8_digit first, List.cons_append, number?.eq_2 _ _ notMinus]
    simp [isDigit_digit first, unsigned, notByte, toNat_digit first, grown, value,
      stops.noDigit, numberTail_of_stops stops, whole]

end BlockVolumes.Json
