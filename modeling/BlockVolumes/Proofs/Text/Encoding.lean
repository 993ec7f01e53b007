/-! Characters as UTF-8 bytes, and texts read back from them. -/

namespace ByteArray

theorem toList_loop (b : ByteArray) (i : Nat) (reversed : List UInt8) :
    toList.loop b i reversed = reversed.reverse ++ b.data.toList.drop i := by
  induction i, reversed using toList.loop.induct b with
  | case1 i reversed inside ih =>
    have bound : i < b.data.toList.length := by simpa using inside
    rw [toList.loop, if_pos inside, ih, List.drop_eq_getElem_cons bound]
    have byte : b.get! i = b.data.toList[i] := by
      show b.data[i]! = _
      rw [getElem!_pos b.data i (by simpa using bound)]
      simp
    simp [byte]
  | case2 i reversed outside =>
    rw [toList.loop, if_neg outside, List.drop_of_length_le (by simpa using outside),
      List.append_nil]

theorem toList_eq (b : ByteArray) : b.toList = b.data.toList := by
  simp [toList, toList_loop]

end ByteArray

namespace BlockVolumes.Text

def utf8 (s : List Char) : List UInt8 := s.flatMap String.utf8EncodeChar

@[simp] theorem utf8_nil : utf8 [] = [] := rfl

@[simp] theorem utf8_cons (c : Char) (s : List Char) :
    utf8 (c :: s) = String.utf8EncodeChar c ++ utf8 s := rfl

@[simp] theorem utf8_append (s t : List Char) : utf8 (s ++ t) = utf8 s ++ utf8 t :=
  List.flatMap_append

theorem toUTF8_ofList (s : List Char) : (String.ofList s).toUTF8.toList = utf8 s := by
  simp [ByteArray.toList_eq, utf8, List.utf8Encode, List.data_toByteArray]

theorem fromUTF8?_utf8 (s : List Char) :
    String.fromUTF8? ⟨(utf8 s).toArray⟩ = some (String.ofList s) := by
  have same : (⟨(utf8 s).toArray⟩ : ByteArray) = (String.ofList s).toByteArray := by
    apply ByteArray.ext
    simp [utf8, List.utf8Encode, List.data_toByteArray]
  rw [same]
  have valid := (String.ofList s).isValidUTF8
  simp only [String.fromUTF8?, valid, dite_true]
  rfl

theorem utf8EncodeChar_of_small {c : Char} (small : c.toNat < 128) :
    String.utf8EncodeChar c = [UInt8.ofNat c.toNat] := by
  have bound : c.val.toNat ≤ 127 := by
    show c.toNat ≤ 127
    omega
  simp only [String.utf8EncodeChar, bound, if_true]
  rfl

theorem le_of_mem_utf8EncodeChar {c : Char} {byte : UInt8} (large : ¬ c.toNat < 128)
    (member : byte ∈ String.utf8EncodeChar c) : 128 ≤ byte := by
  have bound : ¬ c.val.toNat ≤ 127 := by
    show ¬ c.toNat ≤ 127
    omega
  rw [UInt8.le_iff_toNat_le]
  simp only [String.utf8EncodeChar, bound, if_false] at member
  split at member
  · simp at member
    rcases member with rfl | rfl <;> simp <;> omega
  · split at member
    · simp at member
      rcases member with rfl | rfl | rfl <;> simp <;> omega
    · simp at member
      rcases member with rfl | rfl | rfl | rfl <;> simp <;> omega

end BlockVolumes.Text
