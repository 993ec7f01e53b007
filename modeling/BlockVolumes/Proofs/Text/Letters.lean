/-! The small forms of letters. Only the letters of ASCII have one. -/

namespace BlockVolumes.Text

theorem toNat_toLower (c : Char) :
    c.toLower.toNat = if 65 ≤ c.toNat ∧ c.toNat ≤ 90 then c.toNat + 32 else c.toNat := by
  have capital : (c.val ≥ 'A'.val ∧ c.val ≤ 'Z'.val) ↔ 65 ≤ c.toNat ∧ c.toNat ≤ 90 := by
    simp only [ge_iff_le, UInt32.le_iff_toNat_le]
    exact Iff.rfl
  unfold Char.toLower
  split
  · rename_i upper
    have bounds := capital.1 upper
    have gap : ('a'.val - 'A'.val).toNat = 32 := by decide
    have small : c.val.toNat ≤ 90 := bounds.2
    rw [if_pos bounds]
    show (c.val + ('a'.val - 'A'.val)).toNat = c.val.toNat + 32
    rw [UInt32.toNat_add, gap]
    omega
  · rename_i other
    rw [if_neg fun bounds => other (capital.2 bounds)]

def capital (letter : Char) : Char := Char.ofNat (letter.toNat - 32)

theorem toLower_eq_letter {c letter : Char} (least : 97 ≤ letter.toNat)
    (most : letter.toNat ≤ 122) : c.toLower = letter ↔ c = letter ∨ c = capital letter := by
  have number : (capital letter).toNat = letter.toNat - 32 := by
    have valid : (letter.toNat - 32).isValidChar := .inl (by omega)
    rw [capital, Char.ofNat, dif_pos valid]
    rfl
  simp only [← Char.toNat_inj, toNat_toLower, number]
  split <;> omega

end BlockVolumes.Text
