import BlockVolumes.Time.Calendar

/-! Every day has one date, and the date gives the day back. -/

namespace BlockVolumes.Calendar

theorem lt_of_daysBefore_lt {a b : Int} (less : daysBefore a < daysBefore b) : a < b := by
  apply Classical.byContradiction
  intro late
  have order : daysBefore b ≤ daysBefore a := by
    unfold daysBefore
    omega
  omega

@[simp] theorem total_cons (length : Nat) (lengths : List Nat) :
    total (length :: lengths) = length + total lengths := rfl

theorem total_monthLengths (year : Int) :
    daysBefore (year + 1) = daysBefore year + total (monthLengths year) := by
  have days : total (monthLengths year) = if isLeap year then 366 else 365 := by
    cases leap : isLeap year <;> simp [monthLengths, leap, total]
  rw [days]
  unfold daysBefore
  split
  · rename_i leap
    simp only [isLeap, Bool.and_eq_true, Bool.or_eq_true, beq_iff_eq, bne_iff_ne] at leap
    omega
  · rename_i common
    simp only [isLeap, Bool.and_eq_true, Bool.or_eq_true, beq_iff_eq, bne_iff_ne] at common
    omega

theorem daysBefore_bounds (year : Int) :
    146097 * year - 400 < 400 * daysBefore year ∧
      400 * daysBefore year < 146097 * year + 700 := by
  unfold daysBefore
  omega

theorem monthLength_le (year : Int) (month : Nat) : monthLength year month ≤ 31 := by
  have short : ∀ length ∈ monthLengths year, length ≤ 31 := by
    cases leap : isLeap year <;> simp [monthLengths, leap]
  unfold monthLength
  cases found : (monthLengths year)[month - 1]? with
  | none => simp
  | some length => exact short length (List.mem_of_getElem? found)

theorem yearOf_spec (days : Int) :
    daysBefore (yearOf days) ≤ days ∧ days < daysBefore (yearOf days + 1) := by
  simp only [yearOf]
  split
  · rename_i early
    have bounds := daysBefore_bounds (days * 400 / 146097 - 1)
    rw [Int.sub_add_cancel]
    omega
  · split
    · rename_i started ended
      exact ⟨Int.not_lt.1 started, ended⟩
    · have bounds := daysBefore_bounds (days * 400 / 146097 + 1 + 1)
      omega

theorem monthAndDay_spec {lengths : List Nat} {rest : Nat} (inside : rest < total lengths)
    (month : Nat) :
    ∃ i day, monthAndDay month rest lengths = (month + i, day + 1) ∧ i < lengths.length ∧
      day < (lengths[i]?).getD 0 ∧ total (lengths.take i) + day = rest := by
  induction lengths generalizing month rest with
  | nil => cases inside
  | cons length lengths ih =>
    by_cases here : rest < length
    · exact ⟨0, rest, by simp [monthAndDay, here], by simp, by simpa using here, by simp [total]⟩
    · simp only [total_cons] at inside
      have later : rest - length < total lengths := by omega
      obtain ⟨i, day, found, known, fits, sum⟩ := ih later (month + 1)
      refine ⟨i + 1, day, ?_, by simp [known], by simpa using fits, ?_⟩
      · rw [monthAndDay, if_neg here, found, Nat.add_right_comm, Nat.add_assoc]
      · simp only [List.take_succ_cons, total_cons]
        omega

theorem Date.ofDays_spec (days : Int) :
    (ofDays days).isValid = true ∧ (ofDays days).toDays = days ∧
      (ofDays days).year = yearOf (days + epoch) := by
  have ⟨started, notEnded⟩ := yearOf_spec (days + epoch)
  rw [total_monthLengths] at notEnded
  have inside : (days + epoch - daysBefore (yearOf (days + epoch))).toNat <
      total (monthLengths (yearOf (days + epoch))) := by omega
  obtain ⟨i, day, found, known, fits, sum⟩ := monthAndDay_spec inside 1
  have shown : ofDays days = ⟨yearOf (days + epoch), 1 + i, day + 1⟩ := by
    simp [ofDays, found]
  have twelve : (monthLengths (yearOf (days + epoch))).length = 12 := rfl
  rw [shown]
  refine ⟨?_, ?_, rfl⟩
  · simp only [isValid, monthLength, Bool.and_eq_true, decide_eq_true_eq, Nat.add_sub_cancel_left]
    omega
  · simp only [toDays, daysBeforeMonth, Nat.add_sub_cancel_left]
    omega

end BlockVolumes.Calendar
