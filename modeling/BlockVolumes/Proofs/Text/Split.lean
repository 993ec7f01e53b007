import BlockVolumes.Text.Blank

/-! Texts taken apart at separators. -/

namespace BlockVolumes.Text

theorem splitOn_ne_nil (separator : Char) (s : List Char) : splitOn separator s ≠ [] := by
  cases s with
  | nil => simp [splitOn]
  | cons c rest =>
    simp only [splitOn]
    split
    · simp
    · split <;> simp

theorem splitOn_of_not_mem {separator : Char} {s : List Char} (free : separator ∉ s) :
    splitOn separator s = [s] := by
  induction s with
  | nil => rfl
  | cons c rest ih =>
    have different : c ≠ separator := fun same => free (same ▸ List.mem_cons_self)
    simp [splitOn, different, ih fun later => free (List.mem_cons_of_mem _ later)]

theorem splitOn_append_cons (separator : Char) (s t : List Char) :
    splitOn separator (s ++ separator :: t) = splitOn separator s ++ splitOn separator t := by
  induction s with
  | nil => simp [splitOn]
  | cons c rest ih =>
    by_cases here : c = separator
    · simp [splitOn, here, ih]
    · simp only [List.cons_append, splitOn, here, if_false, ih]
      cases pieces : splitOn separator rest with
      | nil => exact absurd pieces (splitOn_ne_nil separator rest)
      | cons piece pieces => rfl

theorem not_mem_of_mem_splitOn {separator : Char} {s piece : List Char}
    (member : piece ∈ splitOn separator s) : separator ∉ piece := by
  induction s generalizing piece with
  | nil =>
    simp only [splitOn, List.mem_singleton] at member
    simp [member]
  | cons c rest ih =>
    simp only [splitOn] at member
    split at member
    · rcases List.mem_cons.1 member with rfl | member
      · simp
      · exact ih member
    · rename_i different
      cases pieces : splitOn separator rest with
      | nil => exact absurd pieces (splitOn_ne_nil separator rest)
      | cons first others =>
        rw [pieces] at ih member
        rcases List.mem_cons.1 member with rfl | member
        · intro inside
          rcases List.mem_cons.1 inside with same | inside
          · exact different same.symm
          · exact ih List.mem_cons_self inside
        · exact ih (List.mem_cons_of_mem _ member)

theorem splitOn_eq (separator : Char) (s : List Char) :
    splitOn separator s = s.splitOn separator := by
  induction s with
  | nil => rfl
  | cons c rest ih =>
    rw [splitOn, List.splitOn, List.splitOnP_cons_eq_if_modifyHead, ← List.splitOn, ← ih]
    by_cases here : c = separator
    · simp [here]
    · rw [if_neg here, if_neg (by simpa using here)]
      cases split : splitOn separator rest with
      | nil => exact absurd (ih.symm.trans split) (List.splitOnP_ne_nil _ _)
      | cons piece pieces => rfl

section Cut

variable {separator : Char} {front : List Char}

theorem takeWhile_append_cons (free : separator ∉ front) (rest : List Char) :
    (front ++ separator :: rest).takeWhile (· ≠ separator) = front := by
  have before : ∀ c ∈ front, decide (c ≠ separator) = true := by
    intro c inside
    exact decide_eq_true fun same => free (same ▸ inside)
  rw [List.takeWhile_append_of_pos before, List.takeWhile_cons_of_neg (by simp), List.append_nil]

theorem tail_dropWhile_append_cons (free : separator ∉ front) (rest : List Char) :
    ((front ++ separator :: rest).dropWhile (· ≠ separator)).tail = rest := by
  have before : ∀ c ∈ front, decide (c ≠ separator) = true := by
    intro c inside
    exact decide_eq_true fun same => free (same ▸ inside)
  rw [List.dropWhile_append_of_pos before, List.dropWhile_cons_of_neg (by simp), List.tail_cons]

end Cut

theorem cut_eq (separator : Char) (s : List Char) : cut separator s =
    if separator ∈ s then some (s.takeWhile (· ≠ separator), (s.dropWhile (· ≠ separator)).tail)
    else none := by
  induction s with
  | nil => rfl
  | cons c rest ih =>
    by_cases here : c = separator
    · simp [cut, here]
    · by_cases later : separator ∈ rest <;> simp [cut, here, Ne.symm here, ih, later]

end BlockVolumes.Text
