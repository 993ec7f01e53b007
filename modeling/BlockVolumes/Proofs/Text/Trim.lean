import BlockVolumes.Text.Blank
import Mathlib.Data.List.TakeWhile

/-! Blanks at the ends of a text, and what is left without them. -/

namespace BlockVolumes.Text

variable {s t : List Char} {p : Char → Bool}

def Tight (t : List Char) : Prop :=
  (∀ c ∈ t.head?, isBlank c = false) ∧ ∀ c ∈ t.getLast?, isBlank c = false

def Stripped (s t : List Char) : Prop :=
  Tight t ∧ ∃ before after, s = before ++ t ++ after ∧
    (∀ c ∈ before, isBlank c = true) ∧ ∀ c ∈ after, isBlank c = true

theorem dropWhile_append_of_all {before : List Char} (all : ∀ c ∈ before, p c = true)
    (rest : List Char) : (before ++ rest).dropWhile p = rest.dropWhile p := by
  rw [List.dropWhile_append, List.dropWhile_eq_nil_iff.2 all]
  rfl

theorem dropWhile_eq_self (first : ∀ c ∈ s.head?, p c = false) : s.dropWhile p = s := by
  cases s with
  | nil => rfl
  | cons c rest => simp [first c rfl]

theorem head?_dropWhile {c : Char} (first : c ∈ (s.dropWhile p).head?) : p c = false := by
  rw [← List.find?_not_eq_head?_dropWhile] at first
  simpa using List.find?_some first

theorem trimEnd_spec (s : List Char) : ∃ after, s = trimEnd s ++ after ∧
    (∀ c ∈ after, isBlank c = true) ∧ ∀ c ∈ (trimEnd s).getLast?, isBlank c = false := by
  refine ⟨(s.reverse.takeWhile isBlank).reverse, ?_, ?_, ?_⟩
  · rw [trimEnd, ← List.reverse_append, List.takeWhile_append_dropWhile, List.reverse_reverse]
  · intro c member
    exact List.mem_takeWhile_imp (List.mem_reverse.1 member)
  · intro c last
    rw [trimEnd, List.getLast?_reverse] at last
    exact head?_dropWhile last

theorem trimEnd_head? (first : ∀ c ∈ s.head?, isBlank c = false) :
    ∀ c ∈ (trimEnd s).head?, isBlank c = false := by
  obtain ⟨after, whole, -⟩ := trimEnd_spec s
  intro c head
  apply first
  rw [whole, List.head?_append, head]
  rfl

theorem stripped_trim (s : List Char) : Stripped s (trim s) := by
  obtain ⟨after, whole, blank, last⟩ := trimEnd_spec (trimStart s)
  refine ⟨⟨trimEnd_head? fun c => head?_dropWhile, last⟩, s.takeWhile isBlank, after, ?_,
    fun c => List.mem_takeWhile_imp, blank⟩
  rw [List.append_assoc, trim, ← whole, trimStart, List.takeWhile_append_dropWhile]

theorem Stripped.trim_eq (stripped : Stripped s t) : trim s = t := by
  obtain ⟨⟨first, last⟩, before, after, rfl, blank, blankAfter⟩ := stripped
  have back : ∀ c ∈ t.reverse.head?, isBlank c = false := by
    rw [List.head?_reverse]
    exact last
  have front : trimStart (before ++ t ++ after) = (t ++ after).dropWhile isBlank := by
    rw [List.append_assoc]
    exact dropWhile_append_of_all blank (t ++ after)
  have start : (t ++ after).dropWhile isBlank = t ++ after ∨ t = [] := by
    cases t with
    | nil => exact .inr rfl
    | cons c rest => exact .inl (dropWhile_eq_self first)
  rcases start with start | rfl
  · calc
      trim (before ++ t ++ after) = trimEnd (t ++ after) := by rw [trim, front, start]
      _ = ((after.reverse ++ t.reverse).dropWhile isBlank).reverse := by
        rw [trimEnd, List.reverse_append]
      _ = (t.reverse.dropWhile isBlank).reverse := by
        rw [dropWhile_append_of_all fun c inside => blankAfter c (List.mem_reverse.1 inside)]
      _ = t := by rw [dropWhile_eq_self back, List.reverse_reverse]
  · rw [trim, front, List.nil_append, List.dropWhile_eq_nil_iff.2 blankAfter]
    rfl

theorem trim_of_tight (tight : Tight t) : trim t = t :=
  Stripped.trim_eq ⟨tight, [], [], (List.append_nil t).symm, nofun, nofun⟩

theorem length_trim_le (s : List Char) : (trim s).length ≤ s.length := by
  obtain ⟨-, before, after, whole, -⟩ := stripped_trim s
  have lengths := congrArg List.length whole
  simp only [List.length_append] at lengths
  omega

theorem mem_trim {c : Char} (visible : isBlank c = false) :
    c ∈ trim s ↔ c ∈ s := by
  obtain ⟨-, before, after, whole, first, last⟩ := stripped_trim s
  have other : ∀ {blanks : List Char}, (∀ d ∈ blanks, isBlank d = true) → c ∉ blanks :=
    fun blank there => Bool.false_ne_true (visible.symm.trans (blank c there))
  have inside : c ∈ before ++ trim s ++ after ↔ c ∈ trim s := by
    simp [other first, other last]
  rw [← whole] at inside
  exact inside.symm

end BlockVolumes.Text
