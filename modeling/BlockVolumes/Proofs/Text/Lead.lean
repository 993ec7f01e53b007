import BlockVolumes.Proofs.Text.Trim

/-! How texts start and end. -/

namespace BlockVolumes.Text

variable {front rest : List Char}

theorem after?_eq_some {lead text : List Char} :
    after? lead text = some rest ↔ text = lead ++ rest := by
  induction lead generalizing text with
  | nil => simp [after?]
  | cons l lead ih =>
    cases text with
    | nil => simp [after?]
    | cons c text =>
      by_cases same : l = c
      · simp [after?, same, ih]
      · simp [after?, same, Ne.symm same]

theorem after?_append (lead rest : List Char) : after? lead (lead ++ rest) = some rest :=
  after?_eq_some.2 rfl

def EndsVisibly (s : List Char) : Prop := ∀ c ∈ s.getLast?, isBlank c = false

theorem EndsVisibly.of_append (visible : EndsVisibly (front ++ rest)) : EndsVisibly rest := by
  intro c last
  apply visible
  rw [List.getLast?_append, Option.mem_def.1 last]
  rfl

theorem EndsVisibly.append (visible : EndsVisibly rest) (front : List Char) (given : rest ≠ []) :
    EndsVisibly (front ++ rest) := by
  intro c last
  apply visible
  rwa [List.getLast?_append, List.getLast?_eq_some_getLast given, Option.some_or,
    ← List.getLast?_eq_some_getLast given] at last

end BlockVolumes.Text
