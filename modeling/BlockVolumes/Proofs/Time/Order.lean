import BlockVolumes.Time.Basic

/-! The order of times, and clocks that show later and later times. -/

namespace BlockVolumes.Time

variable {a b c : Time}

theorem le_iff :
    a.le b = true ↔ a.seconds < b.seconds ∨ a.seconds = b.seconds ∧ a.nanos ≤ b.nanos := by
  simp [le]

def Before (a b : Time) : Prop :=
  a.seconds < b.seconds ∨ a.seconds = b.seconds ∧ a.nanos < b.nanos

theorem le_iff_before : a.le b = true ↔ a.Before b ∨ a = b := by
  rw [le_iff]
  constructor
  · rintro (earlier | ⟨same, least⟩)
    · exact .inl (.inl earlier)
    · rcases Nat.lt_or_eq_of_le least with less | equal
      · exact .inl (.inr ⟨same, less⟩)
      · exact .inr (eq_of_fields same equal)
  · rintro ((earlier | ⟨same, less⟩) | rfl)
    · exact .inl earlier
    · exact .inr ⟨same, Nat.le_of_lt less⟩
    · exact .inr ⟨rfl, Nat.le_refl _⟩

theorem Before.trans (first : a.Before b) (later : b.Before c) : a.Before c := by
  unfold Before at *
  omega

theorem before_total (a b : Time) : a.Before b ∨ a = b ∨ b.Before a := by
  by_cases same : a.seconds = b.seconds ∧ a.nanos = b.nanos
  · exact .inr (.inl (eq_of_fields same.1 same.2))
  · unfold Before
    omega

theorem not_before_self (a : Time) : ¬ a.Before a := by
  unfold Before
  omega

theorem Before.le (before : a.Before b) : a.le b = true ∧ b.le a = false := by
  refine ⟨le_iff_before.2 (.inl before), Bool.eq_false_iff.2 fun back => ?_⟩
  rcases le_iff_before.1 back with after | rfl
  · exact not_before_self a (before.trans after)
  · exact not_before_self b before

/-- Of the readings of a clock from `since` up to `count` each is later than all before it. -/
def Forward (times : Nat → Time) (since count : Nat) : Prop :=
  ∀ first second, since ≤ first → first < second → second < count →
    (times first).Before (times second)

theorem Forward.mono {times : Nat → Time} {since count fewer : Nat}
    (forward : Forward times since count) (fewer_le : fewer ≤ count) :
    Forward times since fewer :=
  fun first second begun less past =>
    forward first second begun less (Nat.lt_of_lt_of_le past fewer_le)

instance (a b : Time) : Decidable (a.Before b) := inferInstanceAs (Decidable (_ ∨ _ ∧ _))

end BlockVolumes.Time
