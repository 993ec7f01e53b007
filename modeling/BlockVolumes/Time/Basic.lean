import BlockVolumes.Time.Calendar

/-!
Points in time to the nanosecond, in UTC.
-/

namespace BlockVolumes

/-- Start of the first year and end of the last year that a time can name. -/
def Time.firstSecond : Int := (Calendar.daysBefore (-262143) - Calendar.epoch) * 86400

def Time.endSecond : Int := (Calendar.daysBefore 262143 - Calendar.epoch) * 86400

/-- Seconds count from 1970-01-01T00:00:00Z without leap seconds; a leap second is the last second
of a minute with a thousand million nanoseconds more. -/
structure Time where
  seconds : Int
  nanos : Nat
  inRange : Time.firstSecond ≤ seconds ∧ seconds < Time.endSecond
  nanosBounded : nanos < 2000000000 ∧ (1000000000 ≤ nanos → seconds % 60 = 59)

namespace Time

theorem eq_of_fields {a b : Time} (seconds : a.seconds = b.seconds) (nanos : a.nanos = b.nanos) :
    a = b := by
  cases a; cases b; simp_all

instance : DecidableEq Time := fun a b =>
  if same : a.seconds = b.seconds ∧ a.nanos = b.nanos then isTrue (eq_of_fields same.1 same.2)
  else isFalse fun equal => same (equal ▸ ⟨rfl, rfl⟩)

def ofParts? (seconds : Int) (nanos : Nat) : Option Time :=
  if inRange : firstSecond ≤ seconds ∧ seconds < endSecond then
    if bounded : nanos < 2000000000 ∧ (1000000000 ≤ nanos → seconds % 60 = 59) then
      some ⟨seconds, nanos, inRange, bounded⟩
    else none
  else none

def le (a b : Time) : Bool :=
  a.seconds < b.seconds || (a.seconds == b.seconds && a.nanos ≤ b.nanos)

def epoch : Time := ⟨0, 0, by decide, by decide⟩

instance : Inhabited Time := ⟨epoch⟩

/-- The time `ticks` nanoseconds after the epoch; past the last year it stays at the epoch. -/
def ofTicks (ticks : Nat) : Time :=
  (ofParts? (ticks / 1000000000 : Nat) (ticks % 1000000000)).getD epoch

end Time

end BlockVolumes
