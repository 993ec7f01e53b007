import BlockVolumes.Device.Kernel
import BlockVolumes.Proofs.Storage.Trail

/-!
The devices of the kernel, and the search for one that nobody uses. It finds the first free device
unless one before that is missing; whatever comes after a missing device makes no difference.
-/

namespace BlockVolumes.KernelConnector

variable {c other : KernelConnector} {device : String} {result : Except DeviceError String}
  {i j gap : Nat}

theorem isName_nameOf (index : Nat) : Path.IsName (nameOf index).toList := by
  rw [nameOf, String.toList_append]
  exact Path.isName_numbered 'n' ['b', 'd'] (by decide) (by decide) index

theorem nameOf_inj {i j : Nat} (same : nameOf i = nameOf j) : i = j := by
  have digits : Nat.toDigits 10 i = Nat.toDigits 10 j := by
    simpa [nameOf, String.ext_iff] using same
  simpa using congrArg (Nat.ofDigitChars 10 · 0) digits

def pathOf (c : KernelConnector) (index : Nat) : String := Path.join c.directory (nameOf index)

theorem pathOf_inj {i j : Nat} (same : c.pathOf i = c.pathOf j) : i = j :=
  nameOf_inj (Path.resolve_join_inj (isName_nameOf i) (isName_nameOf j)
    (congrArg Path.resolve same))

def Busy (c : KernelConnector) (device : String) : Prop :=
  ∃ index, device = c.pathOf index ∧ nameOf index ∈ c.busy

def Free (c : KernelConnector) (device : String) : Prop :=
  ∃ index, device = c.pathOf index ∧ nameOf index ∈ c.present ∧ nameOf index ∉ c.busy

theorem Free.not_busy (free : c.Free device) : ¬ c.Busy device := by
  obtain ⟨index, rfl, -, idle⟩ := free
  intro busy
  obtain ⟨also, same, used⟩ := busy
  rw [pathOf_inj same] at idle
  exact idle used

def Occupied (c : KernelConnector) (index : Nat) : Prop :=
  nameOf index ∈ c.present ∧ nameOf index ∈ c.busy

instance (c : KernelConnector) (index : Nat) : Decidable (c.Occupied index) :=
  inferInstanceAs (Decidable (_ ∧ _))

/-- The device is the one to take: it is free, and all before it are there and in use. -/
structure FirstFree (c : KernelConnector) (index : Nat) : Prop where
  within : index < 128
  there : ∀ j ≤ index, nameOf j ∈ c.present
  used : ∀ j < index, nameOf j ∈ c.busy
  idle : nameOf index ∉ c.busy

/-- No device is to be had. One may be missing with all before it in use; or every device in reach
that is there is in use, be they few or as many as can be looked at. -/
inductive Exhausted (c : KernelConnector) : Prop
  | missing (gap : Nat) (within : gap < 128) (gone : nameOf gap ∉ c.present)
    (before : ∀ j < gap, c.Occupied j)
  | used (all : ∀ j < 128, nameOf j ∈ c.present → nameOf j ∈ c.busy)
  | limit (before : ∀ j < 128, c.Occupied j)

inductive Searching (c : KernelConnector) : Except DeviceError String → Prop
  | found {index : Nat} (first : c.FirstFree index) : Searching c (.ok (c.pathOf index))
  | failed (exhausted : c.Exhausted) : Searching c (.error .noFreeDevice)

theorem FirstFree.free (first : c.FirstFree i) : c.Free (c.pathOf i) :=
  ⟨i, rfl, first.there i (Nat.le_refl _), first.idle⟩

theorem FirstFree.unique (first : c.FirstFree i) (also : c.FirstFree j) : i = j := by
  rcases Nat.lt_trichotomy i j with before | same | after
  · exact absurd (also.used i before) first.idle
  · exact same
  · exact absurd (first.used j after) also.idle

theorem FirstFree.not_exhausted (first : c.FirstFree i) : ¬ c.Exhausted := by
  intro exhausted
  cases exhausted with
  | missing gap within gone before =>
    by_cases behind : gap ≤ i
    · exact gone (first.there gap behind)
    · exact first.idle (before i (Nat.lt_of_not_le behind)).2
  | used all => exact first.idle (all i first.within (first.there i (Nat.le_refl _)))
  | limit before => exact first.idle (before i first.within).2

theorem searching_from {index count : Nat} (whole : index + count = 128)
    (before : ∀ j < index, c.Occupied j) : Searching c (c.search index count) := by
  induction count generalizing index with
  | zero =>
    obtain rfl : index = 128 := whole
    exact .failed (.limit before)
  | succ count ih =>
    have within : index < 128 := by omega
    rw [search]
    split
    · rename_i gone
      exact .failed (.missing index within gone before)
    · rename_i present
      have there : nameOf index ∈ c.present := Decidable.not_not.1 present
      have upTo : ∀ j ≤ index, nameOf j ∈ c.present := by
        intro j low
        rcases Nat.lt_or_eq_of_le low with less | rfl
        · exact (before j less).1
        · exact there
      split
      · rename_i idle
        exact .found ⟨within, upTo, fun j less => (before j less).2, idle⟩
      · rename_i busy
        apply ih (by omega)
        intro j less
        rcases Nat.lt_succ_iff_lt_or_eq.1 less with less | rfl
        · exact before j less
        · exact ⟨there, Decidable.not_not.1 busy⟩

theorem searching (c : KernelConnector) : Searching c c.freeDevice :=
  searching_from rfl nofun

theorem Searching.unique {answer : Except DeviceError String} (searching : Searching c result)
    (also : Searching c answer) : result = answer := by
  cases searching with
  | found first =>
    cases also with
    | found second => rw [first.unique second]
    | failed exhausted => exact absurd exhausted first.not_exhausted
  | failed exhausted =>
    cases also with
    | found first => exact absurd exhausted first.not_exhausted
    | failed => rfl

theorem freeDevice_eq_iff : c.freeDevice = result ↔ Searching c result := by
  constructor
  · intro same
    rw [← same]
    exact c.searching
  · exact c.searching.unique

theorem free_of_freeDevice (found : c.freeDevice = .ok device) : c.Free device := by
  cases freeDevice_eq_iff.1 found with
  | found first => exact first.free

theorem freeDevice_eq_ok_iff : c.freeDevice = .ok (c.pathOf i) ↔ c.FirstFree i := by
  constructor
  · intro found
    generalize path : c.pathOf i = device at found
    cases freeDevice_eq_iff.1 found with
    | found first => rwa [pathOf_inj path]
  · exact fun first => freeDevice_eq_iff.2 (.found first)

theorem freeDevice_eq_error_iff : c.freeDevice = .error .noFreeDevice ↔ c.Exhausted := by
  constructor
  · intro failed
    cases freeDevice_eq_iff.1 failed with
    | failed exhausted => exact exhausted
  · exact fun exhausted => freeDevice_eq_iff.2 (.failed exhausted)

theorem exhausted_iff : c.Exhausted ↔ ∀ index, ¬ c.FirstFree index := by
  constructor
  · exact fun exhausted _ first => first.not_exhausted exhausted
  · intro none
    have searching := c.searching
    generalize c.freeDevice = result at searching
    cases searching with
    | found first => exact absurd first (none _)
    | failed exhausted => exact exhausted

/-- Up to the gap the same devices are there, and before it the same are in use. All the rest may
differ. -/
structure SameUpTo (gap : Nat) (c other : KernelConnector) : Prop where
  directory : other.directory = c.directory
  present : ∀ j ≤ gap, (nameOf j ∈ other.present ↔ nameOf j ∈ c.present)
  busy : ∀ j < gap, (nameOf j ∈ other.busy ↔ nameOf j ∈ c.busy)

theorem SameUpTo.symm (same : SameUpTo gap c other) : SameUpTo gap other c :=
  ⟨same.directory.symm, fun j low => (same.present j low).symm,
    fun j less => (same.busy j less).symm⟩

theorem FirstFree.transfer (first : c.FirstFree i) (gone : nameOf gap ∉ c.present)
    (same : SameUpTo gap c other) : other.FirstFree i := by
  have before : i < gap := Nat.lt_of_not_le fun behind => gone (first.there gap behind)
  constructor
  · exact first.within
  · intro j low
    exact (same.present j (by omega)).2 (first.there j low)
  · intro j less
    exact (same.busy j (by omega)).2 (first.used j less)
  · intro busy
    exact first.idle ((same.busy i before).1 busy)

theorem SameUpTo.freeDevice_eq (same : SameUpTo gap c other) (gone : nameOf gap ∉ c.present) :
    other.freeDevice = c.freeDevice := by
  have searching := c.searching
  generalize c.freeDevice = result at searching
  cases searching with
  | @found index first =>
    have path : other.pathOf index = c.pathOf index :=
      congrArg (Path.join · (nameOf index)) same.directory
    rw [← path]
    exact freeDevice_eq_ok_iff.2 (first.transfer gone same)
  | failed exhausted =>
    have goneToo : nameOf gap ∉ other.present :=
      fun there => gone ((same.present gap (Nat.le_refl _)).1 there)
    apply freeDevice_eq_error_iff.2
    apply exhausted_iff.2
    intro index first
    exact (first.transfer goneToo same.symm).not_exhausted exhausted

/-- Whatever devices there are, and whichever of them are in use: the search finds the first one
that is free if none is missing before it, and fails otherwise. What comes after a missing device
makes no difference. -/
theorem finds_first_free (c : KernelConnector) :
    (∀ index, c.freeDevice = .ok (Path.join c.directory ("nbd" ++ toString index)) ↔
      c.FirstFree index) ∧
    ((∀ index, ¬ c.FirstFree index) → c.freeDevice = .error .noFreeDevice) ∧
    (c.freeDevice = .error .noFreeDevice ↔ c.Exhausted) ∧
    ∀ gap, nameOf gap ∉ c.present → ∀ other, SameUpTo gap c other →
      other.freeDevice = c.freeDevice := by
  refine ⟨fun index => freeDevice_eq_ok_iff, ?_, freeDevice_eq_error_iff, ?_⟩
  · intro none
    exact freeDevice_eq_error_iff.2 (exhausted_iff.2 none)
  · intro gap gone other same
    exact same.freeDevice_eq gone

def gapped : KernelConnector :=
  ⟨"/dev", ["nbd0", "nbd1", "nbd3"], ["nbd0"], ⟨"qemu-nbd", none⟩, fun _ busy => busy, []⟩

def cutOff : KernelConnector :=
  { gapped with present := ["nbd1", "nbd0"], busy := ["nbd0", "nbd2", "nbd9"] }

def crowded : KernelConnector := { gapped with busy := ["nbd0", "nbd1"] }

theorem finds_first_free_before_gap :
    gapped.FirstFree 1 ∧ gapped.freeDevice = .ok "/dev/nbd1" ∧
    nameOf 2 ∉ gapped.present ∧ SameUpTo 2 gapped cutOff ∧
    cutOff.freeDevice = gapped.freeDevice ∧
    crowded.freeDevice = .error .noFreeDevice := by
  have first : gapped.FirstFree 1 :=
    ⟨by decide, by decide +kernel, by decide +kernel, by decide +kernel⟩
  have gone : nameOf 2 ∉ gapped.present := by decide +kernel
  have same : SameUpTo 2 gapped cutOff := ⟨rfl, by decide +kernel, by decide +kernel⟩
  have path : "/dev/nbd1" = gapped.pathOf 1 := by decide +kernel
  have exhausted : crowded.Exhausted :=
    .missing 2 (by decide) (by decide +kernel) (by decide +kernel)
  obtain ⟨found, -, -, beyond⟩ := finds_first_free gapped
  obtain ⟨-, -, failed, -⟩ := finds_first_free crowded
  refine ⟨first, ?_, gone, same, beyond 2 gone cutOff same, ?_⟩
  · rw [path]
    exact (found 1).2 first
  · exact failed.2 exhausted

end BlockVolumes.KernelConnector
