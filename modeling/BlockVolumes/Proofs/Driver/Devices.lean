import BlockVolumes.Proofs.Driver.Invariant

/-! The devices of volumes. Each volume keeps the device that it was made with, and no other volume
gets a device of that name while the driver runs. -/

namespace BlockVolumes.Bench

open SimulatedConnector (nameOf)

variable {d : BlockDriver} {b c : Bench}

/-- Each volume has a device of its own, of a number that was handed out. -/
structure Issued (b : Bench) : Prop extends Sound b where
  numbered : ∀ key v, b.records.get? key = some v → ∃ n < b.next, v.device = nameOf n
  apart : ∀ key other v w, b.records.get? key = some v → b.records.get? other = some w →
    v.device = w.device → key = other

theorem Issued.eq (issued : Issued b) {key other : String} {v w : Volume}
    (found : b.records.get? key = some v) (also : b.records.get? other = some w)
    (same : v.device = w.device) : v = w := by
  rw [issued.apart key other v w found also same, also] at found
  exact (Option.some.inj found).symm

namespace Issued

theorem keep (issued : Issued b) (sound : Sound c) (next : b.next ≤ c.next)
    (records : ∀ key w, c.records.get? key = some w →
      ∃ v, b.records.get? key = some v ∧ w.device = v.device) : Issued c := by
  refine ⟨sound, fun key w found => ?_, fun key other v w found also same => ?_⟩
  · obtain ⟨v, before, device⟩ := records key w found
    obtain ⟨n, handed, named⟩ := issued.numbered key v before
    exact ⟨n, Nat.lt_of_lt_of_le handed next, device.trans named⟩
  · obtain ⟨v', foundBefore, deviceV⟩ := records key v found
    obtain ⟨w', alsoBefore, deviceW⟩ := records other w also
    exact issued.apart key other v' w' foundBefore alsoBefore (deviceV ▸ deviceW ▸ same)

theorem device_ne (issued : Issued b) {key : String} {v : Volume}
    (found : b.records.get? key = some v) {n : Nat} (later : b.next ≤ n) : v.device ≠ nameOf n := by
  intro same
  obtain ⟨k, handed, named⟩ := issued.numbered key v found
  have := SimulatedConnector.nameOf_inj.1 (named.symm.trans same)
  omega

theorem added {v : Volume} {locator : Locator} {spec : Spec} (issued : Issued b) (sound : Sound c)
    (added : BlockDriver.Added d b locator spec v c) : Issued c := by
  have device : v.device = nameOf b.next := added.device
  have other : ∀ {key w}, b.records.get? key = some w → w.device ≠ v.device := by
    intro key w found
    rw [device]
    exact issued.device_ne found (Nat.le_refl _)
  refine ⟨sound, fun key w found => ?_, fun key key' w w' found also same => ?_⟩
  · rw [added.next]
    rw [added.records, Table.get?_insert_eq_some] at found
    rcases found with ⟨-, rfl⟩ | ⟨-, before⟩
    · exact ⟨b.next, Nat.lt_succ_self _, device⟩
    · obtain ⟨n, handed, named⟩ := issued.numbered key w before
      exact ⟨n, Nat.lt_succ_of_lt handed, named⟩
  · rw [added.records, Table.get?_insert_eq_some] at found also
    rcases found with ⟨rfl, rfl⟩ | ⟨-, before⟩ <;> rcases also with ⟨rfl, rfl⟩ | ⟨-, before'⟩
    · rfl
    · exact absurd same.symm (other before')
    · exact absurd same (other before)
    · exact issued.apart key key' w w' before before' same

theorem provisioned {id : VolumeId} {locator : Locator} {source : Option Source} {spec : Spec}
    {mishaps : List Mishap} {result : Except VolumeError VolumeId} (issued : Issued b)
    (made : BlockDriver.Provisioned d b id locator source spec mishaps result c) : Issued c := by
  have sound := issued.toSound.provisioned made
  rcases made.outcome with ⟨-, -, v, -, added⟩ | ⟨-, worn⟩
  · exact issued.added sound added
  · have next : b.next ≤ c.next := by
      rcases worn.next with same | more <;> omega
    exact issued.keep sound next fun key w found => ⟨w, worn.records ▸ found, rfl⟩

theorem deleted {id : VolumeId} {mishaps : List Mishap} {result : Except VolumeError Unit}
    (issued : Issued b) (deleted : BlockDriver.Deleted id b mishaps result c) : Issued c := by
  have sound := issued.toSound.deleted deleted
  cases deleted with
  | missing | unregistered | unlinked | kept => exact issued
  | done =>
    apply issued.keep sound (Nat.le_refl _)
    intro key w found
    exact ⟨w, (Table.get?_erase_eq_some.1 found).2, rfl⟩

theorem kept (d : BlockDriver) : Kept d Issued where
  drawn issued := { issued with unused := ⟨issued.unused.connected, issued.unused.registered⟩ }
  provisioned issued _ made := issued.provisioned made
  deleted issued deleted := issued.deleted deleted
  prepared issued _ :=
    { issued with unused := ⟨issued.unused.connected, issued.unused.registered⟩ }
  changed issued same := by
    apply issued.keep ((Sound.kept d).changed issued.toSound same) (Nat.le_of_eq same.next.symm)
    intro key w found
    obtain ⟨v, before, alike⟩ := Table.before_of_rel (same.records key) found
    exact ⟨v, before, alike.device⟩
  filled issued _ _ _ _ :=
    { issued with unused := ⟨issued.unused.connected, issued.unused.registered⟩ }

end Issued

theorem Issued.withFiles (issued : Issued b) (result : Except IoError Files) :
    Issued (b.withFiles result).2 := by
  cases result with
  | ok files =>
    exact { issued with unused := ⟨issued.unused.connected, issued.unused.registered⟩ }
  | error error => exact issued

end BlockVolumes.Bench
