import BlockVolumes.Proofs.Driver.Invariant

/-! An operation that fails changes nothing that outlasts it, in every state that a driver can get
into. -/

namespace BlockVolumes

open SimulatedConnector (nameOf)

namespace Bench

variable {d : BlockDriver} {b c : Bench} {mishaps : List Mishap}

/-- A driver that was just started over records that an earlier one kept, each under its own ID. -/
structure Restarted (b : Bench) : Prop where
  own : b.OwnIds
  devices : b.devices = .empty
  connected : ∀ n, b.next ≤ n → b.connected.get? (nameOf n) = none

theorem Restarted.sound (restarted : Restarted b) : Sound b where
  own := restarted.own
  unused := ⟨restarted.connected, by simp [restarted.devices, DeviceRegistry.empty]⟩

def oldRecord : Volume :=
  { Volume.fresh ⟨"old"⟩ (.named "old") none (.sized 4096 .ext4) (Time.ofTicks 0) with
    device := nameOf 0 }

def aged : Bench := ofRecords (Table.empty.insert "old" oldRecord)

theorem restarted_aged : Restarted aged := by
  refine ⟨fun key v found => ?_, rfl, fun n later => rfl⟩
  rcases Table.get?_insert_eq_some.1 found with ⟨same, rfl⟩ | ⟨-, none⟩
  · exact same
  · cases none

/-- What outlasts a call is the same: records, registered and connected devices, mounts and
files. -/
structure Unchanged (b c : Bench) : Prop where
  records : c.records = b.records
  devices : c.devices = b.devices
  connected : c.connected = b.connected
  mounts : c.mounts = b.mounts
  files : c.files = b.files

theorem Unchanged.refl (b : Bench) : Unchanged b b := ⟨rfl, rfl, rfl, rfl, rfl⟩

theorem unchanged_of_unprovisioned {id : VolumeId} {locator : Locator} {source : Option Source}
    {spec : Spec} {error : VolumeError} (calm : ∀ device, .disconnect device ∉ mishaps)
    (made : BlockDriver.Provisioned d b id locator source spec mishaps (.error error) c) :
    Unchanged b c := by
  rcases made.outcome with ⟨failed, -⟩ | ⟨-, worn⟩
  · cases failed
  · rcases worn.connected with same | ⟨busy, -⟩
    · exact ⟨worn.records, worn.devices, same, worn.mounts, worn.files⟩
    · exact absurd busy (calm b.device)

theorem unchanged_of_undeleted {id : VolumeId} {error : VolumeError}
    (deleted : BlockDriver.Deleted id b mishaps (.error error) c) : Unchanged b c := by
  cases deleted <;> exact .refl b

theorem unchanged_of_deleted {id : VolumeId} {locator : Locator} {source : Option Source}
    {spec : Spec} {rest : List Mishap} {copy : VolumeId} {result : Except VolumeError Unit}
    {e : Bench} (unused : b.NamesUnused) (calm : ∀ device, .disconnect device ∉ rest)
    (made : BlockDriver.Provisioned d b id locator source spec mishaps (.ok copy) c)
    (deleted : BlockDriver.Deleted copy c rest result e) : Unchanged b e := by
  have unconnected : b.connected.get? b.device = none := unused.connected _ (Nat.le_refl _)
  have unregistered : b.devices.devices.get? b.device = none :=
    unused.registered _ (Nat.le_refl _)
  obtain ⟨rfl, -, v, rfl, added⟩ := made.added
  have own := added.found
  have device := added.registered
  cases deleted with
  | missing gone => simp [own] at gone
  | unregistered found gone =>
    obtain rfl : v = _ := by simpa [own] using found
    simp [device] at gone
  | unlinked found registered loose =>
    obtain rfl : v = _ := by simpa [own] using found
    obtain rfl : b.served (d.backingFile v.id) = _ := by simpa [device] using registered
    cases loose
  | kept => exact absurd (List.mem_singleton_self _) (calm _)
  | done found registered linked =>
    obtain rfl : v = _ := by simpa [own] using found
    obtain rfl : b.served (d.backingFile v.id) = _ := by simpa [device] using registered
    obtain rfl : b.device = _ := Option.some.inj linked
    constructor
    · simp [added.records, Table.erase_insert _ added.absent]
    · simp [added.devices, DeviceRegistry.register, added.device,
        Table.erase_insert _ unregistered]
    · simp [added.connected, Table.erase_insert _ unconnected]
    · exact added.mounts
    · simp [added.files, Bench.served, Files.without_put _ (Files.get?_of_vacant added.free)]

theorem unchanged_of_failed {call : Call} {error : VolumeError} (sound : Sound b)
    (calm : call.makes = true → ∀ device, .disconnect device ∉ mishaps)
    (ends : call.Ends d b mishaps (.error error) c) : Unchanged b c := by
  cases call with
  | init => cases ends; exact .refl b
  | create =>
    obtain ⟨full, created, failed⟩ := ends
    cases created with
    | invalid => exact .refl b
    | drawn valid made =>
      cases full with
      | ok => cases failed
      | error =>
        obtain ⟨records, devices, connected, mounts, files⟩ :=
          unchanged_of_unprovisioned (calm rfl) made
        exact ⟨records, devices, connected, mounts, files⟩
  | delete => exact unchanged_of_undeleted ends
  | mount => cases ends <;> exact .refl b
  | unmount => cases ends <;> exact .refl b
  | snapshot =>
    obtain ⟨full, copied, failed⟩ := ends
    cases copied with
    | missing => exact .refl b
    | uncreated found made =>
      obtain ⟨records, devices, connected, mounts, files⟩ :=
        unchanged_of_unprovisioned (calm rfl) made
      exact ⟨records, devices, connected, mounts, files⟩
    | done => cases failed
    | undone found made lost deleted =>
      have later := fun device busy => calm rfl device (List.mem_append_right _ busy)
      obtain ⟨records, devices, connected, mounts, files⟩ :=
        unchanged_of_deleted ((Sound.kept d).drawn sound).unused later made deleted
      exact ⟨records, devices, connected, mounts, files⟩
  | set => cases ends <;> exact .refl b
  | attach =>
    obtain ⟨full, attached, -⟩ := ends
    cases attached <;> exact .refl b
  | detach =>
    cases ends
    exact .refl b

/-- In every state that a driver can get into, an operation that fails changes nothing. -/
theorem unchanged_of_error {start : Bench} {m : Moment} {call : Call} {error : VolumeError}
    {w v : World} (restarted : Restarted start) (reached : Reachable d (start.world m) w)
    (yields : (call.operation d).outcome.Yields w mishaps (.error error) v)
    (calm : call.makes = true → ∀ device, .disconnect device ∉ mishaps) :
    ∃ b c before after, w = b.world before ∧ v = c.world after ∧ Unchanged b c := by
  obtain ⟨b, before, rfl, sound⟩ := (Sound.lasting d).reachable restarted.sound reached
  obtain ⟨c, after, rfl, ends⟩ := (call.leads sound.unused sound.own).sound yields
  exact ⟨b, c, before, after, rfl, rfl, unchanged_of_failed sound calm ends⟩

/-- The device of an old record is not registered. -/
theorem unchanged_after_failed_delete : ∃ b c before after,
    ((Call.delete ⟨"old"⟩).operation ⟨"nbd", "/volumes"⟩).outcome.run (aged.world .calm) =
      (.error (.deviceNotRegistered "/dev/nbd0"), c.world after) ∧
    aged.world .calm = b.world before ∧ Unchanged b c := by
  obtain ⟨mishaps, yields⟩ := ((Call.delete ⟨"old"⟩).operation
    ⟨"nbd", "/volumes"⟩).outcome.yields_run (aged.world .calm)
  obtain ⟨b, c, before, after, start, same, unchanged⟩ :=
    unchanged_of_error restarted_aged .start yields fun makes => nomatch makes
  exact ⟨b, c, before, after, Prod.ext rfl same, start, unchanged⟩

end Bench

end BlockVolumes
