import BlockVolumes.Proofs.Driver.Growth

/-! What others can do to the new volume of a snapshot before it is filled. It is there for
everybody, and its own lock is free. Who deletes it then deletes a volume, but what is copied
afterwards makes the file again. -/

namespace BlockVolumes

open SimulatedConnector (nameOf)

variable {d : BlockDriver} {b c : Bench} {m : Moment} {id copy parent : VolumeId}
  {mishaps : List Mishap}

namespace Bench

inductive Remains
  | whole
  | nothing
  | record

def Leaves (d : BlockDriver) (copy : VolumeId) (b : Bench) : Remains → Prop
  | .whole => ∃ v file, b.records.get? copy.text = some v ∧ HasDevice d b v ∧
    b.files.get? (d.backingFile copy) = some file
  | .nothing => b.records.get? copy.text = none ∧ b.files.get? (d.backingFile copy) = none
  | .record => ∃ v, b.records.get? copy.text = some v ∧
    b.devices.devices.get? v.device = none ∧ (∀ n, b.next ≤ n → nameOf n ≠ v.device) ∧
    b.files.get? (d.backingFile copy) = none

structure Waiting (d : BlockDriver) (parent copy : VolumeId) (source : Option SparseFile)
    (b : Bench) : Prop extends Served b where
  apart : parent.text ≠ copy.text
  named : Path.IsName copy.text.toList
  known : ∃ v, b.records.get? parent.text = some v
  source : b.files.get? (d.backingFile parent) = source

theorem NamesUnused.old (unused : b.NamesUnused) {name : String} {device : BlockDevice}
    (registered : b.devices.devices.get? name = some device) (n : Nat) (later : b.next ≤ n) :
    nameOf n ≠ name := by
  rintro rfl
  simp [unused.registered n later] at registered

theorem Leaves.grown {remains : Remains} (leaves : Leaves d copy b remains)
    (there : remains ≠ .nothing) (unused : b.NamesUnused) (grown : Grown d b c) :
    Leaves d copy c remains := by
  cases remains with
  | nothing => exact absurd rfl there
  | whole =>
    obtain ⟨v, file, found, ⟨device, registered, own, connected⟩, filed⟩ := leaves
    obtain ⟨still, linked⟩ := grown.devices v.device (unused.old registered)
    exact ⟨v, file, grown.records _ _ found,
      ⟨device, still.trans registered, own, linked.trans connected⟩,
      (grown.files _ _ found).trans filed⟩
  | record =>
    obtain ⟨v, found, unregistered, old, unfiled⟩ := leaves
    obtain ⟨still, -⟩ := grown.devices v.device old
    exact ⟨v, grown.records _ _ found, still.trans unregistered,
      fun n later => old n (Nat.le_trans grown.next later), (grown.files _ _ found).trans unfiled⟩

theorem Leaves.same {remains : Remains} (leaves : Leaves d copy b remains)
    (same : SameVolumes b c) : Leaves d copy c remains := by
  have records := same.records copy.text
  cases remains with
  | nothing =>
    refine ⟨Table.none_of_rel records leaves.1, ?_⟩
    rw [same.files]
    exact leaves.2
  | whole =>
    obtain ⟨v, file, found, ⟨device, registered, own, connected⟩, filed⟩ := leaves
    obtain ⟨w, now, alike⟩ := Table.after_of_rel records found
    refine ⟨w, file, now, ⟨device, ?_, ?_, ?_⟩, ?_⟩
    · rw [same.devices, alike.device, registered]
    · rw [own, alike.id]
    · rw [same.connected, alike.device, connected]
    · rw [same.files, filed]
  | record =>
    obtain ⟨v, found, unregistered, old, unfiled⟩ := leaves
    obtain ⟨w, now, alike⟩ := Table.after_of_rel records found
    refine ⟨w, now, ?_, ?_, ?_⟩
    · rw [same.devices, alike.device, unregistered]
    · rw [same.next, alike.device]
      exact old
    · rw [same.files, unfiled]

namespace Waiting

variable {source : Option SparseFile}

theorem files_apart (waiting : Waiting d parent copy source b) :
    Path.resolve (d.backingFile copy) ≠ Path.resolve (d.backingFile parent) := by
  obtain ⟨v, known⟩ := waiting.known
  exact BlockDriver.backingFile_ne waiting.named (waiting.records _ _ known) waiting.apart.symm

theorem grown (waiting : Waiting d parent copy source b) (grown : Grown d b c)
    (served : Served c) : Waiting d parent copy source c := by
  obtain ⟨v, known⟩ := waiting.known
  refine ⟨served, waiting.apart, waiting.named, ⟨v, grown.records _ _ known⟩, ?_⟩
  exact (grown.files _ _ known).trans waiting.source

theorem same (waiting : Waiting d parent copy source b) (same : SameVolumes b c) :
    Waiting d parent copy source c := by
  obtain ⟨v, known⟩ := waiting.known
  obtain ⟨w, now, -⟩ := Table.after_of_rel (same.records parent.text) known
  refine ⟨waiting.toServed.changed same, waiting.apart, waiting.named, ⟨w, now⟩, ?_⟩
  rw [same.files, waiting.source]

end Waiting

inductive Remains.Delete : Remains → Except VolumeError Unit → Remains → Prop
  | kept {remains : Remains} {error : VolumeError} (heard : ∀ reason, error ≠ .store reason) :
    Delete remains (.error error) remains
  | gone : Delete .whole (.ok ()) .nothing
  | torn (reason : StoreError) : Delete .whole (.error (.store reason)) .record

theorem Leaves.own_device {remains : Remains} {v : Volume} {device : BlockDevice} {name : String}
    (leaves : Leaves d copy b remains) (served : Served b)
    (found : b.records.get? copy.text = some v)
    (registered : b.devices.devices.get? v.device = some device)
    (linked : device.link.device = some name) :
    remains = .whole ∧ device.file = d.backingFile copy ∧ v.device = name := by
  refine ⟨?_, ?_, served.linked.name_eq registered linked⟩
  all_goals cases remains with
  | nothing => simp [leaves.1] at found
  | record =>
    obtain ⟨w, there, unregistered, -⟩ := leaves
    obtain rfl : v = w := by simpa [found] using there
    simp [registered] at unregistered
  | whole => ?_
  · rfl
  · obtain ⟨w, file, there, has, -⟩ := leaves
    obtain rfl : v = w := by simpa [found] using there
    rw [(served.hasDevice_iff registered).1 has, VolumeId.ext (served.own _ _ found)]

namespace Waiting

variable {source : Option SparseFile} {remains : Remains}

theorem deletion {result : Except VolumeError Unit} (waiting : Waiting d parent copy source b)
    (leaves : Leaves d copy b remains)
    (scrapped : BlockDriver.Scrapped copy b mishaps result c) :
    Waiting d parent copy source c ∧ ∃ after, remains.Delete result after ∧
      Leaves d copy c after := by
  have served := waiting.toServed.scrapped scrapped
  obtain ⟨p, known⟩ := waiting.known
  have source : (b.files.without (d.backingFile copy)).get? (d.backingFile parent) = source :=
    (Files.get?_without_of_ne _ waiting.files_apart).trans waiting.source
  cases scrapped with
  | @torn v device _ found registered linked =>
    obtain ⟨rfl, own, rfl⟩ := leaves.own_device waiting.toServed found registered linked
    refine ⟨⟨served, waiting.apart, waiting.named, ⟨p, known⟩, ?_⟩, .record, .torn _, v, found, ?_⟩
    · rw [BlockDriver.stripped, own]
      exact source
    · refine ⟨?_, waiting.unused.old registered, ?_⟩
      · simp [BlockDriver.stripped]
      · simp [BlockDriver.stripped, own]
  | deleted deleted =>
    cases deleted with
    | missing | unregistered | unlinked | kept =>
      exact ⟨waiting, remains, .kept (by simp), leaves⟩
    | @done v device _ found registered linked =>
      obtain ⟨rfl, own, rfl⟩ := leaves.own_device waiting.toServed found registered linked
      refine ⟨⟨served, waiting.apart, waiting.named, ⟨p, ?_⟩, ?_⟩, .nothing, .gone, ?_⟩
      · simpa [waiting.apart.symm] using known
      · rw [own]
        exact source
      · exact ⟨by simp, by simp [own]⟩

end Waiting

end Bench

def Attempt.Removes (copy : VolumeId) (attempt : Attempt) : Prop :=
  attempt.call = .delete copy ∧ attempt.result = .ok ()

def Attempt.Tears (copy : VolumeId) (attempt : Attempt) : Prop :=
  attempt.call = .delete copy ∧ ∃ reason, attempt.result = .error (.store reason)

/-- The worlds that calls of others on one volume lead to. During each of them the store may refuse
to delete records. -/
inductive Others (d : BlockDriver) (copy : VolumeId) (start : World) : List Attempt → World → Prop
  | none : Others d copy start [] start
  | call {history : List Attempt} {attempt : Attempt} {calls : List StoreCall} {w v : World}
      (others : Others d copy start history w) (on : attempt.call.on? = some copy)
      (only : OnlyDeletions calls)
      (yields : (attempt.call.operation d).outcome.Yields (w.refusing calls) attempt.mishaps
        attempt.result v) :
    Others d copy start (history ++ [attempt]) (v.refusing [])

/-- The worlds that a snapshot can end in when others had calls on the new volume between its two
phases. -/
inductive Interrupted (d : BlockDriver) (id copy : VolumeId) (locator : Locator) (w : World)
    (history : List Attempt) (filling : BlockDriver.Filling) : World → Prop
  | of {calls more : List StoreCall} {claim : Claim} {early late : List Mishap} {u x v : World}
      (only : OnlyDeletions calls) (onlyThen : OnlyDeletions more)
      (begins : (d.beginSnapshot id locator).Yields (w.refusing calls) early (claim, .ok copy) u)
      (others : Others d copy (u.refusing []) history x)
      (ends : (d.endSnapshot id claim (.ok copy)).Yields (x.refusing more) late filling v) :
    Interrupted d id copy locator w history filling (v.refusing [])

namespace Bench

variable {source : Option SparseFile} {remains after : Remains} {attempt : Attempt}
  {history : List Attempt}

structure Remains.Fits (copy : VolumeId) (history : List Attempt) (remains : Remains) : Prop where
  nothing : remains = .nothing ↔ ∃ a ∈ history, a.Removes copy
  record : remains = .record ↔ ∃ a ∈ history, a.Tears copy

inductive Remains.Step (copy : VolumeId) (attempt : Attempt) : Remains → Remains → Prop
  | other {remains : Remains} (other : attempt.call ≠ .delete copy) :
    Step copy attempt remains remains
  | delete {remains after : Remains} (call : attempt.call = .delete copy)
      (deletes : remains.Delete attempt.result after) : Step copy attempt remains after

theorem Remains.fits_nil (copy : VolumeId) : Remains.whole.Fits copy [] :=
  ⟨by simp, by simp⟩

theorem Remains.Fits.step (fits : remains.Fits copy history)
    (step : Remains.Step copy attempt remains after) : after.Fits copy (history ++ [attempt]) := by
  cases step with
  | other other =>
    have idle : ¬ attempt.Removes copy ∧ ¬ attempt.Tears copy :=
      ⟨fun removes => other removes.1, fun tears => other tears.1⟩
    exact ⟨by simp [fits.nothing, idle], by simp [fits.record, idle]⟩
  | delete call deletes =>
    generalize ended : attempt.result = result at deletes
    cases deletes with
    | kept heard =>
      have idle : ¬ attempt.Removes copy ∧ ¬ attempt.Tears copy := by
        simp [Attempt.Removes, Attempt.Tears, ended, heard]
      exact ⟨by simp [fits.nothing, idle], by simp [fits.record, idle]⟩
    | gone =>
      have removes : attempt.Removes copy ∧ ¬ attempt.Tears copy := by
        simp [Attempt.Removes, Attempt.Tears, call, ended]
      exact ⟨by simp [removes], by simp [removes, ← fits.record]⟩
    | torn reason =>
      have tears : ¬ attempt.Removes copy ∧ attempt.Tears copy := by
        simp [Attempt.Removes, Attempt.Tears, call, ended]
      exact ⟨by simp [tears, ← fits.nothing], by simp [tears]⟩

theorem Waiting.step (waiting : Waiting d parent copy source b)
    (leaves : Leaves d copy b remains) (on : attempt.call.on? = some copy)
    (ends : attempt.call.MayEnd d b attempt.mishaps attempt.result c) :
    Waiting d parent copy source c ∧ ∃ after, remains.Step copy attempt after ∧
      Leaves d copy c after := by
  obtain ⟨call, mishaps, result⟩ := attempt
  have upkeep : call ≠ .delete copy → SameVolumes b c → Waiting d parent copy source c ∧
      ∃ after, remains.Step copy ⟨call, mishaps, result⟩ after ∧ Leaves d copy c after :=
    fun other same => ⟨waiting.same same, remains, .other other, leaves.same same⟩
  cases call with
  | init | create => cases on
  | mount => exact upkeep nofun (.of_mounted ends)
  | unmount => exact upkeep nofun (.of_unmounted ends)
  | set => exact upkeep nofun (.of_changed ends)
  | attach =>
    obtain ⟨full, attached, -⟩ := ends
    exact upkeep nofun (.of_attached attached)
  | detach => exact upkeep nofun (.of_detached ends)
  | delete id =>
    obtain rfl : id = copy := Option.some.inj on
    obtain ⟨still, after, deletes, left⟩ := waiting.deletion leaves ends
    exact ⟨still, after, .delete rfl deletes, left⟩
  | snapshot id readonly locator =>
    obtain rfl : id = copy := Option.some.inj on
    obtain ⟨full, replicated, -⟩ := ends
    by_cases there : remains = .nothing
    · -- Nothing is there to be copied.
      subst there
      have same : c = b := by
        cases replicated with
        | unmade begun =>
          cases begun with
          | missing => rfl
          | made found => simp [leaves.1] at found
        | made begun =>
          cases begun with
          | made found => simp [leaves.1] at found
      exact same ▸ upkeep nofun (same ▸ .refl b)
    · obtain ⟨grown, served⟩ := grown_of_replicated waiting.toServed replicated
      exact ⟨waiting.grown grown served, remains, .other nofun,
        leaves.grown there waiting.unused grown⟩

theorem Waiting.others {w : World} (waiting : Waiting d parent copy source b)
    (leaves : Leaves d copy b .whole) (others : Others d copy (b.world m) history w) :
    ∃ c later remains, w = c.world later ∧ Waiting d parent copy source c ∧
      Leaves d copy c remains ∧ remains.Fits copy history := by
  induction others with
  | none => exact ⟨b, m, .whole, rfl, waiting, leaves, Remains.fits_nil copy⟩
  | call others on only yields ih =>
    obtain ⟨c, between, remains, rfl, waiting, leaves, fits⟩ := ih
    obtain ⟨e, later, rfl, ends⟩ := Call.ensures_on on waiting.toSound only _ _ _ _ yields
    obtain ⟨still, after, step, left⟩ := waiting.step leaves on ends
    exact ⟨e, later, after, e.refusing_none later, still, left, fits.step step⟩

theorem Served.waiting {locator : Locator} (served : Served b)
    (begun : BlockDriver.Begun d b id locator mishaps (.ok copy) c) :
    Waiting d id copy (b.files.get? (d.backingFile id)) c ∧ Leaves d copy c .whole := by
  have after := served.begun begun
  cases begun with
  | @made parent _ _ _ found made =>
    have drawn := (Served.lasting d).drawn served
    obtain ⟨rfl, -, v, same, added⟩ := made.added
    have named : Path.IsName v.id.text.toList := same ▸ served.ids b.drawn
    rw [← same]
    have apart : id.text ≠ v.id.text := by
      intro shared
      have absent := added.absent
      simp [← shared, found] at absent
    have grown := (Grown.of_added drawn named added).of_drawn
    refine ⟨⟨after, apart, named, ⟨parent, grown.records _ _ found⟩, grown.files _ _ found⟩, v, ?_⟩
    refine ⟨SparseFile.empty.resize parent.spec.size.toNat, ?_, ?_, ?_⟩
    · exact added.found
    · exact (after.hasDevice_iff added.registered).2 rfl
    · exact added.files ▸ Files.get?_put_self ..

/-- What a snapshot owes to who asked for it: there is a file just if there is a record, and if it
succeeded there is all that belongs to a volume, with the contents of the parent. -/
structure Safe (d : BlockDriver) (copy : VolumeId) (source : Option SparseFile)
    (result : Except VolumeError VolumeId) (c : Bench) : Prop where
  paired : (∃ file, c.files.get? (d.backingFile copy) = some file) ↔
    ∃ v, c.records.get? copy.text = some v
  ready : result = .ok copy → ∃ v file, c.records.get? copy.text = some v ∧ HasDevice d c v ∧
    source = some file ∧ c.files.get? (d.backingFile copy) = some file

theorem Leaves.paired_iff (leaves : Leaves d copy b remains) :
    ((∃ file, b.files.get? (d.backingFile copy) = some file) ↔
      ∃ v, b.records.get? copy.text = some v) ↔ remains ≠ .record := by
  cases remains with
  | whole =>
    obtain ⟨v, file, found, -, filed⟩ := leaves
    simp [found, filed]
  | nothing => simp [leaves.1, leaves.2]
  | record =>
    obtain ⟨v, found, -, -, unfiled⟩ := leaves
    simp [found, unfiled]

theorem Leaves.safe_put_iff {kept : SparseFile} (leaves : Leaves d copy b remains) :
    Safe d copy (some kept) (.ok copy) { b with files := b.files.put (d.backingFile copy) kept } ↔
      remains = .whole := by
  constructor
  · intro safe
    obtain ⟨v, file, found, ⟨device, registered, -⟩, -⟩ := safe.ready rfl
    cases remains with
    | whole => rfl
    | nothing => simp [leaves.1] at found
    | record =>
      obtain ⟨w, there, unregistered, -⟩ := leaves
      obtain rfl : v = w := by simpa [found] using there
      simp [unregistered] at registered
  · rintro rfl
    obtain ⟨v, file, found, has, -⟩ := leaves
    exact ⟨by simp [found], fun _ => ⟨v, kept, found, has, rfl, Files.get?_put_self ..⟩⟩

theorem Waiting.safe_iff {filling : BlockDriver.Filling} (waiting : Waiting d parent copy source b)
    (leaves : Leaves d copy b remains)
    (filled : BlockDriver.Filled d parent copy b mishaps filling c) :
    Safe d copy source filling.1 c ↔ remains ≠ .record ∧
      (∀ reason, filling.2 ≠ some (.error (.store reason))) ∧
      (source.isSome = true → remains ≠ .nothing) := by
  cases filled with
  | @done kept there =>
    obtain rfl : source = some kept := waiting.source.symm.trans there
    rw [leaves.safe_put_iff]
    cases remains <;> simp
  | @undone _ result _ error lost scrapped =>
    obtain rfl : source = none := waiting.source.symm.trans lost
    obtain ⟨-, after, deletes, left⟩ := waiting.deletion leaves scrapped
    have safe : Safe d copy none (.error (.io error)) c ↔ after ≠ .record :=
      ⟨fun safe => left.paired_iff.1 safe.paired, fun whole => ⟨left.paired_iff.2 whole, nofun⟩⟩
    rw [safe]
    cases deletes with
    | kept heard => simp [heard]
    | gone => simp
    | torn reason => simp

/-- In every state that a driver can get into, a snapshot is its two phases, and whatever others do
to the new volume between them, it is safe just if no deletion of the volume was refused by the
store halfway, neither theirs nor the snapshot's own when there was nothing to copy, and none
succeeded before a copy that made the file again. -/
theorem snapshot_safe_iff {start : Bench} {w v : World} {locator : Locator}
    {filling : BlockDriver.Filling} (restarted : Restarted start) (named : Named start)
    (reached : Reachable d (start.world m) w)
    (interrupted : Interrupted d id copy locator w history filling v) :
    (∀ readonly, (d.toVolumeDriver.snapshot id readonly locator).outcome = (do
      let (claim, made) ← d.beginSnapshot id locator
      let (result, _) ← d.endSnapshot id claim made
      return result)) ∧
    ∃ (b c : Bench) (before after : Moment), w = b.world before ∧ v = c.world after ∧
      (Safe d copy (b.files.get? (d.backingFile id)) filling.1 c ↔
        (∀ a ∈ history, ¬ a.Tears copy) ∧
        (∀ reason, filling.2 ≠ some (.error (.store reason))) ∧
        ((b.files.get? (d.backingFile id)).isSome = true → ∀ a ∈ history, ¬ a.Removes copy)) := by
  refine ⟨fun _ => BlockDriver.snapshot_eq_phases d id locator, ?_⟩
  obtain ⟨b, before, rfl, served⟩ := (Served.lasting d).reachable (restarted.served named) reached
  obtain @⟨_, _, claim, _, _, _, _, _, only, onlyThen, begins, others, ends⟩ := interrupted
  obtain ⟨c, inside, rfl, begun⟩ :=
    (BlockDriver.leads_beginSnapshot served.unused).ensures
      (BlockDriver.unfazed_beginSnapshot d id locator) only _ _ _ _ begins
  obtain ⟨waiting, whole⟩ := served.waiting begun
  rw [World.refusing_refusing, c.refusing_none] at others
  obtain ⟨e, between, remains, rfl, still, left, fits⟩ := waiting.others whole others
  obtain ⟨f, later, rfl, filled⟩ := BlockDriver.ensures_endSnapshot onlyThen claim _ _ _ _ ends
  refine ⟨b, f, before, later, rfl, f.refusing_none later, ?_⟩
  rw [still.safe_iff left filled, ne_eq, fits.record, ne_eq, fits.nothing]
  simp

theorem interrupted_by_none {w : World} {locator : Locator} {calls : List StoreCall} {claim : Claim}
    {u v : World} {filling : BlockDriver.Filling} (only : OnlyDeletions calls)
    (begins : (d.beginSnapshot id locator).run (w.refusing calls) = ((claim, .ok copy), u))
    (ends : (d.endSnapshot id claim (.ok copy)).run (u.refusing calls) = (filling, v)) :
    Interrupted d id copy locator w [] filling (v.refusing []) := by
  obtain ⟨_, first⟩ := (d.beginSnapshot id locator).yields_run (w.refusing calls)
  obtain ⟨_, last⟩ := (d.endSnapshot id claim (.ok copy)).yields_run (u.refusing calls)
  rw [begins] at first
  rw [ends] at last
  exact .of only only first .none last

theorem interrupted_once {w : World} {locator : Locator} {call : Call} {claim : Claim}
    {u x v : World} {result : Except VolumeError Unit} {filling : BlockDriver.Filling}
    (begins : (d.beginSnapshot id locator).run (w.refusing []) = ((claim, .ok copy), u))
    (on : call.on? = some copy)
    (calls : (call.operation d).outcome.run (u.refusing []) = (result, x))
    (ends : (d.endSnapshot id claim (.ok copy)).run (x.refusing []) = (filling, v)) :
    ∃ mishaps, Interrupted d id copy locator w [⟨call, mishaps, result⟩] filling
      (v.refusing []) := by
  obtain ⟨_, first⟩ := (d.beginSnapshot id locator).yields_run (w.refusing [])
  obtain ⟨mishaps, between⟩ := (call.operation d).outcome.yields_run (u.refusing [])
  obtain ⟨_, last⟩ := (d.endSnapshot id claim (.ok copy)).yields_run (x.refusing [])
  rw [begins] at first
  rw [calls] at between
  rw [ends] at last
  exact ⟨mishaps, .of .none .none first (.call .none on .none between) last⟩

theorem reachable_renewed :
    Reachable ⟨"nbd", "/volumes"⟩ (aged.world .calm) renewed := by
  obtain ⟨_, makes⟩ :=
    (renewal.operation ⟨"nbd", "/volumes"⟩).outcome.yields_run (aged.world .calm)
  exact .call .start makes

/-- The new volume may be mounted before it is filled. -/
theorem snapshot_safe_when_mounted : ∃ mishaps v c after,
    Interrupted ⟨"nbd", "/volumes"⟩ ⟨"volume0"⟩ ⟨"volume1"⟩ (.named "copy") renewed
      [⟨.mount ⟨"volume1"⟩ "/mnt", mishaps, .ok ()⟩] (.ok ⟨"volume1"⟩, none) v ∧
    v = c.world after ∧
    Safe ⟨"nbd", "/volumes"⟩ ⟨"volume1"⟩ (some ⟨4096, []⟩) (.ok ⟨"volume1"⟩) c := by
  have run : ∃ mishaps v, Interrupted ⟨"nbd", "/volumes"⟩ ⟨"volume0"⟩ ⟨"volume1"⟩ (.named "copy")
      renewed [⟨.mount ⟨"volume1"⟩ "/mnt", mishaps, .ok ()⟩] (.ok ⟨"volume1"⟩, none) v :=
    exists_comm.1 ⟨_, interrupted_once rfl rfl rfl rfl⟩
  obtain ⟨mishaps, v, interrupted⟩ := run
  obtain ⟨-, b, c, before, after, same, ended, safe⟩ :=
    snapshot_safe_iff restarted_aged named_aged reachable_renewed interrupted
  have there : b.files.get? (BlockDriver.backingFile ⟨"nbd", "/volumes"⟩ ⟨"volume0"⟩) =
      some ⟨4096, []⟩ := by
    have kept : renewed.files.get? "/volumes/volume0" = some ⟨4096, []⟩ := by decide +kernel
    rwa [same] at kept
  rw [there] at safe
  refine ⟨mishaps, v, c, after, interrupted, ended, safe.2 ⟨?_, ?_, ?_⟩⟩
  · simp [Attempt.Tears]
  · simp
  · simp [Attempt.Removes]

def emptied : World :=
  renewed.meddledWith (renewed.files.without "/volumes/volume0")
    ⟨[("/dev/nbd0", .ext4)], [], false, false⟩

/-- A volume that is deleted before it is filled gets its file again but not its record, and if the
store refuses to delete one that could not be filled, that keeps its record but not its file. -/
theorem snapshot_unsafe :
    Reachable ⟨"nbd", "/volumes"⟩ (aged.world .calm) renewed ∧
    (∃ mishaps v, Interrupted ⟨"nbd", "/volumes"⟩ ⟨"volume0"⟩ ⟨"volume1"⟩ (.named "copy") renewed
        [⟨.delete ⟨"volume1"⟩, mishaps, .ok ()⟩] (.ok ⟨"volume1"⟩, none) v ∧
      v.record? "volume1" = none ∧ v.files.get? "/volumes/volume1" = some ⟨4096, []⟩) ∧
    Reachable ⟨"nbd", "/volumes"⟩ (aged.world .calm) emptied ∧
    ∃ v, Interrupted ⟨"nbd", "/volumes"⟩ ⟨"volume0"⟩ ⟨"volume1"⟩ (.named "copy") emptied []
        (.error (.io .notFound), some (.error (.store (.database "injected")))) v ∧
      (v.record? "volume1").isSome = true ∧ v.files.get? "/volumes/volume1" = none := by
  refine ⟨reachable_renewed, ?_, .meddled reachable_renewed _ _, ?_⟩
  · have run : ∃ mishaps, Interrupted ⟨"nbd", "/volumes"⟩ ⟨"volume0"⟩ ⟨"volume1"⟩ (.named "copy")
        renewed [⟨.delete ⟨"volume1"⟩, mishaps, .ok ()⟩] (.ok ⟨"volume1"⟩, none) _ :=
      interrupted_once rfl rfl rfl rfl
    obtain ⟨mishaps, interrupted⟩ := run
    exact ⟨mishaps, _, interrupted, rfl, by decide +kernel⟩
  · have only : OnlyDeletions [.delete] := by simp [OnlyDeletions]
    exact ⟨_, interrupted_by_none only rfl rfl, rfl, by decide +kernel⟩

end Bench

end BlockVolumes
