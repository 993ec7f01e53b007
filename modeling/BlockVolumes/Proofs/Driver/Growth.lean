import BlockVolumes.Proofs.Driver.Course
import BlockVolumes.Proofs.Driver.Phases

/-! How calls on one volume end when the store may refuse to delete records, and that among them
snapshots only add to what is there. -/

namespace BlockVolumes

open SimulatedConnector (nameOf)

variable {d : BlockDriver} {b c e : Bench} {id copy parent : VolumeId} {mishaps : List Mishap}
  {calls : List StoreCall}

def Call.MayEnd (d : BlockDriver) (b : Bench) :
    Call → List Mishap → Except VolumeError Unit → Bench → Prop
  | delete id => BlockDriver.Scrapped id b
  | snapshot id _ locator => Valued (BlockDriver.Replicated d b id locator)
  | call => call.Ends d b

theorem Call.ensures_valued {α : Type} {operation : Operation α}
    {ends : List Mishap → Except VolumeError α → Bench → Prop}
    (ensures : operation.outcome.Ensures calls b ends) :
    (do let _ ← operation : Operation Unit).outcome.Ensures calls b (Valued ends) := by
  rw [Operation.outcome_bind]
  apply ensures.bind
  intro mishaps full c reached
  cases full with
  | ok value => exact Routine.ensures_done ⟨_, by simpa using reached, rfl⟩
  | error error => exact Routine.ensures_done ⟨_, by simpa using reached, rfl⟩

theorem Call.ensures_on {call : Call} (on : call.on? = some id) (sound : b.Sound)
    (only : OnlyDeletions calls) :
    (call.operation d).outcome.Ensures calls b (call.MayEnd d b) := by
  cases call with
  | init | create => cases on
  | delete => exact BlockDriver.ensures_delete only
  | mount =>
    exact (BlockDriver.leads_mount sound.own).ensures (BlockDriver.unfazed_mount _ _) only
  | unmount =>
    exact (BlockDriver.leads_unmount sound.own).ensures (BlockDriver.unfazed_unmount _) only
  | snapshot => exact ensures_valued (BlockDriver.ensures_snapshot sound.unused only)
  | set _ _ spec =>
    exact (BlockDriver.leads_set spec sound.own).ensures (BlockDriver.unfazed_set _ _ _) only
  | attach =>
    exact ensures_valued (BlockDriver.leads_attach.ensures (BlockDriver.unfazed_attach d _) only)
  | detach => exact BlockDriver.leads_detach.ensures (BlockDriver.unfazed_detach _) only

namespace Bench

theorem Served.file_apart (served : Served b) (named : Path.IsName id.text.toList)
    (absent : b.records.get? id.text = none) {key : String} {v : Volume}
    (found : b.records.get? key = some v) :
    Path.resolve (d.backingFile id) ≠ Path.resolve (d.backingFile ⟨key⟩) := by
  apply BlockDriver.backingFile_ne named (served.records key v found)
  rintro rfl
  simp [absent] at found

structure Grown (d : BlockDriver) (b c : Bench) : Prop where
  records : b.Persists c
  files : ∀ id v, b.records.get? id = some v →
    c.files.get? (d.backingFile ⟨id⟩) = b.files.get? (d.backingFile ⟨id⟩)
  devices : ∀ name, (∀ n, b.next ≤ n → nameOf n ≠ name) →
    c.devices.devices.get? name = b.devices.devices.get? name ∧
    c.connected.get? name = b.connected.get? name
  next : b.next ≤ c.next

namespace Grown

theorem refl (d : BlockDriver) (b : Bench) : Grown d b b :=
  ⟨.refl b, fun _ _ _ => rfl, fun _ _ => ⟨rfl, rfl⟩, Nat.le_refl _⟩

theorem of_drawn {drawn : Nat} (grown : Grown d { b with drawn } c) : Grown d b c :=
  ⟨grown.records, grown.files, grown.devices, grown.next⟩

theorem of_worn (worn : BlockDriver.Worn b mishaps c) : Grown d b c where
  records id v found := worn.records ▸ found
  files id v found := by rw [worn.files]
  devices name old := by
    refine ⟨by rw [worn.devices], ?_⟩
    rcases worn.connected with same | ⟨-, -, file, stray⟩
    · rw [same]
    · simp [stray, show b.device ≠ name from old b.next (Nat.le_refl _)]
  next := by
    rcases worn.next with same | next <;> omega

theorem of_added {v : Volume} {locator : Locator} {spec : Spec} (served : Served b)
    (named : Path.IsName v.id.text.toList) (added : BlockDriver.Added d b locator spec v c) :
    Grown d b c where
  records id w found := added.records ▸ Table.get?_insert_of_absent _ added.absent found
  files id w found := by
    rw [added.files]
    exact Files.get?_put_of_ne _ _ (served.file_apart named added.absent found)
  devices name old := by
    have other : b.device ≠ name := old b.next (Nat.le_refl _)
    exact ⟨by simp [added.devices, DeviceRegistry.register, other],
      by simp [added.connected, other]⟩
  next := by
    rw [added.next]
    omega

theorem put (grown : Grown d b c) (served : Served b) (absent : b.records.get? id.text = none)
    (named : Path.IsName id.text.toList) (file : SparseFile) :
    Grown d b { c with files := c.files.put (d.backingFile id) file } where
  records := grown.records
  files key w found := by
    rw [← grown.files key w found]
    exact Files.get?_put_of_ne _ _ (served.file_apart named absent found)
  devices := grown.devices
  next := grown.next

theorem stripped {v : Volume} {locator : Locator} {spec : Spec} (served : Served b)
    (named : Path.IsName v.id.text.toList) (added : BlockDriver.Added d b locator spec v c) :
    Grown d b (BlockDriver.stripped c v (b.served (d.backingFile v.id)) b.device) := by
  have grown := of_added served named added
  refine ⟨grown.records, fun key w found => ?_, fun name old => ?_, grown.next⟩
  · rw [← grown.files key w found]
    exact Files.get?_without_of_ne _ (served.file_apart named added.absent found)
  · have other : b.device ≠ name := old b.next (Nat.le_refl _)
    simpa [BlockDriver.stripped, added.device, other] using grown.devices name old

theorem scrapped {v : Volume} {locator : Locator} {spec : Spec} {result : Except VolumeError Unit}
    (served : Served b) (named : Path.IsName v.id.text.toList)
    (added : BlockDriver.Added d b locator spec v c)
    (scrapped : BlockDriver.Scrapped v.id c mishaps result e) : Grown d b e := by
  have rest := stripped served named added
  have own : ∀ {w device name}, c.records.get? v.id.text = some w →
      c.devices.devices.get? w.device = some device → device.link.device = some name →
        w = v ∧ device = b.served (d.backingFile v.id) ∧ name = b.device := by
    intro w device name found registered linked
    obtain rfl : v = w := by simpa [added.found] using found
    obtain rfl : b.served (d.backingFile v.id) = device := by
      simpa [added.registered] using registered
    exact ⟨rfl, rfl, (Option.some.inj linked).symm⟩
  cases scrapped with
  | torn found registered linked =>
    obtain ⟨rfl, rfl, rfl⟩ := own found registered linked
    exact rest
  | deleted deleted =>
    cases deleted with
    | missing | unregistered | unlinked | kept => exact of_added served named added
    | done found registered linked =>
      obtain ⟨rfl, rfl, rfl⟩ := own found registered linked
      refine ⟨fun key w known => ?_, rest.files, rest.devices, rest.next⟩
      refine Table.get?_erase_eq_some.2 ⟨?_, rest.records key w known⟩
      rintro rfl
      simp [added.absent] at known

end Grown

namespace Served

theorem scrapped {result : Except VolumeError Unit} (served : Served b)
    (scrapped : BlockDriver.Scrapped id b mishaps result c) : Served c := by
  cases scrapped with
  | deleted deleted => exact served.deleted deleted
  | @torn v device _ found registered linked =>
    obtain rfl := served.linked.name_eq registered linked
    have unused : (BlockDriver.stripped b v device v.device).NamesUnused := by
      refine served.unused.shrink rfl (fun name free => ?_) fun name free => ?_ <;>
        simp [BlockDriver.stripped, free]
    exact ⟨⟨served.own, unused⟩, ⟨served.ids, served.records⟩, served.linked.erase rfl rfl⟩

theorem filed (served : Served b) (files : Files) : Served { b with files } :=
  { served with unused := ⟨served.unused.connected, served.unused.registered⟩ }

theorem filled {filling : BlockDriver.Filling} (served : Served b)
    (filled : BlockDriver.Filled d parent copy b mishaps filling c) : Served c := by
  cases filled with
  | done => exact served.filed _
  | undone _ _ scrapped => exact served.scrapped scrapped

theorem begun {locator : Locator} {result : Except VolumeError VolumeId} (served : Served b)
    (begun : BlockDriver.Begun d b id locator mishaps result c) : Served c := by
  cases begun with
  | missing => exact served
  | made _ made => exact ((lasting d).drawn served).provisioned (served.ids _) made

end Served

theorem grown_of_replicated {locator : Locator} {result : Except VolumeError VolumeId}
    (served : Served b) (replicated : BlockDriver.Replicated d b id locator mishaps result c) :
    Grown d b c ∧ Served c := by
  cases replicated with
  | unmade begun =>
    refine ⟨?_, served.begun begun⟩
    cases begun with
    | missing => exact .refl d b
    | made found made =>
      rcases made.outcome with ⟨failed, -⟩ | ⟨-, worn⟩
      · cases failed
      · exact .of_drawn (.of_worn worn)
  | made begun filled =>
    refine ⟨?_, (served.begun begun).filled filled⟩
    cases begun with
    | made found made =>
      have drawn := (Served.lasting d).drawn served
      obtain ⟨rfl, -, v, same, added⟩ := made.added
      have named : Path.IsName v.id.text.toList := same ▸ served.ids b.drawn
      rw [← same] at filled
      cases filled with
      | done => exact .of_drawn ((Grown.of_added drawn named added).put drawn added.absent named _)
      | undone _ _ scrapped => exact .of_drawn (.scrapped drawn named added scrapped)

end Bench

end BlockVolumes
