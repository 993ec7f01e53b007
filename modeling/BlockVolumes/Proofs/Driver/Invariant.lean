import BlockVolumes.Proofs.Driver.Call

/-! Properties that every call of a driver keeps, by what they keep of the few things that calls
are made of, and properties that also outlive shutting down and starting again. -/

namespace BlockVolumes

namespace Bench

variable {d : BlockDriver} {b c : Bench} {mishaps : List Mishap} {P : Bench → Prop}

structure Alike (v w : Volume) : Prop where
  id : w.id = v.id
  device : w.device = v.device
  spec : w.spec = v.spec

theorem Alike.refl (v : Volume) : Alike v v := ⟨rfl, rfl, rfl⟩

theorem rel_markedUp (t : Table Volume) (key : String) :
    Option.Rel Alike (t.get? key) ((t.map Volume.markedUp).get? key) := by
  rw [Table.get?_map]
  cases t.get? key with
  | none => exact .none
  | some v =>
    have spec : v.markedUp.spec = v.spec := by
      unfold Volume.markedUp
      split <;> rfl
    exact .some ⟨v.markedUp_id, v.markedUp_device, spec⟩

structure SameVolumes (b c : Bench) : Prop where
  records : ∀ id, Option.Rel Alike (b.records.get? id) (c.records.get? id)
  devices : c.devices = b.devices
  connected : c.connected = b.connected
  files : c.files = b.files
  ids : c.ids = b.ids
  next : c.next = b.next

namespace SameVolumes

variable {id : VolumeId}

theorem refl (b : Bench) : SameVolumes b b where
  records key := by
    cases b.records.get? key with
    | none => exact .none
    | some v => exact .some (.refl v)
  devices := rfl
  connected := rfl
  files := rfl
  ids := rfl
  next := rfl

theorem recorded {v w : Volume} {formatted : List (String × Filesystem)} {mounts : List Mount}
    {clock : Nat} (found : b.records.get? id.text = some v) (alike : Alike v w) :
    SameVolumes b
      { b with records := b.records.insert id.text w, formatted, mounts, clock } where
  records _ := Table.rel_insert .refl found alike
  devices := rfl
  connected := rfl
  files := rfl
  ids := rfl
  next := rfl

variable {result : Except VolumeError Unit}

theorem of_mounted {path : String} (ends : BlockDriver.Mounted id path b mishaps result c) :
    SameVolumes b c := by
  cases ends with
  | missing | occupied | refused => exact .refl b
  | done found => exact .recorded found ⟨rfl, rfl, rfl⟩

theorem of_unmounted (ends : BlockDriver.Unmounted id b mishaps result c) : SameVolumes b c := by
  cases ends with
  | missing | free | refused => exact .refl b
  | done found => exact .recorded found ⟨rfl, rfl, rfl⟩

theorem of_changed {locator : Option Locator} {spec : Option Spec}
    (ends : BlockDriver.Changed id locator b spec mishaps result c) : SameVolumes b c := by
  cases ends with
  | refused | missing => exact .refl b
  | done found => exact .recorded found ⟨rfl, rfl, rfl⟩

theorem of_attached {result : Except VolumeError String}
    (ends : BlockDriver.Attached d id b mishaps result c) : SameVolumes b c := by
  cases ends <;> exact .refl b

theorem of_detached (ends : BlockDriver.Detached id b mishaps result c) : SameVolumes b c := by
  cases ends <;> exact .refl b

end SameVolumes

def Makeable (b : Bench) (spec : Spec) : Prop :=
  spec.check = .ok () ∨ ∃ id v, b.records.get? id = some v ∧ v.spec = spec

/-- A property that is kept by everything that calls are made of. -/
structure Kept (d : BlockDriver) (P : Bench → Prop) : Prop where
  drawn : ∀ {b : Bench}, P b → P { b with drawn := b.drawn + 1 }
  provisioned : ∀ {b c : Bench} {n : Nat} {locator : Locator} {source : Option Source}
    {spec : Spec} {mishaps : List Mishap} {result : Except VolumeError VolumeId}, P b →
    b.Makeable spec →
    BlockDriver.Provisioned d b (b.ids n) locator source spec mishaps result c → P c
  deleted : ∀ {b c : Bench} {id : VolumeId} {mishaps : List Mishap}
    {result : Except VolumeError Unit}, P b → BlockDriver.Deleted id b mishaps result c → P c
  prepared : ∀ {b : Bench} {files : Files}, P b →
    b.files.makeDirectories d.root = .ok files → P { b with files }
  changed : ∀ {b c : Bench}, P b → SameVolumes b c → P c
  /-- The file of a new volume may be filled from that of an older one with its spec. -/
  filled : ∀ {b : Bench} {id other : String} {v w : Volume} {file : SparseFile}, P b →
    b.records.get? id = some v → b.records.get? other = some w → w.spec = v.spec →
    b.files.get? (d.backingFile v.id) = some file →
    P { b with files := b.files.put (d.backingFile w.id) file }

namespace Kept

theorem copied {id : VolumeId} {locator : Locator} {result : Except VolumeError VolumeId}
    (kept : Kept d P) (own : b.OwnIds) (holds : P b)
    (copied : BlockDriver.Copied d b id locator mishaps result c) : P c := by
  have drawn := kept.drawn holds
  cases copied with
  | missing => exact holds
  | uncreated found made => exact kept.provisioned drawn (.inr ⟨_, _, found, rfl⟩) made
  | undone found made lost deleted =>
    have between := kept.provisioned drawn (.inr ⟨_, _, found, rfl⟩) made
    exact kept.deleted between deleted
  | @done v _ _ file c found made source =>
    have between := kept.provisioned drawn (.inr ⟨_, _, found, rfl⟩) made
    obtain ⟨rfl, -, w, new, added⟩ := made.added
    have known := added.found
    have still : c.records.get? id.text = some v :=
      added.records ▸ Table.get?_insert_of_absent _ added.absent found
    have same : id = v.id := VolumeId.ext (own _ _ found).symm
    rw [← new]
    exact kept.filled between still known added.specified (same ▸ source)

theorem step {call : Call} {result : Except VolumeError Unit} (kept : Kept d P)
    (own : b.OwnIds) (holds : P b) (ends : call.Ends d b mishaps result c) : P c := by
  cases call with
  | init =>
    cases ends with
    | refused => exact holds
    | done made =>
      exact kept.changed (kept.prepared holds made) ⟨rel_markedUp _, rfl, rfl, rfl, rfl, rfl⟩
  | create =>
    obtain ⟨full, created, -⟩ := ends
    cases created with
    | invalid => exact holds
    | drawn valid made => exact kept.provisioned (kept.drawn holds) (.inl valid) made
  | delete => exact kept.deleted holds ends
  | mount => exact kept.changed holds (.of_mounted ends)
  | unmount => exact kept.changed holds (.of_unmounted ends)
  | snapshot =>
    obtain ⟨full, copied, -⟩ := ends
    exact kept.copied own holds copied
  | set => exact kept.changed holds (.of_changed ends)
  | attach =>
    obtain ⟨full, attached, -⟩ := ends
    exact kept.changed holds (.of_attached attached)
  | detach => exact kept.changed holds (.of_detached ends)

end Kept

/-- What the calls of a driver rely on, whatever the records say. -/
structure Sound (b : Bench) : Prop where
  own : b.OwnIds
  unused : b.NamesUnused

theorem absent_of_empty (empty : b.records = .empty) (key : String) :
    b.records.get? key = none := by
  rw [empty, Table.get?_empty]

theorem Sound.of_empty (empty : b.records = .empty) (unused : b.NamesUnused) : b.Sound where
  own key v found := by
    rw [absent_of_empty empty] at found
    cases found
  unused := unused

theorem OwnIds.insert {v : Volume} (own : b.OwnIds)
    (records : c.records = b.records.insert v.id.text v) : c.OwnIds := by
  intro key w found
  rw [records, Table.get?_insert_eq_some] at found
  rcases found with ⟨same, rfl⟩ | ⟨-, before⟩
  · exact same
  · exact own key w before

theorem OwnIds.erase {key : String} (own : b.OwnIds) (records : c.records = b.records.erase key) :
    c.OwnIds := by
  intro other w found
  rw [records, Table.get?_erase_eq_some] at found
  exact own other w found.2

theorem OwnIds.changed (own : b.OwnIds) (same : SameVolumes b c) : c.OwnIds := by
  intro key w found
  obtain ⟨v, before, alike⟩ := Table.before_of_rel (same.records key) found
  rw [alike.id]
  exact own key v before

theorem NamesUnused.changed (unused : b.NamesUnused) (same : SameVolumes b c) :
    c.NamesUnused := by
  apply unused.shrink same.next
  · intro name free
    rw [same.connected, free]
  · intro name free
    rw [same.devices, free]

theorem NamesUnused.deleted {id : VolumeId} {result : Except VolumeError Unit}
    (unused : b.NamesUnused) (deleted : BlockDriver.Deleted id b mishaps result c) :
    c.NamesUnused := by
  cases deleted with
  | missing | unregistered | unlinked | kept => exact unused
  | done =>
    constructor
    · intro n later
      simp [unused.connected n later]
    · intro n later
      simp [unused.registered n later]

namespace Sound

theorem provisioned {id : VolumeId} {locator : Locator} {source : Option Source} {spec : Spec}
    {result : Except VolumeError VolumeId} (sound : Sound b)
    (made : BlockDriver.Provisioned d b id locator source spec mishaps result c) : Sound c := by
  rcases made.outcome with ⟨-, -, v, rfl, added⟩ | ⟨-, worn⟩
  · exact ⟨sound.own.insert added.records, added.unused sound.unused⟩
  · constructor
    · intro key v found
      rw [worn.records] at found
      exact sound.own key v found
    · exact worn.unused sound.unused

theorem deleted {id : VolumeId} {result : Except VolumeError Unit} (sound : Sound b)
    (deleted : BlockDriver.Deleted id b mishaps result c) : Sound c := by
  have unused := sound.unused.deleted deleted
  cases deleted with
  | missing | unregistered | unlinked | kept => exact sound
  | done => exact ⟨sound.own.erase rfl, unused⟩

theorem kept (d : BlockDriver) : Kept d Sound where
  drawn sound := ⟨sound.own, sound.unused.connected, sound.unused.registered⟩
  provisioned sound _ made := sound.provisioned made
  deleted sound deleted := sound.deleted deleted
  prepared sound _ := ⟨sound.own, sound.unused.connected, sound.unused.registered⟩
  changed sound same := ⟨sound.own.changed same, sound.unused.changed same⟩
  filled sound _ _ _ _ := ⟨sound.own, sound.unused.connected, sound.unused.registered⟩

end Sound

end Bench

def World.meddledWith (w : World) (files : Files) (host : RecordingHost) : World :=
  { w with files, host := .recording host }

/-- A new driver takes over what an earlier one left behind, which is registered nowhere. -/
def World.restarted (w : World) : World :=
  { w with toHoldings := .fresh w.store w.connector w.host }

/-- The worlds that a driver can get into by its calls, by shutting down and starting again, and by
what others do. -/
inductive Reachable (d : BlockDriver) (start : World) : World → Prop
  | start : Reachable d start start
  | call {w v : World} {call : Call} {mishaps : List Mishap} {result : Except VolumeError Unit}
      (reached : Reachable d start w)
      (yields : (call.operation d).outcome.Yields w mishaps result v) : Reachable d start v
  | shutdown {w v : World} {mishaps : List Mishap} (reached : Reachable d start w)
      (yields : d.toVolumeDriver.shutdown.Yields w mishaps () v) : Reachable d start v
  | restarted {w : World} (reached : Reachable d start w) : Reachable d start w.restarted
  | meddled {w : World} (reached : Reachable d start w) (files : Files) (host : RecordingHost) :
    Reachable d start (w.meddledWith files host)

namespace Bench

def Fewer (connected before : Table String) : Prop :=
  ∀ name, before.get? name = none → connected.get? name = none

theorem leads_disconnectAll (entries : List (String × BlockDevice)) :
    (BlockDriver.disconnectAll entries).Leads b fun _ _ c =>
      ∃ connected, Fewer connected b.connected ∧ c = { b with connected } := by
  induction entries generalizing b with
  | nil => exact ⟨b.connected, fun _ free => free, rfl⟩
  | cons entry rest ih =>
    apply Routine.leads_bind.2
    apply Routine.leads_perform.2
    intro m
    have step : ∃ connected, Fewer connected b.connected ∧
        ((Effect.disconnect entry.2.link).on m b).2 = { b with connected } := by
      simp only [Effect.on]
      split
      · exact ⟨b.connected, fun _ free => free, rfl⟩
      · split
        · exact ⟨b.connected, fun _ free => free, rfl⟩
        · refine ⟨_, ?_, rfl⟩
          intro name free
          simp [free]
    obtain ⟨connected, fewer, after⟩ := step
    rw [after]
    apply ih.mono
    rintro _ _ c ⟨left, fewest, rfl⟩
    refine ⟨left, ?_, rfl⟩
    intro name free
    exact fewest name (fewer name free)

/-- A property that calls keep, and that outlives the driver. -/
structure Lasting (d : BlockDriver) (P : Bench → Prop) : Prop extends Kept d P where
  sound : ∀ {b : Bench}, P b → Sound b
  unregistered : ∀ {b : Bench} {connected : Table String}, P b → Fewer connected b.connected →
    P { b with connected, devices := .empty }
  meddled : ∀ {b : Bench} (files : Files) (formatted : List (String × Filesystem))
    (mounts : List Mount), P b → P { b with files, formatted, mounts }

namespace Lasting

theorem leads_shutdown (lasting : Lasting d P) (holds : P b) :
    BlockDriver.shutdown.Leads b fun _ _ c => P c := by
  apply Routine.leads_bind.2
  apply Routine.leads_perform.2
  intro m
  apply (leads_disconnectAll _).mono
  rintro _ _ c ⟨connected, fewer, rfl⟩
  exact lasting.unregistered (b := b) holds fewer

theorem reachable {m : Moment} {w : World} (lasting : Lasting d P) (holds : P b)
    (reached : Reachable d (b.world m) w) : ∃ c later, w = c.world later ∧ P c := by
  induction reached with
  | start => exact ⟨b, m, rfl, holds⟩
  | call reached yields ih =>
    obtain ⟨c, later, rfl, holds⟩ := ih
    have sound := lasting.sound holds
    obtain ⟨e, after, rfl, ends⟩ := (Call.leads _ sound.unused sound.own).sound yields
    exact ⟨e, after, rfl, lasting.step sound.own holds ends⟩
  | shutdown reached yields ih =>
    obtain ⟨c, later, rfl, holds⟩ := ih
    exact (lasting.leads_shutdown holds).sound yields
  | restarted reached ih =>
    obtain ⟨c, later, rfl, holds⟩ := ih
    refine ⟨{ c with devices := .empty },
      { later with volumeLocks := .empty, nameLocks := .empty }, rfl, ?_⟩
    exact lasting.unregistered holds fun _ free => free
  | meddled reached files host ih =>
    obtain ⟨c, later, rfl, holds⟩ := ih
    refine ⟨{ c with files, formatted := host.formatted, mounts := host.mounts },
      { later with
        faults := { later.faults with format := host.failFormat, mount := host.failMount } },
      rfl, ?_⟩
    exact lasting.meddled files host.formatted host.mounts holds

end Lasting

theorem Sound.lasting (d : BlockDriver) : Lasting d Sound where
  toKept := Sound.kept d
  sound := id
  unregistered := by
    intro b connected sound fewer
    refine ⟨sound.own, ?_, fun _ _ => rfl⟩
    intro n later
    exact fewer _ (sound.unused.connected n later)
  meddled _ _ _ sound := ⟨sound.own, sound.unused.connected, sound.unused.registered⟩

end Bench

end BlockVolumes
