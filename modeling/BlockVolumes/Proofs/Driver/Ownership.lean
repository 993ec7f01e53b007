import BlockVolumes.Proofs.Driver.Rollback

/-! Whose device and file a deletion takes away. Devices are registered by name alone, and after a
restart the names start over, so an old record can name the device of a new volume. -/

namespace BlockVolumes.Bench

variable {d : BlockDriver} {b c : Bench} {mishaps : List Mishap}

def Linked (b : Bench) : Prop := ∀ name device, b.devices.devices.get? name = some device →
  device.link = ⟨device.file, some name⟩ ∧ b.connected.get? name = some device.file

structure Named (b : Bench) : Prop where
  ids : ∀ n, Path.IsName (b.ids n).text.toList
  records : ∀ key v, b.records.get? key = some v → Path.IsName key.toList

structure Served (b : Bench) : Prop extends Sound b, Named b where
  linked : b.Linked

theorem Linked.keep (linked : b.Linked) (devices : c.devices = b.devices)
    (connected : ∀ name file, b.connected.get? name = some file →
      c.connected.get? name = some file) : c.Linked := by
  intro name device registered
  obtain ⟨link, there⟩ := linked name device (devices ▸ registered)
  exact ⟨link, connected _ _ there⟩

theorem Linked.erase {name : String} (linked : b.Linked)
    (devices : c.devices.devices = b.devices.devices.erase name)
    (connected : c.connected = b.connected.erase name) : c.Linked := by
  intro other device there
  rw [devices] at there
  obtain ⟨different, before⟩ := Table.get?_erase_eq_some.1 there
  obtain ⟨link, reached⟩ := linked other device before
  exact ⟨link, connected ▸ Table.get?_erase_eq_some.2 ⟨different, reached⟩⟩

theorem Linked.name_eq {name linkName : String} {device : BlockDevice} (linked : b.Linked)
    (registered : b.devices.devices.get? name = some device)
    (link : device.link.device = some linkName) : name = linkName :=
  Option.some.inj ((congrArg Link.device (linked _ _ registered).1).symm.trans link)

namespace Served

theorem provisioned {id : VolumeId} {locator : Locator} {source : Option Source} {spec : Spec}
    {result : Except VolumeError VolumeId} (served : Served b)
    (named : Path.IsName id.text.toList)
    (made : BlockDriver.Provisioned d b id locator source spec mishaps result c) : Served c := by
  have sound := served.toSound.provisioned made
  have unconnected : b.connected.get? b.device = none := served.unused.connected _ (Nat.le_refl _)
  rcases made.outcome with ⟨-, -, v, rfl, added⟩ | ⟨-, worn⟩
  · refine ⟨sound, ⟨added.ids ▸ served.ids, fun key w found => ?_⟩, fun name device found => ?_⟩
    · rw [added.records, Table.get?_insert_eq_some] at found
      rcases found with ⟨rfl, -⟩ | ⟨-, before⟩
      · exact named
      · exact served.records key w before
    · rw [added.devices, DeviceRegistry.register, Table.get?_insert_eq_some] at found
      rw [added.connected]
      rcases found with ⟨rfl, rfl⟩ | ⟨-, before⟩
      · exact ⟨rfl, Table.get?_insert_self ..⟩
      · obtain ⟨link, there⟩ := served.linked name device before
        exact ⟨link, Table.get?_insert_of_absent _ unconnected there⟩
  · refine ⟨sound, ⟨worn.ids ▸ served.ids, worn.records ▸ served.records⟩, ?_⟩
    exact served.linked.keep worn.devices fun _ _ there => worn.still served.unused there

theorem deleted {id : VolumeId} {result : Except VolumeError Unit} (served : Served b)
    (deleted : BlockDriver.Deleted id b mishaps result c) : Served c := by
  have sound := served.toSound.deleted deleted
  cases deleted with
  | missing | unregistered | unlinked | kept => exact served
  | @done v device name found registered linked =>
    obtain rfl : v.device = name := served.linked.name_eq registered linked
    refine ⟨sound, ⟨served.ids, fun key w there => ?_⟩, served.linked.erase rfl rfl⟩
    exact served.records key w (Table.get?_erase_eq_some.1 there).2

theorem changed (served : Served b) (same : SameVolumes b c) : Served c where
  own := served.own.changed same
  unused := served.unused.changed same
  ids := same.ids ▸ served.ids
  records := by
    intro key w found
    obtain ⟨v, before, -⟩ := Table.before_of_rel (same.records key) found
    exact served.records key v before
  linked := by
    apply served.linked.keep same.devices
    intro name file there
    rwa [same.connected]

theorem lasting (d : BlockDriver) : Lasting d Served where
  drawn served := { served with unused := ⟨served.unused.connected, served.unused.registered⟩ }
  provisioned served _ made := served.provisioned (served.ids _) made
  deleted served deleted := served.deleted deleted
  prepared served _ :=
    { served with unused := ⟨served.unused.connected, served.unused.registered⟩ }
  changed served same := served.changed same
  filled served _ _ _ _ :=
    { served with unused := ⟨served.unused.connected, served.unused.registered⟩ }
  sound served := served.toSound
  unregistered := by
    intro b connected served fewer
    have sound := (Sound.lasting d).unregistered served.toSound fewer
    refine ⟨sound, ⟨served.ids, served.records⟩, ?_⟩
    simp [Linked, DeviceRegistry.empty]
  meddled _ _ _ served :=
    { served with unused := ⟨served.unused.connected, served.unused.registered⟩ }

end Served

theorem Restarted.served (restarted : Restarted b) (named : Named b) : Served b :=
  ⟨restarted.sound, named, by simp [Linked, restarted.devices, DeviceRegistry.empty]⟩

def HasDevice (d : BlockDriver) (b : Bench) (v : Volume) : Prop :=
  ∃ device, b.devices.devices.get? v.device = some device ∧
    device.file = d.backingFile v.id ∧ b.connected.get? v.device = some device.file

/-- What a deletion of a volume takes away is the volume's own. -/
structure TakesOwn (d : BlockDriver) (v : Volume) (b c : Bench) : Prop where
  files : c.files = b.files.without (d.backingFile v.id)
  owned : HasDevice d b v
  devices : c.devices.devices = b.devices.devices.erase v.device
  connected : c.connected = b.connected.erase v.device
  others : ∀ id w, b.records.get? id = some w → w.id ≠ v.id → c.records.get? id = some w ∧
    (HasDevice d b w → HasDevice d c w) ∧
    c.files.get? (d.backingFile w.id) = b.files.get? (d.backingFile w.id)

/-- What a deletion may do to a volume with a record: take away what is its own, and nothing at all
when its device is not registered. -/
structure Spares (d : BlockDriver) (v : Volume) (b : Bench) (result : Except VolumeError Unit)
    (c : Bench) : Prop where
  takes : result = .ok () → TakesOwn d v b c
  refuses : ¬ HasDevice d b v →
    result = .error (.deviceNotRegistered v.device) ∧ Unchanged b c

theorem Served.takesOwn {v : Volume} {device : BlockDevice} (served : Served b)
    (found : b.records.get? v.id.text = some v)
    (registered : b.devices.devices.get? v.device = some device)
    (own : device.file = d.backingFile v.id)
    (records : c.records = b.records.erase v.id.text)
    (devices : c.devices.devices = b.devices.devices.erase v.device)
    (connected : c.connected = b.connected.erase v.device)
    (files : c.files = b.files.without device.file) : TakesOwn d v b c where
  files := own ▸ files
  owned := ⟨device, registered, own, (served.linked _ _ registered).2⟩
  devices := devices
  connected := connected
  others := by
    intro id w there different
    have self := served.own id w there
    have apart : Path.resolve (d.backingFile v.id) ≠ Path.resolve (d.backingFile w.id) := by
      intro same
      have texts := Path.resolve_join_inj (served.records _ _ found)
        (self ▸ served.records id w there) same
      exact different (VolumeId.ext texts).symm
    refine ⟨?_, ?_, ?_⟩
    · have other : v.id.text ≠ id := fun same =>
        different (VolumeId.ext (self.trans same.symm))
      simpa [records, other] using there
    · rintro ⟨theirs, known, serves, reached⟩
      have other : v.device ≠ w.device := by
        intro same
        rw [← same, registered] at known
        cases known
        exact apart (congrArg Path.resolve (own.symm.trans serves))
      exact ⟨theirs, by simpa [devices, other] using known, serves,
        by simpa [connected, other] using reached⟩
    · rw [files, own]
      exact Files.get?_without_of_ne _ apart

theorem Served.hasDevice_iff {v : Volume} {device : BlockDevice} (served : Served b)
    (registered : b.devices.devices.get? v.device = some device) :
    HasDevice d b v ↔ device.file = d.backingFile v.id := by
  constructor
  · rintro ⟨same, known, own, -⟩
    obtain rfl : device = same := by simpa [registered] using known
    exact own
  · intro own
    exact ⟨device, registered, own, (served.linked _ _ registered).2⟩

theorem Served.spares_iff {id : VolumeId} {v : Volume} {result : Except VolumeError Unit}
    (served : Served b) (found : b.records.get? id.text = some v)
    (deleted : BlockDriver.Deleted id b mishaps result c) :
    Spares d v b result c ↔ ∀ device, b.devices.devices.get? v.device = some device →
      device.file = d.backingFile id := by
  obtain rfl : v.id = id := VolumeId.ext (served.own _ _ found)
  cases deleted with
  | missing absent => simp [found] at absent
  | unregistered there absent =>
    obtain rfl : v = _ := by simpa [found] using there
    refine ⟨fun _ device registered => by simp [absent] at registered, fun _ => ⟨?_, ?_⟩⟩
    · exact (nomatch ·)
    · intro _
      exact ⟨rfl, .refl b⟩
  | unlinked there registered loose => simp [(served.linked _ _ registered).1] at loose
  | kept reason there registered linked =>
    obtain rfl : v = _ := by simpa [found] using there
    simp only [registered, Option.some.injEq, forall_eq']
    rw [← served.hasDevice_iff registered]
    constructor
    · intro spares
      exact Classical.byContradiction fun foreign => nomatch (spares.refuses foreign).1
    · intro own
      exact ⟨(nomatch ·), fun foreign => absurd own foreign⟩
  | done there registered linked =>
    obtain rfl : v = _ := by simpa [found] using there
    simp only [registered, Option.some.injEq, forall_eq']
    constructor
    · intro spares
      rw [← served.hasDevice_iff registered]
      exact Classical.byContradiction fun foreign => nomatch (spares.refuses foreign).1
    · intro own
      obtain rfl : v.device = _ := served.linked.name_eq registered linked
      refine ⟨fun _ => served.takesOwn found registered own rfl rfl rfl rfl, fun foreign => ?_⟩
      exact absurd ((served.hasDevice_iff registered).2 own) foreign

theorem Served.takes_shared {id : VolumeId} {v w : Volume} (served : Served b)
    (found : b.records.get? id.text = some v) (also : b.records.get? w.id.text = some w)
    (different : w.id ≠ id) (shared : w.device = v.device) (has : HasDevice d b w)
    (deleted : BlockDriver.Deleted id b mishaps (.ok ()) c) :
    ¬ HasDevice d b v ∧ c.records.get? w.id.text = some w ∧ ¬ HasDevice d c w ∧
      c.files.get? (d.backingFile w.id) = none := by
  obtain rfl : v.id = id := VolumeId.ext (served.own _ _ found)
  obtain ⟨theirs, known, serves, reached⟩ := has
  have apart : v.id.text ≠ w.id.text := fun same => different (VolumeId.ext same.symm)
  cases deleted with
  | done there registered linked =>
    obtain rfl : v = _ := by simpa [found] using there
    obtain rfl : theirs = _ := by simpa [← shared, known] using registered
    refine ⟨?_, by simpa [apart] using also, ?_, ?_⟩
    · rw [served.hasDevice_iff registered, serves]
      exact fun same => apart (Path.resolve_join_inj (served.records _ _ found)
        (served.records _ _ also) (congrArg Path.resolve same.symm))
    · rintro ⟨device, still, -⟩
      simp [shared] at still
    · simp [Files.without, Files.get?, serves]

theorem named_aged : Named aged := by
  refine ⟨isName_ofRecords _, fun key v found => ?_⟩
  rcases Table.get?_insert_eq_some.1 found with ⟨rfl, -⟩ | ⟨-, none⟩
  · decide
  · cases none

/-- In every state that a driver started over old records can get into, a deletion spares the other
volumes just if the device that the record names, where one is registered, serves the record's own
file. -/
theorem delete_spares_iff {start : Bench} {m : Moment} {w after : World} {id : VolumeId}
    {result : Except VolumeError Unit} (restarted : Restarted start) (named : Named start)
    (reached : Reachable d (start.world m) w)
    (yields : (d.toVolumeDriver.delete id).outcome.Yields w mishaps result after) :
    ∃ b c before later, w = b.world before ∧ after = c.world later ∧
      ∀ v, b.records.get? id.text = some v →
        (Spares d v b result c ↔ ∀ device, b.devices.devices.get? v.device = some device →
          device.file = d.backingFile id) := by
  obtain ⟨b, before, rfl, served⟩ := (Served.lasting d).reachable (restarted.served named) reached
  obtain ⟨c, later, rfl, deleted⟩ := BlockDriver.leads_delete.sound yields
  exact ⟨b, c, before, later, rfl, rfl, fun v found => served.spares_iff found deleted⟩

theorem old_delete_spares_iff : ∃ b c before later,
    aged.world .calm = b.world before ∧
    (BlockDriver.delete ⟨"old"⟩).outcome.run (aged.world .calm) =
      (.error (.deviceNotRegistered "/dev/nbd0"), c.world later) ∧
    ∀ v, b.records.get? "old" = some v →
      (Spares ⟨"nbd", "/volumes"⟩ v b (.error (.deviceNotRegistered "/dev/nbd0")) c ↔
        ∀ device, b.devices.devices.get? v.device = some device →
          device.file = "/volumes/old") := by
  obtain ⟨mishaps, yields⟩ := (BlockDriver.delete ⟨"old"⟩).outcome.yields_run
    (aged.world .calm)
  obtain ⟨b, c, before, later, start, same, spares⟩ :=
    delete_spares_iff (d := ⟨"nbd", "/volumes"⟩) restarted_aged named_aged
      .start yields
  exact ⟨b, c, before, later, start, Prod.ext rfl same, spares⟩

/-- A new volume gets the first device, which is the one that the old record names. -/
def renewal : Call := .create (.named "new") none (.sized 4096 .ext4)

theorem exists_crowded : ∃ b before v,
    ((renewal.operation ⟨"nbd", "/volumes"⟩).outcome.run (aged.world .calm)).2 = b.world before ∧
    Served b ∧ b.records.get? "old" = some oldRecord ∧ v.id = ⟨"volume0"⟩ ∧
    b.records.get? "volume0" = some v ∧ v.device = oldRecord.device ∧
    HasDevice ⟨"nbd", "/volumes"⟩ b v := by
  have served : Served aged := restarted_aged.served named_aged
  obtain ⟨mishaps, makes⟩ :=
    (renewal.operation ⟨"nbd", "/volumes"⟩).outcome.yields_run (aged.world .calm)
  have made : ((renewal.operation ⟨"nbd", "/volumes"⟩).outcome.run (aged.world .calm)).1 =
    .ok () := rfl
  obtain ⟨b, before, same, ends⟩ := (renewal.leads served.unused served.own).sound makes
  have after := (Served.lasting _).step served.own served ends
  rw [made] at ends
  obtain ⟨full, created, done⟩ := ends
  cases created with
  | invalid => cases done
  | drawn valid provisioned =>
    cases full with
    | error => cases done
    | ok =>
      obtain ⟨-, -, v, own, added⟩ := provisioned.added
      have known := added.found
      have first : v.id = ⟨"volume0"⟩ := own
      rw [first] at known
      have old : aged.records.get? "old" = some oldRecord := rfl
      refine ⟨b, before, v, same, after, ?_, first, known, added.device, ?_⟩
      · exact added.records ▸ Table.get?_insert_of_absent _ added.absent old
      · exact (after.hasDevice_iff added.registered).2 rfl

/-- Deleting the old record then takes the new volume's device and file. -/
theorem delete_takes_new_volume : ∃ b c before later mishaps v,
    Reachable ⟨"nbd", "/volumes"⟩ (aged.world .calm) (b.world before) ∧
    (BlockDriver.delete ⟨"old"⟩).outcome.Yields (b.world before) mishaps (.ok ())
      (c.world later) ∧
    b.records.get? "old" = some oldRecord ∧
    ¬ Spares ⟨"nbd", "/volumes"⟩ oldRecord b (.ok ()) c ∧
    b.records.get? "volume0" = some v ∧ HasDevice ⟨"nbd", "/volumes"⟩ b v ∧
    c.records.get? "volume0" = some v ∧ ¬ HasDevice ⟨"nbd", "/volumes"⟩ c v ∧
    c.files.get? "/volumes/volume0" = none := by
  obtain ⟨b, before, v, same, served, old, own, new, shared, has⟩ := exists_crowded
  obtain ⟨early, makes⟩ :=
    (renewal.operation ⟨"nbd", "/volumes"⟩).outcome.yields_run (aged.world .calm)
  obtain ⟨mishaps, takes⟩ := (BlockDriver.delete ⟨"old"⟩).outcome.yields_run
    ((renewal.operation ⟨"nbd", "/volumes"⟩).outcome.run (aged.world .calm)).2
  have taken : ((BlockDriver.delete ⟨"old"⟩).outcome.run
    ((renewal.operation ⟨"nbd", "/volumes"⟩).outcome.run (aged.world .calm)).2).1 = .ok () := rfl
  have reached := Reachable.call .start makes
  rw [taken, same] at takes
  rw [same] at reached
  obtain ⟨c, later, gone, deleted⟩ := BlockDriver.leads_delete.sound takes
  have also : b.records.get? v.id.text = some v := by rw [own, new]
  obtain ⟨foreign, still, lost, removed⟩ :=
    served.takes_shared old also (by simp [own]) shared has deleted
  rw [own] at still removed
  refine ⟨b, c, before, later, mishaps, v, reached, gone ▸ takes, old, fun spares => ?_, new, has,
    still, lost, removed⟩
  exact nomatch (spares.refuses foreign).1

end BlockVolumes.Bench
