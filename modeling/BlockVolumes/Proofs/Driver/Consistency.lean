import BlockVolumes.Proofs.Driver.Invariant

/-! Records, registered devices, connected devices and backing files belong together one to one,
whatever is called and whatever goes wrong on the way. -/

namespace BlockVolumes

open Files (IsBelow)

namespace Bench

variable {d : BlockDriver} {b c : Bench}

def deviceOf (d : BlockDriver) (v : Volume) : BlockDevice :=
  ⟨d.backingFile v.id, ⟨d.backingFile v.id, some v.device⟩⟩

structure InPlace (d : BlockDriver) (b : Bench) (id : String) (v : Volume) : Prop where
  own : v.id.text = id
  named : Path.IsName id.toList
  registered : b.devices.devices.get? v.device = some (deviceOf d v)
  connected : b.connected.get? v.device = some (d.backingFile v.id)
  backed : ∃ file, b.files.get? (d.backingFile v.id) = some file ∧
    file.length = v.spec.size.toNat
  valid : v.spec.check = .ok ()

structure InStep (d : BlockDriver) (b : Bench) : Prop where
  named : ∀ n, Path.IsName (b.ids n).text.toList
  unused : b.NamesUnused
  inPlace : ∀ id v, b.records.get? id = some v → InPlace d b id v
  registered : ∀ name device, b.devices.devices.get? name = some device →
    ∃ id v, b.records.get? id = some v ∧ v.device = name
  files : ∀ entry ∈ b.files.files.keys, IsBelow d.root entry →
    ∃ id v, b.records.get? id = some v ∧ entry = Path.resolve (d.backingFile v.id)
  directories : ∀ entry ∈ b.files.directories.keys, ¬ IsBelow d.root entry

namespace InStep

theorem own (inStep : InStep d b) : b.OwnIds :=
  fun id v found => (inStep.inPlace id v found).own

theorem file_ne (inStep : InStep d b) {id other : String} {v w : Volume}
    (found : b.records.get? id = some v) (also : b.records.get? other = some w)
    (different : id ≠ other) :
    Path.resolve (d.backingFile v.id) ≠ Path.resolve (d.backingFile w.id) := by
  have here := inStep.inPlace id v found
  have there := inStep.inPlace other w also
  intro same
  apply different
  rw [← here.own, ← there.own]
  exact Path.resolve_join_inj (here.own ▸ here.named) (there.own ▸ there.named) same

theorem device_ne (inStep : InStep d b) {id other : String} {v w : Volume}
    (found : b.records.get? id = some v) (also : b.records.get? other = some w)
    (different : id ≠ other) : v.device ≠ w.device := by
  intro same
  have here := (inStep.inPlace id v found).registered
  rw [same, (inStep.inPlace other w also).registered] at here
  have files : d.backingFile w.id = d.backingFile v.id := by
    simpa [deviceOf] using congrArg (Option.map BlockDevice.file) here
  exact inStep.file_ne found also different (congrArg Path.resolve files.symm)

theorem device_eq (inStep : InStep d b) {id : String} {v : Volume} {device : BlockDevice}
    (found : b.records.get? id = some v)
    (registered : b.devices.devices.get? v.device = some device) : device = deviceOf d v := by
  simpa [(inStep.inPlace id v found).registered] using registered.symm

theorem of_unchanged (inStep : InStep d b) (records : c.records = b.records)
    (devices : c.devices = b.devices) (files : c.files = b.files) (ids : c.ids = b.ids)
    (unused : c.NamesUnused)
    (connected : ∀ name file, b.connected.get? name = some file →
      c.connected.get? name = some file) : InStep d c where
  named := ids ▸ inStep.named
  unused := unused
  inPlace := by
    intro id v found
    have before := inStep.inPlace id v (records ▸ found)
    exact ⟨before.own, before.named, devices ▸ before.registered,
      connected _ _ before.connected, files ▸ before.backed, before.valid⟩
  registered := by
    rw [devices, records]
    exact inStep.registered
  files := by
    rw [files, records]
    exact inStep.files
  directories := files ▸ inStep.directories

theorem add {v : Volume} {locator : Locator} {spec : Spec} (inStep : InStep d b)
    (named : Path.IsName v.id.text.toList) (valid : spec.check = .ok ())
    (added : BlockDriver.Added d b locator spec v c) : InStep d c := by
  have unconnected : b.connected.get? b.device = none := inStep.unused.connected _ (Nat.le_refl _)
  have unregistered : b.devices.devices.get? b.device = none :=
    inStep.unused.registered _ (Nat.le_refl _)
  have known := added.found
  have still : ∀ id w, b.records.get? id = some w → c.records.get? id = some w :=
    fun id w found => added.records ▸ Table.get?_insert_of_absent _ added.absent found
  constructor
  · exact added.ids ▸ inStep.named
  · exact added.unused inStep.unused
  · intro id w found
    rw [added.records, Table.get?_insert_eq_some] at found
    rcases found with ⟨same, rfl⟩ | ⟨different, found⟩
    · have backed : c.files.get? (d.backingFile v.id) = _ := added.files ▸ Files.get?_put_self ..
      refine ⟨same, same ▸ named, ?_, ?_, ⟨_, backed, ?_⟩, added.specified ▸ valid⟩
      · simp [added.devices, DeviceRegistry.register, added.device, deviceOf, served]
      · simp [added.connected, added.device]
      · rw [added.specified]
        rfl
    · have before := inStep.inPlace id w found
      obtain ⟨kept, there, size⟩ := before.backed
      refine ⟨before.own, before.named, ?_, ?_, ⟨kept, ?_, size⟩, before.valid⟩
      · rw [added.devices]
        exact Table.get?_insert_of_absent _ unregistered before.registered
      · rw [added.connected]
        exact Table.get?_insert_of_absent _ unconnected before.connected
      · rw [added.files, Files.get?_put_of_ne]
        · exact there
        · exact BlockDriver.backingFile_ne named (before.own ▸ before.named)
            (before.own ▸ different)
  · intro name found there
    rw [added.devices, DeviceRegistry.register, Table.get?_insert_eq_some] at there
    rcases there with ⟨same, -⟩ | ⟨-, before⟩
    · exact ⟨v.id.text, v, known, added.device.trans same⟩
    · obtain ⟨id, w, present, own⟩ := inStep.registered name found before
      exact ⟨id, w, still id w present, own⟩
  · intro entry member below
    obtain ⟨kept, there⟩ := Table.mem_keys.1 member
    rw [added.files, Files.put, Table.get?_insert_eq_some] at there
    rcases there with ⟨same, -⟩ | ⟨-, before⟩
    · exact ⟨v.id.text, v, known, same.symm⟩
    · obtain ⟨id, w, present, place⟩ := inStep.files entry (Table.mem_keys.2 ⟨kept, before⟩) below
      exact ⟨id, w, still id w present, place⟩
  · exact added.files ▸ inStep.directories

theorem provisioned {id : VolumeId} {locator : Locator} {source : Option Source} {spec : Spec}
    {mishaps : List Mishap} {result : Except VolumeError VolumeId} (inStep : InStep d b)
    (named : Path.IsName id.text.toList) (valid : spec.check = .ok ())
    (made : BlockDriver.Provisioned d b id locator source spec mishaps result c) :
    InStep d c := by
  rcases made.outcome with ⟨-, -, v, rfl, added⟩ | ⟨-, worn⟩
  · exact inStep.add named valid added
  · exact inStep.of_unchanged worn.records worn.devices worn.files worn.ids
      (worn.unused inStep.unused) fun _ _ found => worn.still inStep.unused found

theorem deleted {id : VolumeId} {mishaps : List Mishap} {result : Except VolumeError Unit}
    (inStep : InStep d b) (deleted : BlockDriver.Deleted id b mishaps result c) : InStep d c := by
  have unused := inStep.unused.deleted deleted
  cases deleted with
  | missing | unregistered | unlinked | kept => exact inStep
  | @done v _ _ found registered linked =>
    obtain rfl := inStep.device_eq found registered
    obtain rfl := Option.some.inj linked
    constructor
    · exact inStep.named
    · exact unused
    · intro other w there
      obtain ⟨different, known⟩ := Table.get?_erase_eq_some.1 there
      have before := inStep.inPlace other w known
      obtain ⟨file, present, size⟩ := before.backed
      have apart := inStep.device_ne found known different
      refine ⟨before.own, before.named, ?_, ?_, ⟨file, ?_, size⟩, before.valid⟩
      · exact Table.get?_erase_eq_some.2 ⟨apart, before.registered⟩
      · exact Table.get?_erase_eq_some.2 ⟨apart, before.connected⟩
      · exact (Files.get?_without_of_ne _ (inStep.file_ne found known different)).trans present
    · intro name device there
      obtain ⟨different, before⟩ := Table.get?_erase_eq_some.1 there
      obtain ⟨other, w, present, own⟩ := inStep.registered name device before
      have apart : id.text ≠ other := by
        rintro rfl
        obtain rfl : v = w := by simpa [found] using present
        exact different own
      exact ⟨other, w, Table.get?_erase_eq_some.2 ⟨apart, present⟩, own⟩
    · intro entry member below
      obtain ⟨file, there⟩ := Table.mem_keys.1 member
      obtain ⟨different, before⟩ := Table.get?_erase_eq_some.1 there
      obtain ⟨other, w, present, place⟩ :=
        inStep.files entry (Table.mem_keys.2 ⟨file, before⟩) below
      have apart : id.text ≠ other := by
        rintro rfl
        obtain rfl : v = w := by simpa [found] using present
        exact different place.symm
      exact ⟨other, w, Table.get?_erase_eq_some.2 ⟨apart, present⟩, place⟩
    · exact inStep.directories

theorem changed (inStep : InStep d b) (same : SameVolumes b c) : InStep d c := by
  constructor
  · exact same.ids ▸ inStep.named
  · exact inStep.unused.changed same
  · intro id w found
    obtain ⟨v, present, alike⟩ := Table.before_of_rel (same.records id) found
    have before := inStep.inPlace id v present
    have device : deviceOf d w = deviceOf d v := by simp [deviceOf, alike.id, alike.device]
    refine ⟨alike.id ▸ before.own, before.named, ?_, ?_, ?_, alike.spec ▸ before.valid⟩
    · rw [same.devices, device, alike.device, before.registered]
    · rw [same.connected, alike.device, alike.id, before.connected]
    · rw [same.files, alike.id, alike.spec]
      exact before.backed
  · intro name device found
    obtain ⟨id, v, present, own⟩ := inStep.registered name device (same.devices ▸ found)
    obtain ⟨w, there, alike⟩ := Table.after_of_rel (same.records id) present
    exact ⟨id, w, there, alike.device.trans own⟩
  · intro entry member below
    obtain ⟨id, v, present, place⟩ := inStep.files entry (same.files ▸ member) below
    obtain ⟨w, there, alike⟩ := Table.after_of_rel (same.records id) present
    exact ⟨id, w, there, alike.id ▸ place⟩
  · exact same.files ▸ inStep.directories

theorem refill {id : String} {v : Volume} {file : SparseFile} (inStep : InStep d b)
    (found : b.records.get? id = some v) (size : file.length = v.spec.size.toNat) :
    InStep d { b with files := b.files.put (d.backingFile v.id) file } := by
  constructor
  · exact inStep.named
  · exact ⟨inStep.unused.connected, inStep.unused.registered⟩
  · intro other w there
    have before := inStep.inPlace other w there
    refine ⟨before.own, before.named, before.registered, before.connected, ?_, before.valid⟩
    by_cases same : id = other
    · subst same
      obtain rfl : v = w := by simpa [found] using there
      exact ⟨file, Files.get?_put_self .., size⟩
    · obtain ⟨kept, present, fits⟩ := before.backed
      refine ⟨kept, ?_, fits⟩
      exact (Files.get?_put_of_ne _ _ (inStep.file_ne found there same)).trans present
  · exact inStep.registered
  · intro entry member below
    obtain ⟨kept, there⟩ := Table.mem_keys.1 member
    rcases Table.get?_insert_eq_some.1 there with ⟨same, -⟩ | ⟨-, before⟩
    · exact ⟨id, v, found, same.symm⟩
    · exact inStep.files entry (Table.mem_keys.2 ⟨kept, before⟩) below
  · exact inStep.directories

theorem prepared {files : Files} (inStep : InStep d b)
    (made : b.files.makeDirectories d.root = .ok files) : InStep d { b with files } := by
  obtain ⟨same, directories⟩ := Files.makeDirectories_ok made
  constructor
  · exact inStep.named
  · exact ⟨inStep.unused.connected, inStep.unused.registered⟩
  · intro id v found
    have before := inStep.inPlace id v found
    refine ⟨before.own, before.named, before.registered, before.connected, ?_, before.valid⟩
    simpa only [Files.get?, same] using before.backed
  · exact inStep.registered
  · intro entry member
    exact inStep.files entry (same ▸ member)
  · intro entry member
    rcases directories entry member with before | ⟨way, inside, rfl⟩
    · exact inStep.directories entry before
    · exact Files.not_isBelow_way inside

theorem drawn (inStep : InStep d b) : InStep d { b with drawn := b.drawn + 1 } :=
  inStep.of_unchanged rfl rfl rfl rfl ⟨inStep.unused.connected, inStep.unused.registered⟩
    fun _ _ found => found

theorem valid_of_makeable (inStep : InStep d b) {spec : Spec} (makeable : b.Makeable spec) :
    spec.check = .ok () := by
  rcases makeable with valid | ⟨id, v, found, rfl⟩
  · exact valid
  · exact (inStep.inPlace id v found).valid

theorem kept (d : BlockDriver) : Kept d (InStep d) where
  drawn inStep := inStep.drawn
  provisioned inStep makeable made :=
    inStep.provisioned (inStep.named _) (inStep.valid_of_makeable makeable) made
  deleted inStep deleted := inStep.deleted deleted
  prepared inStep made := inStep.prepared made
  changed inStep same := inStep.changed same
  filled := by
    intro b id other v w file inStep found also same source
    obtain ⟨kept, present, size⟩ := (inStep.inPlace id v found).backed
    rw [source] at present
    cases present
    exact inStep.refill also (same ▸ size)

end InStep

/-- A connected device that is not registered. -/
structure Stray (b : Bench) (name : String) : Prop where
  connected : b.connected.contains name = true
  unregistered : b.devices.contains name = false

variable {name : String} {mishaps : List Mishap}

theorem Stray.of_provisioned {id : VolumeId} {locator : Locator} {source : Option Source}
    {spec : Spec} {result : Except VolumeError VolumeId} (stray : Stray c name)
    (made : BlockDriver.Provisioned d b id locator source spec mishaps result c) :
    Stray b name ∨ (∃ error, result = .error error) ∧ .disconnect name ∈ mishaps := by
  rcases made.outcome with ⟨-, -, v, rfl, added⟩ | ⟨failed, worn⟩
  · obtain ⟨connected, unregistered⟩ := stray
    have other : b.device ≠ name := by
      rintro rfl
      simp [added.devices, DeviceRegistry.contains, DeviceRegistry.register, Table.contains]
        at unregistered
    left
    constructor
    · simpa [added.connected, Table.contains, other] using connected
    · simpa [added.devices, DeviceRegistry.contains, DeviceRegistry.register, Table.contains,
        other] using unregistered
  · have unregistered := worn.devices ▸ stray.unregistered
    rcases worn.connected with same | ⟨busy, -, file, left⟩
    · exact .inl ⟨same ▸ stray.connected, unregistered⟩
    · by_cases own : b.device = name
      · exact .inr ⟨failed, own ▸ busy⟩
      · exact .inl ⟨by simpa [left, Table.contains, own] using stray.connected, unregistered⟩

theorem Stray.of_deleted {id : VolumeId} {result : Except VolumeError Unit} (stray : Stray c name)
    (inStep : InStep d b) (deleted : BlockDriver.Deleted id b mishaps result c) :
    Stray b name := by
  cases deleted with
  | missing | unregistered | unlinked | kept => exact stray
  | @done v _ _ found registered linked =>
    obtain rfl := inStep.device_eq found registered
    obtain rfl := Option.some.inj linked
    obtain ⟨connected, unregistered⟩ := stray
    have other : v.device ≠ name := by
      rintro rfl
      simp [Table.contains] at connected
    constructor
    · simpa [Table.contains, other] using connected
    · simpa [DeviceRegistry.contains, Table.contains, other] using unregistered

theorem Stray.of_ends {call : Call} {result : Except VolumeError Unit} (stray : Stray c name)
    (inStep : InStep d b) (ends : call.Ends d b mishaps result c) :
    Stray b name ∨
      call.makes = true ∧ (∃ error, result = .error error) ∧ .disconnect name ∈ mishaps := by
  cases call with
  | init =>
    left
    cases ends with
    | refused => exact stray
    | done => exact ⟨stray.connected, stray.unregistered⟩
  | create =>
    obtain ⟨full, created, rfl⟩ := ends
    cases created with
    | invalid => exact .inl stray
    | drawn valid made =>
      rcases stray.of_provisioned made with before | ⟨⟨error, rfl⟩, busy⟩
      · exact .inl ⟨before.connected, before.unregistered⟩
      · exact .inr ⟨rfl, ⟨error, rfl⟩, busy⟩
  | delete => exact .inl (stray.of_deleted inStep ends)
  | mount => cases ends <;> exact .inl ⟨stray.connected, stray.unregistered⟩
  | unmount => cases ends <;> exact .inl ⟨stray.connected, stray.unregistered⟩
  | snapshot =>
    obtain ⟨full, copied, rfl⟩ := ends
    cases copied with
    | missing => exact .inl stray
    | uncreated found made =>
      rcases stray.of_provisioned made with before | ⟨-, busy⟩
      · exact .inl ⟨before.connected, before.unregistered⟩
      · exact .inr ⟨rfl, ⟨_, rfl⟩, busy⟩
    | @done _ _ _ _ between found made source =>
      have before : Stray between name := ⟨stray.connected, stray.unregistered⟩
      rcases before.of_provisioned made with before | ⟨⟨_, failed⟩, -⟩
      · exact .inl ⟨before.connected, before.unregistered⟩
      · cases failed
    | undone found made lost deleted =>
      have after := inStep.drawn.provisioned (inStep.named _) (inStep.inPlace _ _ found).valid made
      rcases (stray.of_deleted after deleted).of_provisioned made with before | ⟨⟨_, failed⟩, -⟩
      · exact .inl ⟨before.connected, before.unregistered⟩
      · cases failed
  | set => cases ends <;> exact .inl ⟨stray.connected, stray.unregistered⟩
  | attach =>
    obtain ⟨full, attached, -⟩ := ends
    cases attached <;> exact .inl stray
  | detach => cases ends <;> exact .inl stray

/-- Nothing was made yet, the root is bare and new volumes get IDs that can name files. -/
structure Pristine (d : BlockDriver) (b : Bench) : Prop where
  records : b.records = .empty
  devices : b.devices = .empty
  connected : b.connected = .empty
  files : b.files.entries d.root = []
  named : ∀ n, Path.IsName (b.ids n).text.toList

theorem Pristine.inStep (pristine : Pristine d b) : InStep d b := by
  constructor
  · exact pristine.named
  · exact ⟨by simp [pristine.connected], by simp [pristine.devices, DeviceRegistry.empty]⟩
  · simp [pristine.records]
  · simp [pristine.devices, DeviceRegistry.empty]
  · exact fun entry known below =>
      absurd below (Files.not_isBelow_of_entries_eq_nil pristine.files (.inl known))
  · intro entry known
    exact Files.not_isBelow_of_entries_eq_nil pristine.files (.inr known)

namespace InStep

theorem place_of_record (inStep : InStep d b) {id : String} {v : Volume}
    (found : b.records.get? id = some v) :
    Path.trail (Path.resolve (d.backingFile v.id)) = Path.trail d.root ++ [id.toList] := by
  have mine := inStep.inPlace id v found
  have way : Path.trail (d.backingFile v.id) = Path.trail d.root ++ [v.id.text.toList] :=
    Path.trail_join (mine.own ▸ mine.named)
  rw [Path.trail_resolve, way, mine.own]

theorem entries_nodup (inStep : InStep d b) : (b.files.entries d.root).Nodup := by
  have none : b.files.directories.keys.filterMap (Files.nameBelow (Path.trail d.root)) = [] := by
    apply List.filterMap_eq_nil_iff.2
    intro entry known
    apply Option.eq_none_iff_forall_ne_some.2
    exact fun name below =>
      inStep.directories entry known ⟨_, Files.nameBelow_eq_some.1 below⟩
  rw [Files.entries_eq, List.filterMap_append, none, List.append_nil, List.Nodup,
    List.pairwise_filterMap]
  refine b.files.files.keys_nodup.imp_of_mem fun {a b} hereA hereB different => ?_
  rintro name belowA _ belowB rfl
  rw [Files.nameBelow_eq_some] at belowA belowB
  obtain ⟨id, v, found, rfl⟩ := inStep.files a hereA ⟨_, belowA⟩
  obtain ⟨other, w, also, rfl⟩ := inStep.files b hereB ⟨_, belowB⟩
  rw [inStep.place_of_record found] at belowA
  rw [inStep.place_of_record also] at belowB
  have same : id = other := String.toList_inj.1 (by simpa using belowA.trans belowB.symm)
  subst same
  obtain rfl : v = w := by simpa [found] using also
  exact different rfl

theorem entries_perm (inStep : InStep d b) : (b.files.entries d.root).Perm b.records.keys := by
  apply (List.perm_ext_iff_of_nodup inStep.entries_nodup b.records.keys_nodup).2
  intro name
  rw [Files.mem_entries, Table.mem_keys]
  constructor
  · rintro ⟨entry, known | known, whole⟩
    · obtain ⟨id, v, found, rfl⟩ := inStep.files entry known ⟨_, whole⟩
      rw [inStep.place_of_record found] at whole
      have same : id = name := by simpa [String.toList_inj] using whole
      exact ⟨v, same ▸ found⟩
    · exact absurd ⟨_, whole⟩ (inStep.directories entry known)
  · rintro ⟨v, found⟩
    obtain ⟨file, present, -⟩ := (inStep.inPlace name v found).backed
    exact ⟨_, .inl (Table.mem_keys.2 ⟨file, present⟩), inStep.place_of_record found⟩

end InStep

/-- Whether an attempt to make a volume failed and could not disconnect the volume's device. -/
def LeftBehind (attempt : Attempt) (name : String) : Prop :=
  attempt.call.makes = true ∧ (∃ error, attempt.result = .error error) ∧
    .disconnect name ∈ attempt.mishaps

/-- How records, registered devices, connected devices and files belong together after a history of
attempts. -/
structure Consistent (d : BlockDriver) (history : List Attempt) (b : Bench) : Prop where
  distinct : ∀ id v other w, b.records.get? id = some v → b.records.get? other = some w →
    id ≠ other → v.device ≠ w.device
  devices : ∀ name, name ∈ b.devices.names ↔ ∃ v ∈ b.records.values, v.device = name
  registered : ∀ id v, b.records.get? id = some v → v.id = ⟨id⟩ ∧ ∃ device,
    b.devices.devices.get? v.device = some device ∧ device.file = d.backingFile ⟨id⟩ ∧
    device.link = ⟨device.file, some v.device⟩ ∧
    b.connected.get? v.device = some (d.backingFile ⟨id⟩)
  files : (b.files.entries d.root).Perm b.records.keys
  sizes : ∀ id v, b.records.get? id = some v →
    (b.files.get? (d.backingFile ⟨id⟩)).map (·.length) = some v.spec.size.toNat
  specs : ∀ id v, b.records.get? id = some v →
    0 < v.spec.size ∧ v.spec.filesystem ≠ .none ∧ 0 < v.spec.scale
  strays : ∀ name, Stray b name → ∃ attempt ∈ history, LeftBehind attempt name

theorem consistent_of_inStep {history : List Attempt} (inStep : InStep d b)
    (strays : ∀ name, Stray b name → ∃ attempt ∈ history, LeftBehind attempt name) :
    Consistent d history b where
  distinct := fun _ _ _ _ found also different => inStep.device_ne found also different
  devices := by
    intro name
    simp only [DeviceRegistry.names, Table.mem_keys, Table.mem_values]
    constructor
    · rintro ⟨device, registered⟩
      obtain ⟨id, v, found, own⟩ := inStep.registered name device registered
      exact ⟨v, ⟨id, found⟩, own⟩
    · rintro ⟨v, ⟨id, found⟩, rfl⟩
      exact ⟨_, (inStep.inPlace id v found).registered⟩
  registered := by
    intro id v found
    have mine := inStep.inPlace id v found
    obtain rfl := mine.own
    exact ⟨rfl, deviceOf d v, mine.registered, rfl, rfl, mine.connected⟩
  files := inStep.entries_perm
  sizes := by
    intro id v found
    have mine := inStep.inPlace id v found
    obtain rfl := mine.own
    obtain ⟨file, present, size⟩ := mine.backed
    calc
      _ = (some file).map (·.length) := congrArg _ present
      _ = some v.spec.size.toNat := congrArg some size
  specs := by
    intro id v found
    obtain ⟨size, filesystem, scale⟩ := Spec.check_eq_ok.1 (inStep.inPlace id v found).valid
    exact ⟨UInt64.pos_iff_ne_zero.2 size, filesystem, UInt32.pos_iff_ne_zero.2 scale⟩
  strays := strays

theorem inStep_of_reaches {history : List Attempt} {m : Moment} {w : World}
    (pristine : Pristine d b) (reached : Reaches d (b.world m) history w) :
    ∃ c later, w = c.world later ∧ InStep d c ∧
      ∀ name, Stray c name → ∃ attempt ∈ history, LeftBehind attempt name := by
  induction reached with
  | start =>
    refine ⟨b, m, rfl, pristine.inStep, fun name stray => ?_⟩
    simpa [pristine.connected, Table.contains] using stray.connected
  | @call history attempt w v reached yields ih =>
    obtain ⟨c, later, rfl, inStep, strays⟩ := ih
    obtain ⟨e, after, rfl, ends⟩ :=
      (attempt.call.leads inStep.unused inStep.own).sound yields
    refine ⟨e, after, rfl, (InStep.kept d).step inStep.own inStep ends, fun name stray => ?_⟩
    rcases stray.of_ends inStep ends with before | leftBehind
    · obtain ⟨earlier, known, leftBehind⟩ := strays name before
      exact ⟨earlier, List.mem_append_left _ known, leftBehind⟩
    · exact ⟨attempt, by simp, leftBehind⟩

/-- From a pristine start on, whatever is called and whatever goes wrong on the way, everything
belongs together after every call. -/
theorem consistent_of_reaches {history : List Attempt} {m : Moment} {w : World}
    (pristine : Pristine d b) (reached : Reaches d (b.world m) history w) :
    ∃ c later, w = c.world later ∧ Consistent d history c := by
  obtain ⟨c, later, same, inStep, strays⟩ := inStep_of_reaches pristine reached
  exact ⟨c, later, same, consistent_of_inStep inStep strays⟩

theorem consistent_after_create : ∃ history c later,
    (((Call.create (.named "data") none (.sized 4096 .ext4)).operation
      ⟨"nbd", "/volumes"⟩).outcome.run ((ofRecords .empty).world .calm)) = (.ok (), c.world later) ∧
    history ≠ [] ∧ Consistent ⟨"nbd", "/volumes"⟩ history c := by
  obtain ⟨mishaps, yields⟩ := ((Call.create (.named "data") none (.sized 4096 .ext4)).operation
    ⟨"nbd", "/volumes"⟩).outcome.yields_run ((ofRecords .empty).world .calm)
  have pristine : Pristine ⟨"nbd", "/volumes"⟩ (ofRecords .empty) :=
    ⟨rfl, rfl, rfl, rfl, isName_ofRecords .empty⟩
  have reached : Reaches ⟨"nbd", "/volumes"⟩ ((ofRecords .empty).world .calm)
      [⟨.create (.named "data") none (.sized 4096 .ext4), mishaps, _⟩] _ := .call .start yields
  obtain ⟨c, later, same, consistent⟩ := consistent_of_reaches pristine reached
  exact ⟨_, c, later, Prod.ext rfl same, List.cons_ne_nil _ _, consistent⟩

end Bench

end BlockVolumes
