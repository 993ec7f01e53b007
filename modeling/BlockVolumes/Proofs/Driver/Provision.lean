import BlockVolumes.Proofs.Driver.Operation
import BlockVolumes.Proofs.Storage.Entries

/-! How volumes are made and taken apart: each way an operation can end, with its answer, what it
leaves behind and the mishaps on the way. -/

namespace BlockVolumes

open Operation
open SimulatedConnector (nameOf)

namespace SimulatedConnector

theorem nameOf_inj {i j : Nat} : nameOf i = nameOf j ↔ i = j := by
  refine ⟨fun same => ?_, congrArg nameOf⟩
  have digits : Nat.toDigits 10 i = Nat.toDigits 10 j := by
    simpa [nameOf, String.ext_iff] using same
  simpa using congrArg (Nat.ofDigitChars 10 · 0) digits

end SimulatedConnector

namespace DeviceRegistry

theorem take_register {r : DeviceRegistry} {name : String} (device : BlockDevice)
    (absent : r.devices.get? name = none) :
    (r.register name device).take name = (some device, r) := by
  simp [take, register, Table.erase_insert device absent]

end DeviceRegistry

theorem BlockDriver.backingFile_ne {d : BlockDriver} {id other : VolumeId}
    (named : Path.IsName id.text.toList) (alsoNamed : Path.IsName other.text.toList)
    (different : id.text ≠ other.text) :
    Path.resolve (d.backingFile id) ≠ Path.resolve (d.backingFile other) :=
  fun same => different (Path.resolve_join_inj named alsoNamed same)

theorem VolumeId.ext {a b : VolumeId} (same : a.text = b.text) : a = b := by
  cases a
  cases b
  cases same
  rfl

theorem Spec.check_eq_ok {s : Spec} :
    s.check = .ok () ↔ s.size ≠ 0 ∧ s.filesystem ≠ .none ∧ s.scale ≠ 0 := by
  unfold check
  split
  · simp_all
  · split
    · simp_all
    · split <;> simp_all

structure Volume.Newborn (v : Volume) : Prop where
  status : v.status = .none
  mountPaths : v.mountPaths = []
  mountTime : v.mountTime = none

namespace Bench

variable {b c : Bench}

theorem withFiles_remove (path : String) :
    (b.withFiles (b.files.remove path)).2 = { b with files := b.files.without path } := by
  cases present : b.files.get? path with
  | some file => simp [Files.remove_of_present present, withFiles]
  | none => simp [Files.remove_of_absent present, withFiles, Files.without_of_absent present]

/-- Every record is kept under its own ID. -/
def OwnIds (b : Bench) : Prop := ∀ key v, b.records.get? key = some v → v.id.text = key

/-- Device names that were not handed out yet are in no use. -/
structure NamesUnused (b : Bench) : Prop where
  connected : ∀ n, b.next ≤ n → b.connected.get? (nameOf n) = none
  registered : ∀ n, b.next ≤ n → b.devices.devices.get? (nameOf n) = none

def device (b : Bench) : String := nameOf b.next

theorem NamesUnused.advance (unused : b.NamesUnused) (next : c.next = b.next + 1)
    (connected : ∀ name, name ≠ b.device → c.connected.get? name = b.connected.get? name)
    (registered : ∀ name, name ≠ b.device →
      c.devices.devices.get? name = b.devices.devices.get? name) : c.NamesUnused := by
  have other : ∀ n, c.next ≤ n → nameOf n ≠ b.device := by
    intro n later same
    have := SimulatedConnector.nameOf_inj.1 same
    omega
  constructor
  · intro n later
    rw [connected _ (other n later)]
    exact unused.connected n (by omega)
  · intro n later
    rw [registered _ (other n later)]
    exact unused.registered n (by omega)

theorem NamesUnused.shrink (unused : b.NamesUnused) (next : c.next = b.next)
    (connected : ∀ name, b.connected.get? name = none → c.connected.get? name = none)
    (registered : ∀ name, b.devices.devices.get? name = none →
      c.devices.devices.get? name = none) : c.NamesUnused := by
  constructor
  · intro n later
    exact connected _ (unused.connected n (next ▸ later))
  · intro n later
    exact registered _ (unused.registered n (next ▸ later))

inductive Gains (locator : Locator) (b c : Bench) : Prop
  | none (same : c.records = b.records) : Gains locator b c
  | one {v : Volume} (absent : b.records.get? v.id.text = none) (located : v.locator = locator)
      (newborn : v.Newborn) (added : c.records = b.records.insert v.id.text v) :
    Gains locator b c

theorem Gains.congr {a e : Bench} {locator : Locator} (before : a.records = b.records)
    (after : e.records = c.records) (gains : Gains locator b c) : Gains locator a e := by
  cases gains with
  | none same => exact .none (after.trans (same.trans before.symm))
  | one absent located newborn added =>
    exact .one (before ▸ absent) located newborn (after.trans (before ▸ added))

def served (b : Bench) (file : String) : BlockDevice := ⟨file, ⟨file, some b.device⟩⟩

end Bench

namespace BlockDriver

variable (d : BlockDriver) (b : Bench)

def newRecord (id : VolumeId) (locator : Locator) (source : Option Source) (spec : Spec) : Volume :=
  { Volume.fresh id locator source spec (b.times b.clock) with device := b.device }

/-- How making a volume can end. A device that could not be disconnected again stays connected. -/
inductive Provisioned (id : VolumeId) (locator : Locator) (source : Option Source) (spec : Spec) :
    List Mishap → Except VolumeError VolumeId → Bench → Prop
  | taken (occupied : b.files.vacant (d.backingFile id) = false) :
    Provisioned id locator source spec [] (.error (.io .alreadyExists)) b
  | unsized (error : IoError) (free : b.files.vacant (d.backingFile id) = true)
      (huge : Files.lengthLimit ≤ spec.size.toNat) :
    Provisioned id locator source spec [] (.error (.io error)) b
  | unconnected (error : DeviceError) (free : b.files.vacant (d.backingFile id) = true) :
    Provisioned id locator source spec [.connect (d.backingFile id)] (.error (.device error)) b
  | unformatted (reason : String) (free : b.files.vacant (d.backingFile id) = true) :
    Provisioned id locator source spec [.format b.device]
      (.error (.formatFailed b.device reason)) { b with next := b.next + 1 }
  | unformattedStray (reason : String) (free : b.files.vacant (d.backingFile id) = true) :
    Provisioned id locator source spec [.format b.device, .disconnect b.device]
      (.error (.formatFailed b.device reason))
      { b with
        next := b.next + 1
        connected := b.connected.insert b.device (d.backingFile id) }
  | known (free : b.files.vacant (d.backingFile id) = true)
      (present : b.records.contains id.text = true) :
    Provisioned id locator source spec [] (.error (.store (.alreadyExists id.text)))
      { b with
        next := b.next + 1
        formatted := b.formatted ++ [(b.device, spec.filesystem)]
        clock := b.clock + 1 }
  | knownStray (free : b.files.vacant (d.backingFile id) = true)
      (present : b.records.contains id.text = true) :
    Provisioned id locator source spec [.disconnect b.device]
      (.error (.store (.alreadyExists id.text)))
      { b with
        next := b.next + 1
        connected := b.connected.insert b.device (d.backingFile id)
        formatted := b.formatted ++ [(b.device, spec.filesystem)]
        clock := b.clock + 1 }
  | done (free : b.files.vacant (d.backingFile id) = true)
      (small : ¬ Files.lengthLimit ≤ spec.size.toNat)
      (absent : b.records.contains id.text = false) :
    Provisioned id locator source spec [] (.ok id)
      { b with
        records := b.records.insert id.text (newRecord b id locator source spec)
        devices := b.devices.register b.device (b.served (d.backingFile id))
        next := b.next + 1
        connected := b.connected.insert b.device (d.backingFile id)
        formatted := b.formatted ++ [(b.device, spec.filesystem)]
        files := b.files.put (d.backingFile id) (SparseFile.empty.resize spec.size.toNat)
        clock := b.clock + 1 }

variable {d b} {α : Type} {c : Bench} {file served device : String}
  {post : List Mishap → Except VolumeError Unit → Bench → Prop}

theorem leads_discard_none {kept : SparseFile} (present : c.files.get? file = some kept)
    (cleared : post [] (.ok ()) { c with files := c.files.without file }) :
    (discard file none).outcome.Leads c post := by
  apply leads_call.2
  intro m
  apply leads_pure.2
  simpa [Effect.on, Files.remove_of_present present, Bench.withFiles, Effect.mishaps] using cleared

theorem leads_discard_some {kept : SparseFile} (present : c.files.get? file = some kept)
    (cleared : post [] (.ok ())
      { c with connected := c.connected.erase device, files := c.files.without file })
    (stray : post [.disconnect device] (.ok ()) { c with files := c.files.without file }) :
    (discard file (some ⟨served, some device⟩)).outcome.Leads c post := by
  apply leads_call.2
  intro m
  apply leads_call.2
  intro m'
  apply leads_pure.2
  cases fails : m.faults.disconnect with
  | false =>
    simpa [Effect.on, fails, Files.remove_of_present present, Bench.withFiles, Effect.mishaps,
      Mishap.ifFailed] using cleared
  | true =>
    simpa [Effect.on, fails, Files.remove_of_present present, Bench.withFiles, Effect.mishaps,
      Mishap.ifFailed] using stray

theorem leads_orDiscard {ε : Type} {result : Except ε α} {link : Option Link}
    {meaning : ε → VolumeError} {post : List Mishap → Except VolumeError α → Bench → Prop}
    (leads : match result with
      | .ok value => post [] (.ok value) c
      | .error error => (discard file link).outcome.Leads c
          (andThen post fun _ => throw (meaning error))) :
    (orDiscard result file link meaning).outcome.Leads c post := by
  cases result with
  | ok value => exact leads
  | error error => exact leads_bind.2 leads

theorem leads_attemptOrDiscard {ε : Type} {effect : Effect (Except ε α)} {link : Option Link}
    {meaning : ε → VolumeError} {post : List Mishap → Except VolumeError α → Bench → Prop}
    (leads : ∀ m, match (effect.on m c).1 with
      | .ok value => post (effect.mishaps (.ok value)) (.ok value) (effect.on m c).2
      | .error error => (discard file link).outcome.Leads (effect.on m c).2
          (andThen (fun rest => post (effect.mishaps (.error error) ++ rest))
            fun _ => throw (meaning error))) :
    (attemptOrDiscard effect file link meaning).outcome.Leads c post := by
  apply leads_call.2
  intro m
  apply leads_orDiscard
  have here := leads m
  cases answer : (effect.on m c).1 with
  | ok value =>
    rw [answer] at here
    simpa only [List.append_nil] using here
  | error error =>
    rw [answer] at here
    exact here

def enroll (id : VolumeId) (locator : Locator) (source : Option Source) (spec : Spec)
    (file device : String) (link : Link) : Operation VolumeId := do
  let now ← perform .now
  perform (.registerDevice device ⟨file, link⟩)
  match ← perform (.createRecord { Volume.fresh id locator source spec now with device }) with
  | .ok () => return id
  | .error error =>
    let taken ← perform (.takeDevice device)
    discard file (taken.map (·.link))
    throw (.ofStore error)

theorem provision_eq (d : BlockDriver) (id : VolumeId) (locator : Locator)
    (source : Option Source) (spec : Spec) :
    d.provision id locator source spec = (do
      attempt (.createFile (d.backingFile id)) .io
      attemptOrDiscard (.resizeFile (d.backingFile id) spec.size.toNat) (d.backingFile id) none .io
      let (connected, link) ← perform (.connect (.toFile (d.backingFile id)))
      let device ← orDiscard connected (d.backingFile id) none .device
      attemptOrDiscard (.format device spec.filesystem) (d.backingFile id) (some link)
        fun error => .formatFailed device error.message
      enroll id locator source spec (d.backingFile id) device link) := rfl

theorem leads_enroll {id : VolumeId} {locator : Locator} {source : Option Source} {spec : Spec}
    {kept : SparseFile} {post : List Mishap → Except VolumeError VolumeId → Bench → Prop}
    (present : c.files.get? file = some kept) (absent : c.devices.devices.get? device = none)
    (made : c.records.contains id.text = false → post [] (.ok id)
      { c with
        records := c.records.insert id.text
          { Volume.fresh id locator source spec (c.times c.clock) with device }
        devices := c.devices.register device ⟨file, ⟨served, some device⟩⟩
        clock := c.clock + 1 })
    (known : c.records.contains id.text = true → post [] (.error (.store (.alreadyExists id.text)))
      { c with
        connected := c.connected.erase device
        files := c.files.without file
        clock := c.clock + 1 })
    (stray : c.records.contains id.text = true →
      post [.disconnect device] (.error (.store (.alreadyExists id.text)))
        { c with files := c.files.without file, clock := c.clock + 1 }) :
    (enroll id locator source spec file device ⟨served, some device⟩).outcome.Leads c post := by
  apply leads_call.2
  intro m
  apply leads_call.2
  intro m
  apply leads_call.2
  intro m
  cases old : c.records.contains id.text with
  | false =>
    simp only [Effect.on, Volume.fresh, old, Bool.false_eq_true, if_false, leads_pure]
    simpa [Effect.mishaps, Volume.fresh] using made old
  | true =>
    simp only [Effect.on, Volume.fresh, old, if_true]
    apply leads_call.2
    intro m
    apply leads_bind.2
    have own : (c.devices.register device ⟨file, ⟨served, some device⟩⟩).take device =
        (some ⟨file, ⟨served, some device⟩⟩, c.devices) :=
      DeviceRegistry.take_register _ absent
    simp only [Effect.on, own, Option.map_some]
    refine leads_discard_some present ?_ ?_
    · simpa [Effect.mishaps, andThen, leads_throw, VolumeError.ofStore] using known old
    · simpa [Effect.mishaps, andThen, leads_throw, VolumeError.ofStore] using stray old

theorem leads_provision {id : VolumeId} {locator : Locator} {source : Option Source} {spec : Spec}
    (unused : b.NamesUnused) :
    (d.provision id locator source spec).outcome.Leads b
      (Provisioned d b id locator source spec) := by
  rw [provision_eq]
  apply leads_bind.2
  apply leads_attempt.2
  intro m
  cases free : b.files.vacant (d.backingFile id) with
  | false =>
    simpa [Effect.on, Files.create_of_not_vacant free, Bench.withFiles, Effect.mishaps, andThen]
      using Provisioned.taken free
  | true =>
  simp only [Effect.on, Files.create_of_vacant free, Bench.withFiles, Effect.mishaps,
    mapError_ok, andThen, List.nil_append]
  have restored := fun file => Files.without_put file (Files.get?_of_vacant free)
  apply leads_bind.2
  apply leads_attemptOrDiscard
  intro m
  by_cases huge : Files.lengthLimit ≤ spec.size.toNat
  · simp only [Effect.on, Files.resize, huge, if_true, Bench.withFiles]
    refine leads_discard_none (Files.get?_put_self _ _ _) ?_
    simpa [Effect.mishaps, andThen, leads_throw, restored] using .unsized _ free huge
  simp only [Effect.on, Files.resize_put _ _ huge, Bench.withFiles, andThen, Effect.mishaps,
    List.nil_append]
  apply leads_call.2
  intro m
  apply leads_bind.2
  apply leads_orDiscard
  cases cut : m.faults.connect with
  | true =>
    simp only [Effect.on, cut, if_true]
    refine leads_discard_none (Files.get?_put_self _ _ _) ?_
    simpa [Effect.mishaps, Mishap.ifFailed, andThen, leads_throw, restored, Link.toFile]
      using .unconnected _ free
  | false =>
  simp only [Effect.on, cut, Link.toFile, Bool.false_eq_true, if_false, andThen, Effect.mishaps,
    Mishap.ifFailed, List.nil_append]
  apply leads_bind.2
  apply leads_attemptOrDiscard
  intro m
  cases broken : m.faults.format with
  | true =>
    simp only [Effect.on, broken, if_true]
    refine leads_discard_some (Files.get?_put_self _ _ _) ?_ ?_
    · simpa [Effect.mishaps, Mishap.ifFailed, andThen, leads_throw, restored,
        Table.erase_insert _ (unused.connected b.next (Nat.le_refl _))] using .unformatted _ free
    · simpa [Effect.mishaps, Mishap.ifFailed, andThen, leads_throw, restored]
        using .unformattedStray _ free
  | false =>
  simp only [Effect.on, broken, Bool.false_eq_true, if_false, andThen, Effect.mishaps,
    Mishap.ifFailed, List.nil_append]
  refine leads_enroll (Files.get?_put_self _ _ _) (unused.registered b.next (Nat.le_refl _))
    ?_ ?_ ?_
  · intro absent
    exact .done free huge absent
  · intro present
    simpa [restored, Table.erase_insert _ (unused.connected b.next (Nat.le_refl _))]
      using .known free present
  · intro present
    simpa [restored] using .knownStray free present

structure Added (d : BlockDriver) (b : Bench) (locator : Locator) (spec : Spec) (v : Volume)
    (c : Bench) : Prop where
  absent : b.records.get? v.id.text = none
  free : b.files.vacant (d.backingFile v.id) = true
  located : v.locator = locator
  specified : v.spec = spec
  device : v.device = b.device
  unmounted : v.mountPath? = none
  records : c.records = b.records.insert v.id.text v
  devices : c.devices = b.devices.register b.device (b.served (d.backingFile v.id))
  next : c.next = b.next + 1
  connected : c.connected = b.connected.insert b.device (d.backingFile v.id)
  mounts : c.mounts = b.mounts
  files : c.files = b.files.put (d.backingFile v.id) (SparseFile.empty.resize spec.size.toNat)
  kind : c.kind = b.kind
  ids : c.ids = b.ids
  drawn : c.drawn = b.drawn
  times : c.times = b.times
  clock : c.clock = b.clock + 1

/-- A volume was not made: at most a name is gone, and its device stays behind connected only if it
could not be disconnected. -/
structure Worn (b : Bench) (mishaps : List Mishap) (c : Bench) : Prop where
  records : c.records = b.records
  devices : c.devices = b.devices
  mounts : c.mounts = b.mounts
  files : c.files = b.files
  kind : c.kind = b.kind
  ids : c.ids = b.ids
  drawn : c.drawn = b.drawn
  times : c.times = b.times
  clock : c.clock = b.clock ∨ c.clock = b.clock + 1
  next : c.next = b.next ∨ c.next = b.next + 1
  connected : c.connected = b.connected ∨ .disconnect b.device ∈ mishaps ∧
    c.next = b.next + 1 ∧ ∃ file, c.connected = b.connected.insert b.device file

theorem Provisioned.outcome {id : VolumeId} {locator : Locator} {source : Option Source}
    {spec : Spec} {mishaps : List Mishap} {result : Except VolumeError VolumeId}
    (made : Provisioned d b id locator source spec mishaps result c) :
    (result = .ok id ∧ mishaps = [] ∧ ∃ v, v.id = id ∧ Added d b locator spec v c) ∨
      (∃ error, result = .error error) ∧ Worn b mishaps c := by
  cases made with
  | done free small absent =>
    refine .inl ⟨rfl, rfl, newRecord b id locator source spec, rfl, ?_⟩
    constructor
    · exact Table.not_contains_iff.1 absent
    · exact free
    all_goals rfl
  | taken | unsized | unconnected =>
    exact .inr ⟨⟨_, rfl⟩, rfl, rfl, rfl, rfl, rfl, rfl, rfl, rfl, .inl rfl, .inl rfl, .inl rfl⟩
  | unformatted =>
    exact .inr ⟨⟨_, rfl⟩, rfl, rfl, rfl, rfl, rfl, rfl, rfl, rfl, .inl rfl, .inr rfl, .inl rfl⟩
  | known =>
    exact .inr ⟨⟨_, rfl⟩, rfl, rfl, rfl, rfl, rfl, rfl, rfl, rfl, .inr rfl, .inr rfl, .inl rfl⟩
  | unformattedStray =>
    exact .inr ⟨⟨_, rfl⟩, rfl, rfl, rfl, rfl, rfl, rfl, rfl, rfl, .inl rfl, .inr rfl,
      .inr ⟨by simp, rfl, _, rfl⟩⟩
  | knownStray =>
    exact .inr ⟨⟨_, rfl⟩, rfl, rfl, rfl, rfl, rfl, rfl, rfl, rfl, .inr rfl, .inr rfl,
      .inr ⟨by simp, rfl, _, rfl⟩⟩

theorem Provisioned.added {id copy : VolumeId} {locator : Locator} {source : Option Source}
    {spec : Spec} {mishaps : List Mishap}
    (made : Provisioned d b id locator source spec mishaps (.ok copy) c) :
    copy = id ∧ mishaps = [] ∧ ∃ v, v.id = id ∧ Added d b locator spec v c := by
  rcases made.outcome with ⟨same, rest⟩ | ⟨⟨_, failed⟩, -⟩
  · exact ⟨Except.ok.inj same, rest⟩
  · cases failed

theorem newborn_newRecord (b : Bench) (id : VolumeId) (locator : Locator) (source : Option Source)
    (spec : Spec) : (newRecord b id locator source spec).Newborn := ⟨rfl, rfl, rfl⟩

theorem Provisioned.gains {id : VolumeId} {locator : Locator} {source : Option Source}
    {spec : Spec} {mishaps : List Mishap} {result : Except VolumeError VolumeId}
    (made : Provisioned d b id locator source spec mishaps result c) : Bench.Gains locator b c := by
  cases made with
  | done _ _ absent =>
    exact .one (Table.not_contains_iff.1 absent) rfl (newborn_newRecord ..) rfl
  | taken | unsized | unconnected | unformatted | known | unformattedStray | knownStray =>
    exact .none rfl

theorem Provisioned.outcome_of_free {id : VolumeId} {locator : Locator} {source : Option Source}
    {spec : Spec} {mishaps : List Mishap} {result : Except VolumeError VolumeId}
    (made : Provisioned d b id locator source spec mishaps result c)
    (free : b.files.vacant (d.backingFile id) = true) (small : spec.size.toNat < Files.lengthLimit)
    (absent : b.records.get? id.text = none) :
    (result = .ok id ∧ mishaps = [] ∧ ∃ v, v.id = id ∧ Added d b locator spec v c) ∨
      (∃ error, result = .error error) ∧ mishaps ≠ [] ∧ Worn b mishaps c := by
  rcases made.outcome with added | ⟨failed, worn⟩
  · exact .inl added
  · refine .inr ⟨failed, ?_, worn⟩
    cases made with
    | taken occupied => simp [free] at occupied
    | unsized _ _ huge => omega
    | known _ present => simp [Table.contains, absent] at present
    | done => simp at failed
    | unconnected | unformatted | unformattedStray | knownStray => simp

theorem Added.found {v : Volume} {locator : Locator} {spec : Spec}
    (added : Added d b locator spec v c) : c.records.get? v.id.text = some v := by
  rw [added.records, Table.get?_insert_self]

theorem Added.registered {v : Volume} {locator : Locator} {spec : Spec}
    (added : Added d b locator spec v c) :
    c.devices.devices.get? v.device = some (b.served (d.backingFile v.id)) := by
  rw [added.devices, added.device, DeviceRegistry.register, Table.get?_insert_self]

theorem Added.unused {v : Volume} {locator : Locator} {spec : Spec}
    (added : Added d b locator spec v c) (unused : b.NamesUnused) : c.NamesUnused := by
  refine unused.advance added.next (fun name other => ?_) fun name other => ?_
  · simp [added.connected, other.symm]
  · simp [added.devices, DeviceRegistry.register, other.symm]

theorem Worn.unused {mishaps : List Mishap} (worn : Worn b mishaps c) (unused : b.NamesUnused) :
    c.NamesUnused := by
  have registered : ∀ name, c.devices.devices.get? name = b.devices.devices.get? name :=
    fun name => by rw [worn.devices]
  rcases worn.connected with same | ⟨-, next, file, stray⟩
  · rcases worn.next with next | next
    · exact unused.shrink next (fun _ free => same ▸ free) fun _ free => (registered _).trans free
    · exact unused.advance next (fun _ _ => by rw [same]) fun _ _ => registered _
  · exact unused.advance next (fun _ other => by simp [stray, other.symm]) fun _ _ => registered _

theorem Worn.still {mishaps : List Mishap} {name : String} (worn : Worn b mishaps c)
    (unused : b.NamesUnused) (found : b.connected.get? name = some file) :
    c.connected.get? name = some file := by
  rcases worn.connected with same | ⟨-, next, other, stray⟩
  · rwa [same]
  · rw [stray]
    exact Table.get?_insert_of_absent _ (unused.connected _ (Nat.le_refl _)) found

theorem leads_createUnchecked {locator : Locator} {source : Option Source} {spec : Spec}
    (unused : b.NamesUnused) :
    (d.createUnchecked locator source spec).outcome.Leads b
      (Provisioned d { b with drawn := b.drawn + 1 } (b.ids b.drawn) locator source spec) := by
  apply leads_call.2
  intro m
  apply leads_underLock
  exact leads_provision ⟨unused.connected, unused.registered⟩

inductive Created (d : BlockDriver) (b : Bench) (locator : Locator) (source : Option Source)
    (spec : Spec) : List Mishap → Except VolumeError VolumeId → Bench → Prop
  | invalid {error : VolumeError} (rejected : spec.check = .error error) :
    Created d b locator source spec [] (.error error) b
  | drawn {mishaps : List Mishap} {result : Except VolumeError VolumeId} {c : Bench}
      (valid : spec.check = .ok ())
      (made : Provisioned d { b with drawn := b.drawn + 1 } (b.ids b.drawn) locator source spec
        mishaps result c) :
    Created d b locator source spec mishaps result c

theorem leads_create {locator : Locator} {source : Option Source} {spec : Spec}
    (unused : b.NamesUnused) :
    (d.create locator source spec).outcome.Leads b (Created d b locator source spec) := by
  apply leads_bind.2
  show andThen _ _ [] spec.check b
  cases valid : spec.check with
  | error error => exact .invalid valid
  | ok _ => exact (leads_createUnchecked unused).mono fun _ _ _ made => .drawn valid made

theorem leads_record {id : VolumeId} {post : List Mishap → Except VolumeError Volume → Bench → Prop}
    (found : ∀ v, b.records.get? id.text = some v → post [] (.ok v) b)
    (missing : b.records.get? id.text = none → post [] (.error (.notFound id.text)) b) :
    (record id).outcome.Leads b post := by
  apply leads_bind.2
  apply leads_consult (Store.get_keeping b.kind b.records id)
  cases present : b.records.get? id.text with
  | some v => exact found v present
  | none => exact missing present

inductive Deleted (id : VolumeId) (b : Bench) :
    List Mishap → Except VolumeError Unit → Bench → Prop
  | missing (absent : b.records.get? id.text = none) :
    Deleted id b [] (.error (.notFound id.text)) b
  | unregistered {v : Volume} (found : b.records.get? id.text = some v)
      (absent : b.devices.devices.get? v.device = none) :
    Deleted id b [] (.error (.deviceNotRegistered v.device)) b
  | unlinked {v : Volume} {device : BlockDevice} (found : b.records.get? id.text = some v)
      (registered : b.devices.devices.get? v.device = some device)
      (loose : device.link.device = none) :
    Deleted id b [] (.error (.device .notConnected)) b
  | kept {v : Volume} {device : BlockDevice} {name : String} (reason : DeviceError)
      (found : b.records.get? id.text = some v)
      (registered : b.devices.devices.get? v.device = some device)
      (linked : device.link.device = some name) :
    Deleted id b [.disconnect name] (.error (.device reason)) b
  | done {v : Volume} {device : BlockDevice} {name : String}
      (found : b.records.get? id.text = some v)
      (registered : b.devices.devices.get? v.device = some device)
      (linked : device.link.device = some name) :
    Deleted id b [] (.ok ())
      { b with
        records := b.records.erase id.text
        devices := ⟨b.devices.devices.erase v.device⟩
        connected := b.connected.erase name
        files := b.files.without device.file }

def takeApart (id : VolumeId) : Operation Unit := do
  let volume ← record id
  match ← perform (.takeDevice volume.device) with
  | none => throw (.deviceNotRegistered volume.device)
  | some device =>
    match ← perform (.disconnect device.link) with
    | (.error error, link) =>
      perform (.registerDevice volume.device { device with link })
      throw (.device error)
    | (.ok (), _) =>
      let _ ← perform (.removeFile device.file)

theorem delete_eq (id : VolumeId) : delete id =
    underLock id (takeApart id >>= fun _ => attempt (.deleteRecord id) .ofStore) := by
  rw [delete, takeApart]
  simp only [bind_assoc]
  refine congrArg (underLock id) (congrArg (record id >>= ·) (funext fun volume => ?_))
  refine congrArg (perform (.takeDevice volume.device) >>= ·) (funext fun device => ?_)
  cases device with
  | none => rfl
  | some device =>
    simp only [bind_assoc]
    refine congrArg (perform (.disconnect device.link) >>= ·) (funext fun answer => ?_)
    rcases answer with ⟨_ | _, link⟩ <;> rfl

def stripped (b : Bench) (v : Volume) (device : BlockDevice) (name : String) : Bench :=
  { b with
    devices := ⟨b.devices.devices.erase v.device⟩
    connected := b.connected.erase name
    files := b.files.without device.file }

inductive TakenApart (id : VolumeId) (b : Bench) :
    List Mishap → Except VolumeError Unit → Bench → Prop
  | failed {mishaps : List Mishap} {error : VolumeError}
      (failed : Deleted id b mishaps (.error error) b) :
    TakenApart id b mishaps (.error error) b
  | done {v : Volume} {device : BlockDevice} {name : String}
      (found : b.records.get? id.text = some v)
      (registered : b.devices.devices.get? v.device = some device)
      (linked : device.link.device = some name) :
    TakenApart id b [] (.ok ()) (stripped b v device name)

theorem leads_takeApart {id : VolumeId} :
    (takeApart id).outcome.Leads b (TakenApart id b) := by
  refine leads_bind.2 (leads_record (fun v found => ?_) fun absent => .failed (.missing absent))
  apply leads_call.2
  intro m
  cases registered : b.devices.devices.get? v.device with
  | none =>
    simpa [Effect.on, DeviceRegistry.take, registered, leads_throw, Effect.mishaps,
      Table.erase_of_absent registered] using
        TakenApart.failed (.unregistered found registered)
  | some device =>
  have again : (b.devices.take v.device).2.register v.device device = b.devices := by
    simp [DeviceRegistry.take, DeviceRegistry.register, Table.insert_erase registered]
  obtain ⟨file, served, linked⟩ := device
  simp only [Effect.on, DeviceRegistry.take, registered] at again ⊢
  apply leads_call.2
  intro m
  cases linked with
  | none =>
    simp only [Effect.on]
    apply leads_call.2
    intro m
    simpa [Effect.on, again, leads_throw, Effect.mishaps] using
      TakenApart.failed (.unlinked found registered rfl)
  | some name =>
  cases busy : m.faults.disconnect with
  | true =>
    simp only [Effect.on, busy, if_true]
    apply leads_call.2
    intro m
    simpa [Effect.on, again, leads_throw, Effect.mishaps, Mishap.ifFailed]
      using TakenApart.failed (.kept _ found registered rfl)
  | false =>
  simp only [Effect.on, busy, Bool.false_eq_true, if_false]
  apply leads_call.2
  intro m
  apply leads_pure.2
  simpa [Effect.on, Bench.withFiles_remove, Effect.mishaps, Mishap.ifFailed, stripped]
    using TakenApart.done found registered rfl

theorem leads_delete {id : VolumeId} : (delete id).outcome.Leads b (Deleted id b) := by
  rw [delete_eq]
  refine leads_underLock (leads_bind.2 (leads_takeApart.mono fun mishaps result c apart => ?_))
  cases apart with
  | failed failed => exact failed
  | @done v device name found registered linked =>
  apply leads_attempt.2
  intro m
  have known : b.records.contains id.text = true := Table.contains_iff.2 ⟨v, found⟩
  simpa [Effect.on, stripped, known, Effect.mishaps] using Deleted.done found registered linked

/-- How a snapshot can end. A copy that could not be filled is deleted again. -/
inductive Copied (d : BlockDriver) (b : Bench) (id : VolumeId) (locator : Locator) :
    List Mishap → Except VolumeError VolumeId → Bench → Prop
  | missing (absent : b.records.get? id.text = none) :
    Copied d b id locator [] (.error (.notFound id.text)) b
  | uncreated {v : Volume} {mishaps : List Mishap} {error : VolumeError} {c : Bench}
      (found : b.records.get? id.text = some v)
      (made : Provisioned d { b with drawn := b.drawn + 1 } (b.ids b.drawn) locator
        (some ⟨some id⟩) v.spec mishaps (.error error) c) :
    Copied d b id locator mishaps (.error error) c
  | done {v : Volume} {mishaps : List Mishap} {copy : VolumeId} {kept : SparseFile} {c : Bench}
      (found : b.records.get? id.text = some v)
      (made : Provisioned d { b with drawn := b.drawn + 1 } (b.ids b.drawn) locator
        (some ⟨some id⟩) v.spec mishaps (.ok copy) c)
      (source : c.files.get? (d.backingFile id) = some kept) :
    Copied d b id locator mishaps (.ok copy)
      { c with files := c.files.put (d.backingFile copy) kept }
  | undone {v : Volume} {mishaps rest : List Mishap} {copy : VolumeId} {error : IoError}
      {result : Except VolumeError Unit} {c e : Bench} (found : b.records.get? id.text = some v)
      (made : Provisioned d { b with drawn := b.drawn + 1 } (b.ids b.drawn) locator
        (some ⟨some id⟩) v.spec mishaps (.ok copy) c)
      (lost : c.files.get? (d.backingFile id) = none) (deleted : Deleted copy c rest result e) :
    Copied d b id locator (mishaps ++ rest) (.error (.io error)) e

theorem leads_snapshot {id : VolumeId} {locator : Locator} (unused : b.NamesUnused) :
    (d.snapshot id locator).outcome.Leads b (Copied d b id locator) := by
  refine leads_underLock (leads_bind.2 (leads_record (fun v found => ?_) .missing))
  apply leads_bind.2
  apply (leads_createUnchecked unused).mono
  intro mishaps result c made
  cases result with
  | error error => exact .uncreated found made
  | ok copy =>
  simp only [andThen]
  apply leads_call.2
  intro m
  cases source : c.files.get? (d.backingFile id) with
  | some kept =>
    simpa [Effect.on, Files.copy_of_present source, Bench.withFiles, leads_pure, Effect.mishaps]
      using Copied.done found made source
  | none =>
  obtain ⟨error, failed⟩ := Files.copy_of_absent (d.backingFile copy) source
  simp only [Effect.on, failed, Bench.withFiles]
  refine leads_bind.2 (leads_lift.2 (leads_delete.mono fun rest result e deleted => ?_))
  simpa [andThen, leads_throw, Effect.mishaps] using .undone found made source deleted

end BlockDriver

end BlockVolumes
