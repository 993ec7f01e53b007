import BlockVolumes.Proofs.Driver.Mishap
import BlockVolumes.Proofs.Store.Contract

/-! A driver on the bench: its store keeps a table of records, devices come from the simulated
connector and the host only records. What routines lead to there is computed call by call. -/

namespace BlockVolumes

/-- The parts of a world on the bench that outlast a call. -/
structure Bench where
  kind : StoreKind
  records : Table Volume
  devices : DeviceRegistry
  /-- The number of the next device name. -/
  next : Nat
  /-- The backing file of each connected device. -/
  connected : Table String
  formatted : List (String × Filesystem)
  mounts : List Mount
  files : Files
  ids : Nat → VolumeId
  drawn : Nat
  times : Nat → Time
  clock : Nat

/-- What else a call depends on: what it is told to fail at, and who holds which lock. -/
structure Moment where
  faults : Faults
  volumeLocks : LockTable
  nameLocks : LockTable

namespace Bench

def store (b : Bench) : Store := .keeping b.kind b.records

def world (b : Bench) (m : Moment) : World where
  store := b.store
  devices := b.devices
  volumeLocks := m.volumeLocks
  nameLocks := m.nameLocks
  connector := .simulated ⟨b.next, b.connected, m.faults.connect, m.faults.disconnect⟩
  host := .recording ⟨b.formatted, b.mounts, m.faults.format, m.faults.mount⟩
  files := b.files
  ids := b.ids
  drawn := b.drawn
  times := b.times
  clock := b.clock

def withFiles (b : Bench) : Except IoError Files → Except IoError Unit × Bench
  | .ok files => (.ok (), { b with files })
  | .error error => (.error error, b)

end Bench

open SimulatedConnector (nameOf)

def World.record? (w : World) (id : String) : Option Volume := (w.store.get ⟨id⟩).toOption.join

@[simp] theorem Bench.record?_world (b : Bench) (m : Moment) (id : String) :
    (b.world m).record? id = b.records.get? id := by
  have told : (b.world m).store.get ⟨id⟩ = .ok (b.records.get? id) :=
    Store.get_keeping b.kind b.records ⟨id⟩
  rw [World.record?, told]
  rfl

/-- What a call answers on the bench, and the bench after it. -/
def Effect.on (m : Moment) (b : Bench) : {β : Type} → Effect β → β × Bench
  | _, .lockVolume id => ((m.volumeLocks.claim id.text).1, b)
  | _, .unlockVolume _ => ((), b)
  | _, .lockName name => ((m.nameLocks.claim name).1, b)
  | _, .unlockName _ => ((), b)
  | _, .freshId => (b.ids b.drawn, { b with drawn := b.drawn + 1 })
  | _, .now => (b.times b.clock, { b with clock := b.clock + 1 })
  | _, .consult query => (query b.store, b)
  | _, .createRecord v =>
    if b.records.contains v.id.text then (.error (.alreadyExists v.id.text), b)
    else (.ok (), { b with records := b.records.insert v.id.text v })
  | _, .updateRecord v =>
    if b.records.contains v.id.text then
      (.ok (), { b with records := b.records.insert v.id.text v })
    else (.error (.notFound v.id.text), b)
  | _, .deleteRecord id =>
    if b.records.contains id.text then (.ok (), { b with records := b.records.erase id.text })
    else (.error (.notFound id.text), b)
  | _, .registerDevice name device => ((), { b with devices := b.devices.register name device })
  | _, .takeDevice name => ((b.devices.take name).1, { b with devices := (b.devices.take name).2 })
  | _, .drainDevices => (b.devices.drain.1, { b with devices := b.devices.drain.2 })
  | _, .connect link =>
    if m.faults.connect then ((.error (.connect link.file "injected failure"), link), b)
    else match link.device with
      | some name => ((.ok name, link), b)
      | none =>
        ((.ok (nameOf b.next), { link with device := some (nameOf b.next) }),
          { b with
            next := b.next + 1
            connected := b.connected.insert (nameOf b.next) link.file })
  | _, .disconnect link =>
    match link.device with
    | none => ((.error .notConnected, link), b)
    | some name =>
      if m.faults.disconnect then ((.error (.disconnect name "device busy"), link), b)
      else ((.ok (), { link with device := none }), { b with connected := b.connected.erase name })
  | _, .format device filesystem =>
    if m.faults.format then
      (.error (.commandFailed ("mkfs." ++ filesystem.name) "exit status: 1" "injected failure"), b)
    else (.ok (), { b with formatted := b.formatted ++ [(device, filesystem)] })
  | _, .mount device path _ =>
    if m.faults.mount then (.error (.syscall "mount" path .deviceBusy), b)
    else (.ok (), { b with mounts := b.mounts ++ [⟨path, device⟩] })
  | _, .unmount path =>
    match RecordingHost.withoutLast path b.mounts with
    | some mounts => (.ok (), { b with mounts })
    | none => (.error (.syscall "umount2" path .invalidArgument), b)
  | _, .createFile path => b.withFiles (b.files.create path)
  | _, .resizeFile path length => b.withFiles (b.files.resize path length)
  | _, .removeFile path => b.withFiles (b.files.remove path)
  | _, .copyFile source target => b.withFiles (b.files.copy source target)
  | _, .makeDirectories path => b.withFiles (b.files.makeDirectories path)

theorem Bench.world_withFiles (b : Bench) (m : Moment) (result : Except IoError Files) :
    (b.world m).withFiles result = ((b.withFiles result).1, (b.withFiles result).2.world m) := by
  cases result <;> rfl

theorem Bench.records_withFiles {b : Bench} (result : Except IoError Files) :
    (b.withFiles result).2.records = b.records := by
  cases result <;> rfl

theorem Bench.mounts_withFiles {b : Bench} (result : Except IoError Files) :
    (b.withFiles result).2.mounts = b.mounts := by
  cases result <;> rfl

theorem Effect.mishaps_on {β : Type} (effect : Effect β) (b : Bench) {m : Moment}
    (calm : m.faults = .none) : effect.mishaps (effect.on m b).1 = [] := by
  cases effect with
  | connect link =>
    obtain ⟨file, device⟩ := link
    cases device <;> simp [mishaps, on, calm, Faults.none, Mishap.ifFailed]
  | disconnect link =>
    obtain ⟨file, device⟩ := link
    cases device <;> simp [mishaps, on, calm, Faults.none, Mishap.ifFailed]
  | format | mount => simp [mishaps, on, calm, Faults.none, Mishap.ifFailed]
  | _ => rfl

theorem Effect.perform_world {β : Type} (effect : Effect β) (b : Bench) (m : Moment) :
    ∃ later, effect.perform (b.world m) = ((effect.on m b).1, (effect.on m b).2.world later) := by
  cases effect with
  | lockVolume id => exact ⟨{ m with volumeLocks := (m.volumeLocks.claim id.text).2 }, rfl⟩
  | unlockVolume claim => exact ⟨{ m with volumeLocks := m.volumeLocks.drop claim }, rfl⟩
  | lockName name => exact ⟨{ m with nameLocks := (m.nameLocks.claim name).2 }, rfl⟩
  | unlockName claim => exact ⟨{ m with nameLocks := m.nameLocks.drop claim }, rfl⟩
  | freshId => exact ⟨m, rfl⟩
  | now =>
    refine ⟨m, ?_⟩
    simp only [perform, on, Bench.world, Bench.store]
  | consult query => exact ⟨m, rfl⟩
  | createRecord v =>
    refine ⟨m, ?_⟩
    simp only [perform, on, Bench.world, Bench.store, Store.create_keeping, World.answering]
    split <;> rfl
  | updateRecord v =>
    refine ⟨m, ?_⟩
    simp only [perform, on, Bench.world, Bench.store, Store.update_keeping, World.answering]
    split <;> rfl
  | deleteRecord id =>
    refine ⟨m, ?_⟩
    simp only [perform, on, Bench.world, Bench.store, Store.delete_keeping, World.answering]
    split <;> rfl
  | registerDevice name device => exact ⟨m, rfl⟩
  | takeDevice name => exact ⟨m, rfl⟩
  | drainDevices => exact ⟨m, rfl⟩
  | connect link =>
    refine ⟨m, ?_⟩
    simp only [perform, on, Bench.world, Connector.connect, SimulatedConnector.connect]
    split
    · rfl
    · obtain ⟨file, device⟩ := link
      cases device <;> rfl
  | disconnect link =>
    obtain ⟨file, device⟩ := link
    cases device with
    | none => exact ⟨m, rfl⟩
    | some name =>
      by_cases fails : m.faults.disconnect = true
      · refine ⟨{ m with faults := { m.faults with disconnect := false } }, ?_⟩
        simp [perform, on, Bench.world, Connector.disconnect, SimulatedConnector.disconnect, fails,
          World.answering]
      · refine ⟨m, ?_⟩
        simp only [perform, on, Bench.world, Connector.disconnect, SimulatedConnector.disconnect,
          fails, World.answering]
        rfl
  | format device filesystem =>
    refine ⟨m, ?_⟩
    simp only [perform, on, Bench.world, Host.format, RecordingHost.format]
    split <;> rfl
  | mount device path filesystem =>
    refine ⟨m, ?_⟩
    simp only [perform, on, Bench.world, Host.mount, RecordingHost.mount]
    split <;> rfl
  | unmount path =>
    refine ⟨m, ?_⟩
    simp only [perform, on, Bench.world, Host.unmount, RecordingHost.unmount]
    cases RecordingHost.withoutLast path b.mounts <;> rfl
  | createFile path => exact ⟨m, b.world_withFiles m _⟩
  | resizeFile path length => exact ⟨m, b.world_withFiles m _⟩
  | removeFile path => exact ⟨m, b.world_withFiles m _⟩
  | copyFile source target => exact ⟨m, b.world_withFiles m _⟩
  | makeDirectories path => exact ⟨m, b.world_withFiles m _⟩

namespace Routine

variable {α β : Type} {b : Bench} {post : List Mishap → α → Bench → Prop}

/-- Whatever a routine yields from a bench, at whatever moments its calls are made, is as `post`
says. -/
def Leads : Routine α → Bench → (List Mishap → α → Bench → Prop) → Prop
  | done value, b, post => post [] value b
  | call effect next, b, post => ∀ m,
      (next (effect.on m b).1).Leads (effect.on m b).2 fun rest =>
        post (effect.mishaps (effect.on m b).1 ++ rest)

theorem Leads.mono {r : Routine α} {post' : List Mishap → α → Bench → Prop} (leads : r.Leads b post)
    (weaker : ∀ mishaps value c, post mishaps value c → post' mishaps value c) :
    r.Leads b post' := by
  induction r generalizing b post post' with
  | done value => exact weaker _ _ _ leads
  | call effect next ih => exact fun m => ih _ (leads m) fun _ => weaker _

theorem Leads.sound {r : Routine α} (leads : r.Leads b post) {m : Moment} {mishaps : List Mishap}
    {value : α} {v : World} (yields : r.Yields (b.world m) mishaps value v) :
    ∃ c later, v = c.world later ∧ post mishaps value c := by
  induction r generalizing b m post mishaps with
  | done result =>
    obtain ⟨rfl, rfl, rfl⟩ := yields
    exact ⟨b, m, rfl, leads⟩
  | call effect next ih =>
    obtain ⟨faults, answer, after, rest, answered, rfl, later⟩ := yields
    have told : (b.world m).under faults = b.world { m with faults } := rfl
    obtain ⟨moment, performed⟩ := effect.perform_world b { m with faults }
    rw [told, performed] at answered
    cases answered
    exact ih _ (leads _) later

theorem yields_calmly (r : Routine α) (b : Bench) (m : Moment) :
    ∃ value v, r.Yields (b.world m) [] value v := by
  induction r generalizing b m with
  | done value => exact ⟨value, _, rfl, rfl, rfl⟩
  | call effect next ih =>
    obtain ⟨later, performed⟩ := effect.perform_world b { m with faults := .none }
    obtain ⟨value, v, yields⟩ := ih _ (effect.on { m with faults := .none } b).2 later
    have smooth := effect.mishaps_on b (m := { m with faults := .none }) rfl
    exact ⟨value, v, .none, _, _, [], performed, by rw [smooth]; rfl, yields⟩

theorem leads_perform {effect : Effect α} : (perform effect).Leads b post ↔
    ∀ m, post (effect.mishaps (effect.on m b).1) (effect.on m b).1 (effect.on m b).2 := by
  simp only [perform, Leads, List.append_nil]

theorem leads_bind {r : Routine α} {f : α → Routine β}
    {post : List Mishap → β → Bench → Prop} :
    (r >>= f).Leads b post ↔
      r.Leads b fun mishaps value c => (f value).Leads c fun rest => post (mishaps ++ rest) := by
  induction r generalizing b post with
  | done value => exact Iff.rfl
  | call effect next ih =>
    refine forall_congr' fun m => (ih _).trans ?_
    simp only [List.append_assoc]

end Routine

end BlockVolumes
