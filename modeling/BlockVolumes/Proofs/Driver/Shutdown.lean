import BlockVolumes.Driver.Registry
import BlockVolumes.Proofs.Driver.Drain
import Mathlib.Data.List.Nodup

/-! Shutting down all drivers of a machine, whatever they have done side by side: the link of every
device is to be disconnected once. Volumes stay recorded and their files as they are, and can no
longer be deleted. -/

namespace BlockVolumes.Fleet

open BlockDriver (Any)

def after (f : Fleet) (name : String) (w : World) : Fleet :=
  { f with holdings := f.holdings.insert name w.toHoldings, machine := w.toMachine }

variable {f g h : Fleet} {name : String} {w : World}

@[simp] theorem worldOf_after (f : Fleet) (name : String) (w : World) :
    (f.after name w).worldOf name = w := by
  simp [worldOf, after, World.of]

theorem worldOf_after_of_ne {other : String} (different : name ≠ other) :
    (f.after name w).worldOf other = { f.worldOf other with toMachine := w.toMachine } := by
  simp [worldOf, after, different, World.of]

@[simp] theorem after_after (f : Fleet) (name : String) (w v : World) :
    (f.after name w).after name v = f.after name v := by
  simp [after]

theorem worldOf_under (f : Fleet) (name other : String) (faults : Faults) :
    (f.after name ((f.worldOf name).under faults)).worldOf other =
      if name = other then (f.worldOf other).under faults else f.worldOf other := by
  by_cases same : name = other
  · rw [if_pos same, ← same, worldOf_after]
  · rw [if_neg same, worldOf_after_of_ne same]
    rfl

inductive Closes : Fleet → List VolumeDriver → List (String × Farewell) → Fleet → Prop
  | done {f : Fleet} : Closes f [] [] f
  | next {f g : Fleet} {driver : VolumeDriver} {drivers : List VolumeDriver} {log : List Farewell}
      {rest : List (String × Farewell)} {w : World}
      (shuts : driver.shutdown.Unlinks (f.worldOf driver.name) log () w)
      (others : Closes (f.after driver.name w) drivers rest g) :
    Closes f (driver :: drivers) (log.map (driver.name, ·) ++ rest) g

def ShutsDown (f : Fleet) (log : List (String × Farewell)) (g : Fleet) : Prop :=
  ∃ order, order.Perm f.registry.drivers.values ∧
    Closes { f with registry := .empty } order log g

theorem closes_shutDown (f : Fleet) (drivers : List VolumeDriver) :
    ∃ log, Closes f drivers log (f.shutDown drivers) := by
  induction drivers generalizing f with
  | nil => exact ⟨[], .done⟩
  | cons driver drivers ih =>
    obtain ⟨mishaps, yields⟩ := driver.shutdown.yields_run (f.worldOf driver.name)
    obtain ⟨log, shuts⟩ := yields.unlinks
    obtain ⟨rest, others⟩ := ih (f.run driver.name driver.shutdown).2
    exact ⟨_, .next shuts others⟩

theorem shutsDown_shutDownAll (f : Fleet) : ∃ log, f.ShutsDown log f.shutDownAll := by
  obtain ⟨log, closes⟩ := closes_shutDown { f with registry := .empty } f.registry.drivers.values
  exact ⟨log, _, .refl _, closes⟩

abbrev Pending := String × Routine (Except VolumeError Unit)

/-- Others have been at work on the machine, on the links and on what the hosts have mounted. -/
structure Meddled (f g : Fleet) : Prop where
  registry : g.registry = f.registry
  store : ∀ name, (g.worldOf name).store = (f.worldOf name).store
  devices : ∀ name, (g.worldOf name).devices = (f.worldOf name).devices
  volumeLocks : ∀ name, (g.worldOf name).volumeLocks = (f.worldOf name).volumeLocks
  nameLocks : ∀ name, (g.worldOf name).nameLocks = (f.worldOf name).nameLocks

theorem Meddled.under (f : Fleet) (name : String) (faults : Faults) :
    f.Meddled (f.after name ((f.worldOf name).under faults)) where
  registry := rfl
  store other := by rw [worldOf_under]; split <;> rfl
  devices other := by rw [worldOf_under]; split <;> rfl
  volumeLocks other := by rw [worldOf_under]; split <;> rfl
  nameLocks other := by rw [worldOf_under]; split <;> rfl

/-- The fleets that a machine gets to, and the calls that are being served there. The calls of any
drivers are served side by side: the steps of each come between those of others. Faults come and go,
and others change what is around the drivers. -/
inductive Reaches : Fleet → List Pending → Prop
  | start (machine : Machine) : Reaches ⟨.empty, .empty, machine⟩ []
  | register {f g : Fleet} {pending : List Pending} (reached : Reaches f pending) (d : BlockDriver)
      (store : Store) (connector : Connector) (host : Host)
      (registered : f.register d.toVolumeDriver (.fresh store connector host) = .ok g) :
    Reaches g pending
  | call {f : Fleet} {pending : List Pending} {d : BlockDriver} (reached : Reaches f pending)
      (registered : f.registry.get d.name = .ok d.toVolumeDriver) (call : Call) :
    Reaches f (pending ++ [(d.name, (call.operation d).outcome)])
  | shutdown {f : Fleet} {pending : List Pending} {d : BlockDriver} (reached : Reaches f pending)
      (registered : f.registry.get d.name = .ok d.toVolumeDriver) :
    Reaches f (pending ++ [(d.name, d.toVolumeDriver.shutdown >>= fun _ => .done (.ok ()))])
  | step {f : Fleet} {earlier later : List Pending} {name : String} {β : Type} {effect : Effect β}
      {next : β → Routine (Except VolumeError Unit)} {faults : Faults} {answer : β} {w : World}
      (reached : Reaches f (earlier ++ (name, .call effect next) :: later))
      (answers : effect.Answers ((f.worldOf name).under faults) answer w) :
    Reaches (f.after name w) (earlier ++ (name, next answer) :: later)
  | through {f : Fleet} {earlier later : List Pending} {name : String}
      {result : Except VolumeError Unit}
      (reached : Reaches f (earlier ++ (name, .done result) :: later)) :
    Reaches f (earlier ++ later)
  | meddled {f g : Fleet} {pending : List Pending} (reached : Reaches f pending)
      (meddled : f.Meddled g) : Reaches g pending
  | shutDownAll {f g : Fleet} {log : List (String × Farewell)} (reached : Reaches f [])
      (shuts : f.ShutsDown log g) : Reaches g []

def devicesOf (f : Fleet) (driver : VolumeDriver) : List (String × Option String) :=
  (f.worldOf driver.name).devices.names.map fun device => (driver.name, some device)

def linksOf (name : String) (log : List (String × Farewell)) : List Farewell :=
  (log.filter (·.1 = name)).map (·.2)

theorem linksOf_served (name other : String) (log : List Farewell)
    (rest : List (String × Farewell)) :
    linksOf other (log.map (name, ·) ++ rest) =
      (if name = other then log else []) ++ linksOf other rest := by
  by_cases same : name = other <;> simp [linksOf, List.filter_map, Function.comp_def, same]

theorem mem_linksOf {log : List (String × Farewell)} {farewell : Farewell}
    (among : (name, farewell) ∈ log) : farewell ∈ linksOf name log :=
  List.mem_map_of_mem (List.mem_filter.2 ⟨among, decide_eq_true rfl⟩)

structure Closed (f : Fleet) (drivers : List VolumeDriver) (log : List (String × Farewell))
    (g : Fleet) : Prop where
  registry : g.registry = f.registry
  files : g.machine.files = f.machine.files
  store : ∀ name, (g.worldOf name).store = (f.worldOf name).store
  host : ∀ name, (g.worldOf name).host.under .none = (f.worldOf name).host.under .none
  connector : ∀ name,
    (f.worldOf name).connector.Disconnects (linksOf name log) (g.worldOf name).connector
  emptied : ∀ driver ∈ drivers, (g.worldOf driver.name).devices = .empty
  spared : ∀ name, name ∉ drivers.map (·.name) →
    (g.worldOf name).devices = (f.worldOf name).devices
  each : (log.map fun entry => (entry.1, entry.2.link.device)).Perm (drivers.flatMap f.devicesOf)

theorem devicesOf_eq {driver : VolumeDriver} (wired : (f.worldOf driver.name).Wired) :
    f.devicesOf driver =
      ((f.worldOf driver.name).devices.devices.values.map (·.link)).map fun link =>
        (driver.name, link.device) := by
  rw [devicesOf, DeviceRegistry.names, Table.keys, Table.values, List.map_map, List.map_map,
    List.map_map]
  apply List.map_congr_left
  rintro ⟨device, kept⟩ member
  have linked : kept.link.device = some device :=
    wired device kept (Table.get?_eq_some_iff.2 member)
  simp [linked]

theorem wired_after (wired : ∀ name, (f.worldOf name).Wired) (own : w.Wired) (name : String) :
    ∀ other, ((f.after name w).worldOf other).Wired := by
  intro other
  by_cases same : name = other
  · subst same
    rwa [worldOf_after]
  · rw [worldOf_after_of_ne same]
    exact (wired other).of_devices rfl

theorem Closes.closed {drivers : List VolumeDriver} {log : List (String × Farewell)}
    (closes : Closes f drivers log g) (distinct : (drivers.map (·.name)).Nodup)
    (block : ∀ driver ∈ drivers, driver.shutdown = BlockDriver.shutdown)
    (wired : ∀ name, (f.worldOf name).Wired) : Closed f drivers log g := by
  induction closes with
  | done =>
    exact ⟨rfl, rfl, fun _ => rfl, fun _ => rfl, fun _ => .none, nofun, fun _ _ => rfl, .refl _⟩
  | @next f g driver drivers log rest w shuts others ih =>
    obtain ⟨fresh, distinct⟩ := List.nodup_cons.1 distinct
    rw [block driver List.mem_cons_self] at shuts
    obtain ⟨links, unlinked⟩ := BlockDriver.drained_of_shutdown shuts
    have empty : w.devices = .empty := unlinked.devices
    have closed := ih distinct (fun later member => block later (List.mem_cons_of_mem _ member))
      (wired_after wired (World.wired_of_bare empty) driver.name)
    -- drivers have the machine in common, but nothing else
    have untouched : ∀ later ∈ drivers,
        (f.after driver.name w).devicesOf later = f.devicesOf later := by
      intro later member
      have other : driver.name ≠ later.name := by
        intro same
        exact fresh (List.mem_map.2 ⟨later, member, same.symm⟩)
      rw [devicesOf, worldOf_after_of_ne other, devicesOf]
    constructor
    · exact closed.registry
    · exact closed.files.trans unlinked.files
    · intro name
      rw [closed.store]
      by_cases same : driver.name = name
      · subst same
        rw [worldOf_after, unlinked.store]
      · rw [worldOf_after_of_ne same]
    · intro name
      rw [closed.host]
      by_cases same : driver.name = name
      · subst same
        rw [worldOf_after, unlinked.host]
      · rw [worldOf_after_of_ne same]
    · intro name
      have later := closed.connector name
      rw [linksOf_served]
      by_cases same : driver.name = name
      · subst same
        rw [worldOf_after] at later
        simpa using unlinked.connector.append later
      · rw [worldOf_after_of_ne same] at later
        simpa [same] using later
    · intro later member
      rcases List.mem_cons.1 member with rfl | member
      · rw [closed.spared _ fresh, worldOf_after, empty]
      · exact closed.emptied later member
    · intro name others
      rw [List.map_cons, List.mem_cons, not_or] at others
      rw [closed.spared name others.2, worldOf_after_of_ne (Ne.symm others.1)]
    · rw [List.map_append, List.flatMap_cons]
      apply List.Perm.append
      · rw [devicesOf_eq (wired _)]
        simpa [Function.comp_def] using links.map fun link => (driver.name, link.device)
      · rw [← List.flatMap_congr untouched]
        exact closed.each

structure Sound (f : Fleet) (pending : List Pending) : Prop where
  block : ∀ {name driver}, f.registry.drivers.get? name = some driver →
    ∃ d : BlockDriver, driver = d.toVolumeDriver ∧ d.name = name
  wired : ∀ name, (f.worldOf name).Wired
  wires : ∀ call ∈ pending, call.2.Wires Any

theorem register_eq_ok {driver : VolumeDriver} {holdings : Holdings}
    (registered : f.register driver holdings = .ok g) :
    g = { f with registry := ⟨f.registry.drivers.insert driver.name driver⟩ }.after driver.name
      (.of holdings f.machine) := by
  unfold register DriverRegistry.register at registered
  split at registered
  · cases registered
  · cases registered
    rfl

namespace Sound

variable {pending : List Pending} {log : List (String × Farewell)}

theorem start (machine : Machine) : Sound ⟨.empty, .empty, machine⟩ [] :=
  ⟨nofun, fun _ => World.wired_of_bare rfl, nofun⟩

theorem register (sound : Sound f pending) {d : BlockDriver} {store : Store}
    {connector : Connector} {host : Host}
    (registered : f.register d.toVolumeDriver (.fresh store connector host) = .ok g) :
    Sound g pending := by
  rw [register_eq_ok registered]
  refine ⟨?_, ?_, sound.wires⟩
  · intro name driver found
    rcases Table.get?_insert_eq_some.1 found with ⟨rfl, rfl⟩ | ⟨-, before⟩
    · exact ⟨d, rfl, rfl⟩
    · exact sound.block before
  · exact wired_after sound.wired (World.wired_of_bare rfl) _

theorem add (sound : Sound f pending) {name : String}
    {routine : Routine (Except VolumeError Unit)} (wires : routine.Wires Any) :
    Sound f (pending ++ [(name, routine)]) := by
  refine ⟨sound.block, sound.wired, ?_⟩
  intro call member
  rcases List.mem_append.1 member with before | last
  · exact sound.wires call before
  · rw [List.mem_singleton.1 last]
    exact wires

theorem names (sound : Sound f pending) :
    f.registry.drivers.values.map (·.name) = f.registry.drivers.keys := by
  rw [Table.values, Table.keys, List.map_map]
  apply List.map_congr_left
  rintro ⟨name, driver⟩ member
  obtain ⟨d, rfl, named⟩ := sound.block (Table.get?_eq_some_iff.2 member)
  exact named

theorem distinct (sound : Sound f pending) {drivers : List VolumeDriver}
    (order : drivers.Perm f.registry.drivers.values) : (drivers.map (·.name)).Nodup := by
  rw [(order.map _).nodup_iff, sound.names]
  exact f.registry.drivers.keys_nodup

theorem closed (sound : Sound f pending) (shuts : f.ShutsDown log g) :
    ∃ drivers, drivers.Perm f.registry.drivers.values ∧
      Closed { f with registry := .empty } drivers log g := by
  obtain ⟨drivers, order, closes⟩ := shuts
  have block : ∀ driver ∈ drivers, driver.shutdown = BlockDriver.shutdown := by
    intro driver member
    obtain ⟨name, found⟩ := Table.mem_values.1 (order.mem_iff.1 member)
    obtain ⟨d, rfl, -⟩ := sound.block found
    rfl
  exact ⟨drivers, order, closes.closed (sound.distinct order) block sound.wired⟩

theorem shutsDown (sound : Sound f pending) (shuts : f.ShutsDown log g) : Sound g [] := by
  obtain ⟨drivers, -, closed⟩ := sound.closed shuts
  refine ⟨?_, ?_, nofun⟩
  · intro name driver found
    rw [closed.registry] at found
    cases found
  · intro name
    by_cases among : name ∈ drivers.map (·.name)
    · obtain ⟨driver, member, rfl⟩ := List.mem_map.1 among
      exact World.wired_of_bare (closed.emptied driver member)
    · exact (sound.wired name).of_devices (closed.spared name among)

end Sound

theorem Reaches.sound {pending : List Pending} (reached : Reaches f pending) :
    Sound f pending := by
  induction reached with
  | start machine => exact .start machine
  | register _ d store connector host registered ih => exact ih.register registered
  | @call _ _ d _ _ call ih => exact ih.add ((call.wires d).mono fun _ _ => trivial)
  | shutdown _ _ ih => exact ih.add (BlockDriver.wires_shutdown.bind fun _ _ => trivial)
  | @step f earlier later name _ effect next _ _ _ _ answers ih =>
    -- the rest of the call may rely on what the answer tells, whoever acted before the step
    have calling : Routine.Wires (.call effect next) Any := ih.wires (name, _) (by simp)
    obtain ⟨kept, told⟩ := answers.wired calling.1 ((ih.wired name).of_devices rfl)
    refine ⟨ih.block, wired_after ih.wired kept name, ?_⟩
    intro call member
    rcases List.mem_append.1 member with before | behind
    · exact ih.wires call (List.mem_append_left _ before)
    · rcases List.mem_cons.1 behind with rfl | behind
      · exact calling.2 _ told
      · exact ih.wires call (by simp [behind])
  | through _ ih =>
    refine ⟨ih.block, ih.wired, fun call member => ih.wires call ?_⟩
    rcases List.mem_append.1 member with before | behind
    · exact List.mem_append_left _ before
    · exact List.mem_append_right _ (List.mem_cons_of_mem _ behind)
  | meddled _ meddled ih =>
    refine ⟨fun found => ih.block (meddled.registry ▸ found), fun name => ?_, ih.wires⟩
    exact (ih.wired name).of_devices (meddled.devices name)
  | shutDownAll _ shuts ih => exact ih.shutsDown shuts

def Undisturbed (f g : Fleet) : Prop := ∀ name, (f.worldOf name).Undisturbed (g.worldOf name)

theorem Undisturbed.after (same : f.Undisturbed g) (further : (g.worldOf name).Undisturbed w) :
    f.Undisturbed (g.after name w) := by
  intro other
  apply (same other).trans
  by_cases here : name = other
  · subst here
    rwa [worldOf_after]
  · rw [worldOf_after_of_ne here, further.machine]
    exact .refl _

/-- The fleets that a fleet gets to as drivers, which somebody still has, are asked for volumes and
told to delete some. -/
inductive Lingers (registry : DriverRegistry) (f : Fleet) : Fleet → Prop
  | here : Lingers registry f f
  | delete {g : Fleet} {name : String} {driver : VolumeDriver} {id : VolumeId}
      {mishaps : List Mishap} {result : Except VolumeError Unit} {w : World}
      (lingers : Lingers registry f g) (known : registry.get name = .ok driver)
      (yields : (driver.delete id).outcome.Yields (g.worldOf name) mishaps result w) :
    Lingers registry f (g.after name w)
  | inspect {g : Fleet} {name : String} {driver : VolumeDriver} {ids : List VolumeId}
      {mishaps : List Mishap} {result : Except VolumeError (List Volume)} {w : World}
      (lingers : Lingers registry f g) (known : registry.get name = .ok driver)
      (yields : (driver.inspect ids).outcome.Yields (g.worldOf name) mishaps result w) :
    Lingers registry f (g.after name w)
  | enumerate {g : Fleet} {name : String} {driver : VolumeDriver} {locator : Locator}
      {labels : Option Labels} {mishaps : List Mishap}
      {result : Except VolumeError (List Volume)} {w : World}
      (lingers : Lingers registry f g) (known : registry.get name = .ok driver)
      (yields : (driver.enumerate locator labels).outcome.Yields (g.worldOf name) mishaps result
        w) :
    Lingers registry f (g.after name w)

theorem Lingers.undisturbed {registry : DriverRegistry} (lingers : Lingers registry f g)
    (bare : ∀ name driver, registry.get name = .ok driver →
      (f.worldOf name).devices = .empty ∧ ∃ d : BlockDriver, driver = d.toVolumeDriver) :
    f.Undisturbed g := by
  induction lingers with
  | here => exact fun _ => .refl _
  | @delete _ name _ _ _ _ _ _ known yields ih =>
    obtain ⟨empty, d, rfl⟩ := bare _ _ known
    exact ih.after (BlockDriver.yields_delete ((ih name).devices.trans empty) yields).1
  | inspect _ known yields ih =>
    obtain ⟨-, d, rfl⟩ := bare _ _ known
    exact ih.after (BlockDriver.yields_consult yields).1
  | enumerate _ known yields ih =>
    obtain ⟨-, d, rfl⟩ := bare _ _ known
    exact ih.after (BlockDriver.yields_consult yields).1

def InUse (f : Fleet) (name device : String) : Prop :=
  (∃ driver, f.registry.get name = .ok driver) ∧
    (f.worldOf name).devices.contains device = true

theorem nodup_devices {drivers : List VolumeDriver} (distinct : (drivers.map (·.name)).Nodup) :
    (drivers.flatMap f.devicesOf).Nodup := by
  apply List.nodup_flatMap.2
  constructor
  · intro driver _
    apply List.Nodup.map _ (Table.keys_nodup _)
    intro device other same
    exact Option.some.inj (Prod.ext_iff.1 same).2
  · apply (List.pairwise_map.1 distinct).imp
    intro driver other apart entry here there
    obtain ⟨device, -, rfl⟩ := List.mem_map.1 here
    obtain ⟨_, -, same⟩ := List.mem_map.1 there
    exact apart (Prod.ext_iff.1 same).1.symm

theorem get_eq_ok {r : DriverRegistry} {driver : VolumeDriver} :
    r.get name = .ok driver ↔ r.drivers.get? name = some driver := by
  rw [DriverRegistry.get]
  cases r.drivers.get? name with
  | none => exact iff_of_false nofun nofun
  | some other => simp

theorem Sound.mem_of_get {pending : List Pending} (sound : Sound f pending)
    {drivers : List VolumeDriver} (order : drivers.Perm f.registry.drivers.values)
    {driver : VolumeDriver} (registered : f.registry.get name = .ok driver) :
    driver ∈ drivers ∧ driver.name = name ∧ ∃ d : BlockDriver, driver = d.toVolumeDriver := by
  have found := get_eq_ok.1 registered
  obtain ⟨d, rfl, rfl⟩ := sound.block found
  exact ⟨order.mem_iff.2 (Table.mem_values.2 ⟨_, found⟩), rfl, d, rfl⟩

theorem Sound.mem_devices {pending : List Pending} (sound : Sound f pending)
    {drivers : List VolumeDriver} (order : drivers.Perm f.registry.drivers.values)
    {link : Option String} :
    (name, link) ∈ drivers.flatMap f.devicesOf ↔
      ∃ device, link = some device ∧ f.InUse name device := by
  constructor
  · intro among
    obtain ⟨driver, member, entry⟩ := List.mem_flatMap.1 among
    obtain ⟨device, listed, same⟩ := List.mem_map.1 entry
    obtain ⟨rfl, rfl⟩ := Prod.ext_iff.1 same
    obtain ⟨key, found⟩ := Table.mem_values.1 (order.mem_iff.1 member)
    obtain ⟨d, rfl, rfl⟩ := sound.block found
    refine ⟨device, rfl, ⟨_, get_eq_ok.2 found⟩, ?_⟩
    exact Table.contains_iff.2 (Table.mem_keys.1 listed)
  · rintro ⟨device, rfl, ⟨driver, registered⟩, contained⟩
    obtain ⟨member, rfl, -⟩ := sound.mem_of_get order registered
    have listed := Table.mem_keys.2 (Table.contains_iff.1 contained)
    exact List.mem_flatMap.2 ⟨driver, member, List.mem_map_of_mem listed⟩

/-- How a fleet is left when all its drivers are shut down. -/
structure Left (f : Fleet) (log : List (String × Farewell)) (g : Fleet) : Prop where
  forgotten : g.registry = .empty
  emptied : ∀ {name driver}, f.registry.get name = .ok driver → (g.worldOf name).devices = .empty
  once : (log.map fun entry => (entry.1, entry.2.link.device)).Nodup
  disconnected : ∀ {name device}, f.InUse name device → ∃ farewell, (name, farewell) ∈ log ∧
    farewell.link.device = some device ∧
    ((∃ error, farewell.result = .error error) ∨ (g.worldOf name).connector.LetGo device)
  others : ∀ {name farewell}, (name, farewell) ∈ log →
    ∃ device, farewell.link.device = some device ∧ f.InUse name device
  store : ∀ name, (g.worldOf name).store = (f.worldOf name).store
  files : g.machine.files = f.machine.files
  host : ∀ name, (g.worldOf name).host.under .none = (f.worldOf name).host.under .none
  afterwards : ∀ {h name driver}, Lingers f.registry g h → f.registry.get name = .ok driver →
    driver.Remembers (f.worldOf name) (h.worldOf name)

theorem Sound.left {log : List (String × Farewell)} (sound : Sound f [])
    (shuts : f.ShutsDown log g) : f.Left log g := by
  obtain ⟨drivers, order, closed⟩ := sound.closed shuts
  have emptied : ∀ {name driver}, f.registry.get name = .ok driver →
      (g.worldOf name).devices = .empty := by
    intro name driver registered
    obtain ⟨member, rfl, -⟩ := sound.mem_of_get order registered
    exact closed.emptied driver member
  have told : ∀ {name link}, (name, link) ∈ log.map (fun e => (e.1, e.2.link.device)) ↔
      ∃ device, link = some device ∧ f.InUse name device :=
    closed.each.mem_iff.trans (sound.mem_devices order)
  constructor
  · exact closed.registry
  · exact emptied
  · exact closed.each.nodup_iff.2 (nodup_devices (sound.distinct order))
  · intro name device used
    obtain ⟨⟨driver, farewell⟩, member, same⟩ := List.mem_map.1 (told.2 ⟨device, rfl, used⟩)
    obtain ⟨rfl, linked⟩ := Prod.ext_iff.1 same
    refine ⟨farewell, member, linked, ?_⟩
    cases result : farewell.result with
    | error error => exact .inl ⟨error, rfl⟩
    | ok _ => exact .inr ((closed.connector _).letGo (mem_linksOf member) linked result)
  · intro name farewell member
    exact told.1 (List.mem_map.2 ⟨(name, farewell), member, rfl⟩)
  · exact closed.store
  · exact closed.files
  · exact closed.host
  · intro h name driver lingers registered
    have same : g.Undisturbed h := by
      apply lingers.undisturbed
      intro name driver registered
      exact ⟨emptied registered, (sound.mem_of_get order registered).2.2⟩
    obtain ⟨-, -, d, rfl⟩ := sound.mem_of_get order registered
    apply d.remembers
    · exact (same name).devices.trans (emptied registered)
    · exact (same name).store.trans (closed.store name)
    · exact (same name).files.trans closed.files

/-- Whatever the drivers of a machine have done, they are shut down so, in whatever order they and
their devices come. -/
theorem left_by_shutdown (reached : f.Reaches []) :
    (∃ log, f.ShutsDown log f.shutDownAll) ∧ ∀ log g, f.ShutsDown log g → f.Left log g :=
  ⟨f.shutsDown_shutDownAll, fun _ _ shuts => reached.sound.left shuts⟩

theorem Reaches.alone {pending : List Pending} {routine : Routine (Except VolumeError Unit)}
    (reached : Reaches (f.after name w) (pending ++ [(name, routine)])) :
    Reaches (f.after name (routine.run w).2) pending := by
  induction routine generalizing w with
  | done result =>
    have through := reached.through
    rwa [List.append_nil] at through
  | call effect next ih =>
    have answers : effect.Answers (((f.after name w).worldOf name).under w.faults)
        (effect.perform w).1 (effect.perform w).2 := by
      rw [worldOf_after, World.under_faults]
      exact Effect.answers_of_perform rfl
    have stepped := reached.step answers
    rw [after_after] at stepped
    exact ih _ stepped

theorem after_worldOf {holdings : Holdings} (held : f.holdings.get? name = some holdings) :
    f.after name (f.worldOf name) = f := by
  have same : f.holdings.insert name holdings = f.holdings := by
    apply Table.eq_of_get?_eq
    intro query
    by_cases here : name = query
    · simp [← here, held]
    · simp [here]
  simp [after, worldOf, held, World.of, same]

theorem Reaches.run {pending : List Pending} {d : BlockDriver} {holdings : Holdings}
    (reached : Reaches f pending) (registered : f.registry.get d.name = .ok d.toVolumeDriver)
    (held : f.holdings.get? d.name = some holdings) (call : Call) :
    Reaches (f.run d.name (call.operation d).outcome).2 pending := by
  have begun := reached.call registered call
  rw [← after_worldOf held] at begun
  exact begun.alone

def first : BlockDriver := ⟨"nbd", "/volumes"⟩

def second : BlockDriver := ⟨"spare", "/volumes"⟩

def bare : Holdings := .fresh .inMemory (.simulated .initial) (.recording .initial)

def paired : Fleet where
  registry := ⟨(Table.empty.insert "nbd" first.toVolumeDriver).insert "spare" second.toVolumeDriver⟩
  holdings := (Table.empty.insert "nbd" bare).insert "spare" bare
  machine := ((Bench.ofRecords .empty).world .calm).toMachine

def working : Fleet :=
  ((paired.run "nbd" (Bench.renewal.operation first).outcome).2.run "spare"
    (Bench.renewal.operation second).outcome).2

/-- The next device that the first driver disconnects will not be. -/
def failing : Fleet :=
  working.after "nbd" ((working.worldOf "nbd").under ⟨false, true, false, false⟩)

theorem reaches_failing : failing.Reaches [] := by
  have paired : paired.Reaches [] :=
    .register (.register (.start _) first .inMemory _ _ rfl) second .inMemory _ _ rfl
  have one := paired.run (d := first) rfl rfl Bench.renewal
  have two := one.run (d := second) rfl rfl Bench.renewal
  exact two.meddled (.under working "nbd" _)

theorem pair_left_by_shutdown : ∃ log, failing.ShutsDown log failing.shutDownAll ∧
    failing.Left log failing.shutDownAll ∧
    failing.InUse "nbd" "/dev/nbd0" ∧ failing.InUse "spare" "/dev/nbd0" := by
  obtain ⟨⟨log, shuts⟩, left⟩ := left_by_shutdown reaches_failing
  refine ⟨log, shuts, left _ _ shuts, ⟨⟨_, rfl⟩, ?_⟩, ⟨⟨_, rfl⟩, ?_⟩⟩
  · decide +kernel
  · decide +kernel

end BlockVolumes.Fleet
