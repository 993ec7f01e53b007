import BlockVolumes.Proofs.Driver.Undisturbed
import BlockVolumes.Proofs.Driver.Wired

/-! Shutting a driver down: its devices come out of the registry in some order, and the link of each
is disconnected, whatever becomes of the others. A driver that has no devices left still answers,
and deletes nothing. -/

namespace BlockVolumes

variable {α β : Type}

structure Farewell where
  link : Link
  result : Except DeviceError Unit

namespace Connector

open KernelConnector (toDisconnect)

variable {c d e : Connector} {log more : List Farewell} {device : String}

inductive Disconnects : Connector → List Farewell → Connector → Prop
  | none {c : Connector} : Disconnects c [] c
  | told {c d : Connector} {log : List Farewell} (faults : Faults)
      (rest : Disconnects (c.under faults) log d) : Disconnects c log d
  | link {c d : Connector} {log : List Farewell} (link : Link)
      (rest : Disconnects (c.disconnect link).2 log d) :
    Disconnects c (⟨link, (c.disconnect link).1.1⟩ :: log) d

theorem Disconnects.append (first : Disconnects c log d) (next : Disconnects d more e) :
    Disconnects c (log ++ more) e := by
  induction first with
  | none => exact next
  | told faults _ ih => exact .told faults (ih next)
  | link link _ ih => exact .link link (ih next)

/-- The device was disconnected: the simulation does not have it any more, and the tool has
connected nothing since. -/
def LetGo (device : String) : Connector → Prop
  | simulated c => c.connected.get? device = none
  | kernel c => ∃ earlier later, c.calls = earlier ++ toDisconnect device :: later ∧
    ∀ call ∈ later, ∃ other, call = toDisconnect other

theorem letGo_called {c : KernelConnector} (gone : (kernel c).LetGo device) (other : String) :
    (kernel (c.called (toDisconnect other))).LetGo device := by
  obtain ⟨earlier, later, calls, only⟩ := gone
  refine ⟨earlier, later ++ [toDisconnect other], by simp [KernelConnector.called, calls], ?_⟩
  intro call member
  rcases List.mem_append.1 member with before | last
  · exact only call before
  · exact ⟨other, List.mem_singleton.1 last⟩

theorem LetGo.disconnect (gone : c.LetGo device) (link : Link) :
    (c.disconnect link).2.LetGo device := by
  cases c with
  | simulated c =>
    have absent : c.connected.get? device = none := gone
    show (c.disconnect link).2.connected.get? device = none
    unfold SimulatedConnector.disconnect
    split
    · exact absent
    · split
      · exact absent
      · simp [absent]
  | kernel c =>
    show (kernel (c.disconnect link).2).LetGo device
    have how := c.disconnecting link
    generalize c.disconnect link = disconnected at how ⊢
    cases how with
    | idle => exact gone
    | refused => exact letGo_called gone _
    | freed => exact letGo_called gone _

theorem letGo_of_disconnect {link : Link} (held : link.device = some device)
    (succeeded : (c.disconnect link).1.1 = .ok ()) : (c.disconnect link).2.LetGo device := by
  cases c with
  | simulated c =>
    have told : (c.disconnect link).1.1 = .ok () := succeeded
    show (c.disconnect link).2.connected.get? device = none
    simp only [SimulatedConnector.disconnect, held] at told ⊢
    split at told
    · cases told
    · rename_i works
      simp [works]
  | kernel c =>
    have told : (c.disconnect link).1.1 = .ok () := succeeded
    show (kernel (c.disconnect link).2).LetGo device
    have how := c.disconnecting link
    generalize c.disconnect link = disconnected at how told ⊢
    cases how with
    | idle | refused => cases told
    | freed other =>
      obtain rfl : device = _ := Option.some.inj (held.symm.trans other)
      exact ⟨c.calls, [], rfl, List.forall_mem_nil _⟩

theorem LetGo.disconnects (gone : c.LetGo device) (disconnects : Disconnects c log d) :
    d.LetGo device := by
  induction disconnects with
  | none => exact gone
  | @told c _ _ faults _ ih =>
    apply ih
    cases c with
    | simulated | kernel => exact gone
  | link link _ ih => exact ih (gone.disconnect link)

theorem Disconnects.letGo (disconnects : Disconnects c log d) {farewell : Farewell}
    (among : farewell ∈ log) (held : farewell.link.device = some device)
    (succeeded : farewell.result = .ok ()) : d.LetGo device := by
  induction disconnects with
  | none => cases among
  | told _ _ ih => exact ih among
  | link link rest ih =>
    rcases List.mem_cons.1 among with rfl | later
    · exact (letGo_of_disconnect held succeeded).disconnects rest
    · exact ih later

end Connector

/-- Nothing was done in a world but to disconnect links. -/
structure World.Unlinked (w : World) (log : List Farewell) (v : World) : Prop where
  store : v.store = w.store
  devices : v.devices = w.devices
  files : v.files = w.files
  host : v.host.under .none = w.host.under .none
  connector : w.connector.Disconnects log v.connector

namespace World.Unlinked

variable {u v w : World} {log more : List Farewell}

theorem refl (w : World) : w.Unlinked [] w := ⟨rfl, rfl, rfl, rfl, .none⟩

theorem trans (first : w.Unlinked log u) (next : u.Unlinked more v) :
    w.Unlinked (log ++ more) v where
  store := next.store.trans first.store
  devices := next.devices.trans first.devices
  files := next.files.trans first.files
  host := next.host.trans first.host
  connector := first.connector.append next.connector

end World.Unlinked

namespace Effect

/-- What a call can answer if a registry hands over its devices in any order. -/
def Answers : {β : Type} → Effect β → World → β → World → Prop
  | _, .drainDevices, w => fun entries v =>
    entries.Perm w.devices.devices.entries ∧ v = { w with devices := .empty }
  | _, effect, w => fun answer v => effect.perform w = (answer, v)

def farewells : {β : Type} → Effect β → β → List Farewell
  | _, .disconnect link => fun answer => [⟨link, answer.1⟩]
  | _, _ => fun _ => []

theorem answers_of_perform {effect : Effect β} {w v : World} {answer : β}
    (performed : effect.perform w = (answer, v)) : effect.Answers w answer v := by
  cases effect with
  | drainDevices =>
    cases performed
    exact ⟨.refl _, rfl⟩
  | _ => exact performed

theorem Answers.wired {effect : Effect β} {w v : World} {answer : β}
    (answers : effect.Answers w answer v) (wires : effect.Wires) (wired : w.Wired) :
    v.Wired ∧ effect.Tells answer := by
  have performing : effect.perform w = (answer, v) → v.Wired ∧ effect.Tells answer := by
    intro performed
    have told := effect.tells wired
    have kept := wires.kept wired
    rw [performed] at told kept
    exact ⟨kept, told⟩
  cases effect with
  | drainDevices =>
    obtain ⟨-, rfl⟩ := answers
    exact ⟨World.wired_of_bare rfl, trivial⟩
  | _ => exact performing answers

end Effect

namespace Routine

variable {w v : World}

/-- A routine can give `value` and lead from `w` to `v` when devices are handed over in any order
and faults come and go before each call. The log has all links that it was to disconnect. -/
def Unlinks : Routine α → World → List Farewell → α → World → Prop
  | done result, w, log, value, v => log = [] ∧ value = result ∧ v = w
  | call effect next, w, log, value, v => ∃ faults answer after rest,
      effect.Answers (w.under faults) answer after ∧ log = effect.farewells answer ++ rest ∧
      (next answer).Unlinks after rest value v

theorem Yields.unlinks {r : Routine α} {mishaps : List Mishap} {value : α}
    (yields : r.Yields w mishaps value v) : ∃ log, r.Unlinks w log value v := by
  induction r generalizing w mishaps with
  | done result => exact ⟨[], rfl, yields.2⟩
  | call effect next ih =>
    obtain ⟨faults, answer, after, _, answered, -, later⟩ := yields
    obtain ⟨rest, unlinks⟩ := ih answer later
    have answers := Effect.answers_of_perform answered
    exact ⟨effect.farewells answer ++ rest, faults, answer, after, rest, answers, rfl, unlinks⟩

end Routine

/-- All devices of a driver were taken out of its registry, and each link was to be disconnected
once. -/
structure World.Drained (w : World) (log : List Farewell) (v : World) : Prop where
  links : (log.map (·.link)).Perm (w.devices.devices.values.map (·.link))
  unlinked : { w with devices := .empty }.Unlinked log v

namespace BlockDriver

variable {w v : World} {log : List Farewell} {mishaps : List Mishap}

theorem unlinks_disconnectAll {entries : List (String × BlockDevice)}
    (unlinks : (disconnectAll entries).Unlinks w log () v) :
    log.map (·.link) = entries.map (·.2.link) ∧ w.Unlinked log v := by
  induction entries generalizing w log with
  | nil =>
    obtain ⟨rfl, -, rfl⟩ := unlinks
    exact ⟨rfl, .refl _⟩
  | cons entry rest ih =>
    obtain ⟨faults, result, after, later, answered, rfl, unlinks⟩ := unlinks
    obtain ⟨links, unlinked⟩ := ih unlinks
    cases answered
    have first : w.Unlinked
        [⟨entry.2.link, ((w.connector.under faults).disconnect entry.2.link).1.1⟩]
        (Effect.perform (.disconnect entry.2.link) (w.under faults)).2 :=
      ⟨rfl, rfl, rfl, w.host.under_under faults .none, .told faults (.link _ .none)⟩
    exact ⟨congrArg _ links, first.trans unlinked⟩

theorem drained_of_shutdown (unlinks : shutdown.Unlinks w log () v) : w.Drained log v := by
  obtain ⟨faults, entries, after, rest, ⟨order, rfl⟩, rfl, unlinks⟩ := unlinks
  obtain ⟨links, unlinked⟩ := unlinks_disconnectAll unlinks
  have registered :
      (entries.map (·.2.link)).Perm (w.devices.devices.values.map (·.link)) := by
    rw [Table.values, List.map_map]
    exact order.map _
  constructor
  · simpa [Effect.farewells, links] using registered
  · exact ⟨unlinked.store, unlinked.devices, unlinked.files,
      unlinked.host.trans (w.host.under_under faults .none), .told faults unlinked.connector⟩

theorem takeDevice_bare (bare : w.devices = .empty) (device : String) :
    (Effect.takeDevice device).perform w = (none, w) := by
  obtain ⟨⟨store, connector, host, devices, volumeLocks, nameLocks⟩, machine⟩ := w
  cases bare
  rfl

theorem yields_delete {id : VolumeId} {result : Except VolumeError Unit}
    (bare : w.devices = .empty) (yields : (delete id).outcome.Yields w mishaps result v) :
    w.Undisturbed v ∧
      ∀ u, w.store.get id = .ok (some u) → result = .error (.deviceNotRegistered u.device) := by
  rcases yields_onRecord yields with
    ⟨error, told, rfl, same⟩ | ⟨_, u, _, _, told, before, worked, rest⟩
  · refine ⟨same, fun u there => ?_⟩
    rw [there] at told
    cases told
  · obtain ⟨faults, taken, after, _, answered, -, ending⟩ := worked
    have empty : (u.under faults).devices = .empty := before.devices.trans bare
    rw [takeDevice_bare empty] at answered
    cases answered
    obtain ⟨-, rfl, rfl⟩ := ending
    refine ⟨(before.trans (.under u faults)).trans rest, fun volume there => ?_⟩
    rw [there] at told
    cases told
    rfl

end BlockDriver

/-- A driver without devices in the world `u` answers as it did in the world `w`, and deletes none
of the volumes that there were. -/
structure VolumeDriver.Remembers (driver : VolumeDriver) (w u : World) : Prop where
  delete : ∀ {id : VolumeId} {volume : Volume} {mishaps : List Mishap}
    {result : Except VolumeError Unit} {v : World}, w.store.get id = .ok (some volume) →
    (driver.delete id).outcome.Yields u mishaps result v →
    result = .error (.deviceNotRegistered volume.device) ∧ v.store = w.store ∧ v.files = w.files
  inspect : ∀ {ids : List VolumeId} {mishaps : List Mishap}
    {result : Except VolumeError (List Volume)} {v : World},
    (driver.inspect ids).outcome.Yields u mishaps result v →
    result = ((driver.inspect ids).outcome.run w).1
  enumerate : ∀ {locator : Locator} {labels : Option Labels} {mishaps : List Mishap}
    {result : Except VolumeError (List Volume)} {v : World},
    (driver.enumerate locator labels).outcome.Yields u mishaps result v →
    result = ((driver.enumerate locator labels).outcome.run w).1

theorem BlockDriver.remembers (d : BlockDriver) {w u : World} (bare : u.devices = .empty)
    (store : u.store = w.store) (files : u.files = w.files) :
    d.toVolumeDriver.Remembers w u := by
  have asked : ∀ {query : Store → Except StoreError (List Volume)} {mishaps result v},
      (consult query).outcome.Yields u mishaps result v →
      result = ((consult query).outcome.run w).1 := by
    intro query mishaps result v yields
    rw [run_consult, (yields_consult yields).2, store]
  refine ⟨?_, asked, asked⟩
  intro id volume mishaps result v found yields
  obtain ⟨same, refused⟩ := yields_delete bare yields
  exact ⟨refused volume (store ▸ found), same.store.trans store, same.files.trans files⟩

end BlockVolumes
