import BlockVolumes.Proofs.Device.Kernel
import BlockVolumes.Proofs.Driver.Snapshot

/-! Devices in the registry of a driver, whichever way links are connected: each is linked under the
name that it is registered by. -/

namespace BlockVolumes

variable {α β : Type}

def World.Wired (w : World) : Prop :=
  ∀ name device, w.devices.devices.get? name = some device → device.link.device = some name

variable {w v : World}

theorem World.Wired.of_devices (wired : w.Wired) (same : v.devices = w.devices) : v.Wired := by
  intro name device found
  exact wired name device (same ▸ found)

theorem World.wired_of_bare (bare : w.devices = .empty) : w.Wired := by
  intro name device found
  rw [bare] at found
  cases found

theorem World.devices_withFiles (w : World) (result : Except IoError Files) :
    (w.withFiles result).2.devices = w.devices := by
  cases result <;> rfl

namespace Connector

variable {c : Connector} {link : Link} {name : String}

theorem connect_link (connected : (c.connect link).1.1 = .ok name) :
    (c.connect link).1.2.device = some name := by
  cases c with
  | simulated c =>
    have told : (c.connect link).1.1 = .ok name := connected
    show (c.connect link).1.2.device = some name
    unfold SimulatedConnector.connect at told ⊢
    split at told
    · cases told
    · split at told
      · rename_i held
        cases told
        simp_all
      · cases told
        simp_all
  | kernel c =>
    have told : (c.connect link).1.1 = .ok name := connected
    show (c.connect link).1.2.device = some name
    have how := c.connecting link
    generalize c.connect link = connected at how told ⊢
    cases how with
    | holds held =>
      cases told
      exact held
    | idle | refused => cases told
    | taken =>
      cases told
      rfl

theorem disconnect_link {error : DeviceError} (failed : (c.disconnect link).1.1 = .error error) :
    (c.disconnect link).1.2 = link := by
  cases c with
  | simulated c =>
    have told : (c.disconnect link).1.1 = .error error := failed
    show (c.disconnect link).1.2 = link
    unfold SimulatedConnector.disconnect at told ⊢
    split at told
    · rfl
    · split at told
      · simp_all
      · cases told
  | kernel c =>
    have told : (c.disconnect link).1.1 = .error error := failed
    show (c.disconnect link).1.2 = link
    have how := c.disconnecting link
    generalize c.disconnect link = disconnected at how told ⊢
    cases how with
    | idle | refused => rfl
    | freed => cases told

end Connector

namespace Effect

def Wires : {β : Type} → Effect β → Prop
  | _, .registerDevice name device => device.link.device = some name
  | _, _ => True

def Tells : {β : Type} → Effect β → β → Prop
  | _, .connect _ => fun answer => ∀ name, answer.1 = .ok name → answer.2.device = some name
  | _, .disconnect link => fun answer => ∀ error, answer.1 = .error error → answer.2 = link
  | _, .takeDevice name => fun answer => ∀ device, answer = some device →
    device.link.device = some name
  | _, _ => fun _ => True

theorem tells (effect : Effect β) (wired : w.Wired) : effect.Tells (effect.perform w).1 := by
  cases effect with
  | connect link => exact fun name connected => Connector.connect_link connected
  | disconnect link => exact fun error failed => Connector.disconnect_link failed
  | takeDevice name => exact fun device taken => wired name device taken
  | _ => trivial

theorem Wires.kept {effect : Effect β} (wires : effect.Wires) (wired : w.Wired) :
    (effect.perform w).2.Wired := by
  cases effect with
  | registerDevice name device =>
    intro other found there
    rcases Table.get?_insert_eq_some.1 there with ⟨rfl, rfl⟩ | ⟨-, old⟩
    · exact wires
    · exact wired other found old
  | takeDevice name =>
    intro other found there
    exact wired other found (Table.get?_erase_eq_some.1 there).2
  | drainDevices => exact nofun
  | createFile | resizeFile | removeFile | copyFile | makeDirectories =>
    exact wired.of_devices (w.devices_withFiles _)
  | _ => exact wired.of_devices rfl

end Effect

namespace Routine

variable {post : α → Prop} {post' : β → Prop}

def Wires : Routine α → (α → Prop) → Prop
  | done value, post => post value
  | call effect next, post =>
    effect.Wires ∧ ∀ answer, effect.Tells answer → (next answer).Wires post

theorem Wires.mono {r : Routine α} {weaker : α → Prop} (wires : r.Wires post)
    (implies : ∀ value, post value → weaker value) : r.Wires weaker := by
  induction r with
  | done value => exact implies value wires
  | call effect next ih =>
    exact ⟨wires.1, fun answer told => ih answer (wires.2 answer told)⟩

theorem Wires.bind {r : Routine α} {f : α → Routine β} (wires : r.Wires post)
    (later : ∀ value, post value → (f value).Wires post') : (r >>= f).Wires post' := by
  induction r with
  | done value => exact later value wires
  | call effect next ih =>
    exact ⟨wires.1, fun answer told => ih answer (wires.2 answer told)⟩

theorem wires_perform {effect : Effect α} (wires : effect.Wires) :
    (perform effect).Wires effect.Tells :=
  ⟨wires, fun _ told => told⟩

end Routine

namespace Operation

variable {post : α → Prop} {post' : β → Prop}

def Wires (operation : Operation α) (post : α → Prop) : Prop :=
  operation.outcome.Wires fun result => ∀ value, result = .ok value → post value

theorem Wires.bind {operation : Operation α} {next : α → Operation β}
    (wires : operation.Wires post) (later : ∀ value, post value → (next value).Wires post') :
    (operation >>= next).Wires post' := by
  rw [Wires, outcome_bind]
  apply Routine.Wires.bind wires
  intro result known
  cases result with
  | ok value => exact later value (known value rfl)
  | error error => exact nofun

theorem wires_pure {value : α} (known : post value) : (pure value : Operation α).Wires post := by
  intro other same
  cases same
  exact known

theorem wires_throw (error : VolumeError) : (throw error : Operation α).Wires post := nofun

theorem wires_perform {effect : Effect α} (wires : effect.Wires) :
    (perform effect).Wires effect.Tells := by
  refine ⟨wires, fun answer told => ?_⟩
  intro value same
  cases same
  exact told

theorem wires_call {effect : Effect α} {next : α → Operation β} (wires : effect.Wires)
    (later : ∀ answer, effect.Tells answer → (next answer).Wires post') :
    (perform effect >>= next).Wires post' :=
  (wires_perform wires).bind later

theorem wires_attempt {ε : Type} {effect : Effect (Except ε α)} {meaning : ε → VolumeError}
    (wires : effect.Wires) (known : ∀ value, effect.Tells (.ok value) → post value) :
    (attempt effect meaning).Wires post := by
  apply wires_call wires
  intro answer told
  cases answer with
  | ok value => exact wires_pure (known value told)
  | error error => exact wires_throw _

theorem wires_lift {operation : Operation α} (wires : operation.Wires post) :
    Operation.Wires (ExceptT.lift operation.outcome : Operation (Except VolumeError α))
      fun _ => True :=
  Routine.Wires.bind wires fun _ _ _ _ => trivial

end Operation

namespace BlockDriver

open Operation

variable {d : BlockDriver} {id : VolumeId}

abbrev Any {α : Type} : α → Prop := fun _ => True

theorem wires_record (id : VolumeId) : (record id).Wires Any := by
  apply Wires.bind (wires_attempt (by trivial) fun _ _ => trivial : Wires _ Any)
  intro found _
  cases found with
  | some v => exact wires_pure trivial
  | none => exact wires_throw _

theorem wires_underLock {work : Operation α} {post : α → Prop} (wires : work.Wires post) :
    (underLock id work).Wires post := by
  refine Routine.Wires.bind (Routine.wires_perform (by trivial)) fun claim _ => ?_
  refine Routine.Wires.bind wires fun result known => ?_
  exact ⟨trivial, fun _ _ => known⟩

theorem wires_discard (file : String) (link : Option Link) : (discard file link).Wires Any := by
  have clearing : (perform (.removeFile file) >>= fun _ => pure ()).Wires Any :=
    wires_call (by trivial) fun _ _ => wires_pure trivial
  cases link with
  | none => exact clearing
  | some link => exact wires_call (by trivial) fun _ _ => clearing

theorem wires_orDiscard {ε : Type} {result : Except ε α} {post : α → Prop} {file : String}
    {link : Option Link} {meaning : ε → VolumeError}
    (known : ∀ value, result = .ok value → post value) :
    (orDiscard result file link meaning).Wires post := by
  cases result with
  | ok value => exact wires_pure (known value rfl)
  | error error => exact (wires_discard file link).bind fun _ _ => wires_throw _

theorem wires_attemptOrDiscard {ε : Type} {effect : Effect (Except ε α)} {file : String}
    {link : Option Link} {meaning : ε → VolumeError} (wires : effect.Wires) :
    (attemptOrDiscard effect file link meaning).Wires Any :=
  wires_call wires fun _ _ => wires_orDiscard fun _ _ => trivial

theorem wires_provision (d : BlockDriver) (id : VolumeId) (locator : Locator)
    (source : Option Source) (spec : Spec) :
    (d.provision id locator source spec).Wires Any := by
  have plain : ∀ {effect : Effect (Except IoError Unit)} {meaning}, effect.Wires →
      (attempt effect meaning).Wires Any := fun wires => wires_attempt wires fun _ _ => trivial
  apply (plain (by trivial)).bind
  intro _ _
  apply (wires_attemptOrDiscard (by trivial)).bind
  intro _ _
  refine wires_call (by trivial) fun answer told => ?_
  obtain ⟨connected, link⟩ := answer
  have connecting : ∀ {file link' meaning}, (orDiscard connected file link' meaning).Wires
      fun device => link.device = some device := wires_orDiscard told
  apply connecting.bind
  intro device linked
  apply (wires_attemptOrDiscard (by trivial)).bind
  intro _ _
  refine wires_call (by trivial) fun now _ => ?_
  refine wires_call linked fun _ _ => ?_
  refine wires_call (by trivial) fun answer _ => ?_
  cases answer with
  | ok _ => exact wires_pure trivial
  | error error =>
    refine wires_call (by trivial) fun taken _ => ?_
    exact (wires_discard _ _).bind fun _ _ => wires_throw _

theorem wires_createUnchecked (d : BlockDriver) (locator : Locator) (source : Option Source)
    (spec : Spec) : (d.createUnchecked locator source spec).Wires Any :=
  wires_call (by trivial) fun id _ => wires_underLock (d.wires_provision id locator source spec)

theorem wires_create (d : BlockDriver) (locator : Locator) (source : Option Source)
    (spec : Spec) : (d.create locator source spec).Wires Any := by
  have checked : Operation.Wires (ExceptT.mk (.done spec.check) : Operation Unit) Any :=
    fun _ _ => trivial
  exact Operation.Wires.bind checked fun _ _ => d.wires_createUnchecked locator source spec

theorem wires_delete (id : VolumeId) : (delete id).Wires Any := by
  refine wires_underLock ((wires_record id).bind fun v _ => ?_)
  refine wires_call (by trivial) fun taken known => ?_
  cases taken with
  | none => exact wires_throw _
  | some device =>
    refine wires_call (by trivial) fun answer told => ?_
    obtain ⟨answer, link⟩ := answer
    cases answer with
    | error error =>
      obtain rfl : link = device.link := told error rfl
      have own : device.link.device = some v.device := known device rfl
      exact wires_call own fun _ _ => wires_throw _
    | ok _ =>
      exact wires_call (by trivial) fun _ _ => wires_attempt (by trivial) fun _ _ => trivial

theorem wires_mount (id : VolumeId) (path : String) : (mount id path).Wires Any := by
  refine wires_underLock ((wires_record id).bind fun v _ => ?_)
  cases v.mountPath? with
  | some mounted => exact wires_throw _
  | none =>
    apply (wires_attempt (by trivial) fun _ _ => trivial : Wires _ Any).bind
    intro _ _
    exact wires_call (by trivial) fun _ _ => wires_attempt (by trivial) fun _ _ => trivial

theorem wires_unmount (id : VolumeId) : (unmount id).Wires Any := by
  refine wires_underLock ((wires_record id).bind fun v _ => ?_)
  cases v.mountPath? with
  | none => exact wires_throw _
  | some mounted =>
    apply (wires_attempt (by trivial) fun _ _ => trivial : Wires _ Any).bind
    exact fun _ _ => wires_attempt (by trivial) fun _ _ => trivial

theorem wires_snapshot (d : BlockDriver) (id : VolumeId) (locator : Locator) :
    (d.snapshot id locator).Wires Any := by
  refine wires_underLock ((wires_record id).bind fun parent _ => ?_)
  apply (d.wires_createUnchecked locator _ _).bind
  intro copy _
  refine wires_call (by trivial) fun answer _ => ?_
  cases answer with
  | ok _ => exact wires_pure trivial
  | error error =>
    exact Operation.Wires.bind (wires_lift (wires_delete copy)) fun _ _ => wires_throw _

theorem wires_set (id : VolumeId) (locator : Option Locator) (spec : Option Spec) :
    (set id locator spec).Wires Any := by
  cases spec with
  | some spec => exact wires_throw _
  | none =>
    refine wires_underLock ((wires_record id).bind fun v _ => ?_)
    exact wires_attempt (by trivial) fun _ _ => trivial

theorem wires_attach (d : BlockDriver) (id : VolumeId) : (d.attach id).Wires Any := by
  refine wires_underLock ((wires_record id).bind fun v _ => ?_)
  cases v.isMounted with
  | true => exact wires_throw _
  | false => exact wires_pure trivial

theorem wires_detach (id : VolumeId) : (detach id).Wires Any :=
  wires_underLock ((wires_record id).bind fun _ _ => wires_pure trivial)

theorem wires_markUp (volumes : List Volume) : (markUp volumes).Wires Any := by
  induction volumes with
  | nil => exact wires_pure trivial
  | cons v rest ih =>
    rw [markUp]
    split
    · exact (wires_attempt (by trivial) fun _ _ => trivial : Wires _ Any).bind fun _ _ => ih
    · exact ih

theorem wires_init (d : BlockDriver) : d.init.Wires Any := by
  apply (wires_attempt (by trivial) fun _ _ => trivial : Wires _ Any).bind
  intro _ _
  apply (wires_attempt (by trivial) fun _ _ => trivial : Wires _ Any).bind
  exact fun volumes _ => wires_markUp volumes

theorem wires_disconnectAll (entries : List (String × BlockDevice)) :
    (disconnectAll entries).Wires Any := by
  induction entries with
  | nil => trivial
  | cons entry rest ih => exact ⟨trivial, fun _ _ => ih⟩

theorem wires_shutdown : shutdown.Wires Any :=
  ⟨trivial, fun entries _ => wires_disconnectAll entries⟩

end BlockDriver

open BlockDriver (Any)

theorem Call.wires (call : Call) (d : BlockDriver) : (call.operation d).Wires Any := by
  have unit : ∀ {β : Type} {operation : Operation β}, operation.Wires Any →
      (do let _ ← operation : Operation Unit).Wires Any :=
    fun wires => wires.bind fun _ _ => Operation.wires_pure trivial
  cases call with
  | init => exact d.wires_init
  | create locator source spec => exact unit (d.wires_create locator source spec)
  | delete id => exact BlockDriver.wires_delete id
  | mount id path => exact BlockDriver.wires_mount id path
  | unmount id path => exact BlockDriver.wires_unmount id
  | snapshot id readonly locator => exact unit (d.wires_snapshot id locator)
  | set id locator spec => exact BlockDriver.wires_set id locator spec
  | attach id => exact unit (d.wires_attach id)
  | detach id => exact BlockDriver.wires_detach id

end BlockVolumes
