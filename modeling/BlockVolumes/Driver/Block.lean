import BlockVolumes.Driver.Basic

/-!
The driver of block volumes. Each volume is a sparse file under the driver's root, named by its ID
and connected as a block device. All work on a volume is done under the lock of its ID, and a
volume that could not be finished leaves nothing behind.
-/

namespace BlockVolumes

structure BlockDriver where
  name : String
  root : String

namespace BlockDriver

open Operation

variable {α : Type}

def backingFile (d : BlockDriver) (id : VolumeId) : String := Path.join d.root id.text

def consult (query : Store → Except StoreError α) : Operation α :=
  attempt (.consult query) .ofStore

def record (id : VolumeId) : Operation Volume := do
  match ← consult (·.get id) with
  | some volume => return volume
  | none => throw (.notFound id.text)

/-- Works on a volume under its lock, which is given back whatever comes of it. -/
def underLock (id : VolumeId) (work : Operation α) : Operation α := ExceptT.mk do
  let claim ← Routine.perform (.lockVolume id)
  let result ← work.outcome
  Routine.perform (.unlockVolume claim)
  return result

def discard (file : String) (link : Option Link) : Operation Unit := do
  if let some link := link then
    let _ ← perform (.disconnect link)
  let _ ← perform (.removeFile file)

def orDiscard {ε : Type} (result : Except ε α) (file : String) (link : Option Link)
    (meaning : ε → VolumeError) : Operation α :=
  match result with
  | .ok value => return value
  | .error error => do
    discard file link
    throw (meaning error)

def attemptOrDiscard {ε : Type} (effect : Effect (Except ε α)) (file : String) (link : Option Link)
    (meaning : ε → VolumeError) : Operation α := do
  orDiscard (← perform effect) file link meaning

def provision (d : BlockDriver) (id : VolumeId) (locator : Locator) (source : Option Source)
    (spec : Spec) : Operation VolumeId := do
  let file := d.backingFile id
  attempt (.createFile file) .io
  attemptOrDiscard (.resizeFile file spec.size.toNat) file none .io
  let (connected, link) ← perform (.connect (.toFile file))
  let device ← orDiscard connected file none .device
  attemptOrDiscard (.format device spec.filesystem) file (some link) fun error =>
    .formatFailed device error.message
  let now ← perform .now
  perform (.registerDevice device ⟨file, link⟩)
  match ← perform (.createRecord { Volume.fresh id locator source spec now with device }) with
  | .ok () => return id
  | .error error =>
    let taken ← perform (.takeDevice device)
    discard file (taken.map (·.link))
    throw (.ofStore error)

def createUnchecked (d : BlockDriver) (locator : Locator) (source : Option Source) (spec : Spec) :
    Operation VolumeId := do
  let id ← perform .freshId
  underLock id (d.provision id locator source spec)

def create (d : BlockDriver) (locator : Locator) (source : Option Source) (spec : Spec) :
    Operation VolumeId := do
  ExceptT.mk (.done spec.check)
  d.createUnchecked locator source spec

/-- Nothing is taken apart before the device is disconnected. -/
def delete (id : VolumeId) : Operation Unit :=
  underLock id do
    let volume ← record id
    match ← perform (.takeDevice volume.device) with
    | none => throw (.deviceNotRegistered volume.device)
    | some device =>
      match ← perform (.disconnect device.link) with
      | (.error error, link) =>
        perform (.registerDevice volume.device { device with link })
        throw (.device error)
      | (.ok (), _) =>
        let _ ← perform (.removeFile device.file)
        attempt (.deleteRecord id) .ofStore

def mount (id : VolumeId) (path : String) : Operation Unit :=
  underLock id do
    let volume ← record id
    match volume.mountPath? with
    | some mounted => throw (.alreadyMounted id mounted)
    | none =>
      attempt (.mount volume.device path volume.spec.filesystem) fun error =>
        .mountFailed volume.device path error.message
      let now ← perform .now
      attempt (.updateRecord (volume.mountedAt path now)) .ofStore

def unmount (id : VolumeId) : Operation Unit :=
  underLock id do
    let volume ← record id
    match volume.mountPath? with
    | none => throw (.notMounted id)
    | some mounted =>
      attempt (.unmount mounted) fun error => .unmountFailed mounted error.message
      attempt (.updateRecord volume.unmounted) .ofStore

/-- Copies a volume into a new one. If that fails the new one is deleted again. -/
def snapshot (d : BlockDriver) (id : VolumeId) (locator : Locator) : Operation VolumeId :=
  underLock id do
    let parent ← record id
    let copy ← d.createUnchecked locator (some ⟨some id⟩) parent.spec
    match ← perform (.copyFile (d.backingFile id) (d.backingFile copy)) with
    | .ok () => return copy
    | .error error =>
      let _ ← ExceptT.lift (delete copy).outcome
      throw (.io error)

def attach (d : BlockDriver) (id : VolumeId) : Operation String :=
  underLock id do
    let volume ← record id
    if volume.isMounted then throw (.attachedAtLimit id) else return d.backingFile id

def detach (id : VolumeId) : Operation Unit :=
  underLock id do
    let _ ← record id

/-- Only the locator of a volume can be changed. -/
def set (id : VolumeId) (locator : Option Locator) : Option Spec → Operation Unit
  | some _ => throw (.notSupported "spec update")
  | none => underLock id do
    let volume ← record id
    attempt (.updateRecord { volume with locator := locator.getD volume.locator }) .ofStore

/-- Whether a volume was mounted no later than another one; one never mounted comes first. -/
def mountedNoLater (a b : Volume) : Bool :=
  match a.mountTime, b.mountTime with
  | none, _ => true
  | some _, none => false
  | some a, some b => a.le b

def lastMountedAt (path : String) (volumes : List Volume) : Option Volume :=
  (volumes.filter (·.mountPath? = some path)).foldl (fun last v =>
    match last with
    | none => some v
    | some last => if mountedNoLater last v then some v else some last) none

def markUp : List Volume → Operation Unit
  | [] => return ()
  | volume :: rest => do
    if volume.status = .none then
      attempt (.updateRecord { volume with status := .up }) .ofStore
    markUp rest

def init (d : BlockDriver) : Operation Unit := do
  attempt (.makeDirectories d.root) .io
  markUp (← consult Store.list)

def disconnectAll : List (String × BlockDevice) → Routine Unit
  | [] => return ()
  | (_, device) :: rest => do
    let _ ← Routine.perform (.disconnect device.link)
    disconnectAll rest

def shutdown : Routine Unit := do
  disconnectAll (← Routine.perform .drainDevices)

def toVolumeDriver (d : BlockDriver) : VolumeDriver where
  name := d.name
  kind := .block
  create := d.create
  delete := delete
  mount := mount
  unmount := fun id _ => unmount id
  snapshot := fun id _ locator => d.snapshot id locator
  attach := d.attach
  detach := detach
  set := set
  inspect := fun ids => consult (·.inspect ids)
  enumerate := fun locator labels => consult (·.enumerate locator labels)
  snapshots := fun parents labels => consult (·.snapshots parents labels)
  mountedAt := fun path => do return (lastMountedAt path (← consult Store.list)).map (·.id)
  stats := fun _ _ => throw (.notSupported "stats")
  alerts := fun _ => throw (.notSupported "alerts")
  activeRequests := throw (.notSupported "active requests")
  shutdown := shutdown

end BlockDriver

end BlockVolumes
