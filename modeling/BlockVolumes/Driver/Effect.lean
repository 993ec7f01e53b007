import BlockVolumes.Driver.World

/-!
The single calls that drivers make on their world. Each happens as a whole.
-/

namespace BlockVolumes

inductive Effect : Type → Type 1
  | lockVolume (id : VolumeId) : Effect Claim
  | unlockVolume (claim : Claim) : Effect Unit
  | lockName (name : String) : Effect Claim
  | unlockName (claim : Claim) : Effect Unit
  | freshId : Effect VolumeId
  | now : Effect Time
  | consult {α : Type} (query : Store → Except StoreError α) : Effect (Except StoreError α)
  | createRecord (volume : Volume) : Effect (Except StoreError Unit)
  | updateRecord (volume : Volume) : Effect (Except StoreError Unit)
  | deleteRecord (id : VolumeId) : Effect (Except StoreError Unit)
  | registerDevice (name : String) (device : BlockDevice) : Effect Unit
  | takeDevice (name : String) : Effect (Option BlockDevice)
  | drainDevices : Effect (List (String × BlockDevice))
  | connect (link : Link) : Effect (Except DeviceError String × Link)
  | disconnect (link : Link) : Effect (Except DeviceError Unit × Link)
  | format (device : String) (filesystem : Filesystem) : Effect (Except HostError Unit)
  | mount (device path : String) (filesystem : Filesystem) : Effect (Except HostError Unit)
  | unmount (path : String) : Effect (Except HostError Unit)
  | createFile (path : String) : Effect (Except IoError Unit)
  | resizeFile (path : String) (length : Nat) : Effect (Except IoError Unit)
  | removeFile (path : String) : Effect (Except IoError Unit)
  | copyFile (source target : String) : Effect (Except IoError Unit)
  | makeDirectories (path : String) : Effect (Except IoError Unit)

namespace World

/-- The answer of a part of the world, which then takes its place. -/
def answering {α σ : Type} (result : α × σ) (place : σ → World) : α × World :=
  (result.1, place result.2)

def withFiles (w : World) : Except IoError Files → Except IoError Unit × World
  | .ok files => (.ok (), { w with files })
  | .error error => (.error error, w)

end World

def Effect.perform : {α : Type} → Effect α → World → α × World
  | _, .lockVolume id, w =>
    World.answering (w.volumeLocks.claim id.text) fun t => { w with volumeLocks := t }
  | _, .unlockVolume claim, w => ((), { w with volumeLocks := w.volumeLocks.drop claim })
  | _, .lockName name, w =>
    World.answering (w.nameLocks.claim name) fun t => { w with nameLocks := t }
  | _, .unlockName claim, w => ((), { w with nameLocks := w.nameLocks.drop claim })
  | _, .freshId, w => (w.ids w.drawn, { w with drawn := w.drawn + 1 })
  | _, .now, w => (w.times w.clock, { w with clock := w.clock + 1 })
  | _, .consult query, w => (query w.store, w)
  | _, .createRecord volume, w =>
    World.answering (w.store.create volume) fun s => { w with store := s }
  | _, .updateRecord volume, w =>
    World.answering (w.store.update volume) fun s => { w with store := s }
  | _, .deleteRecord id, w => World.answering (w.store.delete id) fun s => { w with store := s }
  | _, .registerDevice name device, w =>
    ((), { w with devices := w.devices.register name device })
  | _, .takeDevice name, w => World.answering (w.devices.take name) fun r => { w with devices := r }
  | _, .drainDevices, w => World.answering w.devices.drain fun r => { w with devices := r }
  | _, .connect link, w =>
    World.answering (w.connector.connect link) fun c => { w with connector := c }
  | _, .disconnect link, w =>
    World.answering (w.connector.disconnect link) fun c => { w with connector := c }
  | _, .format device filesystem, w =>
    World.answering (w.host.format device filesystem) fun h => { w with host := h }
  | _, .mount device path filesystem, w =>
    World.answering (w.host.mount device path filesystem) fun h => { w with host := h }
  | _, .unmount path, w => World.answering (w.host.unmount path) fun h => { w with host := h }
  | _, .createFile path, w => w.withFiles (w.files.create path)
  | _, .resizeFile path length, w => w.withFiles (w.files.resize path length)
  | _, .removeFile path, w => w.withFiles (w.files.remove path)
  | _, .copyFile source target, w => w.withFiles (w.files.copy source target)
  | _, .makeDirectories path, w => w.withFiles (w.files.makeDirectories path)

end BlockVolumes
