import BlockVolumes.Driver.Basic

/-!
Mounting by name. A name stands for the volume with that ID, or else for the only volume of that
name. A volume of scale `n` has replicas `name_1` to `name_(n-1)`, made when they are needed, and
all are mounted in one place.
-/

namespace BlockVolumes.Plugin

open Operation

def only? : Except VolumeError (List Volume) → Option Volume
  | .ok [volume] => some volume
  | _ => none

def volumeNamed (driver : VolumeDriver) (name : String) : Operation Volume := do
  let withId ← ExceptT.lift (driver.inspect [⟨name⟩]).outcome
  match only? withId with
  | some volume => return volume
  | none =>
    let withName ← ExceptT.lift (driver.enumerate (.named name) none).outcome
    match only? withName with
    | some volume => return volume
    | none => throw (.notFound name)

def replicaName (name : String) (index : Nat) : String := name ++ "_" ++ toString index

def replica (driver : VolumeDriver) (volume : Volume) (index : Nat) : Operation Volume := do
  let name := replicaName volume.locator.name index
  match ← ExceptT.lift (volumeNamed driver name).outcome with
  | .ok found => return found
  | .error _ =>
    let id ← driver.create (.named name) none volume.spec
    volumeNamed driver id.text

/-- The first of `count` replicas from an index on that can be attached. -/
def scaleUp (driver : VolumeDriver) (volume : Volume) (index : Nat) : (count : Nat) →
    Operation Volume
  | 0 => throw (.scaleExhausted volume.locator.name volume.spec.scale)
  | count + 1 => do
    let candidate ← replica driver volume index
    match ← ExceptT.lift (driver.attach candidate.id).outcome with
    | .ok _ => return candidate
    | .error _ => scaleUp driver volume (index + 1) count

/-- The volume to mount for a volume that was asked for: itself, or a replica if it is in use. -/
def attached (driver : VolumeDriver) (volume : Volume) : Operation Volume := do
  match ← ExceptT.lift (driver.attach volume.id).outcome with
  | .ok _ => return volume
  | .error (.attachedElsewhere _) => return volume
  | .error (.attachedAtLimit id) =>
    if 1 < volume.spec.scale then scaleUp driver volume 1 (volume.spec.scale.toNat - 1)
    else throw (.attachedAtLimit id)
  | .error error => throw error

def mount (driver : VolumeDriver) (name place : String) : Operation Unit := do
  let volume ← volumeNamed driver name
  let volume ← match driver.kind with
    | .block => attached driver volume
    | .file => pure volume
  let _ ← perform (.makeDirectories place)
  driver.mount volume.id place

/-- The volume to unmount: of one with replicas, the one mounted last in its place. -/
def toUnmount (driver : VolumeDriver) (volume : Volume) (place : String) : Operation VolumeId := do
  if 1 < volume.spec.scale then
    match ← driver.mountedAt place with
    | some id => return id
    | none => throw (.unmountFailed place "no volume mapping found")
  else return volume.id

/-- What there is to detach is detached afterwards, come what may. -/
def unmount (driver : VolumeDriver) (volume : Volume) (place : String) : Operation Unit := do
  let id ← toUnmount driver volume place
  driver.unmount id place
  match driver.kind with
  | .block =>
    let _ ← ExceptT.lift (driver.detach id).outcome
  | .file => pure ()

end BlockVolumes.Plugin
