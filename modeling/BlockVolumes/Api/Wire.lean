import BlockVolumes.Volume.Error
import BlockVolumes.Volume.Shape

/-!
What is said over the native volume API.
-/

namespace BlockVolumes.Api

structure CreateRequest where
  locator : Locator
  source : Option Source
  spec : Spec
deriving DecidableEq

structure Outcome where
  error : String
deriving DecidableEq

structure CreateReply where
  id : String
  outcome : Outcome
deriving DecidableEq

inductive Switch
  | none
  | on
  | off
deriving DecidableEq

structure Action where
  attach : Switch
  mount : Switch
  path : String
deriving DecidableEq

structure SetRequest where
  locator : Option Locator
  spec : Option Spec
  action : Option Action
deriving DecidableEq

structure SetReply where
  volume : Option Volume
  outcome : Outcome
deriving DecidableEq

structure SnapshotRequest where
  id : VolumeId
  readonly : Bool
  locator : Locator
deriving DecidableEq

def CreateRequest.shape : Shape CreateRequest :=
  .record "VolumeCreateRequest"
    (defaulted "Locator" .any Locator.shape <|
     omitted "Source" Source.shape <|
     defaulted "Spec" .blank Spec.shape .nil)
    (fun (locator, source, spec, ()) => ⟨locator, source, spec⟩)
    (fun r => (r.locator, r.source, r.spec, ()))

def Outcome.shape : Shape Outcome :=
  .record "VolumeResponse" (defaulted "Error" "" .text .nil)
    (fun (error, ()) => ⟨error⟩)
    (fun o => (o.error, ()))

def Outcome.success : Outcome := ⟨""⟩

def Outcome.of {α : Type} : Except VolumeError α → Outcome
  | .ok _ => success
  | .error e => ⟨e.message⟩

def Outcome.isOk (o : Outcome) : Bool := o.error == ""

def CreateReply.shape : Shape CreateReply :=
  .record "VolumeCreateResponse"
    (defaulted "Id" "" .text <|
     defaulted "VolumeResponse" .success Outcome.shape .nil)
    (fun (id, outcome, ()) => ⟨id, outcome⟩)
    (fun r => (r.id, r.outcome, ()))

def Switch.label : Switch → String
  | none => "NONE"
  | on => "ON"
  | off => "OFF"

def Switch.shape : Shape Switch :=
  .choice ([Switch.none, .on, .off].map fun s => (s.label, s)) Switch.label

def Action.shape : Shape Action :=
  .record "VolumeStateAction"
    (defaulted "Attach" .none Switch.shape <|
     defaulted "Mount" .none Switch.shape <|
     defaulted "MountPath" "" .text .nil)
    (fun (attach, mount, path, ()) => ⟨attach, mount, path⟩)
    (fun a => (a.attach, a.mount, a.path, ()))

def SetRequest.shape : Shape SetRequest :=
  .record "VolumeSetRequest"
    (omitted "Locator" Locator.shape <|
     omitted "Spec" Spec.shape <|
     omitted "Action" Action.shape .nil)
    (fun (locator, spec, action, ()) => ⟨locator, spec, action⟩)
    (fun r => (r.locator, r.spec, r.action, ()))

def SetReply.shape : Shape SetReply :=
  .record "VolumeSetResponse"
    (omitted "Volume" Volume.shape <|
     defaulted "VolumeResponse" .success Outcome.shape .nil)
    (fun (volume, outcome, ()) => ⟨volume, outcome⟩)
    (fun r => (r.volume, r.outcome, ()))

def SnapshotRequest.shape : Shape SnapshotRequest :=
  .record "SnapCreateRequest"
    (required "Id" VolumeId.shape <|
     defaulted "Readonly" false .flag <|
     defaulted "Locator" .any Locator.shape .nil)
    (fun (id, readonly, locator, ()) => ⟨id, readonly, locator⟩)
    (fun r => (r.id, r.readonly, r.locator, ()))

end BlockVolumes.Api
