import BlockVolumes.Device.Error
import BlockVolumes.Host.Error
import BlockVolumes.Store.Error
import BlockVolumes.Volume.Basic

/-!
What can go wrong with an operation on a volume.
-/

namespace BlockVolumes

inductive VolumeError
  | invalidSpec (reason : String)
  | invalidRequest (reason : String)
  | notFound (id : String)
  | alreadyMounted (id : VolumeId) (path : String)
  | notMounted (id : VolumeId)
  | deviceNotRegistered (device : String)
  | formatFailed (device reason : String)
  | mountFailed (device path reason : String)
  | unmountFailed (path reason : String)
  | notSupported (operation : String)
  | attachedElsewhere (id : VolumeId)
  | attachedAtLimit (id : VolumeId)
  | scaleExhausted (name : String) (scale : UInt32)
  | device (error : DeviceError)
  | host (error : HostError)
  | store (error : StoreError)
  | io (error : IoError)
  | interrupted (operation reason : String)
deriving DecidableEq

namespace VolumeError

def message : VolumeError → String
  | invalidSpec reason => "Invalid volume spec: " ++ reason
  | invalidRequest reason => "Invalid request: " ++ reason
  | notFound id => "Volume not found: " ++ id
  | alreadyMounted id path => "Volume " ++ id.text ++ " already mounted at " ++ path
  | notMounted id => "Volume " ++ id.text ++ " not mounted"
  | deviceNotRegistered name => "Cannot locate a block device for " ++ name
  | formatFailed name reason => "Failed to format " ++ name ++ ": " ++ reason
  | mountFailed name path reason =>
    "Failed to mount " ++ name ++ " at " ++ path ++ ": " ++ reason
  | unmountFailed path reason => "Failed to unmount " ++ path ++ ": " ++ reason
  | notSupported operation => "Operation not supported: " ++ operation
  | attachedElsewhere id => "Volume " ++ id.text ++ " is attached on a remote node"
  | attachedAtLimit id => "Volume " ++ id.text ++ " is attached and at its scale limit"
  | scaleExhausted name scale =>
    "All " ++ toString scale.toNat ++ " instances of volume " ++ name ++ " are attached"
  | device error => "Device error: " ++ error.message
  | host error => "Host error: " ++ error.message
  | store error => "Metadata store error: " ++ error.message
  | io error => "IO error: " ++ error.message
  | interrupted operation reason =>
    "Volume operation " ++ operation ++ " did not complete: " ++ reason

def kind : VolumeError → String
  | invalidSpec _ => "InvalidSpec"
  | invalidRequest _ => "InvalidRequest"
  | notFound _ => "NotFound"
  | alreadyMounted _ _ => "AlreadyMounted"
  | notMounted _ => "NotMounted"
  | deviceNotRegistered _ => "DeviceNotRegistered"
  | formatFailed _ _ => "FormatFailed"
  | mountFailed _ _ _ => "MountFailed"
  | unmountFailed _ _ => "UnmountFailed"
  | notSupported _ => "NotSupported"
  | attachedElsewhere _ => "AlreadyAttachedRemote"
  | attachedAtLimit _ => "AttachedAtScaleLimit"
  | scaleExhausted _ _ => "ScaleExhausted"
  | device _ => "Device"
  | host _ => "Host"
  | store _ => "Store"
  | io _ => "Io"
  | interrupted _ _ => "Interrupted"

def chain (e : VolumeError) : List String :=
  e.message :: match e with
    | device error => error.chain
    | host error => error.chain
    | io error => [error.message]
    | _ => []

def isNotFound : VolumeError → Bool
  | notFound _ => true
  | _ => false

/-- A record that is missing from the store is a volume that was not found. -/
def ofStore : StoreError → VolumeError
  | .notFound id => notFound id
  | error => store error

end VolumeError

namespace Spec

def check (s : Spec) : Except VolumeError Unit :=
  if s.size = 0 then .error (.invalidSpec "volume size cannot be zero")
  else if s.filesystem = .none then .error (.invalidSpec "missing volume format")
  else if s.scale = 0 then .error (.invalidSpec "scale must be at least 1")
  else .ok ()

end Spec

namespace Filesystem

/-- Reads a filesystem name in any case, blanks around it; nothing stands for none. -/
def read (s : String) : Except VolumeError Filesystem :=
  let name := String.ofList ((Text.trim s.toList).map Char.toLower)
  if name = "" then .ok none
  else match all.find? (·.name = name) with
    | some filesystem => .ok filesystem
    | Option.none => .error (.invalidSpec ("unsupported filesystem format '" ++ name ++ "'"))

end Filesystem

end BlockVolumes
