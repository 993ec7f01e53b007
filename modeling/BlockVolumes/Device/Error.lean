import BlockVolumes.IoError

/-!
What can go wrong between a backing file and its kernel block device.
-/

namespace BlockVolumes

inductive DeviceError
  | noFreeDevice
  | connect (file reason : String)
  | disconnect (device reason : String)
  | notConnected
  | io (error : IoError)
deriving DecidableEq

def DeviceError.kind : DeviceError → String
  | .noFreeDevice => "NoFreeDevice"
  | .connect _ _ => "Connect"
  | .disconnect _ _ => "Disconnect"
  | .notConnected => "NotConnected"
  | .io _ => "Io"

def DeviceError.message : DeviceError → String
  | .noFreeDevice => "No free NBD device available"
  | .connect file reason => "NBD connect failed for " ++ file ++ ": " ++ reason
  | .disconnect device reason => "NBD disconnect failed for " ++ device ++ ": " ++ reason
  | .notConnected => "NBD device is not connected"
  | .io error => "IO error: " ++ error.message

def DeviceError.chain (e : DeviceError) : List String :=
  e.message :: match e with
    | .io error => [error.message]
    | _ => []

end BlockVolumes
