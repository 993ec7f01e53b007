import BlockVolumes.Device.Link
import BlockVolumes.Table

/-!
The block devices that are in use, by device name.
-/

namespace BlockVolumes

structure BlockDevice where
  file : String
  link : Link
deriving DecidableEq

structure DeviceRegistry where
  devices : Table BlockDevice
deriving DecidableEq

namespace DeviceRegistry

def empty : DeviceRegistry := ⟨.empty⟩

def register (r : DeviceRegistry) (name : String) (device : BlockDevice) : DeviceRegistry :=
  ⟨r.devices.insert name device⟩

def contains (r : DeviceRegistry) (name : String) : Bool := r.devices.contains name

def take (r : DeviceRegistry) (name : String) : Option BlockDevice × DeviceRegistry :=
  (r.devices.get? name, ⟨r.devices.erase name⟩)

def drain (r : DeviceRegistry) : List (String × BlockDevice) × DeviceRegistry :=
  (r.devices.entries, empty)

def names (r : DeviceRegistry) : List String := r.devices.keys

def size (r : DeviceRegistry) : Nat := r.devices.size

end DeviceRegistry

end BlockVolumes
