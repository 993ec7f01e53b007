import BlockVolumes.Device.Error

/-!
A link serves a backing file as a network block device; while it is connected it has a device name.
-/

namespace BlockVolumes

structure Link where
  file : String
  device : Option String
deriving DecidableEq

namespace Link

def toFile (file : String) : Link := ⟨file, none⟩

end Link

end BlockVolumes
