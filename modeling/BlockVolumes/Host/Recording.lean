import BlockVolumes.Host.Error
import BlockVolumes.Text.Path
import BlockVolumes.Volume.Basic

/-!
A host that only records what it is asked to format and mount. Mounts at one path stack up, and the
latest goes first. It can be told to fail.
-/

namespace BlockVolumes

structure Mount where
  path : String
  device : String
deriving DecidableEq

structure RecordingHost where
  formatted : List (String × Filesystem)
  mounts : List Mount
  failFormat : Bool
  failMount : Bool
deriving DecidableEq

namespace RecordingHost

def initial : RecordingHost := ⟨[], [], false, false⟩

def format (h : RecordingHost) (device : String) (filesystem : Filesystem) :
    Except HostError Unit × RecordingHost :=
  if h.failFormat then
    (.error (.commandFailed ("mkfs." ++ filesystem.name) "exit status: 1" "injected failure"), h)
  else (.ok (), { h with formatted := h.formatted ++ [(device, filesystem)] })

/-- What the device is formatted with is not recorded. -/
def mount (h : RecordingHost) (device path : String) (_ : Filesystem) :
    Except HostError Unit × RecordingHost :=
  if h.failMount then (.error (.syscall "mount" path .deviceBusy), h)
  else (.ok (), { h with mounts := h.mounts ++ [⟨path, device⟩] })

def withoutLast (path : String) (mounts : List Mount) : Option (List Mount) :=
  match mounts with
  | [] => none
  | m :: rest =>
    match withoutLast path rest with
    | some rest => some (m :: rest)
    | none => if Path.same m.path path then some rest else none

def unmount (h : RecordingHost) (path : String) : Except HostError Unit × RecordingHost :=
  match withoutLast path h.mounts with
  | some mounts => (.ok (), { h with mounts })
  | none => (.error (.syscall "umount2" path .invalidArgument), h)

def mountsAt (h : RecordingHost) (path : String) : List String :=
  (h.mounts.filter fun m => Path.same m.path path).map (·.device)

end RecordingHost

end BlockVolumes
