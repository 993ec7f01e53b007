import BlockVolumes.Host.Kernel
import BlockVolumes.Host.Recording

/-!
The host that formats and mounts: one that records, or the kernel.
-/

namespace BlockVolumes

inductive Host
  | recording (host : RecordingHost)
  | kernel (host : KernelHost)

namespace Host

def format (device : String) (filesystem : Filesystem) : Host → Except HostError Unit × Host
  | recording h => (h.format device filesystem).map id recording
  | kernel h => (h.format device filesystem).map id kernel

def mount (device path : String) (filesystem : Filesystem) : Host → Except HostError Unit × Host
  | recording h => (h.mount device path filesystem).map id recording
  | kernel h => (h.mount device path filesystem).map id kernel

def unmount (path : String) : Host → Except HostError Unit × Host
  | recording h => (h.unmount path).map id recording
  | kernel h => (h.unmount path).map id kernel

end Host

end BlockVolumes
