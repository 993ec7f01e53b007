import BlockVolumes.Host.Error
import BlockVolumes.Host.Tool
import BlockVolumes.Text.Path
import BlockVolumes.Volume.Basic

/-!
A host that formats with the tools of a directory and asks the kernel to mount.
-/

namespace BlockVolumes

inductive SystemCall
  | mount (device path filesystem : String)
  | unmount (path : String)
deriving DecidableEq

/-- The kernel answers as it likes: `answers` has an error for each call that it fails, in whatever
order calls come. `made` are the calls that it did. -/
structure KernelHost where
  directory : String
  tools : Table (List String → ToolRun)
  calls : List (List String)
  answers : Nat → SystemCall → Option IoError
  asked : Nat
  made : List SystemCall

namespace KernelHost

def toolName (filesystem : Filesystem) : String := "mkfs." ++ filesystem.name

def tool (h : KernelHost) (filesystem : Filesystem) : Tool :=
  ⟨Path.join h.directory (toolName filesystem), h.tools.get? (toolName filesystem)⟩

def format (h : KernelHost) (device : String) (filesystem : Filesystem) :
    Except HostError Unit × KernelHost :=
  let tool := h.tool filesystem
  match tool.run [device] with
  | .error error => (.error (.spawn tool.path error), h)
  | .ok run =>
    let called := { h with calls := h.calls ++ [[device]] }
    if run.status = .success then (.ok (), called)
    else (.error (.commandFailed tool.path run.status.message run.reason), called)

def ask (h : KernelHost) (name path : String) (call : SystemCall) :
    Except HostError Unit × KernelHost :=
  match h.answers h.asked call with
  | some error => (.error (.syscall name path error), { h with asked := h.asked + 1 })
  | none => (.ok (), { h with asked := h.asked + 1, made := h.made ++ [call] })

def mount (h : KernelHost) (device path : String) (filesystem : Filesystem) :
    Except HostError Unit × KernelHost :=
  if Path.hasNul device then (.error (.invalidPath device), h)
  else if Path.hasNul path then (.error (.invalidPath path), h)
  else h.ask "mount" path (.mount device path filesystem.name)

def unmount (h : KernelHost) (path : String) : Except HostError Unit × KernelHost :=
  if Path.hasNul path then (.error (.invalidPath path), h)
  else h.ask "umount2" path (.unmount path)

end KernelHost

end BlockVolumes
