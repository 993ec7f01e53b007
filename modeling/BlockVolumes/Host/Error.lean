import BlockVolumes.IoError

/-!
What can go wrong when the host formats, mounts or unmounts.
-/

namespace BlockVolumes

inductive HostError
  | commandFailed (command status stderr : String)
  | spawn (command : String) (error : IoError)
  | syscall (call path : String) (error : IoError)
  | invalidPath (path : String)
deriving DecidableEq

def HostError.kind : HostError → String
  | .commandFailed _ _ _ => "CommandFailed"
  | .spawn _ _ => "Spawn"
  | .syscall _ _ _ => "Syscall"
  | .invalidPath _ => "InvalidPath"

def HostError.message : HostError → String
  | .commandFailed command status stderr => command ++ " exited with " ++ status ++ ": " ++ stderr
  | .spawn command error => "Failed to run " ++ command ++ ": " ++ error.message
  | .syscall call path error => call ++ "(" ++ path ++ ") failed: " ++ error.message
  | .invalidPath path => "Invalid path: " ++ path

def HostError.chain (e : HostError) : List String :=
  e.message :: match e with
    | .spawn _ error => [error.message]
    | .syscall _ _ error => [error.message]
    | _ => []

end BlockVolumes
