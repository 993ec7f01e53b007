import BlockVolumes.IoError
import BlockVolumes.Text.Blank

/-!
Programs that the host runs: how a run ends, and how that is told.
-/

namespace BlockVolumes

inductive ExitStatus
  | exited (code : Nat)
  | killed (signal : Nat)
deriving DecidableEq

def signalNames : List String :=
  ["SIGHUP", "SIGINT", "SIGQUIT", "SIGILL", "SIGTRAP", "SIGABRT", "SIGBUS", "SIGFPE", "SIGKILL",
    "SIGUSR1", "SIGSEGV", "SIGUSR2", "SIGPIPE", "SIGALRM", "SIGTERM", "SIGSTKFLT", "SIGCHLD",
    "SIGCONT", "SIGSTOP", "SIGTSTP", "SIGTTIN", "SIGTTOU", "SIGURG", "SIGXCPU", "SIGXFSZ",
    "SIGVTALRM", "SIGPROF", "SIGWINCH", "SIGIO", "SIGPWR", "SIGSYS"]

namespace ExitStatus

def success : ExitStatus := exited 0

def message : ExitStatus → String
  | exited code => "exit status: " ++ toString code
  | killed signal =>
    match signal with
    | 0 => "signal: 0"
    | n + 1 =>
      match signalNames[n]? with
      | some name => "signal: " ++ toString signal ++ " (" ++ name ++ ")"
      | none => "signal: " ++ toString signal

end ExitStatus

structure ToolRun where
  status : ExitStatus
  complaint : String

structure Tool where
  path : String
  behaviour : Option (List String → ToolRun)

namespace Tool

def run (t : Tool) (arguments : List String) : Except IoError ToolRun :=
  if arguments.any (·.toList.contains '\x00') then .error (.other "nul byte found in provided data")
  else match t.behaviour with
    | some behaviour => .ok (behaviour arguments)
    | none => .error .notFound

end Tool

def ToolRun.reason (r : ToolRun) : String := String.ofList (Text.trim r.complaint.toList)

end BlockVolumes
