import BlockVolumes.Cli.Failure

/-!
What a command may ask of the place where it runs.
-/

namespace BlockVolumes.Cli

universe u

/-- `send` gives no reply where nothing listens. `runDaemon` returns when the daemon is stopped. -/
structure Surroundings (m : Type → Type u) extends Config.FileReader m where
  environment : Config.Environment
  writeText : String → String → m (Except IoError Unit)
  send : Http.Url → Http.Request → m (Option Http.Reply)
  runDaemon : Config.Settings → m (Except Daemon.Error Unit)
  print : String → m Unit
  complain : String → m Unit

/-- What a command does; it may fail after it has printed something. -/
abbrev Task (m : Type → Type u) (α : Type) := ExceptT Failure m α

section

variable {m : Type → Type u} [Monad m] {α ε : Type}

def sayLine (s : Surroundings m) (line : String) : Task m Unit :=
  ExceptT.lift (s.print (line ++ "\n"))

def sayLines (s : Surroundings m) : List String → Task m Unit
  | [] => return ()
  | line :: rest => do
    sayLine s line
    sayLines s rest

def orFail (meaning : ε → Failure) (result : Except ε α) : Task m α :=
  match result with
  | .ok value => return value
  | .error error => throw (meaning error)

end

end BlockVolumes.Cli
