import BlockVolumes.Cli.Run
import BlockVolumes.Storage.Access

/-!
Running commands on a file system that is a value: what a command prints is kept, and whatever else
there is to talk to is a state that requests and daemons change.
-/

namespace BlockVolumes.Cli

universe u

structure Sandbox (σ : Type u) where
  files : Files
  printed : String
  complaints : String
  outside : σ

def Boxed (σ : Type u) (α : Type) : Type u := Sandbox σ → α × Sandbox σ

instance {σ : Type u} : Monad (Boxed σ) where
  pure value := fun box => (value, box)
  bind computation next := fun box =>
    let (value, box) := computation box
    next value box

structure Outside (σ : Type u) where
  reply : Http.Url → Http.Request → σ → Option Http.Reply × σ
  runDaemon : Config.Settings → Files → σ → Except Daemon.Error (Files × σ)

namespace Sandbox

variable {σ : Type u}

def start (files : Files) (outside : σ) : Sandbox σ := ⟨files, "", "", outside⟩

def surroundings (directory : String) (environment : Config.Environment) (outside : Outside σ) :
    Surroundings (Boxed σ) where
  environment := environment
  isPresent path := fun box => (box.files.isPresent directory path, box)
  readText path := fun box => (box.files.readText directory path, box)
  writeText path text := fun box =>
    match box.files.writeText directory path text with
    | .ok files => (.ok (), { box with files })
    | .error error => (.error error, box)
  send url request := fun box =>
    let (reply, state) := outside.reply url request box.outside
    (reply, { box with outside := state })
  runDaemon settings := fun box =>
    match outside.runDaemon settings box.files box.outside with
    | .ok (files, state) => (.ok (), { box with files, outside := state })
    | .error error => (.error error, box)
  print text := fun box => ((), { box with printed := box.printed ++ text })
  complain text := fun box => ((), { box with complaints := box.complaints ++ text })

end Sandbox

end BlockVolumes.Cli
