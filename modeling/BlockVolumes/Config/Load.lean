import BlockVolumes.Config.Override
import BlockVolumes.IoError
import BlockVolumes.Text.Path
import BlockVolumes.Text.Quoted
import BlockVolumes.Yaml.Read

/-!
Where a configuration is looked for, and how it is read. The standard one stands in for a missing
one, and the environment has the last word.
-/

namespace BlockVolumes.Config

inductive Cause
  | io (error : IoError)
  | yaml (error : Yaml.Error)
deriving DecidableEq

/-- A file that was asked for by name is named. -/
structure LoadError where
  path : Option String
  cause : Cause
deriving DecidableEq

def Cause.message : Cause → String
  | io error => error.message
  | yaml error => error.message

def LoadError.message (e : LoadError) : String :=
  match e.path with
  | some path =>
    "Failed to load config at " ++ Text.quoted path ++ ": " ++ e.cause.message
  | none => e.cause.message

universe u

structure FileReader (m : Type → Type u) where
  isPresent : String → m Bool
  readText : String → m (Except IoError String)

def pathVariable : String := "OPENBLOCK_CONFIG_PATH"

def localPath : String := "./openblock-config.yaml"

def homePath (home : String) : String :=
  Path.join (Path.join home ".openblock") "config.yaml"

def systemPath : String := "/etc/openblock/config.yaml"

/-- The places where a configuration may be; the earlier ones are preferred. -/
def candidates (environment : Environment) : List String :=
  let home := (environment.get? "HOME").filter (· ≠ "")
  (environment.get? pathVariable).toList ++ [localPath] ++ (home.map homePath).toList ++
    [systemPath]

section

variable {m : Type → Type u} [Monad m]

def firstPresent (files : FileReader m) : List String → m (Option String)
  | [] => return none
  | path :: rest => do
    if ← files.isPresent path then return some path
    else firstPresent files rest

def discover (files : FileReader m) (environment : Environment) : m (Option String) :=
  firstPresent files (candidates environment)

def parse (text : String) : Except Cause Manifest := (Manifest.shape.decodeYaml text).mapError .yaml

def readFile (files : FileReader m) (path : String) : m (Except Cause Manifest) := do
  match ← files.readText path with
  | .ok text => return parse text
  | .error error => return .error (.io error)

/-- The manifest before the environment overrides it. -/
def find (files : FileReader m) (environment : Environment) (path : Option String) :
    m (Except LoadError Manifest) := do
  match path with
  | some path => return (← readFile files path).mapError (⟨some path, ·⟩)
  | none =>
    match ← discover files environment with
    | some path => return (← readFile files path).mapError (⟨none, ·⟩)
    | none => return .ok .standard

def load (files : FileReader m) (environment : Environment) (path : Option String) :
    m (Except LoadError Manifest) := do
  return (← find files environment path).map (·.overridden environment)

end

end BlockVolumes.Config
