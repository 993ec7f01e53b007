import BlockVolumes.Config.Basic
import BlockVolumes.Config.Listen
import BlockVolumes.Text.Path
import BlockVolumes.Text.Quoted

/-!
What a manifest has to satisfy, and the addresses that its servers listen on.
-/

namespace BlockVolumes.Config

inductive Error
  | unknownVersion (found : String)
  | unknownKind (found : String)
  | noName
  | noDriverName
  | nestedDriverName (name : String)
  | relativeBackingRoot (path : String)
  | noConnectTool
  | relativeMountBase (path : String)
  | listen (error : ListenError)
  | relativeStorePath (path : String)
  | noStorePath
  | unknownLogFormat (found : String)
deriving DecidableEq

namespace Error

def unknown (what found allowed : String) : String :=
  "Invalid " ++ what ++ ": '" ++ found ++ "'. Must be " ++ allowed

def relative (what path : String) : String := what ++ " must be absolute: " ++ Text.quoted path

def message : Error → String
  | unknownVersion found => unknown "apiVersion" found ("'" ++ Manifest.knownVersion ++ "'")
  | unknownKind found => unknown "kind" found ("'" ++ Manifest.knownKind ++ "'")
  | noName => "metadata.name cannot be empty"
  | noDriverName => "spec.driver.name cannot be empty"
  | nestedDriverName name => "spec.driver.name cannot contain '/': '" ++ name ++ "'"
  | relativeBackingRoot path => relative "spec.driver.backing_root" path
  | noConnectTool => "spec.driver.nbd_binary cannot be empty"
  | relativeMountBase path => relative "spec.plugin.mount_base" path
  | listen error => error.message
  | relativeStorePath path => relative "spec.store.path" path
  | noStorePath => "spec.store.path is required for the sled store"
  | unknownLogFormat found => unknown "observability.log_format" found "'compact' or 'json'"

end Error

def pluginSockets : String := "/run/docker/plugins"

def Settings.pluginListen (s : Settings) : Except ListenError ListenAddress :=
  match s.plugin.listen with
  | some given => ListenAddress.read given
  | none => .ok (.socket (Path.join pluginSockets (s.driver.name ++ ".sock")))

def Settings.apiListen (s : Settings) : Except ListenError ListenAddress :=
  ListenAddress.read s.api.listen

def DriverSettings.check (s : DriverSettings) : Except Error Unit :=
  if s.name = "" then .error .noDriverName
  else if '/' ∈ s.name.toList then .error (.nestedDriverName s.name)
  else if !Path.isAbsolute s.backingRoot then .error (.relativeBackingRoot s.backingRoot)
  else if s.connectTool = "" then .error .noConnectTool
  else .ok ()

def StoreSettings.check (s : StoreSettings) : Except Error Unit :=
  match s.kind, s.path with
  | .memory, _ => .ok ()
  | .disk, none => .error .noStorePath
  | .disk, some path => if Path.isAbsolute path then .ok () else .error (.relativeStorePath path)

def LogSettings.check (s : LogSettings) : Except Error Unit :=
  if s.format ∈ ["compact", "json"] then .ok () else .error (.unknownLogFormat s.format)

def Settings.check (s : Settings) : Except Error Unit := do
  s.driver.check
  if !Path.isAbsolute s.plugin.mountBase then throw (.relativeMountBase s.plugin.mountBase)
  let _ ← s.pluginListen.mapError .listen
  let _ ← s.apiListen.mapError .listen
  s.store.check
  s.log.check

def Manifest.check (m : Manifest) : Except Error Unit := do
  if m.version ≠ knownVersion then throw (.unknownVersion m.version)
  if m.kind ≠ knownKind then throw (.unknownKind m.kind)
  if m.metadata.name = "" then throw .noName
  m.settings.check

end BlockVolumes.Config
