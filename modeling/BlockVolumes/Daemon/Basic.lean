import BlockVolumes.Api.Server
import BlockVolumes.Config.Check
import BlockVolumes.Daemon.Listen
import BlockVolumes.Driver.Block
import BlockVolumes.Plugin.Server

/-!
The daemon: one driver on a machine, behind a plugin server and a server of the native API. What
cannot be made ready ends it before it serves; a server that cannot listen does not stop the other.
-/

namespace BlockVolumes

inductive Service
  | plugin
  | api
deriving DecidableEq

def Service.name : Service → String
  | plugin => "plugin"
  | api => "api"

structure Daemon where
  fleet : Fleet
  driver : String
  mountBase : String
  listening : List (ListenAddress × Service)

namespace Daemon

inductive Error
  | metricsAddress (given : String)
  | noStorePath
  | store (path : String) (error : StoreError)
  | driver (error : VolumeError)
  | initialization (error : VolumeError)
  | registration (error : RegistryError)
  | listen (error : ListenError)

def Error.chain : Error → List String
  | metricsAddress given =>
    ["Invalid metrics listen address '" ++ given ++ "'", "invalid socket address syntax"]
  | noStorePath => [(Config.Error.noStorePath).message]
  | store path error => ["Failed to open volume store at " ++ Text.quoted path, error.message]
  | driver error => "Failed to create block volume driver" :: error.chain
  | initialization error => "Failed to initialize block volume driver" :: error.chain
  | registration error => ["Failed to register volume driver", error.message]
  | listen error => [error.message]

/-- A store on disk is a directory, with another one in it. -/
def openStore (s : Config.StoreSettings) (files : Files) : Except Error (Store × Files) :=
  match s.kind, s.path with
  | .memory, _ => .ok (.inMemory, files)
  | .disk, none => .error .noStorePath
  | .disk, some path =>
    match files.makeDirectories (Path.join path "blobs") with
    | .ok files => .ok (.onDisk, files)
    | .error error =>
      .error (.store path (.database ("Failed to open database: IO error: " ++ error.message)))

def checkMetrics (s : Config.LogSettings) : Except Error Unit :=
  match s.metrics with
  | some given => if Network.isNumeric given.toList then .ok () else .error (.metricsAddress given)
  | none => .ok ()

def listen (d : Daemon) (service : Service) (address : ListenAddress) : Daemon :=
  match address.bind service.name d.fleet.machine.files with
  | .ok files =>
    { d with
      fleet := { d.fleet with machine := { d.fleet.machine with files } }
      listening := d.listening ++ [(address, service)] }
  | .error _ => d

def makeDriver (s : Config.DriverSettings) (holdings : Holdings) (machine : Machine) :
    Except Error Fleet :=
  let unit : BlockDriver := ⟨s.name, s.backingRoot⟩
  match machine.files.makeDirectories unit.root with
  | .error error => .error (.driver (.io error))
  | .ok files =>
    match (Fleet.mk .empty .empty { machine with files }).register unit.toVolumeDriver
      holdings with
    | .error error => .error (.registration error)
    | .ok fleet =>
      match fleet.run unit.name unit.init.outcome with
      | (.ok (), fleet) => .ok fleet
      | (.error error, _) => .error (.initialization error)

def prepare (s : Config.Settings) (files : Files) :
    Except Error (Store × Files × ListenAddress × ListenAddress) := do
  checkMetrics s.log
  let (store, files) ← openStore s.store files
  let plugin ← s.pluginListen.mapError .listen
  let api ← s.apiListen.mapError .listen
  return (store, files, plugin, api)

def start (s : Config.Settings) (connector : Connector) (host : Host) (machine : Machine) :
    Except Error Daemon :=
  match prepare s machine.files with
  | .error error => .error error
  | .ok (store, files, plugin, api) =>
    match makeDriver s.driver (.fresh store connector host) { machine with files } with
    | .error error => .error error
    | .ok fleet =>
      let d : Daemon := ⟨fleet, s.driver.name, s.plugin.mountBase, []⟩
      .ok ((d.listen .plugin plugin).listen .api api)

def handle (d : Daemon) (request : Http.Request) : Service → Routine Http.Reply
  | .plugin => Plugin.Server.serve ⟨d.fleet.registry, d.driver, d.mountBase⟩ request
  | .api => Api.Server.serve ⟨d.fleet.registry, d.driver⟩ request

def request (d : Daemon) (path : String) (request : Http.Request) : Option Http.Reply × Daemon :=
  let atPath : ListenAddress × Service → Bool
    | (.socket own, _) => Path.same own path
    | (.network _, _) => false
  match d.listening.reverse.find? atPath with
  | some (_, service) =>
    let (reply, fleet) := d.fleet.run d.driver (d.handle request service)
    (some reply, { d with fleet })
  | none => (none, d)

def stop (d : Daemon) : Machine :=
  let released (files : Files) (listener : ListenAddress × Service) : Files :=
    listener.1.release files
  let machine := d.fleet.shutDownAll.machine
  { machine with files := d.listening.foldl released machine.files }

end Daemon

end BlockVolumes
