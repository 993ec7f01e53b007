import BlockVolumes.Driver.Registry
import BlockVolumes.Http.Route
import BlockVolumes.Json.Read
import BlockVolumes.Plugin.Mounting
import BlockVolumes.Plugin.Wire
import BlockVolumes.Volume.Options

/-!
The server of the volume plugin protocol. Volumes go by name; what an operation could not do is told
in a reply of status 200.
-/

namespace BlockVolumes

universe u

def Shape.ofBody {α : Type} (shape : Shape α) (body : List UInt8) : Except Http.Reply α :=
  (shape.decode body).mapError fun error =>
    .text 400 ("Unable to decode JSON payload: " ++ error.message)

def DriverRegistry.resolve (r : DriverRegistry) (name : String) : Except Http.Reply VolumeDriver :=
  (r.get name).mapError fun error => .text 404 error.message

namespace Plugin

open Http (Handler)

structure Server where
  registry : DriverRegistry
  driver : String
  mountBase : String

def send {α : Type} (shape : Shape α) (value : α) : Http.Reply := .json (shape.toJson value)

def success : Http.Reply := send Reply.shape ⟨""⟩

def failure (error : String) : Http.Reply := send Reply.shape ⟨error⟩

def failureOf : Except VolumeError Unit → Http.Reply
  | .ok () => success
  | .error error => failure error.message

/-- A volume that was not found is told in other words by some requests. -/
def notLocated (error : VolumeError) : Http.Reply :=
  failure ("Failed to locate volume: " ++ error.message)

def dataPath (mounted : String) : String := Path.join mounted ".data"

def infoOf (name : String) (volume : Volume) : VolumeInfo :=
  ⟨name, (volume.mountPath?.map dataPath).getD ""⟩

namespace Server

def underName {α : Type} (name : String) (work : Routine α) : Routine α := do
  let claim ← Routine.perform (.lockName name)
  let result ← work
  Routine.perform (.unlockName claim)
  return result

def orReply {α : Type u} (found : Except Http.Reply α) (next : α → Routine Http.Reply) :
    Routine Http.Reply :=
  match found with
  | .ok value => next value
  | .error reply => return reply

def placeOf (s : Server) (name : String) : String := Path.join s.mountBase name

def nameOf (raw : String) : String := GivenName.nameOf .standard raw

/-- What a new volume is to be, from its name or from the options beside it. -/
def requested (given : GivenName) (options : Option Labels) :
    Except VolumeError (Spec × Labels) :=
  match given.spec with
  | some spec => .ok (spec, given.labels)
  | none => (Spec.standard.ofOptions (options.getD .empty)).mapError OptionError.toVolumeError

/-- A volume that is there already is left as it is. -/
def createNamed (driver : VolumeDriver) (given : GivenName) (options : Option Labels) :
    Operation Unit := do
  match ← ExceptT.lift (volumeNamed driver given.name).outcome with
  | .ok _ => return ()
  | .error _ =>
    let (spec, labels) ← ExceptT.mk (.done (requested given options))
    let _ ← driver.create ⟨given.name, labels⟩ none spec

def create (s : Server) (body : List UInt8) : Routine Http.Reply :=
  orReply (VolumeRequest.shape.ofBody body) fun request =>
    match GivenName.read .standard request.name with
    | .error error => return failure error.toVolumeError.message
    | .ok given => orReply (s.registry.resolve s.driver) fun driver => do
      return failureOf (← underName given.name (createNamed driver given request.options).outcome)

def removeNamed (driver : VolumeDriver) (name : String) : Operation Unit := do
  let volume ← volumeNamed driver name
  driver.delete volume.id

def remove (s : Server) (body : List UInt8) : Routine Http.Reply :=
  orReply (VolumeRequest.shape.ofBody body) fun request =>
    orReply (s.registry.resolve s.driver) fun driver => do
      let name := nameOf request.name
      return failureOf (← underName name (removeNamed driver name).outcome)

def mount (s : Server) (body : List UInt8) : Routine Http.Reply :=
  orReply (s.registry.resolve s.driver) fun driver =>
    orReply (MountRequest.shape.ofBody body) fun request => do
      let name := nameOf request.name
      let place := s.placeOf name
      match ← underName name (Plugin.mount driver name place).outcome with
      | .ok () => return send PathReply.shape ⟨place, ""⟩
      | .error error => return failure error.message

def look (s : Server) (body : List UInt8) (answer : String → Volume → Http.Reply) :
    Routine Http.Reply :=
  orReply (VolumeRequest.shape.ofBody body) fun request =>
    orReply (s.registry.resolve s.driver) fun driver => do
      let name := nameOf request.name
      match ← (volumeNamed driver name).outcome with
      | .ok volume => return answer name volume
      | .error error => return notLocated error

def path (s : Server) (body : List UInt8) : Routine Http.Reply :=
  s.look body fun _ volume =>
    match volume.mountPath? with
    | some mounted => send PathReply.shape ⟨dataPath mounted, ""⟩
    | none => failure "volume not mounted"

def get (s : Server) (body : List UInt8) : Routine Http.Reply :=
  s.look body fun name volume => send GetReply.shape ⟨infoOf name volume⟩

def list (s : Server) : Routine Http.Reply :=
  orReply (s.registry.resolve s.driver) fun driver => do
    match ← (driver.enumerate .any none).outcome with
    | .ok volumes => return send ListReply.shape ⟨volumes.map fun v => infoOf v.locator.name v⟩
    | .error error => return failure error.message

def unmountNamed (driver : VolumeDriver) (name place : String) : Routine Http.Reply := do
  match ← (volumeNamed driver name).outcome with
  | .error error => return notLocated error
  | .ok volume => return failureOf (← (Plugin.unmount driver volume place).outcome)

def unmount (s : Server) (body : List UInt8) : Routine Http.Reply :=
  orReply (s.registry.resolve s.driver) fun driver =>
    orReply (MountRequest.shape.ofBody body) fun request =>
      let name := nameOf request.name
      underName name (unmountNamed driver name (s.placeOf name))

def capabilities : Http.Reply := send CapabilitiesReply.shape ⟨⟨"global"⟩⟩

def handshake : Http.Reply := send Handshake.shape ⟨["VolumeDriver"]⟩

def status : Http.Reply := .text 200 "openblock plugin 0.3\n"

def post (name : String) (handler : Handler) : Http.Route :=
  ⟨[.fixed name], [("POST", .fixed handler)]⟩

def routes (s : Server) : List Http.Route :=
  [post "VolumeDriver.Create" (.body s.create),
   post "VolumeDriver.Remove" (.body s.remove),
   post "VolumeDriver.Mount" (.body s.mount),
   post "VolumeDriver.Path" (.body s.path),
   post "VolumeDriver.List" (.plain s.list),
   post "VolumeDriver.Get" (.body s.get),
   post "VolumeDriver.Unmount" (.body s.unmount),
   post "VolumeDriver.Capabilities" (.plain (return capabilities)),
   post "Plugin.Activate" (.plain (return handshake)),
   ⟨[.fixed "status"], [("GET", .fixed (.plain (return status)))]⟩]

def serve (s : Server) (request : Http.Request) : Routine Http.Reply :=
  Http.serve s.routes request

end Server

end Plugin

end BlockVolumes
