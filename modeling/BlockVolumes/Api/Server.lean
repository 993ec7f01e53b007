import BlockVolumes.Api.Wire
import BlockVolumes.Plugin.Server

/-!
The server of the native volume API. Requests that change something reply with status 200 and tell
the outcome; queries reply with what was asked for, or with a text and another status.
-/

namespace BlockVolumes.Api

open Plugin (send)
open Plugin.Server (orReply)
open Http (Handler Endpoint)

structure Server where
  registry : DriverRegistry
  driver : String

abbrev Parameters := List (String × String)

def volumesShape : Shape (List Volume) := .list Volume.shape

def parameter? (parameters : Parameters) (name : String) : Option String :=
  (parameters.find? (·.1 = name)).map (·.2)

def idParameters (parameters : Parameters) : List VolumeId :=
  (parameters.filter (·.1 = "volumeId")).map fun (_, value) => ⟨value⟩

def labelsParameter (parameters : Parameters) (name : String) :
    Except Http.Reply (Option Labels) :=
  match parameter? parameters name with
  | none => .ok none
  | some text =>
    match Shape.table.decodeText text with
    | .ok labels => .ok (some labels)
    | .error error => .error (.text 400 ("Failed to parse " ++ name ++ ": " ++ error.message))

def readFlag? (text : String) : Option Bool :=
  if text ∈ ["1", "t", "T", "true", "TRUE", "True"] then some true
  else if text ∈ ["0", "f", "F", "false", "FALSE", "False"] then some false
  else none

def cumulativeParameter (parameters : Parameters) : Except Http.Reply Bool :=
  match parameter? parameters "cumulative" with
  | none => .ok true
  | some text =>
    match readFlag? text with
    | some flag => .ok flag
    | none => .error (.text 400 ("Failed to parse cumulative option: '" ++ text ++ "'"))

def answer {α : Type} (shape : Shape α) (status : Nat) (trouble : String)
    (outcome : Except VolumeError α) : Http.Reply :=
  match outcome with
  | .ok value => send shape value
  | .error error => .text status (trouble ++ error.message)

/-- One after the other, up to the first that fails. -/
def actions (driver : VolumeDriver) (id : VolumeId) (action : Action) : Operation Unit := do
  match action.attach with
  | .on =>
    let _ ← driver.attach id
  | .off => driver.detach id
  | .none => pure ()
  match action.mount with
  | .on =>
    if action.path = "" then throw (.invalidRequest "Invalid mount path")
    driver.mount id action.path
  | .off => driver.unmount id action.path
  | .none => pure ()

def change (driver : VolumeDriver) (id : VolumeId) (request : SetRequest) : Operation Unit := do
  if request.locator.isSome || request.spec.isSome then
    driver.set id request.locator request.spec
  match request.action with
  | some action => actions driver id action
  | none => pure ()

/-- What is told of a volume after a change, however far the change got. -/
def setReply (outcome : Except VolumeError Unit) (inspected : Except VolumeError (List Volume)) :
    SetReply :=
  match outcome, inspected with
  | _, .ok [volume] => ⟨some volume, .of outcome⟩
  | .ok (), .ok _ => ⟨none, ⟨"Failed to inspect volume"⟩⟩
  | .ok (), .error error => ⟨none, .of (.error error : Except VolumeError Unit)⟩
  | .error _, _ => ⟨none, .of outcome⟩

def createReply : Except VolumeError VolumeId → CreateReply
  | .ok id => ⟨id.text, .success⟩
  | .error error => ⟨"", .of (.error error : Except VolumeError VolumeId)⟩

namespace Server

def withDriver (s : Server) (next : VolumeDriver → Routine Http.Reply) : Routine Http.Reply :=
  orReply (s.registry.resolve s.driver) next

def versions : Http.Reply := send (.list .text) ["v1"]

def create (s : Server) (body : List UInt8) : Routine Http.Reply :=
  orReply (CreateRequest.shape.ofBody body) fun request => s.withDriver fun driver => do
    let outcome ← (driver.create request.locator request.source request.spec).outcome
    return send CreateReply.shape (createReply outcome)

def snapshot (s : Server) (body : List UInt8) : Routine Http.Reply :=
  orReply (SnapshotRequest.shape.ofBody body) fun request => s.withDriver fun driver => do
    let outcome ← (driver.snapshot request.id request.readonly request.locator).outcome
    return send CreateReply.shape (createReply outcome)

def set (s : Server) (id : VolumeId) (body : List UInt8) : Routine Http.Reply :=
  orReply (SetRequest.shape.ofBody body) fun request => s.withDriver fun driver => do
    let outcome ← (change driver id request).outcome
    let inspected ← (driver.inspect [id]).outcome
    return send SetReply.shape (setReply outcome inspected)

def delete (s : Server) (id : VolumeId) : Routine Http.Reply :=
  s.withDriver fun driver => do
    return send Outcome.shape (.of (← (driver.delete id).outcome))

def inspect (s : Server) (id : VolumeId) : Routine Http.Reply :=
  s.withDriver fun driver => do
    return answer volumesShape 404 "" (← (driver.inspect [id]).outcome)

def enumerate (s : Server) (parameters : Parameters) : Routine Http.Reply :=
  s.withDriver fun driver =>
    orReply (labelsParameter parameters "label") fun labels =>
    orReply (labelsParameter parameters "configLabel") fun configLabels => do
      let locator : Locator := ⟨(parameter? parameters "name").getD "", labels.getD .empty⟩
      match idParameters parameters with
      | [] => return answer volumesShape 500 "" (← (driver.enumerate locator configLabels).outcome)
      | ids =>
        let outcome ← (driver.inspect ids).outcome
        return answer volumesShape 400 "Failed to inspect volumeID: " outcome

def snapshots (s : Server) (parameters : Parameters) : Routine Http.Reply :=
  s.withDriver fun driver =>
    orReply (labelsParameter parameters "label") fun labels => do
      let outcome ← (driver.snapshots (idParameters parameters) labels).outcome
      return answer volumesShape 400 "Failed to enumerate snaps: " outcome

def stats (s : Server) (id : Option VolumeId) (parameters : Parameters) : Routine Http.Reply :=
  orReply (cumulativeParameter parameters) fun cumulative => s.withDriver fun driver => do
    return answer Stats.shape 400 "Failed to get stats: " (← (driver.stats id cumulative).outcome)

def alerts (s : Server) (id : Option VolumeId) : Routine Http.Reply :=
  s.withDriver fun driver => do
    return answer Alerts.shape 400 "Failed to get alerts: " (← (driver.alerts id).outcome)

def requests (s : Server) : Routine Http.Reply :=
  s.withDriver fun driver => do
    return answer ActiveRequests.shape 400 "Failed to get active requests: "
      (← driver.activeRequests.outcome)

def route (names : List String) (methods : List (String × Handler)) : Http.Route :=
  ⟨names.map .fixed, methods.map fun (method, handler) => (method, .fixed handler)⟩

def routeWithId (names : List String) (methods : List (String × (VolumeId → Handler))) :
    Http.Route :=
  ⟨names.map .fixed ++ [.free], methods.map fun (method, handler) =>
    (method, .withId fun id => handler ⟨id⟩)⟩

def routes (s : Server) : List Http.Route :=
  [route ["volumes", "versions"] [("GET", .plain (return versions))],
   route ["v1", "volumes"] [("POST", .body s.create), ("GET", .query s.enumerate)],
   routeWithId ["v1", "volumes"]
    [("GET", fun id => .plain (s.inspect id)),
     ("PUT", fun id => .body (s.set id)),
     ("DELETE", fun id => .plain (s.delete id))],
   route ["v1", "volumes", "stats"] [("GET", .query (s.stats none))],
   routeWithId ["v1", "volumes", "stats"] [("GET", fun id => .query (s.stats (some id)))],
   route ["v1", "volumes", "alerts"] [("GET", .plain (s.alerts none))],
   routeWithId ["v1", "volumes", "alerts"] [("GET", fun id => .plain (s.alerts (some id)))],
   route ["v1", "volumes", "requests"] [("GET", .plain s.requests)],
   routeWithId ["v1", "volumes", "requests"] [("GET", fun _ => .plain s.requests)],
   route ["v1", "snapshots"] [("POST", .body s.snapshot), ("GET", .query s.snapshots)]]

def serve (s : Server) (request : Http.Request) : Routine Http.Reply :=
  Http.serve s.routes request

end Server

end BlockVolumes.Api
