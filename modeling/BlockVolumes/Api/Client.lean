import BlockVolumes.Api.Server
import BlockVolumes.Http.Url

/-!
The client of the native volume API. A call says what to request, and what its reply means.
-/

namespace BlockVolumes.Api

/-- Why a call gave nothing. `trouble` and `task` say what was being done. -/
inductive ClientError
  | badAddress (trouble : String) (fault : Http.UrlFault)
  | unreachable (trouble url : String)
  | refused (task : String) (status : Nat) (content : String)
  | unreadable (task : String) (error : Json.Error)
  | failed (task message : String)
  | notOne (id : VolumeId) (count : Nat)
  | missing (id : VolumeId)

def statusText (status : Nat) : String :=
  let reason := match status with
    | 400 => "Bad Request"
    | 404 => "Not Found"
    | 405 => "Method Not Allowed"
    | 413 => "Payload Too Large"
    | 500 => "Internal Server Error"
    | _ => "<unknown status code>"
  toString status ++ " " ++ reason

def ClientError.chain : ClientError → List String
  | badAddress trouble fault => [trouble, "builder error", fault.message]
  | unreachable trouble url =>
    [trouble, "error sending request for url (" ++ url ++ ")", "client error (Connect)",
      "tcp connect error", IoError.connectionRefused.message]
  | refused task status content =>
    ["Failed to " ++ task ++ " (" ++ statusText status ++ "): " ++
      String.ofList (Text.trim content.toList)]
  | unreadable task error =>
    ["Failed to parse " ++ task ++ " response", "error decoding response body", error.message]
  | failed task message => ["Failed to " ++ task ++ ": " ++ message]
  | notOne id count => ["Expected one volume for " ++ id.text ++ ", got " ++ toString count]
  | missing id => ["Volume " ++ id.text ++ " missing from update response"]

/-- `read` takes the content of a reply whose status tells success. -/
structure Call (α : Type) where
  task : String
  trouble : String
  method : String
  target : String
  query : List (String × String)
  body : List UInt8
  read : String → Except ClientError α

namespace Call

variable {α β : Type}

def request (c : Call α) (uri : Http.Uri) : Http.Request :=
  ⟨c.method, uri.withQuery c.query, c.body⟩

def directRequest (c : Call α) : Http.Request := c.request (.normal c.target.toUTF8.toList)

def isSuccess (status : Nat) : Bool := 200 ≤ status && status < 300

def interpret (c : Call α) (reply : Http.Reply) : Except ClientError α :=
  if isSuccess reply.status then c.read (reply.contentFor c.method)
  else .error (.refused c.task reply.status (reply.contentFor c.method))

def onServer (c : Call α) (server : Server) : Routine (Except ClientError α) := do
  return c.interpret (← server.serve c.directRequest)

def decode (shape : Shape α) (task content : String) : Except ClientError α :=
  (shape.decodeText content).mapError (.unreadable task)

def get (shape : Shape α) (task trouble target : String) (query : List (String × String)) :
    Call α where
  task := task
  trouble := trouble
  method := "GET"
  target := target
  query := query
  body := []
  read := decode shape task

def change (shape : Shape β) (outcome : β → Outcome) (task method target : String)
    (body : List UInt8) (result : β → Except ClientError α) : Call α where
  task := task
  trouble := "Failed to " ++ task
  method := method
  target := target
  query := []
  body := body
  read := fun content => do
    let reply ← decode shape task content
    if (outcome reply).isOk then result reply else .error (.failed task (outcome reply).error)

end Call

def volumesTarget : String := "/v1/volumes"

def snapshotsTarget : String := "/v1/snapshots"

def targetOf (id : VolumeId) : String := volumesTarget ++ "/" ++ id.text

def bodyOf {α : Type} (shape : Shape α) (value : α) : List UInt8 := (shape.toJson value).bytes

namespace Client

def versions : Call (List String) :=
  .get (.list .text) "list API versions" "Failed to reach volume API" "/volumes/versions" []

def createdId (reply : CreateReply) : Except ClientError VolumeId := .ok ⟨reply.id⟩

def create (locator : Locator) (spec : Spec) : Call VolumeId :=
  .change CreateReply.shape (·.outcome) "create volume" "POST" volumesTarget
    (bodyOf CreateRequest.shape ⟨locator, none, spec⟩) createdId

def inspect (id : VolumeId) : Call Volume where
  task := "inspect volume"
  trouble := "Failed to inspect volume"
  method := "GET"
  target := targetOf id
  query := []
  body := []
  read := fun content => do
    match ← Call.decode volumesShape "inspect volume" content with
    | [volume] => return volume
    | volumes => throw (.notOne id volumes.length)

def enumerate (name : Option String) (labels : Option Labels) : Call (List Volume) :=
  let named := (name.map fun name => ("name", name)).toList
  let labelled := (labels.map fun labels => ("label", (Shape.table.toJson labels).compact)).toList
  .get volumesShape "enumerate volumes" "Failed to enumerate volumes" volumesTarget
    (named ++ labelled)

def delete (id : VolumeId) : Call Unit :=
  .change Outcome.shape (fun outcome => outcome) "delete volume" "DELETE" (targetOf id) []
    fun _ => .ok ()

def set (id : VolumeId) (request : SetRequest) : Call Volume :=
  .change SetReply.shape (·.outcome) "update volume" "PUT" (targetOf id)
    (bodyOf SetRequest.shape request) fun reply =>
      match reply.volume with
      | some volume => .ok volume
      | none => .error (.missing id)

def snapshot (id : VolumeId) (locator : Locator) (readonly : Bool) : Call VolumeId :=
  .change CreateReply.shape (·.outcome) "snapshot volume" "POST" snapshotsTarget
    (bodyOf SnapshotRequest.shape ⟨id, readonly, locator⟩) createdId

def snapshots (parent : Option VolumeId) : Call (List Volume) :=
  .get volumesShape "list snapshots" "Failed to list snapshots" snapshotsTarget
    ((parent.map fun id => ("volumeId", id.text)).toList)

end Client

def baseUrl (endpoint : String) : String :=
  let trimmed := (endpoint.toList.reverse.dropWhile (· = '/')).reverse
  if "http://".toList.isPrefixOf trimmed || "https://".toList.isPrefixOf trimmed then
    String.ofList trimmed
  else "http://" ++ String.ofList (afterLeads trimmed.length trimmed)
where
  /-- Drops all leads of network addresses. -/
  afterLeads : Nat → List Char → List Char
    | 0, s => s
    | count + 1, s =>
      match Text.after? "tcp://".toList s with
      | some rest => afterLeads count rest
      | none => s

end BlockVolumes.Api
