import BlockVolumes.Driver.Routine
import BlockVolumes.Http.Message

/-!
Routes: which handler a request goes to. A fixed segment is preferred to a free one, which holds an
ID.
-/

namespace BlockVolumes.Http

inductive Segment
  | fixed (name : String)
  | free

/-- What a handler reads of a request: nothing, the query, the body. -/
inductive Handler
  | plain (handle : Routine Reply)
  | query (handle : List (String × String) → Routine Reply)
  | body (handle : List UInt8 → Routine Reply)

/-- A handler that may be told the ID in the path. -/
inductive Endpoint
  | fixed (handler : Handler)
  | withId (handler : String → Handler)

structure Route where
  pattern : List Segment
  methods : List (String × Endpoint)

namespace Segment

def fits : Segment → List UInt8 → Bool
  | fixed name, segment => name.toUTF8.toList == segment
  | free, segment => segment != []

end Segment

namespace Route

def fits (r : Route) (segments : List (List UInt8)) : Bool :=
  r.pattern.length == segments.length &&
    (r.pattern.zip segments).all fun (p, segment) => p.fits segment

def freeSegment (r : Route) (segments : List (List UInt8)) : List UInt8 :=
  ((r.pattern.zip segments).findSome? fun (p, segment) =>
    match p with
    | .free => some segment
    | .fixed _ => none).getD []

def isFixed (r : Route) : Bool :=
  r.pattern.all fun
    | .fixed _ => true
    | .free => false

/-- The allowed methods as declared; whatever may be got may also be asked for without its body. -/
def allowed (r : Route) : String :=
  String.intercalate "," (r.methods.flatMap fun (name, _) =>
    if name = "GET" then ["GET", "HEAD"] else [name])

def endpoint? (r : Route) (method : String) : Option Endpoint :=
  (r.methods.find? (·.1 = method)).map (·.2)

end Route

def Handler.run (h : Handler) (request : Request) : Routine Reply :=
  match h with
  | .plain handle => handle
  | .query handle => handle (queryPairs request.uri.query)
  | .body handle =>
    if bodyLimit < request.body.length then return tooLarge else handle request.body

def Endpoint.run (e : Endpoint) (free : List UInt8) (request : Request) : Routine Reply :=
  match e with
  | .fixed handler => handler.run request
  | .withId handler =>
    match Text.decode? (unescape free) with
    | some id => (handler id).run request
    | none => return badId

/-- The route for a path: of those that fit, a wholly fixed one if there is one. -/
def findRoute (routes : List Route) (segments : List (List UInt8)) : Option Route :=
  let fitting := routes.filter (·.fits segments)
  (fitting.find? (·.isFixed)).or fitting.head?

def serve (routes : List Route) (request : Request) : Routine Reply := do
  match request.uri.segments? with
  | none => return .empty 404
  | some segments =>
    match findRoute routes segments with
    | none => return .empty 404
    | some route =>
      let run (e : Endpoint) := e.run (route.freeSegment segments) request
      match route.endpoint? request.method, request.method with
      | some endpoint, _ => run endpoint
      | none, "HEAD" =>
        match route.endpoint? "GET" with
        | some endpoint => run endpoint
        | none => return ⟨405, .none, some route.allowed⟩
      | none, _ => return ⟨405, .none, some route.allowed⟩

end BlockVolumes.Http
