import BlockVolumes.Api.Client
import BlockVolumes.Proofs.Driver.Mishap
import BlockVolumes.Proofs.Http.Target

/-! Which handler the calls of a client come to, and what the client makes of its reply. -/

namespace BlockVolumes.Api

open Http (bodyLimit tooLarge PlainSegment standsForItself)
open Http.Uri (ofSegments)

variable {α β : Type} {s : Server} {id : VolumeId}

/-- Segments that are not kept in a path, or lead nowhere. -/
def fleeting : List String := ["", ".", ".."]

def telemetry : List String := ["stats", "alerts", "requests"]

/-- Segments that do not lead to the volume of that ID. -/
def reserved : List String := fleeting ++ telemetry

def PlainId (id : VolumeId) : Prop := ∀ c ∈ id.text.toList, standsForItself c = true

def routeNames : List String := ["", "v1", "volumes", "snapshots", "stats", "alerts", "requests"]

theorem plain_routeNames {segments : List String} (known : segments ⊆ routeNames) :
    ∀ name ∈ segments, PlainSegment name := by
  have characters : ∀ name ∈ routeNames,
      name.toList.all standsForItself = true ∧ name ≠ "." ∧ name ≠ ".." := by
    decide +kernel
  intro name member
  obtain ⟨plain, dot, dots⟩ := characters name (known member)
  exact ⟨List.all_eq_true.1 plain, dot, dots⟩

theorem PlainId.segment (plain : PlainId id) (free : id.text ∉ reserved) :
    PlainSegment id.text := by
  refine ⟨plain, ?_, ?_⟩ <;> rintro same <;> simp [reserved, fleeting, same] at free

theorem plain_volume (plain : PlainSegment id.text) :
    ∀ name ∈ ["v1", "volumes", id.text], PlainSegment name := by
  have known : ∀ name ∈ ["v1", "volumes"], PlainSegment name := plain_routeNames (by decide)
  exact List.forall_mem_append.2 ⟨known, List.forall_mem_singleton.2 plain⟩

namespace Server

theorem findRoute_volumes (s : Server) :
    Http.findRoute s.routes (["v1", "volumes"].map (·.toUTF8.toList)) =
      some (route ["v1", "volumes"] [("POST", .body s.create), ("GET", .query s.enumerate)]) := by
  rw [Http.findRoute_texts]
  rfl

theorem findRoute_snapshots (s : Server) :
    Http.findRoute s.routes (["v1", "snapshots"].map (·.toUTF8.toList)) =
      some (route ["v1", "snapshots"]
        [("POST", .body s.snapshot), ("GET", .query s.snapshots)]) := by
  rw [Http.findRoute_texts]
  rfl

theorem serve_create (s : Server) (body : List UInt8) :
    s.serve ⟨"POST", ⟨ofSegments ["v1", "volumes"], []⟩, body⟩ =
      if bodyLimit < body.length then return tooLarge else s.create body := by
  rw [serve,
    Http.serve_of_endpoint (by simp) (plain_routeNames (by decide)) s.findRoute_volumes rfl]
  rfl

theorem serve_snapshot (s : Server) (body : List UInt8) :
    s.serve ⟨"POST", ⟨ofSegments ["v1", "snapshots"], []⟩, body⟩ =
      if bodyLimit < body.length then return tooLarge else s.snapshot body := by
  rw [serve,
    Http.serve_of_endpoint (by simp) (plain_routeNames (by decide)) s.findRoute_snapshots rfl]
  rfl

theorem findRoute_nowhere (s : Server) :
    Http.findRoute s.routes (["v1", "volumes", ""].map (·.toUTF8.toList)) = none ∧
      Http.findRoute s.routes (["v1", ""].map (·.toUTF8.toList)) = none := by
  rw [Http.findRoute_texts, Http.findRoute_texts]
  exact ⟨rfl, rfl⟩

def volumeRoute (s : Server) : Http.Route :=
  routeWithId ["v1", "volumes"]
    [("GET", fun id => .plain (s.inspect id)),
     ("PUT", fun id => .body (s.set id)),
     ("DELETE", fun id => .plain (s.delete id))]

theorem findRoute_volume (s : Server) {name : String} (free : name ∉ reserved) :
    Http.findRoute s.routes (["v1", "volumes", name].map (·.toUTF8.toList)) =
      some s.volumeRoute := by
  rw [Http.findRoute_texts]
  simp only [reserved, fleeting, telemetry, List.mem_append, List.mem_cons, not_or] at free
  obtain ⟨⟨given, -, -, -⟩, stats, alerts, requests, -⟩ := free
  have own : (name != "") = true := bne_iff_ne.2 given
  have notStats : ("stats" == name) = false := beq_false_of_ne (Ne.symm stats)
  have notAlerts : ("alerts" == name) = false := beq_false_of_ne (Ne.symm alerts)
  have notRequests : ("requests" == name) = false := beq_false_of_ne (Ne.symm requests)
  simp only [routes, route, routeWithId, List.filter, Http.Route.suits, Http.Segment.suits,
    List.map_cons, List.map_nil, List.cons_append, List.nil_append, List.zip_cons_cons,
    List.zip_nil_left, List.zip_nil_right, List.all_cons, List.all_nil, List.length_cons,
    List.length_nil, own, notStats, notAlerts, notRequests]
  rfl

theorem serve_volume (s : Server) (plain : PlainSegment id.text) (free : id.text ∉ reserved)
    {method : String} {handler : String → Http.Handler}
    (known : s.volumeRoute.endpoint? method = some (.withId handler)) (body : List UInt8) :
    s.serve ⟨method, ⟨ofSegments ["v1", "volumes", id.text], []⟩, body⟩ =
      (handler id.text).run ⟨method, ⟨ofSegments ["v1", "volumes", id.text], []⟩, body⟩ := by
  have place : s.volumeRoute.freeSegment (["v1", "volumes", id.text].map (·.toUTF8.toList)) =
    id.text.toUTF8.toList := rfl
  rw [serve, Http.serve_of_endpoint (by simp) (plain_volume plain) (s.findRoute_volume free) known,
    place, Http.Endpoint.run, plain.decode?_unescape]

theorem endpoint_delete (s : Server) :
    s.volumeRoute.endpoint? "DELETE" = some (.withId fun id => .plain (s.delete ⟨id⟩)) := rfl

theorem endpoint_set (s : Server) :
    s.volumeRoute.endpoint? "PUT" = some (.withId fun id => .body (s.set ⟨id⟩)) := rfl

theorem findRoute_reserved (s : Server) {name : String}
    (told : name ∈ telemetry) :
    ∃ handler, Http.findRoute s.routes (["v1", "volumes", name].map (·.toUTF8.toList)) =
      some (route ["v1", "volumes", name] [("GET", handler)]) := by
  rw [Http.findRoute_texts]
  simp only [telemetry, List.mem_cons, List.not_mem_nil, or_false] at told
  rcases told with rfl | rfl | rfl
  · exact ⟨_, rfl⟩
  · exact ⟨_, rfl⟩
  · exact ⟨_, rfl⟩

end Server

namespace Call

theorem directRequest_eq {c : Call α} {segments : List String}
    (target : Http.Uri.normal c.target.toUTF8.toList = ⟨ofSegments segments, []⟩)
    (bare : c.query = []) : c.directRequest = ⟨c.method, ⟨ofSegments segments, []⟩, c.body⟩ := by
  rw [directRequest, request, target, bare]
  rfl

end Call

theorem target_volumes : Http.Uri.normal volumesTarget.toUTF8.toList =
    ⟨ofSegments ["v1", "volumes"], []⟩ := by
  decide +kernel

theorem target_snapshots : Http.Uri.normal snapshotsTarget.toUTF8.toList =
    ⟨ofSegments ["v1", "snapshots"], []⟩ := by
  decide +kernel

theorem toUTF8_targetOf (id : VolumeId) :
    (targetOf id).toUTF8.toList = ofSegments ["v1", "volumes", id.text] := by
  have lead : Text.utf8 (volumesTarget ++ "/").toList =
      Http.Uri.slash :: "v1".toUTF8.toList ++ Http.Uri.slash :: "volumes".toUTF8.toList ++
        [Http.Uri.slash] := by
    decide +kernel
  rw [targetOf, Text.toUTF8_toList, String.toList_append, Text.utf8_append, lead,
    ← Text.toUTF8_toList, ofSegments]
  simp only [List.map_cons, List.map_nil, Http.intercalate_cons_cons]
  simp [List.intercalate]

theorem target_volume (plain : PlainSegment id.text) :
    Http.Uri.normal (targetOf id).toUTF8.toList =
      ⟨ofSegments ["v1", "volumes", id.text], []⟩ := by
  rw [toUTF8_targetOf, Http.Uri.normal_ofSegments (by simp) (plain_volume plain)]

theorem onServer_eq {c : Call α} {work : Routine β} {reply : β → Http.Reply}
    {tell : β → Except ClientError α}
    (tells : ∀ outcome, c.interpret (reply outcome) = tell outcome)
    (serves : s.serve c.directRequest = do return reply (← work)) :
    c.onServer s = do return tell (← work) := by
  rw [Call.onServer, serves, Routine.bind_assoc]
  congr 1
  funext outcome
  rw [← tells]
  rfl

theorem onServer_body {c : Call α} {work : Routine β} {reply : β → Http.Reply}
    {tell : β → Except ClientError α} (whole : c.method ≠ "HEAD")
    (tells : ∀ outcome, c.interpret (reply outcome) = tell outcome)
    (serves : s.serve c.directRequest =
      if bodyLimit < c.body.length then return tooLarge else do return reply (← work)) :
    c.onServer s =
      if bodyLimit < c.body.length then return .error (.refused c.task 413 tooLarge.content)
      else do return tell (← work) := by
  by_cases large : bodyLimit < c.body.length
  · have content : tooLarge.contentFor c.method = tooLarge.content := if_neg whole
    rw [if_pos large] at serves ⊢
    rw [Call.onServer, serves]
    show (return c.interpret tooLarge : Routine _) = _
    rw [Call.interpret, content]
    rfl
  · rw [if_neg large] at serves ⊢
    exact onServer_eq tells serves

theorem onServer_refused {c : Call α} {status : Nat} {allow : Option String}
    (failure : Call.isSuccess status = false)
    (serves : s.serve c.directRequest = return ⟨status, .none, allow⟩) :
    c.onServer s = return .error (.refused c.task status "") := by
  have content : (⟨status, .none, allow⟩ : Http.Reply).contentFor c.method = "" := by
    rw [Http.Reply.contentFor, Http.Reply.content, ite_self]
  rw [Call.onServer, serves]
  show (return c.interpret _ : Routine _) = _
  rw [Call.interpret, content, failure]
  rfl

section Reserved

variable {c : Call α} (target : c.target = targetOf id) (bare : c.query = [])

include target bare

theorem fleeting_onServer (taken : id.text ∈ fleeting) :
    c.onServer s = return .error (.refused c.task 404 "") := by
  have nowhere {segments : List String} (given : segments ≠ []) (known : segments ⊆ routeNames)
      (normal : Http.Uri.normal (targetOf id).toUTF8.toList = ⟨ofSegments segments, []⟩)
      (none : Http.findRoute s.routes (segments.map (·.toUTF8.toList)) = none) :
      c.onServer s = return .error (.refused c.task 404 "") := by
    have serves : s.serve c.directRequest = return Http.Reply.empty 404 := by
      rw [Call.directRequest_eq (target ▸ normal) bare]
      exact Http.serve_of_nowhere given (plain_routeNames known) none _
    exact onServer_refused rfl serves
  obtain ⟨text⟩ := id
  simp only [fleeting, List.mem_cons, List.not_mem_nil, or_false] at taken
  rcases taken with rfl | rfl | rfl
  · exact nowhere (by simp) (by decide) (by decide +kernel) s.findRoute_nowhere.1
  · exact nowhere (by simp) (by decide) (by decide +kernel) s.findRoute_nowhere.1
  · exact nowhere (by simp) (by decide) (by decide +kernel) s.findRoute_nowhere.2

theorem telemetry_onServer (changes : c.method ≠ "GET") (whole : c.method ≠ "HEAD")
    (taken : id.text ∈ telemetry) : c.onServer s = return .error (.refused c.task 405 "") := by
  obtain ⟨handler, found⟩ := s.findRoute_reserved taken
  have known : ["v1", "volumes", id.text] ⊆ routeNames := by
    have all : ∀ name ∈ telemetry, ["v1", "volumes", name] ⊆ routeNames := by decide
    exact all id.text taken
  have segment : PlainSegment id.text := plain_routeNames known id.text (by simp)
  have none : (Server.route ["v1", "volumes", id.text] [("GET", handler)]).endpoint? c.method =
      none := by
    simp [Server.route, Http.Route.endpoint?, Ne.symm changes]
  have serves := Http.serve_of_method (by simp) (plain_routeNames known) found none whole c.body
  have request := Call.directRequest_eq (target ▸ target_volume segment) bare
  exact onServer_refused rfl (request ▸ serves)

end Reserved

end BlockVolumes.Api
