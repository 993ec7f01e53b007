import BlockVolumes.Api.Server
import BlockVolumes.Proofs.Driver.Course
import BlockVolumes.Proofs.Http.Serve

/-! Which calls the requests of the native API come to. -/

namespace BlockVolumes

open Operation
open Bench (Called Touched)
open BlockDriver (leads_query)

variable {d : BlockDriver} {b c : Bench}

namespace Api

variable {s : Server}

def SetRequest.update? (id : VolumeId) (request : SetRequest) : Option BlockVolumes.Call :=
  if request.locator.isSome || request.spec.isSome then
    some (.set id request.locator request.spec)
  else none

def Action.look? (id : VolumeId) (action : Action) : Option BlockVolumes.Call :=
  match action.attach with
  | .on => some (.attach id)
  | .off => some (.detach id)
  | .none => none

def Action.remount? (id : VolumeId) (action : Action) : Option BlockVolumes.Call :=
  match action.mount with
  | .on => if action.path = "" then none else some (.mount id action.path)
  | .off => some (.unmount id action.path)
  | .none => none

def SetRequest.still (id : VolumeId) (request : SetRequest) : List BlockVolumes.Call :=
  (request.update? id).toList ++ (request.action.bind (·.look? id)).toList

def SetRequest.calls (id : VolumeId) (request : SetRequest) : List BlockVolumes.Call :=
  request.still id ++ (request.action.bind (·.remount? id)).toList

theorem SetRequest.remounts_still {id : VolumeId} {request : SetRequest} :
    ∀ call ∈ request.still id, call.remounts = false := by
  intro call member
  rcases List.mem_append.1 member with update | look
  · rw [Option.mem_toList, update?, Option.ite_none_right_eq_some] at update
    obtain ⟨-, ⟨⟩⟩ := update
    rfl
  · obtain ⟨action, -, look⟩ := Option.bind_eq_some_iff.1 (Option.mem_toList.1 look)
    unfold Action.look? at look
    split at look <;> cases look <;> rfl

theorem leads_unattached (sound : b.Sound) (id : VolumeId) (mount : Switch) (path : String) :
    (actions d.toVolumeDriver id ⟨.none, mount, path⟩).outcome.Leads b
      fun _ _ c => Called d b (Action.remount? id ⟨.none, mount, path⟩).toList c := by
  cases mount with
  | on =>
    by_cases empty : path = ""
    · simp only [actions, empty, if_true]
      exact .none d b _
    · simp only [actions, Action.remount?, empty, if_false]
      apply (BlockDriver.leads_mount sound.own).mono
      intro mishaps result c mounted
      exact .single (.mount id path) mounted
  | off =>
    apply (BlockDriver.leads_unmount sound.own).mono
    intro mishaps result c unmounted
    exact .single (.unmount id path) unmounted
  | none => exact .none d b _

theorem leads_actions (sound : b.Sound) (id : VolumeId) (action : Action) :
    (actions d.toVolumeDriver id action).outcome.Leads b
      fun _ _ c => Called d b ((action.look? id).toList ++ (action.remount? id).toList) c := by
  obtain ⟨attach, mount, path⟩ := action
  have next := fun (c : Bench) (sound : c.Sound) => leads_unattached (d := d) sound id mount path
  cases attach with
  | on =>
    refine leads_called (BlockDriver.leads_attach.mono ?_) sound fun _ => next
    intro mishaps result c attached
    exact .single (.attach id) ⟨_, attached, rfl⟩
  | off =>
    refine leads_called (BlockDriver.leads_detach.mono ?_) sound fun _ => next
    intro mishaps result c detached
    exact .single (.detach id) detached
  | none => exact next b sound

theorem leads_change (sound : b.Sound) (id : VolumeId) (request : SetRequest) :
    (change d.toVolumeDriver id request).outcome.Leads b
      fun _ _ c => Called d b (request.calls id) c := by
  obtain ⟨locator, spec, action⟩ := request
  have next : ∀ c : Bench, c.Sound →
      (change d.toVolumeDriver id ⟨none, none, action⟩).outcome.Leads c fun _ _ e =>
        Called d c
          ((action.bind (·.look? id)).toList ++ (action.bind (·.remount? id)).toList) e := by
    intro c sound
    cases action with
    | none => exact .none d c _
    | some action => exact leads_actions sound id action
  rw [SetRequest.calls, SetRequest.still, List.append_assoc, SetRequest.update?]
  by_cases given : (locator.isSome || spec.isSome) = true
  · have first : change d.toVolumeDriver id ⟨locator, spec, action⟩ =
        d.toVolumeDriver.set id locator spec >>= fun _ =>
          change d.toVolumeDriver id ⟨none, none, action⟩ := by
      simp only [change, given, if_true]
      rfl
    rw [first, if_pos given]
    refine leads_called ((BlockDriver.leads_set spec sound.own).mono ?_) sound fun _ => next
    intro mishaps result c changed
    exact .single (.set id locator spec) changed
  · have same : change d.toVolumeDriver id ⟨locator, spec, action⟩ =
        change d.toVolumeDriver id ⟨none, none, action⟩ := by
      simp only [change, given]
      rfl
    rw [same, if_neg given]
    exact next b sound

theorem leads_withDriver (serves : s.registry.get s.driver = .ok d.toVolumeDriver)
    {next : VolumeDriver → Routine Http.Reply} {post : List Mishap → Http.Reply → Bench → Prop}
    (leads : (next d.toVolumeDriver).Leads b post) : (s.withDriver next).Leads b post := by
  have resolves : s.registry.resolve s.driver = .ok d.toVolumeDriver := by
    rw [DriverRegistry.resolve, serves]
    rfl
  simpa only [Server.withDriver, resolves, Plugin.Server.orReply] using leads

theorem leads_orReply {α : Type} {found : Except Http.Reply α} {next : α → Routine Http.Reply}
    {post : List Mishap → Http.Reply → Bench → Prop} (silent : Http.Silent b post)
    (leads : ∀ value, (next value).Leads b post) :
    (Plugin.Server.orReply found next).Leads b post := by
  cases found with
  | ok value => exact leads value
  | error reply => exact silent reply

structure Puts (request : Http.Request) (id : String) : Prop where
  method : request.method = "PUT"
  path : ∃ segment, request.uri.segments? =
      some ["v1".toUTF8.toList, "volumes".toUTF8.toList, segment] ∧
    Text.decode? (Http.unescape segment) = some id

theorem puts_of_fits {request : Http.Request} {segments : List (List UInt8)} {id : String}
    {methods : List (String × Http.Endpoint)} (path : request.uri.segments? = some segments)
    (fits : Http.Route.fits ⟨[.fixed "v1", .fixed "volumes", .free], methods⟩ segments = true)
    (method : request.method = "PUT")
    (decoded : Text.decode? (Http.unescape (Http.Route.freeSegment
      ⟨[.fixed "v1", .fixed "volumes", .free], methods⟩ segments)) = some id) :
    Puts request id := by
  refine ⟨method, ?_⟩
  match segments with
  | [first, second, third] =>
    simp only [Http.Route.fits, Http.Segment.fits, List.zip_cons_cons, List.all_cons,
      Bool.and_eq_true, beq_iff_eq] at fits
    obtain ⟨-, rfl, rfl, -⟩ := fits
    exact ⟨third, path, decoded⟩
  | [] | [_] | [_, _] | _ :: _ :: _ :: _ :: _ => simp [Http.Route.fits] at fits

inductive Done (d : BlockDriver) (b : Bench) (request : Http.Request) : List Mishap → Bench → Prop
  | nothing : Done d b request [] b
  | created {locator : Locator} {source : Option Source} {spec : Spec} {mishaps : List Mishap}
      {result : Except VolumeError VolumeId} {c : Bench}
      (created : BlockDriver.Created d b locator source spec mishaps result c) :
    Done d b request mishaps c
  | copied {id : VolumeId} {locator : Locator} {mishaps : List Mishap}
      {result : Except VolumeError VolumeId} {c : Bench}
      (copied : BlockDriver.Copied d b id locator mishaps result c) : Done d b request mishaps c
  | deleted {id : VolumeId} {mishaps : List Mishap} {result : Except VolumeError Unit} {c : Bench}
      (deleted : BlockDriver.Deleted id b mishaps result c) : Done d b request mishaps c
  | changed {id : String} {change : SetRequest} {mishaps : List Mishap} {c : Bench}
      (puts : Puts request id) (read : SetRequest.shape.decode request.body = .ok change)
      (called : Called d b (change.calls ⟨id⟩) c) : Done d b request mishaps c

theorem Done.touched {request : Http.Request} {mishaps : List Mishap}
    (done : Done d b request mishaps c) : Touched d b c := by
  cases done with
  | nothing => exact .refl d b
  | @created locator source spec _ _ _ created =>
    exact .single (.create locator source spec) created.ends (by simp)
  | @copied id locator _ _ _ copied =>
    exact .single (.snapshot id false locator) ⟨_, copied, rfl⟩ (by simp)
  | @deleted id _ _ _ deleted => exact .single (.delete id) deleted (by simp)
  | changed _ _ called => exact called.touched SetRequest.remounts_still

theorem leads_answer {α : Type} {operation : Operation α} {request : Http.Request}
    {reply : Except VolumeError α → Http.Reply}
    (idle : operation.outcome.Leads b fun mishaps _ c => mishaps = [] ∧ c = b) :
    (do return reply (← operation.outcome) : Routine Http.Reply).Leads b
      fun mishaps _ c => Done d b request mishaps c := by
  apply Routine.leads_bind.2
  apply idle.mono
  rintro mishaps result c ⟨rfl, rfl⟩
  exact .nothing

theorem leads_asked {α : Type} (query : Store → Except StoreError α) :
    (BlockDriver.consult query).outcome.Leads b fun mishaps _ c => mishaps = [] ∧ c = b :=
  leads_query fun _ => ⟨rfl, rfl⟩

section Requests

variable (serves : s.registry.get s.driver = .ok d.toVolumeDriver) (sound : b.Sound)
  (request : Http.Request)

include serves sound

theorem leads_create (body : List UInt8) :
    (s.create body).Leads b fun mishaps _ c => Done d b request mishaps c := by
  apply leads_orReply fun _ => .nothing
  intro given
  apply leads_withDriver serves
  apply Routine.leads_bind.2
  apply (BlockDriver.leads_create sound.unused).mono
  intro mishaps result c created
  exact .created (by simpa using created)

theorem leads_snapshot (body : List UInt8) :
    (s.snapshot body).Leads b fun mishaps _ c => Done d b request mishaps c := by
  apply leads_orReply fun _ => .nothing
  intro given
  apply leads_withDriver serves
  apply Routine.leads_bind.2
  apply (BlockDriver.leads_snapshot sound.unused).mono
  intro mishaps result c copied
  exact .copied (by simpa using copied)

theorem leads_set {id : String} (puts : Puts request id) :
    (s.set ⟨id⟩ request.body).Leads b fun mishaps _ c => Done d b request mishaps c := by
  cases read : SetRequest.shape.decode request.body with
  | error error =>
    simp only [Server.set, Shape.ofBody, read, mapError_error, Plugin.Server.orReply]
    exact .nothing
  | ok change =>
    simp only [Server.set, Shape.ofBody, read, mapError_ok, Plugin.Server.orReply]
    apply leads_withDriver serves
    apply Routine.leads_bind.2
    apply (leads_change sound ⟨id⟩ change).mono
    intro mishaps outcome c called
    apply Routine.leads_bind.2
    exact leads_query fun _ => .changed puts read called

omit sound

theorem leads_delete (id : VolumeId) :
    (s.delete id).Leads b fun mishaps _ c => Done d b request mishaps c := by
  apply leads_withDriver serves
  apply Routine.leads_bind.2
  apply BlockDriver.leads_delete.mono
  intro mishaps result c deleted
  exact .deleted (by simpa using deleted)

theorem leads_inspect (id : VolumeId) :
    (s.inspect id).Leads b fun mishaps _ c => Done d b request mishaps c := by
  apply leads_withDriver serves
  exact leads_answer (leads_asked _)

theorem leads_enumerate (parameters : Parameters) :
    (s.enumerate parameters).Leads b fun mishaps _ c => Done d b request mishaps c := by
  apply leads_withDriver serves
  apply leads_orReply fun _ => .nothing
  intro labels
  apply leads_orReply fun _ => .nothing
  intro configLabels
  dsimp only
  split
  · exact leads_answer (leads_asked _)
  · exact leads_answer (leads_asked _)

theorem leads_snapshots (parameters : Parameters) :
    (s.snapshots parameters).Leads b fun mishaps _ c => Done d b request mishaps c := by
  apply leads_withDriver serves
  apply leads_orReply fun _ => .nothing
  intro labels
  exact leads_answer (leads_asked _)

theorem leads_stats (id : Option VolumeId) (parameters : Parameters) :
    (s.stats id parameters).Leads b fun mishaps _ c => Done d b request mishaps c := by
  apply leads_orReply fun _ => .nothing
  intro cumulative
  apply leads_withDriver serves
  exact leads_answer ⟨rfl, rfl⟩

theorem leads_alerts (id : Option VolumeId) :
    (s.alerts id).Leads b fun mishaps _ c => Done d b request mishaps c := by
  apply leads_withDriver serves
  exact leads_answer ⟨rfl, rfl⟩

theorem leads_requests :
    s.requests.Leads b fun mishaps _ c => Done d b request mishaps c := by
  apply leads_withDriver serves
  exact leads_answer ⟨rfl, rfl⟩

include sound

theorem leads_request :
    (s.serve request).Leads b fun mishaps _ c => Done d b request mishaps c := by
  have silent : Http.Silent b fun mishaps _ c => Done d b request mishaps c := fun _ => .nothing
  apply Http.leads_routed silent
  intro segments path route member fits entry there method
  have plain := fun {endpoint : Http.Endpoint} (leads : endpoint.Leads b _) =>
    Http.Endpoint.Leads.run leads silent (route.freeSegment segments) request
  simp only [Server.routes, Server.route, Server.routeWithId, List.mem_cons, List.not_mem_nil,
    or_false] at member
  rcases member with rfl | rfl | rfl | rfl | rfl | rfl | rfl | rfl | rfl | rfl <;>
    simp only [List.map_cons, List.map_nil, List.mem_cons, List.not_mem_nil, or_false] at there
  · obtain rfl := there
    exact plain .nothing
  · rcases there with rfl | rfl
    · exact plain (leads_create serves sound request)
    · exact plain (leads_enumerate serves request)
  · rcases there with rfl | rfl | rfl
    · exact plain (fun id => leads_inspect serves request ⟨id⟩)
    · have right : request.method = "PUT" := method.resolve_right (by simp)
      simp only [Http.Endpoint.run]
      split
      · rename_i id decoded
        simp only [Http.Handler.run]
        split
        · exact silent Http.tooLarge
        · exact leads_set serves sound request (puts_of_fits path fits right decoded)
      · exact silent Http.badId
    · exact plain (fun id => leads_delete serves request ⟨id⟩)
  · obtain rfl := there
    exact plain (leads_stats serves request none)
  · obtain rfl := there
    exact plain (fun id => leads_stats serves request (some ⟨id⟩))
  · obtain rfl := there
    exact plain (leads_alerts serves request none)
  · obtain rfl := there
    exact plain (fun id => leads_alerts serves request (some ⟨id⟩))
  · obtain rfl := there
    exact plain (leads_requests serves request)
  · obtain rfl := there
    exact plain (fun _ => leads_requests serves request)
  · rcases there with rfl | rfl
    · exact plain (leads_snapshot serves sound request)
    · exact plain (leads_snapshots serves request)

theorem leads_serve : (s.serve request).Leads b fun _ _ c => Touched d b c :=
  (leads_request serves sound request).mono fun _ _ _ done => done.touched

end Requests

end Api

end BlockVolumes
