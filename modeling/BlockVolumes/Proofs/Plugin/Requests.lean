import BlockVolumes.Plugin.Server
import BlockVolumes.Proofs.Plugin.Scaling

/-! Requests about a family of volumes, and how they are answered. -/

namespace BlockVolumes

theorem VolumeError.message_ne (error : VolumeError) : error.message ≠ "" := by
  unfold message
  split <;> simp

theorem DriverRegistry.resolve_of_get {r : DriverRegistry} {name : String} {driver : VolumeDriver}
    (registered : r.get name = .ok driver) : r.resolve name = .ok driver := by
  rw [resolve, registered]
  rfl

namespace Plugin

open Operation (leads_lift)

inductive Request
  | mount (body : List UInt8)
  | unmount (body : List UInt8)
  | path (body : List UInt8)
  | get (body : List UInt8)
  | list

namespace Request

def work (s : Server) : Request → Routine Http.Reply
  | mount body => s.mount body
  | unmount body => s.unmount body
  | path body => s.path body
  | get body => s.get body
  | list => s.list

/-- What is mounted or unmounted goes by this name. Anything may be looked at. -/
def GoesBy (name : String) : Request → Prop
  | mount body => ∃ request, MountRequest.shape.decode body = .ok request ∧
      Server.nameOf request.name = name
  | unmount body => ∃ request, MountRequest.shape.decode body = .ok request ∧
      Server.nameOf request.name = name
  | _ => True

end Request

/-- The error that a reply tells of; an empty one stands for success. -/
def errorIn (reply : Http.Reply) : Option String :=
  match reply.body with
  | .json (.object members) =>
    match members.find? (·.1 = "Err") with
    | some (_, .text error) => some error
    | _ => none
  | _ => none

def succeeded (reply : Http.Reply) : Bool := errorIn reply == some ""

theorem succeeded_success : succeeded success = true := rfl

theorem succeeded_failure (error : VolumeError) : succeeded (failure error.message) = false := by
  have told : errorIn (failure error.message) = some error.message := rfl
  simp [succeeded, told, error.message_ne]

theorem succeeded_path (place : String) :
    succeeded (send PathReply.shape ⟨place, ""⟩) = true := rfl

/-- A server that keeps a family on its own driver, in the place for its name. -/
structure Server.Keeps (s : Server) (f : Family) : Prop where
  driver : s.registry.get s.driver = .ok f.driver.toVolumeDriver
  place : s.placeOf f.name = f.place

theorem leads_underName {α : Type} {name : String} {work : Routine α}
    {b : Bench} {post : List Mishap → α → Bench → Prop}
    (leads : work.Leads b post) : (Server.underName name work).Leads b post := by
  apply Routine.leads_bind.2
  apply Routine.leads_perform.2
  intro m
  apply Routine.leads_bind.2
  apply leads.mono
  intro mishaps result c reached
  apply Routine.leads_bind.2
  apply Routine.leads_perform.2
  intro m
  simpa [Effect.mishaps, Effect.on, Routine.Leads, pure] using reached

theorem ofBody_of_decode {α : Type} {shape : Shape α} {body : List UInt8} {value : α}
    (read : shape.decode body = .ok value) : shape.ofBody body = .ok value := by
  rw [Shape.ofBody, read]
  rfl

namespace Family

variable {s : Server} {f : Family} {b : Bench} {stack : List Volume}

inductive Answered (f : Family) (b : Bench) (stack : List Volume) :
    Request → List Mishap → Http.Reply → Bench → List Volume → Prop
  | mounted {body : List UInt8} {v : Volume} {c : Bench} (room : stack.length < f.scale)
      (holds : f.Holds c (stack ++ [v])) :
    Answered f b stack (.mount body) [] (send PathReply.shape ⟨f.place, ""⟩) c (stack ++ [v])
  | full {body : List UInt8} (whole : stack.length = f.scale) :
    Answered f b stack (.mount body) [] (failure f.limit.message) b stack
  | unlucky {body : List UInt8} {mishaps : List Mishap} {error : VolumeError} {c : Bench}
      (unlucky : mishaps ≠ []) (room : stack.length < f.scale) (holds : f.Holds c stack) :
    Answered f b stack (.mount body) mishaps (failure error.message) c stack
  | unmounted {body : List UInt8} {rest : List Volume} {v : Volume} {c : Bench}
      (whole : stack = rest ++ [v]) (holds : f.Holds c rest) :
    Answered f b stack (.unmount body) [] success c rest
  | bare {body : List UInt8} {error : VolumeError} (none : stack = []) :
    Answered f b stack (.unmount body) [] (failure error.message) b stack
  | path {body : List UInt8} {reply : Http.Reply}
      (told : ∀ request, VolumeRequest.shape.decode body = .ok request →
        Server.nameOf request.name = f.name →
        reply = if stack = [] then failure "volume not mounted"
          else send PathReply.shape ⟨dataPath f.place, ""⟩) :
    Answered f b stack (.path body) [] reply b stack
  | get {body : List UInt8} {reply : Http.Reply} : Answered f b stack (.get body) [] reply b stack
  | list {reply : Http.Reply} : Answered f b stack .list [] reply b stack

theorem resolve_of_keeps (keeps : s.Keeps f) :
    s.registry.resolve s.driver = .ok f.driver.toVolumeDriver :=
  DriverRegistry.resolve_of_get keeps.driver

theorem leads_mount_request (keeps : s.Keeps f) (holds : f.Holds b stack) (proper : f.Proper)
    {body : List UInt8} (suits : (Request.mount body).GoesBy f.name) :
    (s.mount body).Leads b fun mishaps reply c =>
      ∃ left, f.Answered b stack (.mount body) mishaps reply c left := by
  obtain ⟨request, read, name⟩ := suits
  simp only [Server.mount, resolve_of_keeps keeps, ofBody_of_decode read, Server.orReply, name,
    keeps.place]
  refine Routine.leads_bind.2 (leads_underName ((leads_mount holds proper).mono ?_))
  intro mishaps result c ends
  cases ends with
  | full whole => exact ⟨stack, .full whole⟩
  | @done v _ room after => exact ⟨stack ++ [v], .mounted room after⟩
  | failed unlucky room after =>
    refine ⟨stack, ?_⟩
    rw [List.append_nil]
    exact .unlucky unlucky room after

theorem leads_unmount_request (keeps : s.Keeps f) (holds : f.Holds b stack) (proper : f.Proper)
    (forward : 1 < f.scale → Time.Forward b.times f.since b.clock) {body : List UInt8}
    (suits : (Request.unmount body).GoesBy f.name) :
    (s.unmount body).Leads b fun mishaps reply c =>
      ∃ left, f.Answered b stack (.unmount body) mishaps reply c left := by
  obtain ⟨request, read, name⟩ := suits
  simp only [Server.unmount, resolve_of_keeps keeps, ofBody_of_decode read, Server.orReply, name,
    keeps.place]
  refine leads_underName (Routine.leads_bind.2 (leads_volumeNamed_base holds.settled proper ?_))
  intro v found name base spec
  apply Routine.leads_bind.2
  apply (leads_unmount holds proper forward found name spec).mono
  intro mishaps result c ends
  cases ends with
  | bare none => exact ⟨stack, .bare none⟩
  | done whole after => exact ⟨_, .unmounted whole after⟩

theorem leads_look (keeps : s.Keeps f) (settled : f.Settled b) (proper : f.Proper)
    {body : List UInt8} {answer : String → Volume → Http.Reply}
    {post : List Mishap → Http.Reply → Bench → Prop}
    (reached : ∀ reply, (∀ request, VolumeRequest.shape.decode body = .ok request →
      Server.nameOf request.name = f.name → ∃ v, b.records.get? v.id.text = some v ∧
        v.locator.name = f.name ∧ reply = answer f.name v) → post [] reply b) :
    (s.look body answer).Leads b post := by
  cases read : VolumeRequest.shape.decode body with
  | error error =>
    simp only [Server.look, Shape.ofBody, read, mapError_error, Server.orReply]
    exact reached _ (by simp [read])
  | ok request =>
    simp only [Server.look, ofBody_of_decode read, resolve_of_keeps keeps, Server.orReply]
    by_cases asked : Server.nameOf request.name = f.name
    · rw [asked]
      apply Routine.leads_bind.2
      apply leads_volumeNamed_base settled proper
      intro v found name _ _
      refine reached _ fun _ _ _ => ⟨v, found, name, rfl⟩
    · have other : ∀ reply, post [] reply b := by
        intro reply
        apply reached reply
        intro again same
        rw [read] at same
        cases same
        intro one
        exact absurd one asked
      exact Routine.leads_bind.2 (leads_volumeNamed (fun _ _ => other _) fun _ => other _)

theorem leads_path_request (keeps : s.Keeps f) (holds : f.Holds b stack) (proper : f.Proper)
    (body : List UInt8) : (s.path body).Leads b fun mishaps reply c =>
      f.Answered b stack (.path body) mishaps reply c stack := by
  refine leads_look keeps holds.settled proper fun reply shown => .path fun request read name => ?_
  obtain ⟨v, found, goes, rfl⟩ := shown request read name
  by_cases bare : stack = []
  · have room : stack.length < f.scale := by simpa [bare] using proper.scale_pos
    have free := holds.next_free room found (by rw [goes, bare]; rfl)
    have none : v.mountPath? = none := by simpa [Volume.isMounted] using free
    simp [none, bare]
  · have some : 0 < stack.length := List.length_pos_iff.2 bare
    have mounted := (holds.stacked.mem (holds.on_stack some found goes)).2
    simp [mounted, bare]

theorem leads_work (keeps : s.Keeps f) (holds : f.Holds b stack) (proper : f.Proper)
    (forward : 1 < f.scale → Time.Forward b.times f.since b.clock) {request : Request}
    (suits : request.GoesBy f.name) :
    (request.work s).Leads b fun mishaps reply c =>
      ∃ left, f.Answered b stack request mishaps reply c left := by
  cases request with
  | mount body => exact leads_mount_request keeps holds proper suits
  | unmount body => exact leads_unmount_request keeps holds proper forward suits
  | path body =>
    exact (leads_path_request keeps holds proper body).mono fun _ _ _ answered => ⟨_, answered⟩
  | get body =>
    simp only [Request.work, Server.get]
    exact leads_look keeps holds.settled proper fun _ _ => ⟨stack, .get⟩
  | list =>
    simp only [Request.work, Server.list, resolve_of_keeps keeps, Server.orReply]
    apply Routine.leads_bind.2
    apply BlockDriver.leads_consult (Store.enumerate_keeping _ _ _ _)
    exact ⟨stack, .list⟩

end Family

end Plugin

end BlockVolumes
