import BlockVolumes.Cli.Failure
import BlockVolumes.Proofs.Api.Routing
import BlockVolumes.Proofs.Daemon.Mounts
import BlockVolumes.Proofs.Plugin.ByName

/-! What a client of the native API is told is what the driver did. -/

namespace BlockVolumes.Api

open Http (bodyLimit tooLarge standsForItself)

variable {α β : Type} {s : Server} {driver : VolumeDriver} {id : VolumeId}

theorem Call.interpret_send {shape : Shape β} (faithful : shape.Faithful) {outcome : β → Outcome}
    {task method target : String} {body : List UInt8} {result : β → Except ClientError α}
    (whole : method ≠ "HEAD") (value : β) :
    (change shape outcome task method target body result).interpret (Plugin.send shape value) =
      if (outcome value).isOk then result value
      else .error (.failed task (outcome value).error) := by
  have told : shape.decodeText (shape.toJson value).compact = .ok value :=
    Shape.decode_bytes faithful value
  have content : (Plugin.send shape value).contentFor method = (shape.toJson value).compact :=
    if_neg whole
  rw [interpret]
  simp only [change, content, decode, told]
  rfl

theorem isOk_of_error (error : VolumeError) : (⟨error.message⟩ : Outcome).isOk = false :=
  beq_false_of_ne error.message_ne

def told (task : String) : Except VolumeError α → Except ClientError α
  | .ok value => .ok value
  | .error error => .error (.failed task error.message)

def toldOfChange (task : String) :
    Except VolumeError Unit × Except VolumeError (List Volume) → Except ClientError Volume
  | (.error error, _) => .error (.failed task error.message)
  | (.ok _, .error error) => .error (.failed task error.message)
  | (.ok _, .ok [volume]) => .ok volume
  | (.ok _, .ok _) => .error (.failed task "Failed to inspect volume")

theorem interpret_createReply {task target : String} {body : List UInt8}
    (outcome : Except VolumeError VolumeId) :
    (Call.change CreateReply.shape (·.outcome) task "POST" target body Client.createdId).interpret
      (Plugin.send CreateReply.shape (createReply outcome)) = told task outcome := by
  rw [Call.interpret_send CreateReply.shape_faithful (by decide)]
  cases outcome with
  | ok id => rfl
  | error error => simp [createReply, Outcome.of, isOk_of_error, told]

theorem interpret_outcome (outcome : Except VolumeError Unit) :
    (Client.delete id).interpret (Plugin.send Outcome.shape (.of outcome)) =
      told "delete volume" outcome := by
  rw [Client.delete, Call.interpret_send Outcome.shape_faithful (by decide)]
  cases outcome with
  | ok done => rfl
  | error error => simp [Outcome.of, isOk_of_error, told]

theorem interpret_setReply (request : SetRequest) (outcome : Except VolumeError Unit)
    (inspected : Except VolumeError (List Volume)) :
    (Client.set id request).interpret (Plugin.send SetReply.shape (setReply outcome inspected)) =
      toldOfChange "update volume" (outcome, inspected) := by
  rw [Client.set, Call.interpret_send SetReply.shape_faithful (by decide)]
  cases outcome with
  | error error =>
    have same : (setReply (.error error) inspected).outcome = ⟨error.message⟩ := by
      unfold setReply
      split <;> simp_all [Outcome.of]
    rw [same, isOk_of_error]
    rfl
  | ok done =>
    cases inspected with
    | error error => simp [setReply, Outcome.of, isOk_of_error, toldOfChange]
    | ok volumes =>
      match volumes with
      | [volume] => rfl
      | [] => rfl
      | _ :: _ :: _ => rfl

def changing (driver : VolumeDriver) (id : VolumeId) (request : SetRequest) :
    Routine (Except VolumeError Unit × Except VolumeError (List Volume)) := do
  let outcome ← (change driver id request).outcome
  let inspected ← (driver.inspect [id]).outcome
  return (outcome, inspected)

section Registered

variable (registered : s.registry.get s.driver = .ok driver)

include registered

theorem withDriver_eq (next : VolumeDriver → Routine Http.Reply) :
    s.withDriver next = next driver := by
  rw [Server.withDriver, DriverRegistry.resolve_of_get registered, Plugin.Server.orReply]

theorem create_onServer (locator : Locator) (spec : Spec) :
    (Client.create locator spec).onServer s =
      if bodyLimit < (Client.create locator spec).body.length then
        return .error (.refused "create volume" 413 tooLarge.content)
      else do return told "create volume" (← (driver.create locator none spec).outcome) := by
  have read : CreateRequest.shape.decode (Client.create locator spec).body =
    .ok ⟨locator, none, spec⟩ := Shape.decode_bytes CreateRequest.shape_faithful _
  have serves : s.serve (Client.create locator spec).directRequest =
      if bodyLimit < (Client.create locator spec).body.length then return tooLarge
      else s.create (Client.create locator spec).body := by
    rw [Call.directRequest_eq (c := Client.create locator spec) target_volumes rfl]
    exact s.serve_create _
  refine onServer_body (show "POST" ≠ "HEAD" by decide) interpret_createReply ?_
  rw [serves, Server.create, Plugin.ofBody_of_decode read, Plugin.Server.orReply,
    withDriver_eq registered]

theorem snapshot_onServer (id : VolumeId) (locator : Locator) (readonly : Bool) :
    (Client.snapshot id locator readonly).onServer s =
      if bodyLimit < (Client.snapshot id locator readonly).body.length then
        return .error (.refused "snapshot volume" 413 tooLarge.content)
      else do return told "snapshot volume" (← (driver.snapshot id readonly locator).outcome) := by
  have read : SnapshotRequest.shape.decode (Client.snapshot id locator readonly).body =
    .ok ⟨id, readonly, locator⟩ := Shape.decode_bytes SnapshotRequest.shape_faithful _
  have serves : s.serve (Client.snapshot id locator readonly).directRequest =
      if bodyLimit < (Client.snapshot id locator readonly).body.length then return tooLarge
      else s.snapshot (Client.snapshot id locator readonly).body := by
    rw [Call.directRequest_eq (c := Client.snapshot id locator readonly) target_snapshots rfl]
    exact s.serve_snapshot _
  refine onServer_body (show "POST" ≠ "HEAD" by decide) interpret_createReply ?_
  rw [serves, Server.snapshot, Plugin.ofBody_of_decode read, Plugin.Server.orReply,
    withDriver_eq registered]

theorem delete_onServer (plain : PlainId id) (free : id.text ∉ reserved) :
    (Client.delete id).onServer s = do
      return told "delete volume" (← (driver.delete id).outcome) := by
  have segment := plain.segment free
  have serves : s.serve (Client.delete id).directRequest = s.delete id := by
    rw [Call.directRequest_eq (c := Client.delete id) (target_volume segment) rfl]
    exact s.serve_volume segment free s.endpoint_delete []
  apply onServer_eq interpret_outcome
  rw [serves, Server.delete, withDriver_eq registered]

theorem set_onServer (plain : PlainId id) (free : id.text ∉ reserved) (request : SetRequest) :
    (Client.set id request).onServer s =
      if bodyLimit < (Client.set id request).body.length then
        return .error (.refused "update volume" 413 tooLarge.content)
      else do
        return toldOfChange "update volume" (← (changing driver id request)) := by
  have segment := plain.segment free
  have read : SetRequest.shape.decode (Client.set id request).body = .ok request :=
    Shape.decode_bytes SetRequest.shape_faithful _
  have serves : s.serve (Client.set id request).directRequest =
      if bodyLimit < (Client.set id request).body.length then return tooLarge
      else s.set id (Client.set id request).body := by
    rw [Call.directRequest_eq (c := Client.set id request) (target_volume segment) rfl]
    exact s.serve_volume segment free s.endpoint_set _
  refine onServer_body (show "PUT" ≠ "HEAD" by decide)
    (fun seen => interpret_setReply request seen.1 seen.2) ?_
  rw [serves, Server.set, Plugin.ofBody_of_decode read, Plugin.Server.orReply,
    withDriver_eq registered, changing]
  simp only [Routine.bind_assoc]
  rfl

end Registered

def ClientError.EndsIn (error : ClientError) (text : String) : Prop :=
  ∃ lead, Cli.oneLine error.chain = lead ++ text

/-- A result of the client that tells what came of the driver's operation. -/
structure Tells (result : Except ClientError α) (outcome : Except VolumeError α) : Prop where
  ok : ∀ value, result = .ok value ↔ outcome = .ok value
  error : ∀ trouble, outcome = .error trouble →
    ∃ error, result = .error error ∧ error.EndsIn trouble.message

/-- And of a change, after which the volume is looked at. -/
structure TellsOfChange (result : Except ClientError Volume)
    (seen : Except VolumeError Unit × Except VolumeError (List Volume)) : Prop where
  ok : ∀ volume, result = .ok volume ↔ seen.1 = .ok () ∧ seen.2 = .ok [volume]
  error : ∀ trouble, seen.1 = .error trouble ∨ seen.1 = .ok () ∧ seen.2 = .error trouble →
    ∃ error, result = .error error ∧ error.EndsIn trouble.message

namespace Call

/-- The call does the driver's work on the server, whatever state that is in and whatever goes
wrong, and tells what came of it. -/
def Does (c : Call α) (s : Server) (work : Routine β) (tells : Except ClientError α → β → Prop) :
    Prop :=
  ∃ tell : β → Except ClientError α,
    (∀ outcome, tells (tell outcome) outcome) ∧ c.onServer s = do return tell (← work)

def Refused (c : Call α) (s : Server) : Prop :=
  ∃ error, c.onServer s = return .error error

def Fits (c : Call α) : Prop := c.body.length ≤ bodyLimit

end Call

theorem Call.Does.run {c : Call α} {work : Routine β} {tells : Except ClientError α → β → Prop}
    (does : c.Does s work tells) (w : World) :
    tells ((c.onServer s).run w).1 (work.run w).1 ∧
      ((c.onServer s).run w).2 = (work.run w).2 := by
  obtain ⟨tell, told, same⟩ := does
  rw [same, Routine.run_bind]
  exact ⟨told _, rfl⟩

theorem refused_of_reserved {c : Call α} (target : c.target = targetOf id) (bare : c.query = [])
    (changes : c.method ≠ "GET") (whole : c.method ≠ "HEAD") (taken : id.text ∈ reserved) :
    c.Refused s := by
  rcases List.mem_append.1 taken with fleeting | telemetry
  · exact ⟨_, fleeting_onServer target bare fleeting⟩
  · exact ⟨_, telemetry_onServer target bare changes whole telemetry⟩

theorem endsIn_failed (task message : String) :
    (ClientError.failed task message).EndsIn message :=
  ⟨"Failed to " ++ task ++ ": ", rfl⟩

theorem told_tells (task : String) (outcome : Except VolumeError α) :
    Tells (told task outcome) outcome := by
  cases outcome with
  | ok value => exact ⟨fun other => by simp [told], by simp⟩
  | error error =>
    refine ⟨by simp [told], ?_⟩
    rintro trouble ⟨⟩
    exact ⟨_, rfl, endsIn_failed task _⟩

theorem toldOfChange_tells (task : String)
    (seen : Except VolumeError Unit × Except VolumeError (List Volume)) :
    TellsOfChange (toldOfChange task seen) seen := by
  obtain ⟨outcome, inspected⟩ := seen
  cases outcome with
  | error error =>
    refine ⟨by simp [toldOfChange], ?_⟩
    rintro trouble (⟨⟨⟩⟩ | ⟨⟨⟩, -⟩)
    exact ⟨_, rfl, endsIn_failed task _⟩
  | ok done =>
    cases inspected with
    | error error =>
      refine ⟨by simp [toldOfChange], ?_⟩
      rintro trouble (⟨⟨⟩⟩ | ⟨-, ⟨⟩⟩)
      exact ⟨_, rfl, endsIn_failed task _⟩
    | ok volumes =>
      refine ⟨?_, by simp⟩
      match volumes with
      | [volume] => simp [toldOfChange]
      | [] => simp [toldOfChange]
      | _ :: _ :: _ => simp [toldOfChange]

theorem inspect_single {store : Store} {volumes : List Volume}
    (told : store.inspect [id] = .ok volumes) : ∃ volume, volumes = [volume] := by
  simp only [Store.inspect] at told
  cases got : store.get id with
  | error error => simp [got, bind, Except.bind] at told
  | ok found =>
    cases found with
    | none => simp [got, bind, Except.bind] at told
    | some volume =>
      simp [got, bind, Except.bind] at told
      exact ⟨volume, told.symm⟩

theorem yields_inspect {d : BlockDriver} {w v : World} {mishaps : List Mishap}
    {volumes : List Volume}
    (yields : (d.toVolumeDriver.inspect [id]).outcome.Yields w mishaps (.ok volumes) v) :
    ∃ volume, volumes = [volume] := by
  obtain ⟨faults, answer, after, rest, answered, -, later⟩ := yields
  have asked : answer = (w.under faults).store.inspect [id] := (congrArg Prod.fst answered).symm
  subst asked
  cases told : (w.under faults).store.inspect [id] with
  | error error =>
    rw [told] at later
    obtain ⟨-, same, -⟩ := later
    cases same
  | ok found =>
    rw [told] at later
    obtain ⟨-, same, -⟩ := later
    cases same
    exact inspect_single told

/-- Each call to change something does just what the driver does, if its ID is one that a path can
name and its body is not too large, and nothing otherwise. -/
structure Agreement (s : Server) (driver : VolumeDriver) : Prop where
  create : ∀ locator spec, (Client.create locator spec).Fits →
    (Client.create locator spec).Does s (driver.create locator none spec).outcome Tells
  snapshot : ∀ id locator readonly, (Client.snapshot id locator readonly).Fits →
    (Client.snapshot id locator readonly).Does s (driver.snapshot id readonly locator).outcome Tells
  delete : ∀ id, PlainId id → id.text ∉ reserved →
    (Client.delete id).Does s (driver.delete id).outcome Tells
  set : ∀ id request, PlainId id → id.text ∉ reserved → (Client.set id request).Fits →
    (Client.set id request).Does s (changing driver id request) TellsOfChange
  /-- Of one ID a block driver tells one volume, or fails. -/
  single : ∀ d : BlockDriver, driver = d.toVolumeDriver → ∀ id w mishaps volumes v,
    (driver.inspect [id]).outcome.Yields w mishaps (.ok volumes) v → ∃ volume, volumes = [volume]
  message : ∀ error : VolumeError, error.message ≠ ""
  large : (∀ locator spec, ¬ (Client.create locator spec).Fits →
      (Client.create locator spec).Refused s) ∧
    (∀ id locator readonly, ¬ (Client.snapshot id locator readonly).Fits →
      (Client.snapshot id locator readonly).Refused s) ∧
    ∀ id request, PlainId id → ¬ (Client.set id request).Fits → (Client.set id request).Refused s
  elsewhere : ∀ id, id.text ∈ reserved →
    (Client.delete id).Refused s ∧ ∀ request, (Client.set id request).Refused s

/-- For every server with a driver. -/
theorem client_agrees (registered : s.registry.get s.driver = .ok driver) :
    Agreement s driver where
  create locator spec fits := by
    refine ⟨told "create volume", told_tells _, ?_⟩
    rw [create_onServer registered, if_neg (Nat.not_lt.2 fits)]
  snapshot id locator readonly fits := by
    refine ⟨told "snapshot volume", told_tells _, ?_⟩
    rw [snapshot_onServer registered, if_neg (Nat.not_lt.2 fits)]
  delete id plain free :=
    ⟨told "delete volume", told_tells _, delete_onServer registered plain free⟩
  set id request plain free fits := by
    refine ⟨toldOfChange "update volume", toldOfChange_tells _, ?_⟩
    rw [set_onServer registered plain free, if_neg (Nat.not_lt.2 fits)]
  single := by
    rintro d rfl id w mishaps volumes v yields
    exact yields_inspect yields
  message := VolumeError.message_ne
  large := by
    refine ⟨fun locator spec large => ?_, fun id locator readonly large => ?_,
      fun id request plain large => ?_⟩
    · rw [Call.Refused, create_onServer registered, if_pos (Nat.lt_of_not_le large)]
      exact ⟨_, rfl⟩
    · rw [Call.Refused, snapshot_onServer registered, if_pos (Nat.lt_of_not_le large)]
      exact ⟨_, rfl⟩
    · by_cases taken : id.text ∈ reserved
      · exact refused_of_reserved rfl rfl (show "PUT" ≠ "GET" by decide)
          (show "PUT" ≠ "HEAD" by decide) taken
      · rw [Call.Refused, set_onServer registered plain taken, if_pos (Nat.lt_of_not_le large)]
        exact ⟨_, rfl⟩
  elsewhere id taken := by
    refine ⟨?_, fun request => ?_⟩
    · exact refused_of_reserved rfl rfl (show "DELETE" ≠ "GET" by decide)
        (show "DELETE" ≠ "HEAD" by decide) taken
    · exact refused_of_reserved rfl rfl (show "PUT" ≠ "GET" by decide)
        (show "PUT" ≠ "HEAD" by decide) taken

def bareServer : Server := ⟨Daemon.shared.fleet.registry, Daemon.shared.driver⟩

def bareWorld : World := (Bench.ofRecords .empty).world .calm

/-- With all that was said of calls in general. -/
theorem client_agrees_on_bareServer :
    bareServer.registry.get bareServer.driver =
        .ok (BlockDriver.mk "nbd" "/volumes").toVolumeDriver ∧
      Agreement bareServer (BlockDriver.mk "nbd" "/volumes").toVolumeDriver :=
  ⟨Daemon.serves_shared, client_agrees Daemon.serves_shared⟩

theorem length_le_flatMap {f : α → List β} (some : ∀ a, f a ≠ []) (items : List α) :
    items.length ≤ (items.flatMap f).length := by
  induction items with
  | nil => exact Nat.zero_le _
  | cons a rest ih =>
    have first := List.length_pos_iff.2 (some a)
    rw [List.flatMap_cons, List.length_append, List.length_cons]
    omega

theorem length_lt_body (name : String) (spec : Spec) :
    name.toList.length < (Client.create (.named name) spec).body.length := by
  have json : CreateRequest.shape.toJson ⟨.named name, none, spec⟩ =
      .object [("Locator", .object [("Name", .text name), ("VolumeLabels", .object [])]),
        ("Spec", Spec.shape.toJson spec)] := by
    rfl
  have escapes : name.toList.length ≤ (name.toList.flatMap Json.escape).length := by
    apply length_le_flatMap
    intro c
    unfold Json.escape
    repeat' split
    all_goals simp
  have bytes := length_le_flatMap (f := String.utf8EncodeChar) (fun c => by simp)
    (CreateRequest.shape.toJson ⟨.named name, none, spec⟩).chars
  show _ < (CreateRequest.shape.toJson ⟨.named name, none, spec⟩).bytes.length
  rw [Json.bytes, Json.compact, Text.toUTF8_ofList, Text.utf8]
  refine Nat.lt_of_lt_of_le ?_ bytes
  rw [json]
  simp only [Json.chars, Json.memberChars, Json.textChars, List.length_cons, List.length_append]
  omega

def stats : VolumeId := ⟨"stats"⟩

def tooLong : Locator := .named (String.ofList (List.replicate bodyLimit 'x'))

theorem not_fits_tooLong (spec : Spec) : ¬ (Client.create tooLong spec).Fits := by
  have longer := length_lt_body tooLong.name spec
  rw [tooLong, Locator.named, String.toList_ofList, List.length_replicate] at longer
  exact Nat.not_le.2 longer

theorem create_tooLong : (((BlockDriver.mk "nbd" "/volumes").toVolumeDriver.create tooLong none
    (.sized 4096 .ext4)).outcome.run bareWorld).1 = .ok ⟨"volume0"⟩ := rfl

theorem delete_stats : (((BlockDriver.mk "nbd" "/volumes").toVolumeDriver.delete
    stats).outcome.run bareWorld).1 = .error (.notFound "stats") := rfl

/-- The client does not tell what the driver would do with a volume of that ID, nor with a name of
that length. -/
theorem client_disagrees : PlainId stats ∧
    ¬ (Client.delete stats).Does bareServer
      ((BlockDriver.mk "nbd" "/volumes").toVolumeDriver.delete stats).outcome Tells ∧
    ¬ (Client.create tooLong (.sized 4096 .ext4)).Does bareServer
      ((BlockDriver.mk "nbd" "/volumes").toVolumeDriver.create tooLong none
        (.sized 4096 .ext4)).outcome Tells := by
  refine ⟨List.all_eq_true.1 (by decide +kernel), fun does => ?_, fun does => ?_⟩
  · have refused : (Client.delete stats).onServer bareServer =
        return .error (.refused "delete volume" 405 "") :=
      telemetry_onServer rfl rfl (show "DELETE" ≠ "GET" by decide)
        (show "DELETE" ≠ "HEAD" by decide) (by decide)
    obtain ⟨error, told, lead, ends⟩ := (does.run bareWorld).1.error _ delete_stats
    rw [refused] at told
    cases told
    have suffix : (VolumeError.notFound "stats").message.toList <:+
        (Cli.oneLine (ClientError.refused "delete volume" 405 "").chain).toList := by
      rw [ends, String.toList_append]
      exact List.suffix_append _ _
    exact absurd suffix (by decide +kernel)
  · have refused :=
      create_onServer (s := bareServer) Daemon.serves_shared tooLong (.sized 4096 .ext4)
    rw [if_pos (Nat.lt_of_not_le (not_fits_tooLong _))] at refused
    have told := ((does.run bareWorld).1.ok _).2 create_tooLong
    rw [refused] at told
    cases told

end BlockVolumes.Api
