import BlockVolumes.Proofs.Http.Target
import BlockVolumes.Proofs.Plugin.ByName

/-! With which status the plugin protocol answers: what cannot be read or has no driver is refused,
everything else is answered by what came of it. -/

namespace BlockVolumes

namespace Routine

variable {α β γ δ : Type} {goes : α → β → Prop}

/-- The routines make the same calls, whatever these answer, and end with values that go
together. -/
inductive Mirrors (goes : α → β → Prop) : Routine α → Routine β → Prop
  | done {value : α} {other : β} (together : goes value other) :
    Mirrors goes (done value) (done other)
  | call {answer : Type} {effect : Effect answer} {next : answer → Routine α}
      {others : answer → Routine β} (each : ∀ told, Mirrors goes (next told) (others told)) :
    Mirrors goes (call effect next) (call effect others)

theorem Mirrors.refl (r : Routine α) : Mirrors Eq r r := by
  induction r with
  | done value => exact .done rfl
  | call effect next ih => exact .call ih

theorem Mirrors.bind {also : γ → δ → Prop} {r : Routine α} {q : Routine β}
    {f : α → Routine γ} {g : β → Routine δ} (mirrors : Mirrors goes r q)
    (each : ∀ value other, goes value other → Mirrors also (f value) (g other)) :
    Mirrors also (r >>= f) (q >>= g) := by
  induction mirrors with
  | done together => exact each _ _ together
  | call _ ih => exact .call ih

theorem Mirrors.of_bind (r : Routine β) {f : β → Routine α}
    (each : ∀ other, Mirrors goes (f other) (.done other)) : Mirrors goes (r >>= f) r := by
  induction r with
  | done value => exact each value
  | call effect next ih => exact .call ih

theorem Mirrors.yields {r : Routine α} {q : Routine β} (mirrors : Mirrors goes r q) {w v : World}
    {mishaps : List Mishap} {value : α} (yields : r.Yields w mishaps value v) :
    ∃ other, q.Yields w mishaps other v ∧ goes value other := by
  induction mirrors generalizing w mishaps with
  | done together =>
    obtain ⟨rfl, rfl, rfl⟩ := yields
    exact ⟨_, ⟨rfl, rfl, rfl⟩, together⟩
  | call _ ih =>
    obtain ⟨faults, answer, after, rest, answered, whole, later⟩ := yields
    obtain ⟨other, mirrored, together⟩ := ih answer later
    exact ⟨other, ⟨faults, answer, after, rest, answered, whole, mirrored⟩, together⟩

end Routine

namespace Plugin

open Routine (Mirrors)

inductive Query
  | list
  | named (verb : Verb)

namespace Query

def path : Query → String
  | list => "VolumeDriver.List"
  | named .create => "VolumeDriver.Create"
  | named .remove => "VolumeDriver.Remove"
  | named .mount => "VolumeDriver.Mount"
  | named .unmount => "VolumeDriver.Unmount"
  | named .path => "VolumeDriver.Path"
  | named .get => "VolumeDriver.Get"

def Carried : Query → Type
  | list => Unit
  | named .mount | named .unmount => MountRequest
  | named .create | named .remove | named .path | named .get => VolumeRequest

def read? (body : List UInt8) : (q : Query) → Option q.Carried
  | list => some ()
  | named .mount | named .unmount => (MountRequest.shape.decode body).toOption
  | named .create | named .remove | named .path | named .get =>
    (VolumeRequest.shape.decode body).toOption

def handler (s : Server) : Query → Http.Handler
  | list => .plain s.list
  | named verb => .body (verb.work s)

def work (s : Server) (body : List UInt8) : Query → Routine Http.Reply
  | list => s.list
  | named verb => verb.work s body

def under (name : String) (operation : Operation Unit) : Operation Unit :=
  ExceptT.mk (Server.underName name operation.outcome)

def operation (s : Server) (driver : VolumeDriver) : (q : Query) → q.Carried → Operation Unit
  | list, _ => do
    let _ ← driver.enumerate .any none
  | named .create, request => do
    let given ← ExceptT.mk (.done ((GivenName.read .standard (VolumeRequest.name request)).mapError
      OptionError.toVolumeError))
    under given.name (Server.createNamed driver given (VolumeRequest.options request))
  | named .remove, request =>
    let name := Server.nameOf (VolumeRequest.name request)
    under name (Server.removeNamed driver name)
  | named .mount, request =>
    let name := Server.nameOf (MountRequest.name request)
    under name (Plugin.mount driver name (s.placeOf name))
  | named .unmount, request =>
    let name := Server.nameOf (MountRequest.name request)
    under name do
      let volume ← volumeNamed driver name
      Plugin.unmount driver volume (s.placeOf name)
  | named .path, request => do
    let volume ← volumeNamed driver (Server.nameOf (VolumeRequest.name request))
    match volume.mountPath? with
    | some _ => return ()
    | none => throw (.notMounted volume.id)
  | named .get, request => do
    let _ ← volumeNamed driver (Server.nameOf (VolumeRequest.name request))

end Query

/-- A reply of status 200 with an object, which tells of an error just if there is one to tell. -/
structure Told (reply : Http.Reply) (outcome : Except VolumeError Unit) : Prop where
  status : reply.status = 200
  object : ∃ members, reply.body = .json (.object members)
  error : (∃ error, error ≠ "" ∧ errorIn reply = some error) ↔ ∃ error, outcome = .error error

theorem told_failure {text : String} (given : text ≠ "") (error : VolumeError) :
    Told (failure text) (.error error) :=
  ⟨rfl, ⟨_, rfl⟩, ⟨fun _ => ⟨error, rfl⟩, fun _ => ⟨text, given, rfl⟩⟩⟩

theorem told_notLocated (error : VolumeError) : Told (notLocated error) (.error error) :=
  told_failure (by simp) error

theorem told_json {members : List (String × Json)}
    (silent : ∀ error, errorIn (.json (.object members)) = some error → error = "") :
    Told (.json (.object members)) (.ok ()) := by
  refine ⟨rfl, ⟨members, rfl⟩, ?_⟩
  constructor
  · rintro ⟨error, given, there⟩
    exact absurd (silent error there) given
  · rintro ⟨error, failed⟩
    cases failed

theorem told_failureOf (outcome : Except VolumeError Unit) : Told (failureOf outcome) outcome := by
  cases outcome with
  | ok done => exact told_json fun _ there => (Option.some.inj there).symm
  | error error => exact told_failure error.message_ne error

theorem told_path (place : String) : Told (send PathReply.shape ⟨place, ""⟩) (.ok ()) :=
  told_json fun _ there => (Option.some.inj there).symm

theorem told_volume (info : VolumeInfo) : Told (send GetReply.shape ⟨info⟩) (.ok ()) :=
  told_json fun _ there => nomatch there

theorem told_volumes (infos : List VolumeInfo) : Told (send ListReply.shape ⟨infos⟩) (.ok ()) :=
  told_json fun _ there => nomatch there

theorem mirrors_underName {α β : Type} {goes : α → β → Prop} {work : Routine α}
    {other : Routine β} (name : String) (mirrors : Mirrors goes work other) :
    Mirrors goes (Server.underName name work) (Server.underName name other) := by
  refine (Mirrors.refl _).bind ?_
  rintro claim _ rfl
  refine mirrors.bind ?_
  intro value result together
  refine (Mirrors.refl _).bind ?_
  intro _ _ _
  exact .done together

variable {s : Server} {driver : VolumeDriver} {body : List UInt8}

theorem mirrors_look (resolved : s.registry.resolve s.driver = .ok driver) {request : VolumeRequest}
    (read : VolumeRequest.shape.decode body = .ok request) {answer : String → Volume → Http.Reply}
    {next : Volume → Operation Unit}
    (each : ∀ name volume, Mirrors Told (return answer name volume) (next volume).outcome) :
    Mirrors Told (s.look body answer)
      (volumeNamed driver (Server.nameOf request.name) >>= next).outcome := by
  rw [Operation.outcome_bind]
  simp only [Server.look, ofBody_of_decode read, resolved, Server.orReply]
  refine (Mirrors.refl _).bind ?_
  rintro result _ rfl
  cases result with
  | ok volume => exact each _ volume
  | error error => exact .done (told_notLocated error)

theorem mirrors_verb (resolved : s.registry.resolve s.driver = .ok driver) {verb : Verb}
    {carried : (Query.named verb).Carried} (read : (Query.named verb).read? body = some carried) :
    Mirrors Told (verb.work s body)
      ((Query.named verb).operation s driver carried).outcome := by
  cases verb with
  | create =>
    have decoded : VolumeRequest.shape.decode body = .ok carried := toOption_eq_some.1 read
    simp only [Verb.work, Server.create, ofBody_of_decode decoded, Server.orReply,
      Query.operation]
    cases GivenName.read .standard (VolumeRequest.name carried) with
    | error error => exact .done (told_failure error.toVolumeError.message_ne _)
    | ok given =>
      rw [resolved]
      exact .of_bind _ fun outcome => .done (told_failureOf outcome)
  | remove =>
    have decoded : VolumeRequest.shape.decode body = .ok carried := toOption_eq_some.1 read
    simp only [Verb.work, Server.remove, ofBody_of_decode decoded, resolved, Server.orReply]
    exact .of_bind _ fun outcome => .done (told_failureOf outcome)
  | mount =>
    have decoded : MountRequest.shape.decode body = .ok carried := toOption_eq_some.1 read
    simp only [Verb.work, Server.mount, ofBody_of_decode decoded, resolved, Server.orReply]
    refine .of_bind _ ?_
    intro outcome
    cases outcome with
    | ok done => exact .done (told_path _)
    | error error => exact .done (told_failure error.message_ne error)
  | unmount =>
    have decoded : MountRequest.shape.decode body = .ok carried := toOption_eq_some.1 read
    simp only [Verb.work, Server.unmount, ofBody_of_decode decoded, resolved, Server.orReply]
    refine mirrors_underName _ ?_
    rw [Operation.outcome_bind]
    refine (Mirrors.refl _).bind ?_
    rintro result _ rfl
    cases result with
    | ok volume => exact .of_bind _ fun outcome => .done (told_failureOf outcome)
    | error error => exact .done (told_notLocated error)
  | path =>
    have decoded : VolumeRequest.shape.decode body = .ok carried := toOption_eq_some.1 read
    simp only [Verb.work, Server.path, Query.operation]
    refine mirrors_look resolved decoded ?_
    intro name volume
    cases volume.mountPath? with
    | some place => exact .done (told_path _)
    | none => exact .done (told_failure (by decide) _)
  | get =>
    have decoded : VolumeRequest.shape.decode body = .ok carried := toOption_eq_some.1 read
    simp only [Verb.work, Server.get, Query.operation]
    refine mirrors_look resolved decoded ?_
    intro name volume
    exact .done (told_volume _)

theorem mirrors_work (resolved : s.registry.resolve s.driver = .ok driver) {q : Query}
    {carried : q.Carried} (read : q.read? body = some carried) :
    Mirrors Told (q.work s body) (q.operation s driver carried).outcome := by
  cases q with
  | named verb => exact mirrors_verb resolved read
  | list =>
    simp only [Query.work, Server.list, resolved, Server.orReply, Query.operation]
    rw [Operation.outcome_bind]
    refine (Mirrors.refl _).bind ?_
    rintro result _ rfl
    cases result with
    | ok volumes => exact .done (told_volumes _)
    | error error => exact .done (told_failure error.message_ne error)

def Refused (status : Nat) (work : Routine Http.Reply) : Prop :=
  ∃ reply : Http.Reply, work = .done reply ∧ reply.status = status

theorem resolve_of_unserved (unserved : ∀ driver, s.registry.get s.driver ≠ .ok driver) :
    ∃ text, s.registry.resolve s.driver = .error (.text 404 text) := by
  cases found : s.registry.get s.driver with
  | ok driver => exact absurd found (unserved driver)
  | error error =>
    rw [DriverRegistry.resolve, found]
    exact ⟨_, rfl⟩

theorem toOption_eq_none {ε α : Type} {result : Except ε α} :
    result.toOption = none ↔ ∃ error, result = .error error := by
  cases result <;> simp [Except.toOption]

section Body

variable {α : Type} {shape : Shape α}

theorem refused_of_unread (unread : (shape.decode body).toOption = none)
    (next : α → Routine Http.Reply) : Refused 400 (Server.orReply (shape.ofBody body) next) := by
  obtain ⟨error, decoded⟩ := toOption_eq_none.1 unread
  rw [Shape.ofBody, decoded]
  exact ⟨_, rfl, rfl⟩

theorem refused_of_unserved {next : α → VolumeDriver → Routine Http.Reply}
    (unserved : ∀ driver, s.registry.get s.driver ≠ .ok driver)
    {work : Routine Http.Reply} (reads : work = Server.orReply (shape.ofBody body) fun value =>
      Server.orReply (s.registry.resolve s.driver) (next value)) :
    Refused 404 work ∨ Refused 400 work ∧ (shape.decode body).toOption = none := by
  cases decoded : shape.decode body with
  | ok value =>
    obtain ⟨text, refused⟩ := resolve_of_unserved unserved
    rw [reads, ofBody_of_decode decoded, refused]
    exact .inl ⟨_, rfl, rfl⟩
  | error error =>
    have unread := toOption_eq_none.2 ⟨error, decoded⟩
    exact .inr ⟨reads ▸ refused_of_unread unread _, rfl⟩

end Body

namespace Query

def Misnamed (body : List UInt8) : Query → Prop
  | named .create => ∃ request error, VolumeRequest.shape.decode body = .ok request ∧
      GivenName.read .standard request.name = .error error
  | _ => False

end Query

theorem create_of_unserved (unserved : ∀ driver, s.registry.get s.driver ≠ .ok driver)
    (proper : ¬ (Query.named .create).Misnamed body) :
    Refused 404 (s.create body) ∨
      Refused 400 (s.create body) ∧ (VolumeRequest.shape.decode body).toOption = none := by
  cases decoded : VolumeRequest.shape.decode body with
  | error error =>
    have unread := toOption_eq_none.2 ⟨error, decoded⟩
    exact .inr ⟨refused_of_unread unread _, rfl⟩
  | ok request =>
    cases parsed : GivenName.read .standard request.name with
    | error error => exact absurd ⟨request, error, decoded, parsed⟩ proper
    | ok given =>
      obtain ⟨text, refused⟩ := resolve_of_unserved unserved
      simp only [Server.create, ofBody_of_decode decoded, Server.orReply, parsed, refused]
      exact .inl ⟨_, rfl, rfl⟩

theorem work_of_unserved (unserved : ∀ driver, s.registry.get s.driver ≠ .ok driver) {q : Query}
    (proper : ¬ q.Misnamed body) :
    Refused 404 (q.work s body) ∨ Refused 400 (q.work s body) ∧ q.read? body = none := by
  obtain ⟨text, refused⟩ := resolve_of_unserved unserved
  cases q with
  | list =>
    simp only [Query.work, Server.list, refused]
    exact .inl ⟨_, rfl, rfl⟩
  | named verb =>
    cases verb with
    | create => exact create_of_unserved unserved proper
    | mount =>
      simp only [Query.work, Verb.work, Server.mount, refused]
      exact .inl ⟨_, rfl, rfl⟩
    | unmount =>
      simp only [Query.work, Verb.work, Server.unmount, refused]
      exact .inl ⟨_, rfl, rfl⟩
    | remove | path | get => exact refused_of_unserved unserved rfl

theorem work_of_misnamed {q : Query} (misnamed : q.Misnamed body) :
    ∃ carried text, q.read? body = some carried ∧ q.work s body = .done (failure text) := by
  match q, misnamed with
  | .named .create, ⟨request, error, decoded, parsed⟩ =>
    refine ⟨request, error.toVolumeError.message, toOption_eq_some.2 decoded, ?_⟩
    simp only [Query.work, Verb.work, Server.create, ofBody_of_decode decoded, Server.orReply,
      parsed]
    rfl

theorem work_of_unread (resolved : s.registry.resolve s.driver = .ok driver) {q : Query}
    (unread : q.read? body = none) : Refused 400 (q.work s body) := by
  cases q with
  | list => cases unread
  | named verb =>
    cases verb with
    | mount =>
      simp only [Query.work, Verb.work, Server.mount, resolved]
      exact refused_of_unread unread _
    | unmount =>
      simp only [Query.work, Verb.work, Server.unmount, resolved]
      exact refused_of_unread unread _
    | create | remove | path | get => exact refused_of_unread unread _

theorem findRoute_query (s : Server) (q : Query) :
    Http.findRoute s.routes [q.path.toUTF8.toList] = some (Server.post q.path (q.handler s)) := by
  have texts := Http.findRoute_texts s.routes [q.path]
  rw [List.map_singleton] at texts
  rw [texts]
  rcases q with _ | _ | _ | _ | _ | _ | _ <;> rfl

theorem serve_query {q : Query} {request : Http.Request} (posted : request.method = "POST")
    (there : request.uri.segments? = some [q.path.toUTF8.toList])
    (short : request.body.length ≤ Http.bodyLimit) :
    s.serve request = q.work s request.body := by
  have endpoint : (Server.post q.path (q.handler s)).endpoint? request.method =
      some (.fixed (q.handler s)) := by
    rw [posted]
    rfl
  simp only [Server.serve, Http.serve, there, findRoute_query, endpoint, Http.Endpoint.run]
  cases q with
  | list => rfl
  | named verb => exact if_neg (Nat.not_lt.2 short)

/-- How a request is to be answered: 404 without a driver, 400 if its body does not decode, and
else by what its operation comes to. -/
structure Convention (s : Server) (q : Query) (request : Http.Request) : Prop where
  unserved : (∀ driver, s.registry.get s.driver ≠ .ok driver) →
    Refused 404 (s.serve request) ∨
      Refused 400 (s.serve request) ∧ q.read? request.body = none
  unread : ∀ driver, s.registry.get s.driver = .ok driver → q.read? request.body = none →
    Refused 400 (s.serve request)
  answered : ∀ driver, s.registry.get s.driver = .ok driver →
    ∀ carried, q.read? request.body = some carried →
    ∀ w mishaps reply v, (s.serve request).Yields w mishaps reply v →
      ∃ outcome, (q.operation s driver carried).outcome.Yields w mishaps outcome v ∧
        Told reply outcome

/-- All requests are answered by the convention, but for one: when there is no driver, a request to
create with a name that cannot be read is not refused for that. -/
theorem convention_iff {q : Query} {request : Http.Request} (posted : request.method = "POST")
    (there : request.uri.segments? = some [q.path.toUTF8.toList])
    (short : request.body.length ≤ Http.bodyLimit) :
    Convention s q request ↔
      ¬ ((∀ driver, s.registry.get s.driver ≠ .ok driver) ∧ q.Misnamed request.body) := by
  have serves := serve_query (s := s) posted there short
  constructor
  · rintro convention ⟨unserved, misnamed⟩
    obtain ⟨carried, text, read, replies⟩ := work_of_misnamed (s := s) misnamed
    rcases convention.unserved unserved with ⟨reply, refused, status⟩ | ⟨-, unread⟩
    · rw [serves, replies] at refused
      cases refused
      exact absurd (show 200 = 404 from status) (by decide)
    · rw [read] at unread
      cases unread
  · intro proper
    constructor
    · intro unserved
      rw [serves]
      exact work_of_unserved unserved fun misnamed => proper ⟨unserved, misnamed⟩
    · intro driver served unread
      rw [serves]
      exact work_of_unread (DriverRegistry.resolve_of_get served) unread
    · intro driver served carried read w mishaps reply v yields
      rw [serves] at yields
      exact (mirrors_work (DriverRegistry.resolve_of_get served) read).yields yields

/-- A request to create whose name is to carry options, but carries no name. -/
def nameless : Http.Request where
  method := "POST"
  uri := ⟨"/VolumeDriver.Create".toUTF8.toList, []⟩
  body := (VolumeRequest.shape.toJson ⟨"size=1", none⟩).bytes

theorem convention_of_nameless : Convention Family.dataServer (.named .create) nameless :=
  (convention_iff rfl (by decide +kernel) (by decide +kernel)).2 fun ⟨unserved, _⟩ =>
    unserved Family.twoOfData.driver.toVolumeDriver
      (by simp [Family.dataServer, DriverRegistry.get])

def driverless : Server := { Family.dataServer with driver := "other" }

theorem nameless_not_refused : ¬ Convention driverless (.named .create) nameless := by
  intro convention
  have unserved : ∀ driver, driverless.registry.get driverless.driver ≠ .ok driver := by
    intro driver served
    simp [driverless, Family.dataServer, DriverRegistry.get, Family.twoOfData] at served
  rcases convention.unserved unserved with ⟨reply, refused, status⟩ | ⟨-, unread⟩
  · have answered :
        ((driverless.serve nameless).run (Family.dataBench.world .calm)).1.status = 200 := by
      decide +kernel
    rw [refused] at answered
    exact absurd (answered.symm.trans status) (by decide)
  · have decoded : VolumeRequest.shape.decode nameless.body = .ok ⟨"size=1", none⟩ :=
      Shape.decode_bytes VolumeRequest.shape_faithful _
    simp [Query.read?, decoded, Except.toOption] at unread

end Plugin

end BlockVolumes
