import BlockVolumes.Proofs.Api.Agreement
import BlockVolumes.Proofs.Driver.Refusal
import BlockVolumes.Proofs.Driver.Torn

/-! What comes of a request to change a volume: the steps it asks for are taken in order, up to the
first that fails, and the reply tells how far that went. -/

namespace BlockVolumes

open Operation

namespace Api

variable {d : BlockDriver} {id : VolumeId} {mishaps : List Mishap} {w reached v : World}
  {s : Server}

inductive Step
  | update (locator : Option Locator) (spec : Option Spec)
  | attach
  | detach
  | mount (path : String)
  | unmount (path : String)

/-- What the driver is asked to do. There has to be a path to mount in. -/
def Step.operation (driver : VolumeDriver) (id : VolumeId) : Step → Operation Unit
  | update locator spec => driver.set id locator spec
  | attach => do
    let _ ← driver.attach id
  | detach => driver.detach id
  | mount path =>
    if path = "" then throw (.invalidRequest "Invalid mount path") else driver.mount id path
  | unmount path => driver.unmount id path

def Action.steps (action : Action) : List Step :=
  (match action.attach with
    | .on => [.attach]
    | .off => [.detach]
    | .none => []) ++
  match action.mount with
  | .on => [.mount action.path]
  | .off => [.unmount action.path]
  | .none => []

/-- The steps that a request asks for, in the order in which they are taken. -/
def SetRequest.steps (request : SetRequest) : List Step :=
  (if request.locator.isSome || request.spec.isSome then [.update request.locator request.spec]
    else []) ++ (request.action.map (·.steps)).getD []

def inTurn (driver : VolumeDriver) (id : VolumeId) : List Step → Operation Unit
  | [] => pure ()
  | step :: later => do
    step.operation driver id
    inTurn driver id later

theorem actions_eq (driver : VolumeDriver) (id : VolumeId) (action : Action) :
    actions driver id action = inTurn driver id action.steps := by
  obtain ⟨attach, mount, path⟩ := action
  cases attach <;> cases mount <;> simp [actions, Action.steps, inTurn, Step.operation]

theorem change_eq (driver : VolumeDriver) (id : VolumeId) (request : SetRequest) :
    change driver id request = inTurn driver id request.steps := by
  obtain ⟨locator, spec, action⟩ := request
  cases action with
  | none =>
    simp only [change, SetRequest.steps, Option.map_none, Option.getD_none]
    split <;> simp [inTurn, Step.operation]
  | some action =>
    simp only [change, SetRequest.steps, Option.map_some, Option.getD_some, actions_eq]
    split <;> simp [inTurn, Step.operation]

/-- Steps are taken up to the first that fails: to `reached` by those that succeed, and on to the
last world by the one that fails. -/
inductive Progress (driver : VolumeDriver) (id : VolumeId) :
    World → List Step → Except VolumeError Unit → World → World → Prop
  | finished (w : World) : Progress driver id w [] (.ok ()) w w
  | taken {w u reached v : World} {mishaps : List Mishap} {step : Step} {later : List Step}
      {outcome : Except VolumeError Unit}
      (succeeds : (step.operation driver id).outcome.Yields w mishaps (.ok ()) u)
      (goesOn : Progress driver id u later outcome reached v) :
    Progress driver id w (step :: later) outcome reached v
  | stuck {w v : World} {mishaps : List Mishap} {step : Step} {later : List Step}
      {error : VolumeError}
      (fails : (step.operation driver id).outcome.Yields w mishaps (.error error) v) :
    Progress driver id w (step :: later) (.error error) w v

theorem progress_iff {driver : VolumeDriver} {steps : List Step}
    {outcome : Except VolumeError Unit} :
    (∃ mishaps, (inTurn driver id steps).outcome.Yields w mishaps outcome v) ↔
      ∃ reached, Progress driver id w steps outcome reached v := by
  -- Both ways by induction on the steps: the others go on from the world that the first leads to.
  constructor
  · rintro ⟨mishaps, yields⟩
    induction steps generalizing w mishaps with
    | nil =>
      obtain ⟨-, rfl, rfl⟩ := yields
      exact ⟨v, .finished v⟩
    | cons step later ih =>
      rw [inTurn, outcome_bind] at yields
      obtain ⟨_, late, first, u, -, before, behind⟩ := yields.of_bind
      cases first with
      | ok _ =>
        obtain ⟨reached, goesOn⟩ := ih late behind
        exact ⟨reached, .taken before goesOn⟩
      | error error =>
        obtain ⟨-, rfl, rfl⟩ := behind
        exact ⟨w, .stuck before⟩
  · rintro ⟨reached, progress⟩
    induction progress with
    | finished w => exact ⟨[], rfl, rfl, rfl⟩
    | taken succeeds _ ih =>
      obtain ⟨late, goesOn⟩ := ih
      rw [inTurn, outcome_bind]
      exact ⟨_, succeeds.bind goesOn⟩
    | stuck fails =>
      rw [inTurn, outcome_bind]
      exact ⟨_, fails.bind ⟨rfl, rfl, rfl⟩⟩

def reach (driver : VolumeDriver) (id : VolumeId) : World → List Step → World
  | w, [] => w
  | w, step :: later =>
    match (step.operation driver id).outcome.run w with
    | (.ok (), u) => reach driver id u later
    | (.error _, _) => w

theorem progress_run (driver : VolumeDriver) (id : VolumeId) (w : World) (steps : List Step) :
    Progress driver id w steps ((inTurn driver id steps).outcome.run w).1 (reach driver id w steps)
      ((inTurn driver id steps).outcome.run w).2 := by
  induction steps generalizing w with
  | nil => exact .finished w
  | cons step later ih =>
    obtain ⟨mishaps, yields⟩ := (step.operation driver id).outcome.yields_run w
    rw [inTurn, Operation.run_bind, reach]
    generalize (step.operation driver id).outcome.run w = ran at yields ⊢
    obtain ⟨result, u⟩ := ran
    cases result with
    | ok _ => exact .taken yields (ih u)
    | error error => exact .stuck yields

theorem failed_step {step : Step} {error : VolumeError}
    (fails : (step.operation d.toVolumeDriver id).outcome.Yields w mishaps (.error error) v) :
    w.Undisturbed v ∨ w.Torn id v := by
  cases step with
  | update locator spec => exact .inl (BlockDriver.failed_set fails)
  | attach =>
    rw [Step.operation, outcome_bind] at fails
    obtain ⟨_, _, first, _, -, before, behind⟩ := fails.of_bind
    cases first with
    | ok file =>
      obtain ⟨-, failed, -⟩ := behind
      cases failed
    | error error =>
      obtain ⟨-, -, rfl⟩ := behind
      exact .inl (BlockDriver.failed_attach before)
  | detach => exact .inl (BlockDriver.failed_detach fails)
  | mount path =>
    by_cases empty : path = ""
    · rw [Step.operation, if_pos empty] at fails
      obtain ⟨-, -, rfl⟩ := fails
      exact .inl (.refl _)
    · rw [Step.operation, if_neg empty] at fails
      exact BlockDriver.failed_mount fails
  | unmount path => exact BlockDriver.failed_unmount fails

theorem Progress.undisturbed_or_torn {steps : List Step} {outcome : Except VolumeError Unit}
    (progress : Progress d.toVolumeDriver id w steps outcome reached v) :
    reached.Undisturbed v ∨ reached.Torn id v := by
  induction progress with
  | finished w => exact .inl (.refl w)
  | taken _ _ ih => exact ih
  | stuck fails => exact failed_step fails

theorem Progress.refused {locator : Option Locator} {spec : Spec} {later : List Step}
    {outcome : Except VolumeError Unit}
    (progress : Progress d.toVolumeDriver id w (.update locator (some spec) :: later) outcome
      reached v) :
    outcome = .error (.notSupported "spec update") ∧ v = w := by
  cases progress with
  | taken succeeds =>
    obtain ⟨-, failed, -⟩ := succeeds
    cases failed
  | stuck fails =>
    obtain ⟨-, failed, rfl⟩ := fails
    cases failed
    exact ⟨rfl, rfl⟩

structure Asks (request : Http.Request) (id : VolumeId) (change : SetRequest) : Prop where
  method : request.method = "PUT"
  path : ∃ segment, request.uri.segments? =
      some ["v1".toUTF8.toList, "volumes".toUTF8.toList, segment] ∧
    segment ≠ [] ∧ (∀ name ∈ telemetry, segment ≠ name.toUTF8.toList) ∧
    Text.decode? (Http.unescape segment) = some id.text
  small : request.body.length ≤ Http.bodyLimit
  read : SetRequest.shape.decode request.body = .ok change

theorem Server.findRoute_segment (s : Server) {segment : List UInt8} (given : segment ≠ [])
    (free : ∀ name ∈ telemetry, segment ≠ name.toUTF8.toList) :
    Http.findRoute s.routes ["v1".toUTF8.toList, "volumes".toUTF8.toList, segment] =
      some s.volumeRoute := by
  have held : (segment != []) = true := bne_iff_ne.2 given
  have other : ∀ name ∈ telemetry, (name.toUTF8.toList == segment) = false :=
    fun name told => beq_false_of_ne (free name told).symm
  have stats := other "stats" (by simp [telemetry])
  have alerts := other "alerts" (by simp [telemetry])
  have requests := other "requests" (by simp [telemetry])
  simp only [Http.findRoute, routes, route, routeWithId, List.filter, Http.Route.fits,
    Http.Segment.fits, List.map_cons, List.map_nil, List.cons_append, List.nil_append,
    List.zip_cons_cons, List.zip_nil_left, List.zip_nil_right, List.all_cons, List.all_nil,
    List.length_cons, List.length_nil, held, stats, alerts, requests, beq_self_eq_true]
  rfl

theorem Asks.serve {request : Http.Request} {change : SetRequest} (asks : Asks request id change) :
    s.serve request = s.set id request.body := by
  obtain ⟨segment, path, given, free, decoded⟩ := asks.path
  have endpoint : s.volumeRoute.endpoint? request.method =
      some (.withId fun id => .body (s.set ⟨id⟩)) := asks.method ▸ s.endpoint_set
  have place : s.volumeRoute.freeSegment ["v1".toUTF8.toList, "volumes".toUTF8.toList, segment] =
    segment := rfl
  simp only [Server.serve, Http.serve, path, s.findRoute_segment given free, endpoint, place,
    Http.Endpoint.run, decoded, Http.Handler.run, Nat.not_lt.2 asks.small, if_false]

def look (w : World) (id : VolumeId) : Except VolumeError Volume :=
  BlockDriver.recordOf id (w.store.get id)

theorem inspect_eq (w : World) (id : VolumeId) :
    (w.store.inspect [id]).mapError VolumeError.ofStore = (look w id).map fun v => [v] := by
  rw [Store.inspect_one, look]
  cases w.store.get id with
  | error error => rfl
  | ok found => cases found <;> rfl

def verdict : Except VolumeError Unit → Except VolumeError Volume → Outcome
  | .error error, _ => ⟨error.message⟩
  | .ok (), .error error => ⟨error.message⟩
  | .ok (), .ok _ => .success

theorem setReply_look (outcome : Except VolumeError Unit) (looked : Except VolumeError Volume) :
    setReply outcome (looked.map fun v => [v]) = ⟨looked.toOption, verdict outcome looked⟩ := by
  cases looked <;> cases outcome <;> rfl

/-- How a request to change a volume is answered: its steps lead to `reached`, and the reply tells
why they went no further, and what a look at the volume gives. -/
structure Answered (d : BlockDriver) (id : VolumeId) (change : SetRequest) (w : World)
    (outcome : Except VolumeError Unit) (reached : World) (reply : Http.Reply) (v : World) :
    Prop where
  /-- A look that is taken at the end finds one volume, or fails. -/
  progress : ∃ left mishaps, Progress d.toVolumeDriver id w change.steps outcome reached left ∧
    (d.toVolumeDriver.inspect [id]).outcome.Yields left mishaps
      ((look v id).map fun volume => [volume]) v
  told : reply = Plugin.send SetReply.shape ⟨(look v id).toOption, verdict outcome (look v id)⟩
  status : reply.status = 200
  whole : change.spec.isSome = true →
    outcome = .error (.notSupported "spec update") ∧ w.Undisturbed v

/-- The steps that succeeded are all that was done, and the record that there is shows. -/
structure Faithful (id : VolumeId) (reached v : World) : Prop where
  state : reached.Undisturbed v
  volume : (look v id).toOption = v.store.kept id

theorem answered_of_progress {change : SetRequest} {outcome : Except VolumeError Unit}
    {left : World} {result : Except VolumeError (List Volume)}
    (progress : Progress d.toVolumeDriver id w change.steps outcome reached left)
    (inspecting : (d.toVolumeDriver.inspect [id]).outcome.Yields left mishaps result v) :
    Answered d id change w outcome reached (Plugin.send SetReply.shape (setReply outcome result))
      v := by
  obtain ⟨same, rfl⟩ := BlockDriver.yields_consult inspecting
  rw [← same.store, inspect_eq] at inspecting ⊢
  refine ⟨⟨left, _, progress, inspecting⟩, ?_, rfl, ?_⟩
  · rw [setReply_look]
  · intro given
    obtain ⟨spec, there⟩ := Option.isSome_iff_exists.1 given
    have first : change.steps =
        .update change.locator (some spec) :: (change.action.map (·.steps)).getD [] := by
      simp [SetRequest.steps, there]
    obtain ⟨refused, rfl⟩ := (first ▸ progress).refused
    exact ⟨refused, same⟩

theorem Asks.serve_eq {request : Http.Request} {change : SetRequest}
    (asks : Asks request id change) (registered : s.registry.get s.driver = .ok d.toVolumeDriver) :
    s.serve request = (do
      let outcome ← (inTurn d.toVolumeDriver id change.steps).outcome
      let inspected ← (d.toVolumeDriver.inspect [id]).outcome
      return Plugin.send SetReply.shape (setReply outcome inspected)) := by
  rw [asks.serve, Server.set, Plugin.ofBody_of_decode asks.read, Plugin.Server.orReply,
    withDriver_eq registered, change_eq]

theorem answered_of_yields {request : Http.Request} {change : SetRequest} {reply : Http.Reply}
    (registered : s.registry.get s.driver = .ok d.toVolumeDriver) (asks : Asks request id change)
    (yields : (s.serve request).Yields w mishaps reply v) :
    ∃ outcome reached, Answered d id change w outcome reached reply v := by
  rw [asks.serve_eq registered] at yields
  obtain ⟨_, _, outcome, left, rfl, changing, rest⟩ := yields.of_bind
  obtain ⟨_, _, looked, _, rfl, inspecting, ends⟩ := rest.of_bind
  obtain ⟨rfl, rfl, rfl⟩ := ends
  obtain ⟨reached, progress⟩ := progress_iff.1 ⟨_, changing⟩
  exact ⟨outcome, reached, answered_of_progress progress inspecting⟩

theorem answered_run {request : Http.Request} {change : SetRequest}
    (registered : s.registry.get s.driver = .ok d.toVolumeDriver) (asks : Asks request id change)
    (w : World) :
    Answered d id change w ((inTurn d.toVolumeDriver id change.steps).outcome.run w).1
      (reach d.toVolumeDriver id w change.steps) ((s.serve request).run w).1
      ((s.serve request).run w).2 := by
  rw [asks.serve_eq registered]
  simp only [Routine.run_bind]
  obtain ⟨mishaps, inspecting⟩ := (d.toVolumeDriver.inspect [id]).outcome.yields_run
    ((inTurn d.toVolumeDriver id change.steps).outcome.run w).2
  exact answered_of_progress (progress_run _ _ _ _) inspecting

theorem Answered.yields {request : Http.Request} {change : SetRequest} {reply : Http.Reply}
    {outcome : Except VolumeError Unit} (answered : Answered d id change w outcome reached reply v)
    (registered : s.registry.get s.driver = .ok d.toVolumeDriver)
    (asks : Asks request id change) : ∃ mishaps, (s.serve request).Yields w mishaps reply v := by
  obtain ⟨left, _, progress, inspecting⟩ := answered.progress
  obtain ⟨_, changing⟩ := progress_iff.2 ⟨reached, progress⟩
  have reply_eq := answered.told
  rw [← setReply_look] at reply_eq
  rw [asks.serve_eq registered]
  exact ⟨_, changing.bind (inspecting.bind ⟨rfl, reply_eq, rfl⟩)⟩

theorem Answered.faithful_iff {change : SetRequest} {reply : Http.Reply}
    {outcome : Except VolumeError Unit}
    (answered : Answered d id change w outcome reached reply v) :
    Faithful id reached v ↔ ¬ reached.Torn id v ∧
      ¬ (.get ∈ v.store.refused ∧ ∃ volume, v.store.kept id = some volume) := by
  obtain ⟨left, _, progress, inspecting⟩ := answered.progress
  have same := (BlockDriver.yields_consult inspecting).1
  have shows : (look v id).toOption = (v.store.get id).toOption.join := by
    rw [look]
    cases v.store.get id with
    | error error => rfl
    | ok found => cases found <;> rfl
  rw [← Store.get_toOption_eq_kept_iff, ← shows]
  constructor
  · exact fun faithful => ⟨fun torn => torn.disturbed faithful.state, faithful.volume⟩
  · rintro ⟨whole, volume⟩
    refine ⟨?_, volume⟩
    rcases progress.undisturbed_or_torn with kept | torn
    · exact kept.trans same
    · exact absurd (torn.trans same) whole

/-- In every state, whatever the store refuses and whatever fails, a request to change a volume is
answered so. What is promised of the answer is kept unless the host did its part of a step and the
store did not take the record, or the store does not give out at the end what it has. -/
theorem change_answered_iff {request : Http.Request} {change : SetRequest}
    (registered : s.registry.get s.driver = .ok d.toVolumeDriver)
    (asks : Asks request id change) (w : World) (reply : Http.Reply) (v : World) :
    ((∃ mishaps, (s.serve request).Yields w mishaps reply v) ↔
      ∃ outcome reached, Answered d id change w outcome reached reply v) ∧
    ∀ outcome reached, Answered d id change w outcome reached reply v →
      (Faithful id reached v ↔ ¬ reached.Torn id v ∧
        ¬ (.get ∈ v.store.refused ∧ ∃ volume, v.store.kept id = some volume)) := by
  refine ⟨⟨?_, ?_⟩, fun _ _ answered => answered.faithful_iff⟩
  · rintro ⟨mishaps, yields⟩
    exact answered_of_yields registered asks yields
  · rintro ⟨outcome, reached, answered⟩
    exact answered.yields registered asks

def oldDriver : BlockDriver := ⟨"nbd", "/volumes"⟩

def asking (change : SetRequest) : Http.Request :=
  (Daemon.native "PUT" "/v1/volumes/old" (SetRequest.shape.toJson change)).1

def halfway : SetRequest := ⟨some (.named "new"), none, some ⟨.on, .on, ""⟩⟩

theorem asks_asking {change : SetRequest}
    (small : (asking change).body.length ≤ Http.bodyLimit) :
    Asks (asking change) ⟨"old"⟩ change where
  method := rfl
  path := by
    have uri : (asking change).uri = (asking halfway).uri := rfl
    rw [uri]
    exact ⟨"old".toUTF8.toList, by decide +kernel, by decide +kernel, by decide +kernel,
      by decide +kernel⟩
  small := small
  read := Shape.decode_bytes SetRequest.shape_faithful change

theorem asks_halfway : Asks (asking halfway) ⟨"old"⟩ halfway := asks_asking (by decide +kernel)

theorem serves_old : bareServer.registry.get bareServer.driver = .ok oldDriver.toVolumeDriver :=
  Daemon.serves_shared

/-- The name is changed, and then there is no path to mount in. -/
theorem change_answered_halfway : ∃ outcome reached v,
    Answered oldDriver ⟨"old"⟩ halfway (Bench.aged.world .calm) outcome reached
      (Plugin.send SetReply.shape ⟨some { Bench.oldRecord with locator := .named "new" },
        ⟨"Invalid request: Invalid mount path"⟩⟩) v ∧
    Faithful ⟨"old"⟩ reached v := by
  have ran := answered_run serves_old asks_halfway (Bench.aged.world .calm)
  have faithful := (change_answered_iff serves_old asks_halfway _ _ _).2 _ _ ran
  have replies : ((bareServer.serve (asking halfway)).run (Bench.aged.world .calm)).1 =
      Plugin.send SetReply.shape ⟨some { Bench.oldRecord with locator := .named "new" },
        ⟨"Invalid request: Invalid mount path"⟩⟩ := by
    rw [asks_halfway.serve_eq serves_old]
    rfl
  rw [replies] at ran
  refine ⟨_, _, _, ran, faithful.2 ⟨fun torn => torn.disturbed ?_, ?_⟩⟩
  · rw [asks_halfway.serve_eq serves_old]
    rfl
  · rintro ⟨told, -⟩
    rw [asks_halfway.serve_eq serves_old] at told
    cases told

def mounting : SetRequest := ⟨none, none, some ⟨.none, .on, "/mnt"⟩⟩

theorem asks_mounting : Asks (asking mounting) ⟨"old"⟩ mounting := asks_asking (by decide +kernel)

/-- The store takes no changes of records. -/
def stubborn : World := (Bench.aged.world .calm).refusing [.update]

/-- The volume stays mounted, and nobody is told. -/
theorem change_torn : ∃ outcome reply v,
    (∃ mishaps, (bareServer.serve (asking mounting)).Yields stubborn mishaps reply v) ∧
    Answered oldDriver ⟨"old"⟩ mounting stubborn outcome stubborn reply v ∧
    reply = Plugin.send SetReply.shape ⟨some Bench.oldRecord,
      ⟨"Metadata store error: Database error: injected"⟩⟩ ∧
    v.host = .recording ⟨[], [⟨"/mnt", "/dev/nbd0"⟩], false, false⟩ ∧
    ¬ Faithful ⟨"old"⟩ stubborn v := by
  have ran := answered_run serves_old asks_mounting stubborn
  have reached : reach oldDriver.toVolumeDriver ⟨"old"⟩ stubborn mounting.steps = stubborn := rfl
  rw [reached] at ran
  have hosted : ((bareServer.serve (asking mounting)).run stubborn).2.host =
      .recording ⟨[], [⟨"/mnt", "/dev/nbd0"⟩], false, false⟩ := by
    rw [asks_mounting.serve_eq serves_old]
    rfl
  have replies : ((bareServer.serve (asking mounting)).run stubborn).1 =
      Plugin.send SetReply.shape ⟨some Bench.oldRecord,
        ⟨"Metadata store error: Database error: injected"⟩⟩ := by
    rw [asks_mounting.serve_eq serves_old]
    rfl
  refine ⟨_, _, _, ran.yields serves_old asks_mounting, ran, replies, hosted, fun faithful => ?_⟩
  have kept := faithful.state.host
  rw [hosted] at kept
  cases kept

end Api

end BlockVolumes
