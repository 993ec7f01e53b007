import BlockVolumes.Proofs.Daemon.Mounts
import BlockVolumes.Proofs.Driver.Records

/-! The records of volumes over all that is asked of a daemon, and over all starts of its driver. -/

namespace BlockVolumes

theorem Path.join_ne_of_absolute {base : String} (absolute : isAbsolute base = true)
    (path : String) : join base path ≠ "" := by
  have given : ∀ {text}, isAbsolute text = true → text ≠ "" := by
    rintro text starts rfl
    cases starts
  unfold join
  split
  · rename_i own
    exact given own
  · split <;> simp [given absolute]

open Bench (Altered Turned)

namespace Plugin

variable {s : Server} {d : BlockDriver} {b c : Bench} {name : String} {mishaps : List Mishap}

theorem Grows.altered {such : Locator → Prop} {key : String} (grows : Grows d b c) :
    Altered such key b c := by
  induction grows with
  | done => exact .of_same rfl
  | made _ created _ ih => exact .trans (.gains created.gains) ih

theorem Handled.turned {such : String → Locator → Prop} {verb : Verb} {reply : Http.Reply}
    (placed : s.placeOf name ≠ "") (handled : Handled s d b name verb mishaps reply c) :
    Turned such b c := by
  cases handled with
  | create _ made => exact .altered name made.grows.altered
  | remove removed =>
    cases removed with
    | missing => exact .idle rfl
    | tried _ deleted => exact .deleted deleted
  | mount mounting =>
    cases mounting with
    | missing => exact .idle rfl
    | unready _ taken => exact .altered name taken.grows.altered
    | @tried _ r _ _ _ between _ _ taken mounted =>
      have directories : Altered (such r.id.text) r.id.text between
          (between.withFiles (between.files.makeDirectories (s.placeOf name))).2 :=
        .of_same (Bench.records_withFiles _)
      have reached := directories.trans (.mounted rfl placed mounted)
      exact .altered r.id.text (taken.grows.altered.trans reached)
  | unmount _ unmounting =>
    cases unmounting with
    | bare => exact .idle rfl
    | tried _ unmounted => exact .altered _ (.unmounted rfl unmounted)
  | unknown | path | get => exact .idle rfl

theorem Done.turned {such : String → Locator → Prop} {reply : Http.Reply}
    (absolute : Path.isAbsolute s.mountBase = true) (done : Done s d b mishaps reply c) :
    Turned such b c := by
  rcases done with rfl | ⟨verb, name, handled⟩
  · exact .idle rfl
  · exact handled.turned (Path.join_ne_of_absolute absolute _)

end Plugin

namespace Api

variable {d : BlockDriver} {b c : Bench} {request : Http.Request} {id : String}
  {mishaps : List Mishap}

def Relocates (request : Http.Request) (id : String) (locator : Locator) : Prop :=
  Puts request id ∧ ∃ change, SetRequest.shape.decode request.body = .ok change ∧
    change.locator = some locator ∧ change.spec = none

theorem spares_calls {change : SetRequest} (puts : Puts request id)
    (read : SetRequest.shape.decode request.body = .ok change) :
    ∀ call ∈ change.calls ⟨id⟩, call.Spares (Relocates request id) id := by
  intro call member
  simp only [SetRequest.calls, SetRequest.still, List.mem_append, Option.mem_toList] at member
  rcases member with (update | look) | remount
  · rw [SetRequest.update?, Option.ite_none_right_eq_some] at update
    obtain ⟨-, ⟨⟩⟩ := update
    exact ⟨rfl, fun locator given none => ⟨puts, change, read, given, none⟩⟩
  · obtain ⟨action, -, look⟩ := Option.bind_eq_some_iff.1 look
    unfold Action.look? at look
    split at look <;> cases look <;> trivial
  · obtain ⟨action, -, remount⟩ := Option.bind_eq_some_iff.1 remount
    unfold Action.remount? at remount
    split at remount
    · rw [Option.ite_none_left_eq_some] at remount
      obtain ⟨given, ⟨⟩⟩ := remount
      exact ⟨rfl, given⟩
    · cases remount
      rfl
    · cases remount

theorem Done.turned (done : Done d b request mishaps c) : Turned (Relocates request) b c := by
  cases done with
  | nothing => exact .idle rfl
  | created created => exact .gained created.gains
  | copied copied => exact .altered "" (.copied copied)
  | deleted deleted => exact .deleted deleted
  | changed puts read called => exact .altered _ (called.altered (spares_calls puts read))

end Api

namespace Daemon

inductive Event
  | request (request : Http.Request) (service : Service)
  | init

def Event.Relocates : Event → String → Locator → Prop
  | request asked .api => Api.Relocates asked
  | request _ .plugin | init => fun _ _ => False

structure Episode where
  event : Event
  before : World
  after : World

def Event.Yields (d : Daemon) (u : BlockDriver) (w v : World) : Event → Prop
  | request asked service =>
    ∃ mishaps reply, (d.handle asked service).Yields w mishaps reply v
  | init => ∃ mishaps result, u.init.outcome.Yields w mishaps result v

inductive Lives (d : Daemon) (u : BlockDriver) (start : World) : List Episode → World → Prop
  | start : Lives d u start [] start
  | event {episodes : List Episode} {event : Event} {w v : World}
      (lived : Lives d u start episodes w) (yields : event.Yields d u w v) :
    Lives d u start (episodes ++ [⟨event, w, v⟩]) v

/-- The first and the last record of a volume that is there all through the episodes. -/
def Spans (id : String) : List Episode → Volume → Volume → Prop
  | [], v, w => v = w
  | e :: later, v, w => e.before.record? id = some v ∧
    ∃ u, e.after.record? id = some u ∧ Spans id later u w

/-- What the record of a volume may become in the course of the episodes. -/
structure Ages (id : String) (episodes : List Episode) (v w : Volume) : Prop where
  same : v.Same w
  status : w.status = v.status ∨
    v.status = .none ∧ w.status = .up ∧ ∃ e ∈ episodes, e.event = .init
  locator : w.locator = v.locator ∨ ∃ e ∈ episodes, e.event.Relocates id w.locator

/-- What an episode leaves of the records. -/
structure Episode.Orderly (e : Episode) : Prop where
  ages : ∀ id v w, e.before.record? id = some v → e.after.record? id = some w → Ages id [e] v w
  newborn : ∀ id w, e.before.record? id = none → e.after.record? id = some w → w.status = .none
  mounts : ∀ id w, e.after.record? id = some w → w.WellMounted
  /-- A request changes or removes one volume at most. -/
  single : e.event ≠ .init → ∃ key, ∀ id v, id ≠ key → e.before.record? id = some v →
    e.after.record? id = some v

variable {d : Daemon} {u : BlockDriver} {b c : Bench} {m later : Moment} {mishaps : List Mishap}
  {id : String}

theorem leads_turn (serves : d.fleet.registry.get d.driver = .ok u.toVolumeDriver)
    (absolute : Path.isAbsolute d.mountBase = true) (sound : b.Sound) (request : Http.Request)
    (service : Service) : (d.handle request service).Leads b fun _ _ c =>
      c.Sound ∧ Turned (Event.request request service).Relocates b c := by
  cases service with
  | plugin =>
    let server : Plugin.Server := ⟨d.fleet.registry, d.driver, d.mountBase⟩
    apply (Plugin.leads_request (s := server) serves sound request).mono
    intro mishaps reply c done
    exact ⟨(done.touched sound).sound sound, done.turned absolute⟩
  | api =>
    let server : Api.Server := ⟨d.fleet.registry, d.driver⟩
    apply (Api.leads_request (s := server) serves sound request).mono
    intro mishaps reply c done
    exact ⟨done.touched.sound sound, done.turned⟩

theorem orderly_of_turned {event : Event} (well : b.WellKept)
    (turned : Turned event.Relocates b c) :
    Episode.Orderly ⟨event, b.world m, c.world later⟩ where
  ages id v w before after := by
    rw [Bench.record?_world] at before after
    have became := turned.became before after
    exact ⟨became.same, .inl became.status,
      became.locator.imp_right fun given => ⟨_, List.mem_singleton_self _, given⟩⟩
  newborn id w before after := by
    rw [Bench.record?_world] at before after
    exact (turned.newborn before after).1
  mounts id w after := by
    rw [Bench.record?_world] at after
    exact turned.wellKept well id w after
  single _ := by
    simpa using turned.single

theorem wellKept_markedUp (well : b.WellKept) (marked : c.records = b.records.map Volume.markedUp) :
    c.WellKept := by
  intro id w after
  rw [marked, Table.get?_map] at after
  obtain ⟨v, before, rfl⟩ := Option.map_eq_some_iff.1 after
  exact (well id v before).markedUp

theorem orderly_of_markedUp (well : b.WellKept)
    (marked : c.records = b.records.map Volume.markedUp) :
    Episode.Orderly ⟨.init, b.world m, c.world later⟩ where
  ages id v w before after := by
    rw [Bench.record?_world] at before after
    rw [marked, Table.get?_map, before] at after
    obtain rfl : v.markedUp = w := Option.some.inj after
    refine ⟨v.same_markedUp, ?_, .inl v.locator_markedUp⟩
    rcases v.markedUp_cases with same | ⟨new, up⟩
    · exact .inl (congrArg Volume.status same)
    · exact .inr ⟨new, congrArg Volume.status up, _, List.mem_singleton_self _, rfl⟩
  newborn id w before after := by
    rw [Bench.record?_world] at before after
    rw [marked, Table.get?_map, before] at after
    cases after
  mounts id w after := by
    rw [Bench.record?_world] at after
    exact wellKept_markedUp well marked id w after
  single asked := absurd rfl asked

theorem Event.Yields.orderly {event : Event} {v : World}
    (serves : d.fleet.registry.get d.driver = .ok u.toVolumeDriver)
    (absolute : Path.isAbsolute d.mountBase = true) (sound : b.Sound) (well : b.WellKept)
    (yields : event.Yields d u (b.world m) v) : ∃ (c : Bench) (later : Moment),
      v = c.world later ∧ c.Sound ∧ c.WellKept ∧ Episode.Orderly ⟨event, b.world m, v⟩ := by
  cases event with
  | request asked service =>
    obtain ⟨mishaps, reply, yields⟩ := yields
    obtain ⟨c, later, rfl, next, turned⟩ :=
      (leads_turn serves absolute sound asked service).sound yields
    exact ⟨c, later, rfl, next, turned.wellKept well, orderly_of_turned well turned⟩
  | init =>
    obtain ⟨mishaps, result, yields⟩ := yields
    obtain ⟨c, later, rfl, started⟩ := (BlockDriver.leads_init sound.own).sound yields
    have ends : Call.init.Ends u b mishaps result c := started
    have next : c.Sound := (Bench.Sound.kept u).step sound.own sound ends
    cases started with
    | refused => exact ⟨b, later, rfl, next, well, orderly_of_turned well (.idle rfl)⟩
    | done => exact ⟨_, later, rfl, next, wellKept_markedUp well rfl, orderly_of_markedUp well rfl⟩

theorem Lives.orderly {episodes : List Episode} {w : World}
    (serves : d.fleet.registry.get d.driver = .ok u.toVolumeDriver)
    (absolute : Path.isAbsolute d.mountBase = true) (sound : b.Sound) (well : b.WellKept)
    (lived : Lives d u (b.world m) episodes w) :
    (∃ (c : Bench) (later : Moment), w = c.world later ∧ c.Sound ∧ c.WellKept) ∧
      ∀ e ∈ episodes, e.Orderly := by
  induction lived with
  | start => exact ⟨⟨b, m, rfl, sound, well⟩, List.forall_mem_nil _⟩
  | event _ yields ih =>
    obtain ⟨⟨c, later, rfl, sound, well⟩, all⟩ := ih
    obtain ⟨e, after, rfl, next, still, orderly⟩ := yields.orderly serves absolute sound well
    refine ⟨⟨e, after, rfl, next, still⟩, ?_⟩
    exact List.forall_mem_append.2 ⟨all, List.forall_mem_singleton.2 orderly⟩

theorem Ages.refl (id : String) (v : Volume) : Ages id [] v v := ⟨.refl v, .inl rfl, .inl rfl⟩

theorem Ages.trans {first rest : List Episode} {v w x : Volume} (ages : Ages id first v w)
    (goesOn : Ages id rest w x) : Ages id (first ++ rest) v x where
  same := ages.same.trans goesOn.same
  status := by
    rcases goesOn.status with kept | ⟨new, up, e, member, start⟩
    · rcases ages.status with same | ⟨new, up, e, member, start⟩
      · exact .inl (kept.trans same)
      · exact .inr ⟨new, kept.trans up, e, List.mem_append_left _ member, start⟩
    · refine .inr ⟨?_, up, e, List.mem_append_right _ member, start⟩
      rcases ages.status with same | ⟨-, already, -⟩
      · exact same ▸ new
      · rw [already] at new
        cases new
  locator := by
    rcases goesOn.locator with kept | ⟨e, member, given⟩
    · rw [kept]
      exact ages.locator.imp_right fun ⟨e, member, given⟩ =>
        ⟨e, List.mem_append_left _ member, given⟩
    · exact .inr ⟨e, List.mem_append_right _ member, given⟩

theorem Spans.ages {life : List Episode} {v w : Volume} (orderly : ∀ e ∈ life, e.Orderly)
    (spans : Spans id life v w) : Ages id life v w := by
  induction life generalizing v with
  | nil =>
    obtain rfl : v = w := spans
    exact .refl id v
  | cons e rest ih =>
    obtain ⟨before, x, after, spans⟩ := spans
    obtain ⟨first, others⟩ := List.forall_mem_cons.1 orderly
    exact (first.ages id v x before after).trans (ih others spans)

/-- Whatever is asked of a daemon over an empty store, however often its driver is started, and
whatever goes wrong on the way: volumes are for good what they were made as, up to the status, that
a start can turn from none to up, the locator, that a request to the native API can change, and the
mounts. Of the volumes that are there a request changes one at most. -/
theorem records_keep (serves : d.fleet.registry.get d.driver = .ok u.toVolumeDriver)
    (absolute : Path.isAbsolute d.mountBase = true) (empty : b.records = .empty)
    (unused : b.NamesUnused) {episodes : List Episode} {w : World}
    (lived : Lives d u (b.world m) episodes w) :
    (∀ e ∈ episodes, e.Orderly) ∧ ∀ life, life <:+: episodes → ∀ id v w, Spans id life v w →
      Ages id life v w := by
  have well : b.WellKept := by
    intro id v found
    rw [Bench.absent_of_empty empty] at found
    cases found
  obtain ⟨-, all⟩ := lived.orderly serves absolute (.of_empty empty unused) well
  refine ⟨all, fun life within id v w spans => spans.ages fun e member => ?_⟩
  exact all e (within.subset member)

def Event.run (d : Daemon) (u : BlockDriver) (w : World) : Event → World
  | request asked service => ((d.handle asked service).run w).2
  | init => (u.init.outcome.run w).2

theorem Event.yields_run (d : Daemon) (u : BlockDriver) (w : World) (event : Event) :
    event.Yields d u w (event.run d u w) := by
  cases event with
  | request asked service =>
    obtain ⟨mishaps, yields⟩ := (d.handle asked service).yields_run w
    exact ⟨mishaps, _, yields⟩
  | init =>
    obtain ⟨mishaps, yields⟩ := u.init.outcome.yields_run w
    exact ⟨mishaps, _, yields⟩

theorem Lives.through {start w : World} {episodes : List Episode}
    (lived : Lives d u start episodes w) (events : List Event) : ∃ more,
      Lives d u start (episodes ++ more) (events.foldl (Event.run d u) w) ∧
        more.map (·.event) = events := by
  induction events generalizing episodes w with
  | nil => exact ⟨[], by simpa using lived, rfl⟩
  | cons event rest ih =>
    obtain ⟨more, there, told⟩ := ih (lived.event (event.yields_run d u w))
    exact ⟨⟨event, w, event.run d u w⟩ :: more, by simpa using there, by simp [told]⟩

def Event.ofTurn (turn : Http.Request × Service) : Event := request turn.1 turn.2

/-- A volume is made, gets another name, is up after a start and mounted then. -/
def growing : List Event :=
  [.ofTurn (creation "first"),
    .ofTurn (native "PUT" "/v1/volumes/volume0"
      (Api.SetRequest.shape.toJson ⟨some (.named "second"), none, none⟩)),
    .init, .ofTurn (switching "volume0" .on)]

theorem records_keep_growing : ∃ episodes w,
    Lives shared ⟨"nbd", "/volumes"⟩ ((Bench.ofRecords .empty).world .calm) episodes w ∧
    episodes.map (·.event) = growing ∧
    (w.record? "volume0").map (fun v => (v.locator.name, v.status, v.mountPaths)) =
      some ("second", .up, ["/mnt"]) ∧
    (∀ e ∈ episodes, e.Orderly) ∧ ∀ life, life <:+: episodes → ∀ id v w, Spans id life v w →
      Ages id life v w := by
  obtain ⟨episodes, lived, events⟩ :=
    Lives.start.through (d := shared) (u := ⟨"nbd", "/volumes"⟩) growing
  refine ⟨episodes, _, lived, events, by decide +kernel, ?_⟩
  exact records_keep serves_shared rfl rfl blank_ofRecords.unused lived

end Daemon

end BlockVolumes
