import BlockVolumes.Proofs.Daemon.Mounts
import BlockVolumes.Proofs.Driver.Rollback

/-! Making a volume by its name once more. The second time nothing is done if the name leads to a
volume by then, and it does not where it was shared by several volumes before. -/

namespace BlockVolumes

namespace Bench

variable {b c : Bench} {name : String}

/-- No volume has the name as its ID, and several go by it. -/
structure Shared (b : Bench) (name : String) : Prop where
  unknown : b.records.get? name = none
  several : ∃ id v other w, id ≠ other ∧ b.records.get? id = some v ∧ v.GoesBy name ∧
    b.records.get? other = some w ∧ w.GoesBy name

theorem named_eq_none_iff : b.named name = none ↔ ∀ v, ¬ b.Means name v := by
  rw [Option.eq_none_iff_forall_ne_some]
  exact forall_congr' fun v => not_congr named_iff

theorem unknown_of_named (none : b.named name = none) : b.records.get? name = .none :=
  Option.eq_none_iff_forall_ne_some.2 fun v found => named_eq_none_iff.1 none v (.inl found)

theorem Shared.named (shared : b.Shared name) : b.named name = none := by
  obtain ⟨id, v, other, w, different, foundV, goesV, foundW, goesW⟩ := shared.several
  rw [named_eq_none_iff]
  rintro u (here | ⟨-, single, -, -, alone⟩)
  · rw [shared.unknown] at here
    cases here
  · exact different ((alone id v foundV goesV).trans (alone other w foundW goesW).symm)

theorem shared_of_named (none : b.named name = none) {id : String} {v : Volume}
    (found : b.records.get? id = some v) (goes : v.GoesBy name) : b.Shared name := by
  have unknown := unknown_of_named none
  refine ⟨unknown, Classical.byContradiction fun single => ?_⟩
  refine named_eq_none_iff.1 none v (.inr ⟨unknown, id, found, goes, fun other w also goesW => ?_⟩)
  refine Classical.byContradiction fun different => ?_
  exact single ⟨id, v, other, w, Ne.symm different, found, goes, also, goesW⟩

end Bench

theorem BlockDriver.Created.added {d : BlockDriver} {b c : Bench} {locator : Locator}
    {source : Option Source} {spec : Spec} {mishaps : List Mishap} {id : VolumeId}
    (created : Created d b locator source spec mishaps (.ok id) c) :
    id = b.ids b.drawn ∧ ∃ v, v.locator = locator ∧ b.records.get? id.text = none ∧
      c.records = b.records.insert id.text v := by
  cases created with
  | drawn valid made =>
    obtain ⟨rfl, -, v, same, added⟩ := made.added
    exact ⟨rfl, v, added.located, same ▸ added.absent, same ▸ added.records⟩

namespace Plugin

open Bench (Shared Unchanged)

variable {s : Server} {d : BlockDriver} {b c e : Bench} {name : String} {given : GivenName}
  {options : Option Labels} {mishaps : List Mishap} {body : List UInt8}

theorem leads_create_made (serves : s.registry.get s.driver = .ok d.toVolumeDriver)
    (sound : b.Sound) (asked : Verb.create.name? body = some name) :
    (s.create body).Leads b fun mishaps reply c => ∃ given options result, given.name = name ∧
      Made d given options b mishaps result c ∧ reply = failureOf result := by
  apply (leads_handled serves sound asked).mono
  intro mishaps reply c handled
  cases handled with
  | create goes made => exact ⟨_, _, _, goes, made, rfl⟩

theorem failureOf_eq_success {result : Except VolumeError Unit} :
    failureOf result = success ↔ result = .ok () := by
  cases result with
  | ok done => exact iff_of_true rfl rfl
  | error error =>
    refine iff_of_false (fun same => ?_) (by simp)
    have told := succeeded_failure error
    rw [show failure error.message = success from same, succeeded_success] at told
    cases told

theorem success_of_succeeded (serves : s.registry.get s.driver = .ok d.toVolumeDriver)
    (sound : b.Sound) (asked : Verb.create.name? body = some name) {m : Moment} {w : World}
    {reply : Http.Reply} (yields : (s.create body).Yields (b.world m) mishaps reply w)
    (done : succeeded reply = true) : reply = success := by
  obtain ⟨-, -, -, given, options, result, -, -, rfl⟩ :=
    (leads_create_made serves sound asked).sound yields
  cases result with
  | ok value => rfl
  | error error => exact absurd done (by simp [failureOf, succeeded_failure])

theorem Made.lost_iff (made : Made d given options b mishaps (.ok ()) c) :
    c.named given.name = none ↔
      b.Shared given.name ∧ (b.ids b.drawn).text ≠ given.name := by
  obtain ⟨result, whole⟩ : ∃ result, result = Except.ok (ε := VolumeError) () := ⟨_, rfl⟩
  rw [← whole] at made
  cases made with
  | there named =>
    refine iff_of_false (by simp [named]) ?_
    rintro ⟨shared, -⟩
    simp [shared.named] at named
  | unclear => cases whole
  | @tried _ _ _ result _ none clear created =>
    cases result with
    | error error => cases whole
    | ok id =>
    obtain ⟨drawn, new, located, absent, records⟩ := created.added
    rw [← drawn]
    have goes : new.GoesBy given.name := .inr (congrArg Locator.name located)
    have added : c.records.get? id.text = some new := records ▸ Table.get?_insert_self ..
    constructor
    · intro lost
      have other : id.text ≠ given.name := by
        intro same
        have unknown := Bench.unknown_of_named lost
        rw [← same, added] at unknown
        cases unknown
      refine ⟨?_, other⟩
      obtain ⟨key, v, key', w, different, foundV, goesV, foundW, goesW⟩ :=
        (Bench.shared_of_named lost added goes).several
      -- one of the two that share the name now is not the new volume
      rw [records, Table.get?_insert_eq_some] at foundV foundW
      rcases foundV with ⟨rfl, -⟩ | ⟨-, oldV⟩
      · rcases foundW with ⟨same, -⟩ | ⟨-, oldW⟩
        · exact absurd same different
        · exact Bench.shared_of_named none oldW goesW
      · exact Bench.shared_of_named none oldV goesV
    · rintro ⟨shared, other⟩
      obtain ⟨key, v, key', w, different, foundV, goesV, foundW, goesW⟩ := shared.several
      have still := fun {key : String} {v : Volume} => created.persists key v
      have unknown : c.records.get? given.name = .none := by
        rw [records, Table.get?_insert, if_neg other]
        exact shared.unknown
      exact Shared.named ⟨unknown, key, v, key', w, different, still foundV, goesV, still foundW,
        goesW⟩

theorem Made.idle_iff {result : Except VolumeError Unit}
    (made : Made d given options b mishaps result c) :
    result = .ok () ∧ Unchanged b c ↔ b.named given.name ≠ none := by
  cases made with
  | there named => exact iff_of_true ⟨rfl, .refl b⟩ (by simp [named])
  | unclear none => exact iff_of_false (by simp) (by simp [none])
  | @tried _ _ _ result _ none clear created =>
    refine iff_of_false ?_ (by simp [none])
    rintro ⟨done, unchanged⟩
    cases result with
    | error error => cases done
    | ok id =>
      obtain ⟨v, found⟩ := created.found
      rw [unchanged.records, created.absent] at found
      cases found

theorem run_volumeNamed (none : b.named name = none) (m : Moment) :
    (volumeNamed d.toVolumeDriver name).outcome.run (b.world m) =
      (.error (.notFound name), b.world m) := by
  have unknown := Bench.unknown_of_named none
  have byId : (b.world m).store.inspect [⟨name⟩] = .error (.notFound name) := by
    have told := Store.inspect_keeping_one b.kind b.records ⟨name⟩
    rwa [unknown] at told
  have byName : (b.world m).store.enumerate (.named name) Option.none = .ok _ :=
    Store.enumerate_keeping b.kind b.records (.named name) .none
  have bare : ∀ error, only? (.error error) = .none := fun _ => rfl
  simp only [Bench.named, unknown] at none
  simp only [volumeNamed, Operation.run_bind, Operation.run_lift, BlockDriver.toVolumeDriver,
    BlockDriver.run_consult, byId, byName, mapError_error, mapError_ok, bare, Store.carries,
    Bool.and_true, none]
  rfl

def makeNew (driver : VolumeDriver) (given : GivenName) (options : Option Labels) :
    Operation Unit := do
  let (spec, labels) ← ExceptT.mk (.done (Server.requested given options))
  let _ ← driver.create ⟨given.name, labels⟩ none spec

theorem run_createNamed (none : b.named given.name = none) (m : Moment) :
    (Server.createNamed d.toVolumeDriver given options).outcome.run (b.world m) =
      (makeNew d.toVolumeDriver given options).outcome.run (b.world m) := by
  rw [Server.createNamed, Operation.run_bind, Operation.run_lift, run_volumeNamed none]
  rfl

def newVolume (driver : VolumeDriver) (given : GivenName) (options : Option Labels) :
    Routine Http.Reply := do
  return failureOf (← Server.underName given.name (makeNew driver given options).outcome)

theorem run_create {request : VolumeRequest}
    (serves : s.registry.get s.driver = .ok d.toVolumeDriver)
    (read : VolumeRequest.shape.decode body = .ok request)
    (parsed : GivenName.read .standard request.name = .ok given)
    (none : b.named given.name = none) (m : Moment) :
    (s.create body).run (b.world m) =
      (newVolume d.toVolumeDriver given request.options).run (b.world m) := by
  have locked : ((Routine.perform (.lockName given.name)).run (b.world m)).2 =
      b.world { m with nameLocks := (m.nameLocks.claim given.name).2 } := rfl
  simp only [Server.create, newVolume, ofBody_of_decode read, parsed, resolve_of_get serves,
    Server.orReply, Server.underName, Routine.run_bind]
  rw [locked, run_createNamed none]

end Plugin

namespace Daemon

open Bench (Shared Unchanged)
open Plugin (success)

variable {d : Daemon} {u : BlockDriver} {b : Bench} {m : Moment} {turns : List Turn}
  {name : String} {body again : List UInt8} {mishaps rest : List Mishap} {reply : Http.Reply}

def plugin (d : Daemon) : Plugin.Server := ⟨d.fleet.registry, d.driver, d.mountBase⟩

def wanted : Plugin.VolumeRequest := ⟨"db", none⟩

def wantedName : GivenName := ⟨"db", none, .empty⟩

def wantedBody : List UInt8 := (Plugin.VolumeRequest.shape.toJson wanted).bytes

theorem decode_wanted : Plugin.VolumeRequest.shape.decode wantedBody = .ok wanted :=
  Plugin.toOption_eq_some.1 (by decide +kernel)

theorem read_wanted : GivenName.read .standard wanted.name = .ok wantedName :=
  Plugin.toOption_eq_some.1 (by decide +kernel)

theorem asked_wanted : Plugin.Verb.create.name? wantedBody = some "db" := by
  simp [Plugin.Verb.name?, decode_wanted, read_wanted, Except.toOption, wantedName]

/-- Wherever requests to the two servers have led: a volume is made by its name, with success. When
that is asked for again, with whatever options, it succeeds and nothing changes, just if the name
was not shared before, or is the ID that was drawn. -/
theorem create_again_iff {w v t : World}
    (serves : d.fleet.registry.get d.driver = .ok u.toVolumeDriver) (blank : b.Blank)
    (served : Serves d (b.world m) turns w)
    (asked : Plugin.Verb.create.name? body = some name)
    (askedAgain : Plugin.Verb.create.name? again = some name)
    (first : (d.plugin.create body).Yields w mishaps success v)
    (second : (d.plugin.create again).Yields v rest reply t) :
    ∃ a c e before between after, w = Bench.world a before ∧ v = Bench.world c between ∧
      t = Bench.world e after ∧ (reply = success ∧ Unchanged c e ↔
        (Shared a name → (a.ids a.drawn).text = name)) := by
  obtain ⟨a, before, rfl, traced⟩ := served.traced serves blank
  have sound : a.Sound := traced.toSound
  obtain ⟨c, between, rfl, given, options, result, rfl, made, done⟩ :=
    (Plugin.leads_create_made (s := d.plugin) serves sound asked).sound first
  obtain rfl := Plugin.failureOf_eq_success.1 done.symm
  obtain ⟨e, after, rfl, given', options', result', same, repeated, rfl⟩ :=
    (Plugin.leads_create_made (s := d.plugin) serves (made.worked.sound sound) askedAgain).sound
      second
  refine ⟨a, c, e, before, between, after, rfl, rfl, rfl, ?_⟩
  calc
    Plugin.failureOf result' = success ∧ Unchanged c e ↔ result' = .ok () ∧ Unchanged c e :=
      and_congr_left' Plugin.failureOf_eq_success
    _ ↔ c.named given.name ≠ none := same ▸ repeated.idle_iff
    _ ↔ ¬ (Shared a given.name ∧ (a.ids a.drawn).text ≠ given.name) := not_congr made.lost_iff
    _ ↔ (Shared a given.name → (a.ids a.drawn).text = given.name) := by
      rw [not_and, ne_eq, Decidable.not_not]

/-- Over an empty store. -/
theorem create_again_iff_over_none : ∃ v t : World, ∃ rest reply,
    (shared.plugin.create wantedBody).Yields v rest reply t ∧
    ∃ a c e before between after, (Bench.ofRecords .empty).world .calm = Bench.world a before ∧
      v = Bench.world c between ∧ t = Bench.world e after ∧
      (reply = success ∧ Unchanged c e ↔ (Shared a "db" → (a.ids a.drawn).text = "db")) := by
  obtain ⟨mishaps, first⟩ :=
    (shared.plugin.create wantedBody).yields_run ((Bench.ofRecords .empty).world .calm)
  have done := Plugin.success_of_succeeded (s := shared.plugin) serves_shared
    blank_ofRecords.traced.toSound asked_wanted first (by decide +kernel)
  obtain ⟨rest, second⟩ := (shared.plugin.create wantedBody).yields_run _
  rw [done] at first
  exact ⟨_, _, rest, _, second, create_again_iff serves_shared blank_ofRecords .start asked_wanted
    asked_wanted first second⟩

def nameOf? (w : World) (id : String) : Option String := (w.record? id).map (·.locator.name)

def Crowded (w : World) : Prop :=
  nameOf? w "db" = none ∧ nameOf? w "volume0" = some "db" ∧ nameOf? w "volume1" = some "db"

instance (w : World) : Decidable (Crowded w) := inferInstanceAs (Decidable (_ ∧ _))

theorem Crowded.shared {c : Bench} {later : Moment} (crowded : Crowded (c.world later)) :
    c.Shared "db" := by
  obtain ⟨unknown, first, second⟩ := crowded
  rw [nameOf?, Bench.record?_world] at unknown first second
  obtain ⟨v, foundV, goesV⟩ := Option.map_eq_some_iff.1 first
  obtain ⟨w, foundW, goesW⟩ := Option.map_eq_some_iff.1 second
  refine ⟨Option.map_eq_none_iff.1 unknown, ?_⟩
  exact ⟨"volume0", v, "volume1", w, by decide, foundV, .inr goesV, foundW, .inr goesW⟩

def newDb : Routine Http.Reply :=
  Plugin.newVolume (BlockDriver.mk "nbd" "/volumes").toVolumeDriver wantedName none

theorem yields_newDb {c : Bench} {later : Moment} (sound : c.Sound)
    (crowded : Crowded (c.world later))
    (done : Plugin.succeeded (newDb.run (c.world later)).1 = true) :
    ∃ mishaps e after, (newDb.run (c.world later)).2 = Bench.world e after ∧ e.Sound ∧
      (shared.plugin.create wantedBody).Yields (c.world later) mishaps success
        (newDb.run (c.world later)).2 := by
  have run : (shared.plugin.create wantedBody).run (c.world later) = newDb.run (c.world later) :=
    Plugin.run_create (s := shared.plugin) serves_shared decode_wanted read_wanted
      crowded.shared.named later
  obtain ⟨mishaps, yields⟩ := (shared.plugin.create wantedBody).yields_run (c.world later)
  rw [run] at yields
  have reply := Plugin.success_of_succeeded (s := shared.plugin) serves_shared sound asked_wanted
    yields done
  obtain ⟨e, after, same, handled⟩ :=
    (Plugin.leads_handled (s := shared.plugin) serves_shared sound asked_wanted).sound yields
  exact ⟨mishaps, e, after, same, (handled.worked sound).sound sound, reply ▸ yields⟩

def two : World :=
  shared.after ((Bench.ofRecords .empty).world .calm) [creation "db", creation "db"]

def three : World := (newDb.run two).2

theorem crowded_two_three : (Crowded two ∧ Plugin.succeeded (newDb.run two).1 = true) ∧
    (Crowded three ∧ Plugin.succeeded (newDb.run three).1 = true) ∧
    nameOf? three "volume3" = none ∧ nameOf? (newDb.run three).2 "volume3" = some "db" := by
  decide +kernel

/-- Two volumes are called db. Each time one of that name is asked for, there is one more. -/
theorem create_again_adds : ∃ turns v t mishaps rest,
    Serves shared ((Bench.ofRecords .empty).world .calm) turns two ∧
    (shared.plugin.create wantedBody).Yields two mishaps success v ∧
    (shared.plugin.create wantedBody).Yields v rest success t ∧
    nameOf? v "volume3" = none ∧ nameOf? t "volume3" = some "db" := by
  obtain ⟨⟨crowded, done⟩, ⟨still, doneAgain⟩, absent, added⟩ := crowded_two_three
  obtain ⟨turns, served⟩ :
      ∃ turns, Serves shared ((Bench.ofRecords .empty).world .calm) turns two :=
    Serves.start.after [creation "db", creation "db"]
  obtain ⟨c, later, here, traced⟩ := served.traced serves_shared blank_ofRecords
  rw [here] at crowded done
  obtain ⟨mishaps, e, after, there, sound, first⟩ := yields_newDb traced.toSound crowded done
  rw [← here] at there first
  have same : three = e.world after := there
  rw [same] at still doneAgain
  obtain ⟨rest, -, -, -, -, second⟩ := yields_newDb sound still doneAgain
  rw [← same] at second
  exact ⟨turns, three, _, mishaps, rest, served, first, second, absent, added⟩

end Daemon

end BlockVolumes
