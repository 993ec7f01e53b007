import BlockVolumes.Proofs.Driver.Ownership
import BlockVolumes.Proofs.Store.Agreement

/-! Snapshots. A volume is made as any other one, and only when it is ready its file is overwritten
with that of the parent, whatever came before. -/

namespace BlockVolumes

open Operation

namespace Routine

variable {α β : Type} {w u v x : World} {mishaps early later : List Mishap} {value : α}

/-- A routine can be run from `w` up to a point where `rest` is left of it, in the world `u`. -/
inductive Passes : Routine α → World → List Mishap → Routine α → World → Prop
  | here {r : Routine α} {w : World} : Passes r w [] r w
  | call {β : Type} {effect : Effect β} {next : β → Routine α} {w after u : World}
      {faults : Faults} {answer : β} {mishaps : List Mishap} {rest : Routine α}
      (answered : effect.perform (w.under faults) = (answer, after))
      (later : Passes (next answer) after mishaps rest u) :
    Passes (call effect next) w (effect.mishaps answer ++ mishaps) rest u

/-- A run on which there is a point where `rest` is left to do in the world `u`. -/
def Visits (r : Routine α) (w : World) (mishaps : List Mishap) (value : α) (v : World)
    (rest : Routine α) (u : World) : Prop :=
  ∃ early later, mishaps = early ++ later ∧ r.Passes w early rest u ∧ rest.Yields u later value v

theorem Yields.of_bind {r : Routine β} {f : β → Routine α}
    (yields : (r >>= f).Yields w mishaps value v) :
    ∃ early later first u, mishaps = early ++ later ∧ r.Yields w early first u ∧
      (f first).Yields u later value v := by
  induction r generalizing w mishaps with
  | done first => exact ⟨[], mishaps, first, w, rfl, ⟨rfl, rfl, rfl⟩, yields⟩
  | call effect next ih =>
    obtain ⟨faults, answer, after, rest, answered, rfl, yields⟩ := yields
    obtain ⟨early, later, first, u, rfl, before, behind⟩ := ih answer yields
    refine ⟨effect.mishaps answer ++ early, later, first, u, by simp, ?_, behind⟩
    exact ⟨faults, answer, after, early, answered, rfl, before⟩

theorem Yields.passes {r : Routine β} {first : β} (yields : r.Yields w early first u)
    (f : β → Routine α) : (r >>= f).Passes w early (f first) u := by
  induction r generalizing w early with
  | done value =>
    obtain ⟨rfl, rfl, rfl⟩ := yields
    exact .here
  | call effect next ih =>
    obtain ⟨faults, answer, after, rest, answered, rfl, yields⟩ := yields
    exact .call answered (ih answer yields)

theorem Passes.trans {r s t : Routine α} (first : r.Passes w early s u)
    (next : s.Passes u later t x) : r.Passes w (early ++ later) t x := by
  induction first with
  | here => exact next
  | call answered _ ih =>
    rw [List.append_assoc]
    exact .call answered (ih next)

theorem Passes.bind {r rest : Routine β} (passes : r.Passes w early rest u) (f : β → Routine α) :
    (r >>= f).Passes w early (rest >>= f) u := by
  induction passes with
  | here => exact .here
  | call answered _ ih => exact .call answered ih

theorem Visits.here {r : Routine α} (yields : r.Yields w mishaps value v) :
    r.Visits w mishaps value v r w :=
  ⟨[], mishaps, rfl, .here, yields⟩

theorem Visits.after {r : Routine β} {f : β → Routine α} {first : β} {rest : Routine α}
    (yields : r.Yields w early first u) (visits : (f first).Visits u later value v rest x) :
    (r >>= f).Visits w (early ++ later) value v rest x := by
  obtain ⟨before, behind, rfl, passes, yieldsRest⟩ := visits
  exact ⟨early ++ before, behind, by simp, (yields.passes f).trans passes, yieldsRest⟩

theorem Yields.bind {r : Routine β} {f : β → Routine α} {first : β}
    (yields : r.Yields w early first u) (behind : (f first).Yields u later value v) :
    (r >>= f).Yields w (early ++ later) value v := by
  induction r generalizing w early with
  | done other =>
    obtain ⟨rfl, rfl, rfl⟩ := yields
    exact behind
  | call effect next ih =>
    obtain ⟨faults, answer, after, rest, answered, rfl, yields⟩ := yields
    exact ⟨faults, answer, after, rest ++ later, answered, by simp, ih answer yields⟩

theorem Visits.before {r rest : Routine β} {f : β → Routine α} {first : β}
    (visits : r.Visits w early first u rest x) (behind : (f first).Yields u later value v) :
    (r >>= f).Visits w (early ++ later) value v (rest >>= f) x := by
  obtain ⟨before, between, rfl, passes, yields⟩ := visits
  exact ⟨before, between ++ later, by simp, passes.bind f, yields.bind behind⟩

end Routine

namespace Operation

variable {α β : Type} {w u v x : World} {mishaps early later : List Mishap} {value : α}
  {operation : Operation β} {next : β → Operation α} {first : β}

theorem yields_of_bind (yields : (operation >>= next).outcome.Yields w mishaps (.ok value) v) :
    ∃ early later first u, mishaps = early ++ later ∧
      operation.outcome.Yields w early (.ok first) u ∧
      (next first).outcome.Yields u later (.ok value) v := by
  rw [outcome_bind] at yields
  obtain ⟨early, later, result, u, whole, before, behind⟩ := yields.of_bind
  cases result with
  | ok first => exact ⟨early, later, first, u, whole, before, behind⟩
  | error error =>
    obtain ⟨-, failed, -⟩ := behind
    cases failed

theorem visits_after {rest : Routine (Except VolumeError α)} {result : Except VolumeError α}
    (yields : operation.outcome.Yields w early (.ok first) u)
    (visits : (next first).outcome.Visits u later result v rest x) :
    (operation >>= next).outcome.Visits w (early ++ later) result v rest x := by
  rw [outcome_bind]
  exact .after yields visits

end Operation

namespace BlockDriver

open Routine (Visits)

variable {α : Type} {d : BlockDriver} {b : Bench} {m : Moment} {mishaps : List Mishap} {v : World}

theorem visits_underLock {id : VolumeId} {work : Operation α} {result : Except VolumeError α}
    (yields : (underLock id work).outcome.Yields (b.world m) mishaps result v) :
    ∃ inside inner u, work.outcome.Yields (b.world inside) inner result u ∧
      ∀ {β : Type} {effect : Effect β} {next x},
        work.outcome.Visits (b.world inside) inner result u (.call effect next) x →
        ∃ next, (underLock id work).outcome.Visits (b.world m) mishaps result v
          (.call effect next) x := by
  obtain ⟨_, _, claim, _, rfl, locked, working⟩ := yields.of_bind
  have still : (Routine.perform (.lockVolume id)).Leads b fun _ _ c => b = c :=
    Routine.leads_perform.2 fun _ => rfl
  obtain ⟨_, inside, rfl, rfl⟩ := still.sound locked
  obtain ⟨inner, _, told, u, rfl, worked, unlocking⟩ := working.of_bind
  obtain ⟨_, _, _, _, rfl, -, -, rfl, -⟩ := unlocking.of_bind
  exact ⟨inside, inner, u, worked, fun visits => ⟨_, .after locked (visits.before unlocking)⟩⟩

structure Furnished (d : BlockDriver) (b : Bench) (locator : Locator) (source : Option Source)
    (spec : Spec) (v : Volume) (c : Bench) : Prop extends Added d b locator spec v c where
  source : v.source = source.getD .unknown
  newborn : v.Newborn
  formatted : c.formatted = b.formatted ++ [(v.device, spec.filesystem)]

theorem Provisioned.furnished {id copy : VolumeId} {locator : Locator} {source : Option Source}
    {spec : Spec} {c : Bench}
    (made : Provisioned d b id locator source spec mishaps (.ok copy) c) :
    ∃ v, v.id = copy ∧ Furnished d b locator source spec v c := by
  cases made with
  | done free small absent =>
    refine ⟨newRecord b id locator source spec, rfl, ?_⟩
    refine ⟨?_, rfl, newborn_newRecord .., rfl⟩
    constructor
    · exact Table.not_contains_iff.1 absent
    · exact free
    all_goals rfl

theorem Provisioned.unique {id copy other : VolumeId} {locator : Locator} {source : Option Source}
    {spec : Spec} {early late : List Mishap} {c e : Bench}
    (made : Provisioned d b id locator source spec early (.ok copy) c)
    (again : Provisioned d b id locator source spec late (.ok other) e) : c = e := by
  cases made
  cases again
  rfl

theorem visits_copyFile {id copy : VolumeId} {locator : Locator}
    (unused : b.NamesUnused)
    (yields : (d.snapshot id locator).outcome.Yields (b.world m) mishaps (.ok copy) v) :
    ∃ parent made e moment next, b.records.get? id.text = some parent ∧
      Provisioned d { b with drawn := b.drawn + 1 } (b.ids b.drawn) locator
        (some ⟨some id⟩) parent.spec made (.ok copy) e ∧
      (d.snapshot id locator).outcome.Visits (b.world m) mishaps (.ok copy) v
        (.call (.copyFile (d.backingFile id) (d.backingFile copy)) next) (e.world moment) := by
  obtain ⟨inside, _, _, worked, visits⟩ := visits_underLock yields
  obtain ⟨_, _, parent, _, rfl, looked, making⟩ := yields_of_bind worked
  have found : (record id).outcome.Leads b fun _ result c =>
      b = c ∧ ∀ parent, result = .ok parent → b.records.get? id.text = some parent :=
    leads_record (fun v found => ⟨rfl, fun _ same => Except.ok.inj same ▸ found⟩)
      fun _ => ⟨rfl, fun _ same => nomatch same⟩
  obtain ⟨_, known, rfl, rfl, there⟩ := found.sound looked
  obtain ⟨made, _, other, _, rfl, creating, copying⟩ := yields_of_bind making
  obtain ⟨e, moment, rfl, provisioned⟩ := (leads_createUnchecked unused).sound creating
  have same : other = copy := by
    obtain ⟨_, answer, _, _, -, -, ending⟩ := copying
    cases answer with
    | ok done =>
      obtain ⟨-, same, -⟩ := ending
      exact (Except.ok.inj same).symm
    | error error =>
      obtain ⟨_, _, _, _, -, -, -, failed, -⟩ := yields_of_bind ending
      cases failed
  obtain ⟨next, way⟩ := visits (visits_after looked (visits_after creating (.here copying)))
  exact ⟨parent, made, e, moment, next, there parent rfl, same ▸ provisioned, same ▸ way⟩

end BlockDriver

namespace Table

variable {ν : Type} {key : String} {value : ν}

theorem put_perm {entries : List (String × ν)} (absent : lookup key entries = none) :
    (put key value entries).Perm ((key, value) :: entries) := by
  induction entries with
  | nil => exact .refl _
  | cons head rest ih =>
    obtain ⟨k, v⟩ := head
    have other : k ≠ key := by
      rintro rfl
      simp [lookup] at absent
    have later : lookup key rest = none := by simpa [lookup, other] using absent
    simp only [put]
    split
    · exact .refl _
    · split
      · exact ((ih later).cons _).trans (.swap _ _ _)
      · exact absurd (eq_of_not_lt ‹_› ‹_›).symm other

theorem values_insert_perm {t : Table ν} (absent : t.get? key = none) :
    (t.insert key value).values.Perm (value :: t.values) :=
  (put_perm absent).map Prod.snd

end Table

theorem Files.resolve_ne {f : Files} {path query : String} {file : SparseFile}
    (free : f.vacant path = true) (there : f.get? query = some file) :
    Path.resolve path ≠ Path.resolve query := by
  intro same
  have absent := get?_of_vacant free
  rw [get?, same] at absent
  rw [get?, absent] at there
  cases there

namespace Bench

variable {d : BlockDriver} {b c : Bench} {m : Moment} {mishaps : List Mishap}

/-- A volume was made with an ID, a file and a device that nobody had, as a copy of its parent. -/
structure Duplicated (d : BlockDriver) (b : Bench) (parent : Volume) (locator : Locator)
    (kept : SparseFile) (copy : Volume) (c : Bench) : Prop where
  unrecorded : b.records.get? copy.id.text = none
  vacant : b.files.vacant (d.backingFile copy.id) = true
  unregistered : b.devices.devices.get? copy.device = none
  unconnected : b.connected.get? copy.device = none
  spec : copy.spec = parent.spec
  source : copy.source = ⟨some parent.id⟩
  located : copy.locator = locator
  newborn : copy.Newborn
  records : c.records = b.records.insert copy.id.text copy
  devices : c.devices = b.devices.register copy.device
    ⟨d.backingFile copy.id, ⟨d.backingFile copy.id, some copy.device⟩⟩
  connected : c.connected = b.connected.insert copy.device (d.backingFile copy.id)
  formatted : c.formatted = b.formatted ++ [(copy.device, parent.spec.filesystem)]
  files : c.files = b.files.put (d.backingFile copy.id) kept
  mounts : c.mounts = b.mounts
  kind : c.kind = b.kind

structure Spared (d : BlockDriver) (copy : Volume) (b c : Bench) (v : Volume) : Prop where
  record : c.records.get? v.id.text = some v
  file : ∀ file, b.files.get? (d.backingFile v.id) = some file →
    c.files.get? (d.backingFile v.id) = some file
  device : HasDevice d b v → HasDevice d c v ∧ v.device ≠ copy.device

namespace Duplicated

variable {parent copy : Volume} {locator : Locator} {kept : SparseFile}

theorem file (duplicated : Duplicated d b parent locator kept copy c) {path : String}
    {file : SparseFile} (there : b.files.get? path = some file) :
    c.files.get? path = some file := by
  rw [duplicated.files, Files.get?_put_of_ne _ _ (Files.resolve_ne duplicated.vacant there), there]

theorem spared (duplicated : Duplicated d b parent locator kept copy c) (own : b.OwnIds)
    {key : String} {v : Volume} (found : b.records.get? key = some v) :
    Spared d copy b c v := by
  have self := own key v found
  refine ⟨?_, fun file there => duplicated.file there, ?_⟩
  · rw [duplicated.records, self]
    exact Table.get?_insert_of_absent _ duplicated.unrecorded found
  · rintro ⟨device, registered, serves, connected⟩
    refine ⟨⟨device, ?_, serves, ?_⟩, ?_⟩
    · rw [duplicated.devices]
      exact Table.get?_insert_of_absent _ duplicated.unregistered registered
    · rw [duplicated.connected]
      exact Table.get?_insert_of_absent _ duplicated.unconnected connected
    · intro same
      rw [same, duplicated.unregistered] at registered
      cases registered

theorem hasDevice_iff (duplicated : Duplicated d b parent locator kept copy c) (own : b.OwnIds)
    (found : b.records.get? parent.id.text = some parent)
    (there : b.files.get? (d.backingFile parent.id) = some kept) :
    HasDevice d c parent ↔ HasDevice d b parent := by
  refine ⟨?_, fun has => ((duplicated.spared own found).device has).1⟩
  rintro ⟨device, registered, serves, connected⟩
  rw [duplicated.devices, DeviceRegistry.register, Table.get?_insert_eq_some] at registered
  rw [duplicated.connected, Table.get?_insert_eq_some] at connected
  rcases registered with ⟨-, rfl⟩ | ⟨other, before⟩
  · have absent := Files.get?_of_vacant duplicated.vacant
    rw [show d.backingFile copy.id = d.backingFile parent.id from serves, there] at absent
    cases absent
  · rcases connected with ⟨same, -⟩ | ⟨-, linked⟩
    · exact absurd same other
    · exact ⟨device, before, serves, linked⟩

end Duplicated

theorem run_snapshots (d : BlockDriver) (b : Bench) (m : Moment) (id : VolumeId) :
    (d.toVolumeDriver.snapshots [id] none).outcome.run (b.world m) =
      (.ok ((inOrderOfCreation b.records.values).filter (Store.isSnapshotOf [id])),
        b.world m) := by
  have told : b.store.snapshots [id] none =
      .ok ((inOrderOfCreation b.records.values).filter (Store.isSnapshotOf [id])) := by
    rw [Bench.store, Store.snapshots_keeping]
    simp [Store.carries]
  have store : (b.world m).store = b.store := rfl
  rw [BlockDriver.toVolumeDriver, BlockDriver.run_consult, store, told]
  rfl

theorem Duplicated.listed {parent copy : Volume} {locator : Locator} {kept : SparseFile}
    (duplicated : Duplicated d b parent locator kept copy c) :
    ((inOrderOfCreation c.records.values).filter (Store.isSnapshotOf [parent.id])).Perm
      (copy :: (inOrderOfCreation b.records.values).filter (Store.isSnapshotOf [parent.id])) := by
  have values : c.records.values.Perm (copy :: b.records.values) :=
    duplicated.records ▸ Table.values_insert_perm duplicated.unrecorded
  have stems : Store.isSnapshotOf [parent.id] copy = true := by
    simp [Store.isSnapshotOf, duplicated.source]
  have among := ((Store.perm_inOrderOfCreation _).trans
    (values.trans ((Store.perm_inOrderOfCreation _).symm.cons copy))).filter
    (Store.isSnapshotOf [parent.id])
  rwa [List.filter_cons_of_pos stems] at among

/-- How a snapshot of a volume ends: the copy was made ready before it was filled, no other volume
is touched, and among the snapshots of its parent it alone is new. -/
structure Snapshotted (d : BlockDriver) (parent : Volume) (locator : Locator) (kept : SparseFile)
    (w : World) (mishaps : List Mishap) (copy : Volume) (v : World) (b c : Bench) : Prop where
  found : b.records.get? parent.id.text = some parent
  duplicated : Duplicated d b parent locator kept copy c
  ready : ∃ (e : Bench) (moment : Moment) (next : Except IoError Unit → _),
    (d.snapshot parent.id locator).outcome.Visits w mishaps (.ok copy.id) v
      (.call (.copyFile (d.backingFile parent.id) (d.backingFile copy.id)) next)
      (e.world moment) ∧
    e.connected = c.connected ∧ e.devices = c.devices ∧ e.formatted = c.formatted ∧
    e.files.get? (d.backingFile parent.id) = some kept
  spared : ∀ key u, b.records.get? key = some u → Spared d copy b c u
  device : HasDevice d c parent ↔ HasDevice d b parent
  listed : ∃ before after,
    ((d.toVolumeDriver.snapshots [parent.id] none).outcome.run w).1 = .ok before ∧
    ((d.toVolumeDriver.snapshots [parent.id] none).outcome.run v).1 = .ok after ∧
    after.Perm (copy :: before)

theorem Duplicated.of_furnished {parent made : Volume} {locator : Locator} {kept : SparseFile}
    {drawn : Nat} (sound : Sound b)
    (furnished : BlockDriver.Furnished d { b with drawn } locator (some ⟨some parent.id⟩)
      parent.spec made c) :
    Duplicated d b parent locator kept made
      { c with files := c.files.put (d.backingFile made.id) kept } where
  unrecorded := furnished.absent
  vacant := furnished.free
  unregistered := furnished.device ▸ sound.unused.registered _ (Nat.le_refl _)
  unconnected := furnished.device ▸ sound.unused.connected _ (Nat.le_refl _)
  spec := furnished.specified
  source := furnished.source
  located := furnished.located
  newborn := furnished.newborn
  records := furnished.records
  devices := by
    rw [furnished.devices, furnished.device]
    rfl
  connected := by
    rw [furnished.connected, furnished.device]
  formatted := furnished.formatted
  files := by
    rw [furnished.files, Files.put_put]
  mounts := furnished.mounts
  kind := furnished.kind

/-- In every state that a driver can get into, a snapshot is a copy of its parent, whatever the
parent is, and touches nothing else. -/
theorem snapshot_copies {start : Bench} {w v : World} {id copy : VolumeId} {readonly : Bool}
    {locator : Locator} {kept : SparseFile} (restarted : Restarted start)
    (reached : Reachable d (start.world m) w)
    (there : w.files.get? (d.backingFile id) = some kept)
    (yields : (d.toVolumeDriver.snapshot id readonly locator).outcome.Yields w mishaps
      (.ok copy) v) :
    ∃ b before parent made c after, w = b.world before ∧ v = c.world after ∧ parent.id = id ∧
      made.id = copy ∧ Snapshotted d parent locator kept w mishaps made v b c := by
  obtain ⟨b, before, rfl, sound⟩ := (Sound.lasting d).reachable restarted.sound reached
  obtain ⟨parent, _, e, moment, next, found, ready, visits⟩ :=
    BlockDriver.visits_copyFile sound.unused yields
  obtain ⟨c, after, rfl, copied⟩ := (BlockDriver.leads_snapshot sound.unused).sound yields
  have self : parent.id = id := VolumeId.ext (sound.own _ _ found)
  subst self
  cases copied with
  | @done _ _ _ filled c found' provisioned source =>
    obtain rfl : parent = _ := Option.some.inj (found.symm.trans found')
    obtain rfl := provisioned.unique ready
    obtain ⟨made, rfl, furnished⟩ := provisioned.furnished
    have still : c.files.get? (d.backingFile parent.id) = some kept := by
      have apart := Files.resolve_ne furnished.free there
      rw [furnished.files, Files.get?_put_of_ne _ _ apart, ← there]
      rfl
    obtain rfl : filled = kept := Option.some.inj (source.symm.trans still)
    have duplicated : Duplicated d b parent locator filled made _ :=
      .of_furnished sound furnished
    refine ⟨b, before, parent, made, _, after, rfl, rfl, rfl, rfl, ?_⟩
    constructor
    · exact found
    · exact duplicated
    · exact ⟨c, moment, next, visits, rfl, rfl, rfl, still⟩
    · exact fun key u kept => duplicated.spared sound.own kept
    · exact duplicated.hasDevice_iff sound.own found there
    · have told := fun b m => congrArg Prod.fst (run_snapshots d b m parent.id)
      exact ⟨_, _, told b before, told _ after, duplicated.listed⟩

def renewed : World :=
  ((renewal.operation ⟨"nbd", "/volumes"⟩).outcome.run (aged.world .calm)).2

def copying : Operation VolumeId :=
  (BlockDriver.toVolumeDriver ⟨"nbd", "/volumes"⟩).snapshot ⟨"volume0"⟩ false (.named "copy")

theorem snapshot_of_new_volume : ∃ b parent made c mishaps,
    parent.id = ⟨"volume0"⟩ ∧ made.id = ⟨"volume1"⟩ ∧
    copying.outcome.run renewed = (.ok ⟨"volume1"⟩, (copying.outcome.run renewed).2) ∧
    Snapshotted ⟨"nbd", "/volumes"⟩ parent (.named "copy") ⟨4096, []⟩ renewed mishaps made
      (copying.outcome.run renewed).2 b c := by
  obtain ⟨_, makes⟩ :=
    (renewal.operation ⟨"nbd", "/volumes"⟩).outcome.yields_run (aged.world .calm)
  obtain ⟨mishaps, yields⟩ := copying.outcome.yields_run renewed
  have copied : (copying.outcome.run renewed).1 = .ok ⟨"volume1"⟩ := by rfl
  rw [copied] at yields
  have there : renewed.files.get? (BlockDriver.backingFile ⟨"nbd", "/volumes"⟩ ⟨"volume0"⟩) =
    some ⟨4096, []⟩ := by decide +kernel
  obtain ⟨b, before, parent, made, c, after, -, -, old, new, snapshotted⟩ :=
    snapshot_copies restarted_aged (.call .start makes) there yields
  exact ⟨b, parent, made, c, mishaps, old, new, Prod.ext copied rfl, snapshotted⟩

end Bench

end BlockVolumes
