import BlockVolumes.Proofs.Daemon.Unmounts

/-! Which volume is mounted by name when the one that the name stands for is mounted already. A
replica is known by its name alone, so whatever volume has that name is taken for one. -/

namespace BlockVolumes

open Plugin (replicaName)

def BlockDriver.standing (d : BlockDriver) (w : World) (name : String) : Option Volume :=
  ((Plugin.volumeNamed d.toVolumeDriver name).outcome.run w).1.toOption

/-- The replicas before this index are mounted. What the name of this one stands for is not. -/
structure Volume.NextReplica (v : Volume) (stands : String → Option Volume) (i : Nat) : Prop where
  above : 1 ≤ i
  below : i < v.spec.scale.toNat
  busy : ∀ j, 1 ≤ j → j < i →
    ∃ u, stands (replicaName v.locator.name j) = some u ∧ u.isMounted = true
  free : ∀ u, stands (replicaName v.locator.name i) = some u → u.isMounted = false

/-- A volume that was not mounted, or was not even there, is mounted in a place. All other records
are as they were. -/
structure World.Mounts (w : World) (r : Volume) (place : String) (w' : World) : Prop where
  before : w.record? r.id.text = some r ∨ w.record? r.id.text = none
  free : r.isMounted = false
  after : ∃ time, w'.record? r.id.text = some (r.mountedAt place time)
  mounts : w'.scene.mounts = w.scene.mounts ++ [⟨place, r.device⟩]
  others : ∀ key, key ≠ r.id.text → w'.record? key = w.record? key

/-- For a volume that is mounted another one is mounted: the next replica, whatever that is. -/
structure World.Replaces (w : World) (stands : String → Option Volume) (v : Volume)
    (place : String) (w' : World) (i : Nat) (r : Volume) : Prop where
  next : v.NextReplica stands i
  mounts : w.Mounts r place w'
  other : r.id ≠ v.id
  found : ∀ u, stands (replicaName v.locator.name i) = some u → r = u
  made : stands (replicaName v.locator.name i) = none →
    w.record? r.id.text = none ∧ r.locator = .named (replicaName v.locator.name i)
  spec_iff : r.spec = v.spec ↔
    ∀ u, stands (replicaName v.locator.name i) = some u → u.spec = v.spec

namespace Plugin

variable {d : BlockDriver} {b c e : Bench} {v r : Volume} {name place : String}
  {mishaps : List Mishap} {s : Server} {body : List UInt8}

inductive Obtained (spec : Spec) (name : String) (b : Bench) (r : Volume) : Bench → Prop
  | found (named : b.named name = some r) : Obtained spec name b r b
  | made {c : Bench} (none : b.named name = none) (absent : b.records.get? r.id.text = .none)
      (located : r.locator = .named name) (specified : r.spec = spec) (free : r.isMounted = false)
      (records : c.records = b.records.insert r.id.text r) (mounts : c.mounts = b.mounts) :
    Obtained spec name b r c

theorem Replicated.obtained (replicated : Replicated d v name b mishaps (.ok r) c) :
    Obtained v.spec name b r c := by
  cases replicated with
  | there named => exact .found named
  | made none created found =>
    cases created with
    | drawn valid made =>
      obtain ⟨rfl, -, w, same, added⟩ := made.added
      have new : w = r := by
        rw [added.records, same, Table.get?_insert_self] at found
        exact Option.some.inj found
      subst new
      refine .made none added.absent added.located added.specified ?_ added.records added.mounts
      simp [Volume.isMounted, added.unmounted]

theorem ScaledUp.obtained {index count : Nat} {result : Except VolumeError Volume}
    (scaled : ScaledUp d v index count b mishaps result c) (done : result = .ok r) :
    ∃ i, index ≤ i ∧ i < index + count ∧ Obtained v.spec (replicaName v.locator.name i) b r c ∧
      r.isMounted = false ∧ ∀ j, index ≤ j → j < i →
        ∃ u, b.named (replicaName v.locator.name j) = some u ∧ u.isMounted = true := by
  induction scaled with
  | exhausted | failed => cases done
  | @free index count _ _ _ _ replicated free =>
    cases done
    refine ⟨index, Nat.le_refl _, by omega, replicated.obtained, free, ?_⟩
    intro j above below
    omega
  | @busy index count b c e _ _ u _ replicated mounted next ih =>
    obtain ⟨i, above, below, obtained, free, passed⟩ := ih done
    -- what was made just now is not mounted, so this replica was there before
    cases replicated.obtained with
    | made _ _ _ _ unmounted =>
      rw [unmounted] at mounted
      cases mounted
    | found named =>
      refine ⟨i, by omega, by omega, obtained, free, ?_⟩
      intro j least most
      rcases Nat.eq_or_lt_of_le least with rfl | later
      · exact ⟨u, named, mounted⟩
      · exact passed j later most

theorem Obtained.spec_iff {spec : Spec} (obtained : Obtained spec name b r c) :
    r.spec = spec ↔ ∀ u, b.named name = some u → u.spec = spec := by
  cases obtained with
  | found named => simp [named]
  | made none _ _ specified => simp [none, specified]

theorem Obtained.eq_of_named {spec : Spec} {u : Volume} (obtained : Obtained spec name b r c)
    (named : b.named name = some u) : r = u := by
  cases obtained with
  | found also => exact Option.some.inj (also.symm.trans named)
  | made none =>
    rw [none] at named
    cases named

theorem Obtained.new {spec : Spec} (obtained : Obtained spec name b r c)
    (none : b.named name = none) : b.records.get? r.id.text = .none ∧ r.locator = .named name := by
  cases obtained with
  | found named =>
    rw [none] at named
    cases named
  | made _ absent located => exact ⟨absent, located⟩

theorem Obtained.mounts {spec : Spec} (obtained : Obtained spec name b r c) :
    c.mounts = b.mounts := by
  cases obtained with
  | found => rfl
  | made _ _ _ _ _ _ mounts => exact mounts

theorem Obtained.kept {spec : Spec} (own : b.OwnIds) (obtained : Obtained spec name b r c) :
    c.records.get? r.id.text = some r := by
  cases obtained with
  | found named => exact (Bench.named_iff.1 named).found own
  | made _ _ _ _ _ records => rw [records, Table.get?_insert_self]

theorem Obtained.before {spec : Spec} (own : b.OwnIds) (obtained : Obtained spec name b r c) :
    b.records.get? r.id.text = some r ∨ b.records.get? r.id.text = none := by
  cases obtained with
  | found named => exact .inl ((Bench.named_iff.1 named).found own)
  | made _ absent => exact .inr absent

theorem Obtained.others {spec : Spec} {key : String} (obtained : Obtained spec name b r c)
    (other : key ≠ r.id.text) : c.records.get? key = b.records.get? key := by
  cases obtained with
  | found => rfl
  | made _ _ _ _ _ records => rw [records, Table.get?_insert, if_neg other.symm]

theorem Obtained.ne {spec : Spec} (own : b.OwnIds) (obtained : Obtained spec name b r c)
    (found : b.records.get? v.id.text = some v) (mounted : v.isMounted = true)
    (free : r.isMounted = false) : r.id ≠ v.id := by
  intro same
  rcases obtained.before own with there | absent
  · rw [same, found] at there
    cases there
    rw [free] at mounted
    cases mounted
  · rw [same, found] at absent
    cases absent

theorem mounts_of_obtained {spec : Spec} {rest : List Mishap} {result : Except VolumeError Unit}
    {m later : Moment} (own : b.OwnIds) (obtained : Obtained spec name b r c)
    (free : r.isMounted = false) (done : result = .ok ())
    (mounted : BlockDriver.Mounted r.id place (c.withFiles (c.files.makeDirectories place)).2 rest
      result e) : (b.world m).Mounts r place (e.world later) := by
  have records : (c.withFiles (c.files.makeDirectories place)).2.records = c.records :=
    Bench.records_withFiles _
  cases mounted with
  | missing | occupied | refused => cases done
  | @done u found =>
    have same : r = u := by
      rw [records, obtained.kept own] at found
      exact Option.some.inj found
    subst same
    constructor
    · simpa only [Bench.record?_world] using obtained.before own
    · exact free
    · exact ⟨_, by rw [Bench.record?_world, records, Table.get?_insert_self]⟩
    · rw [Bench.scene_world, Bench.scene_world]
      show (c.withFiles _).2.mounts ++ _ = b.mounts ++ _
      rw [Bench.mounts_withFiles, obtained.mounts]
    · intro key other
      rw [Bench.record?_world, Bench.record?_world, records, Table.get?_insert, if_neg other.symm]
      exact obtained.others other

theorem mounted_of_obtained {spec : Spec} {result : Except VolumeError Unit} (own : b.OwnIds)
    (obtained : Obtained spec name b r c) (free : r.isMounted = false) (calm : mishaps = [])
    (mounted : BlockDriver.Mounted r.id place (c.withFiles (c.files.makeDirectories place)).2
      mishaps result e) : result = .ok () := by
  have found : (c.withFiles (c.files.makeDirectories place)).2.records.get? r.id.text = some r := by
    rw [Bench.records_withFiles, obtained.kept own]
  cases mounted with
  | done => rfl
  | missing absent => exact absurd (found.symm.trans absent) (by simp)
  | occupied also busy =>
    obtain rfl := Option.some.inj (found.symm.trans also)
    simp [Volume.isMounted, busy] at free
  | refused => cases calm

theorem leads_mount_told (serves : s.registry.get s.driver = .ok d.toVolumeDriver)
    (sound : b.Sound) (asked : Verb.mount.name? body = some name) :
    (s.mount body).Leads b fun mishaps reply c => ∃ result,
      Mounting d name (s.placeOf name) b mishaps result c ∧
        (succeeded reply = true ↔ result = .ok ()) := by
  obtain ⟨request, read, rfl⟩ := Option.map_eq_some_iff.1 asked
  simp only [Server.mount, ofBody_of_decode (toOption_eq_some.1 read), resolve_of_get serves,
    Server.orReply]
  apply Routine.leads_bind.2
  apply leads_underName
  apply (leads_mount sound _ _).mono
  intro mishaps result c mounting
  cases result with
  | ok done => exact ⟨.ok (), by simpa using mounting, iff_of_true (succeeded_path _) rfl⟩
  | error error =>
    exact ⟨.error error, by simpa using mounting, by simp [succeeded_failure]⟩

end Plugin

namespace Daemon

open Plugin (Verb)

variable {d : Daemon} {u : BlockDriver} {b : Bench} {m : Moment} {turns : List Turn}
  {name : String} {body : List UInt8} {v : Volume} {mishaps : List Mishap} {reply : Http.Reply}
  {w w' : World}

theorem standing_world (u : BlockDriver) (b : Bench) (m : Moment) (name : String) :
    u.standing (b.world m) name = b.named name := by
  rw [BlockDriver.standing, Plugin.outcome_volumeNamed, Plugin.outcomeOf]
  cases b.named name <;> rfl

theorem replaces_of_yields (serves : d.fleet.registry.get d.driver = .ok u.toVolumeDriver)
    (sound : b.Sound) (asked : Verb.mount.name? body = some name)
    (found : u.standing (b.world m) name = some v) (mounted : v.isMounted = true)
    (yields : (d.plugin.mount body).Yields (b.world m) mishaps reply w')
    (done : Plugin.succeeded reply = true) :
    ∃ i r, (b.world m).Replaces (u.standing (b.world m)) v (d.plugin.placeOf name) w' i r := by
  have stands := standing_world u b m
  rw [stands] at found
  obtain ⟨e, later, rfl, result, mounting, told⟩ :=
    (Plugin.leads_mount_told (s := d.plugin) serves sound asked).sound yields
  obtain rfl := told.1 done
  obtain ⟨outcome, whole⟩ : ∃ outcome, outcome = Except.ok (ε := VolumeError) () := ⟨_, rfl⟩
  rw [← whole] at mounting
  cases mounting with
  | missing | unready => cases whole
  | @tried t r _ _ _ c _ named taken mounting =>
    obtain rfl : v = t := Option.some.inj (found.symm.trans named)
    generalize chosen : Except.ok (ε := VolumeError) r = choice at taken
    cases taken with
    | itself free => simp [free] at mounted
    | single => cases chosen
    | scaled _ _ scaled =>
      obtain ⟨i, above, below, obtained, free, passed⟩ := scaled.obtained chosen.symm
      have kept := (Bench.named_iff.1 named).found sound.own
      refine ⟨i, r, ⟨⟨above, by omega, ?_, ?_⟩, ?_, ?_, ?_, ?_, ?_⟩⟩
      · intro j least most
        rw [stands]
        exact passed j least most
      · intro t there
        rw [stands] at there
        rwa [← obtained.eq_of_named there]
      · exact Plugin.mounts_of_obtained sound.own obtained free whole mounting
      · exact obtained.ne sound.own kept mounted free
      · intro t there
        exact obtained.eq_of_named (stands _ ▸ there)
      · intro none
        rw [Bench.record?_world]
        exact obtained.new (stands _ ▸ none)
      · simpa only [stands] using obtained.spec_iff

/-- A volume db is made for two, another one by the name of its replica, and db is mounted. -/
def crowding : List (Http.Request × Service) :=
  [(⟨"POST", ⟨"/VolumeDriver.Create".toUTF8.toList, []⟩, wantedTwice.bytes⟩, .plugin),
    native "POST" "/v1/volumes" (Api.CreateRequest.shape.toJson
      ⟨.named "db_1", none, .sized 8192 .ext4⟩),
    mounting "volume0" "/mnt/db"]

def crowded : World := shared.after ((Bench.ofRecords .empty).world .calm) crowding

def stranger : Volume where
  id := ⟨"volume1"⟩
  locator := .named "db_1"
  source := .unknown
  spec := .sized 8192 .ext4
  status := .none
  device := "/dev/nbd1"
  mountPaths := []
  mountTime := none
  created := .ofTicks 1

def crowd : Table Volume := (Table.empty.insert "volume0" wantedDb).insert "volume1" stranger

theorem kept_crowded : kept? crowded = some crowd := by decide +kernel

def mountBody : List UInt8 := (Plugin.MountRequest.shape.toJson ⟨"db", ""⟩).bytes

theorem asked_mount : Verb.mount.name? mountBody = some "db" := by decide +kernel

theorem serves_crowded : ∃ turns c later, crowded = Bench.world c later ∧
    Serves shared ((Bench.ofRecords .empty).world .calm) turns crowded ∧ c.Traced ∧
    c.records = crowd := by
  obtain ⟨turns, served⟩ :
      ∃ turns, Serves shared ((Bench.ofRecords .empty).world .calm) turns crowded :=
    Serves.start.after crowding
  obtain ⟨c, later, here, traced⟩ := served.traced serves_shared blank_ofRecords
  have records := kept_crowded
  rw [here] at records
  exact ⟨turns, c, later, here, served, traced, records_of_kept? records⟩

theorem get?_crowd {key : String} {v : Volume} (found : crowd.get? key = some v) :
    key = "volume1" ∧ v = stranger ∨ key = "volume0" ∧ v = wantedDb :=
  Table.get?_pair found

theorem named_crowd (records : b.records = crowd) :
    b.named "db" = some wantedDb ∧ b.named "db_1" = some stranger := by
  constructor
  · refine Bench.named_iff.2 (.inr ⟨by rw [records]; rfl, "volume0", by rw [records]; rfl,
      .inr rfl, ?_⟩)
    intro other w found goes
    rcases get?_crowd (records ▸ found) with ⟨-, rfl⟩ | ⟨rfl, -⟩
    · exact absurd goes (by simp [Volume.GoesBy, stranger, Locator.named])
    · rfl
  · refine Bench.named_iff.2 (.inr ⟨by rw [records]; rfl, "volume1", by rw [records]; rfl,
      .inr rfl, ?_⟩)
    intro other w found goes
    rcases get?_crowd (records ▸ found) with ⟨rfl, -⟩ | ⟨-, rfl⟩
    · rfl
    · exact absurd goes (by simp [Volume.GoesBy, wantedDb, Locator.named])

theorem taken_stranger {c : Bench} {result : Except VolumeError Volume}
    (records : b.records = crowd) (taken : Plugin.Taken u wantedDb b mishaps result c) :
    result = .ok stranger ∧ Plugin.Obtained wantedDb.spec "db_1" b stranger c := by
  have there := (named_crowd records).2
  cases taken with
  | itself free => exact absurd free (by decide)
  | single _ one => exact absurd (by decide) one
  | scaled _ _ scaled =>
    cases scaled with
    | failed replicated =>
      cases replicated with
      | failed none => exact absurd (there.symm.trans none) (by simp)
    | free replicated =>
      obtain rfl := replicated.obtained.eq_of_named there
      exact ⟨rfl, replicated.obtained⟩
    | busy replicated busy =>
      obtain rfl := replicated.obtained.eq_of_named there
      exact absurd busy (by decide)

theorem mounting_stranger {c : Bench} {result : Except VolumeError Unit} (own : b.OwnIds)
    (records : b.records = crowd)
    (mounting : Plugin.Mounting u "db" "/mnt/db" b [] result c) : result = .ok () := by
  have db := (named_crowd records).1
  generalize calm : ([] : List Mishap) = mishaps at mounting
  cases mounting with
  | missing none => exact absurd (db.symm.trans none) (by simp)
  | unready named taken =>
    obtain rfl := Option.some.inj (db.symm.trans named)
    obtain ⟨same, -⟩ := taken_stranger records taken
    cases same
  | tried named taken mounted =>
    obtain rfl := Option.some.inj (db.symm.trans named)
    obtain ⟨same, obtained⟩ := taken_stranger records taken
    cases same
    exact Plugin.mounted_of_obtained own obtained rfl (List.append_eq_nil_iff.1 calm.symm).2 mounted

theorem mounts_crowded : ∃ reply w',
    (shared.plugin.mount mountBody).Yields crowded [] reply w' ∧
      Plugin.succeeded reply = true := by
  obtain ⟨turns, c, later, here, -, traced, records⟩ := serves_crowded
  obtain ⟨reply, w', yields⟩ := (shared.plugin.mount mountBody).yields_calmly c later
  obtain ⟨e, after, -, result, mounting, told⟩ :=
    (Plugin.leads_mount_told (s := shared.plugin) serves_shared traced.toSound
      asked_mount).sound yields
  refine ⟨reply, w', here ▸ yields, told.2 ?_⟩
  exact mounting_stranger traced.own records mounting

/-- Wherever requests to the two servers have led: if mounting a volume by its name succeeds
although it is mounted already, another one that was not is mounted for it. That one has the same
spec just if the name of the next replica did not stand for a volume with another spec. -/
theorem mount_replaces (serves : d.fleet.registry.get d.driver = .ok u.toVolumeDriver)
    (blank : b.Blank) (served : Serves d (b.world m) turns w)
    (asked : Verb.mount.name? body = some name) (found : u.standing w name = some v)
    (mounted : v.isMounted = true) (yields : (d.plugin.mount body).Yields w mishaps reply w')
    (done : Plugin.succeeded reply = true) :
    ∃ i r, w.Replaces (u.standing w) v (d.plugin.placeOf name) w' i r := by
  obtain ⟨c, before, rfl, traced⟩ := served.traced serves blank
  exact replaces_of_yields serves traced.toSound asked found mounted yields done

/-- With the stranger there. -/
theorem mount_replaces_db : ∃ reply w' i r,
    (shared.plugin.mount mountBody).Yields crowded [] reply w' ∧
    Plugin.succeeded reply = true ∧
    crowded.Replaces (BlockDriver.standing ⟨"nbd", "/volumes"⟩ crowded) wantedDb
      (shared.plugin.placeOf "db") w' i r := by
  obtain ⟨turns, c, later, here, served, -, records⟩ := serves_crowded
  obtain ⟨reply, w', yields, done⟩ := mounts_crowded
  have db : BlockDriver.standing ⟨"nbd", "/volumes"⟩ crowded "db" = some wantedDb := by
    rw [here, standing_world, (named_crowd records).1]
  obtain ⟨i, r, replaces⟩ :=
    mount_replaces serves_shared blank_ofRecords served asked_mount db (by decide) yields done
  exact ⟨reply, w', i, r, yields, done, replaces⟩

/-- The stranger is mounted for db, with twice the size. -/
theorem mount_takes_stranger : ∃ turns reply w',
    Serves shared ((Bench.ofRecords .empty).world .calm) turns crowded ∧
    BlockDriver.standing ⟨"nbd", "/volumes"⟩ crowded "db" = some wantedDb ∧
    wantedDb.isMounted = true ∧ 1 < wantedDb.spec.scale ∧
    (shared.plugin.mount mountBody).Yields crowded [] reply w' ∧
    Plugin.succeeded reply = true ∧ crowded.Mounts stranger "/mnt/db" w' ∧
    stranger.spec ≠ wantedDb.spec := by
  obtain ⟨turns, c, later, here, served, traced, records⟩ := serves_crowded
  obtain ⟨reply, w', yields, done⟩ := mounts_crowded
  have stands := standing_world ⟨"nbd", "/volumes"⟩ c later
  obtain ⟨named, taken⟩ := named_crowd records
  rw [here] at yields ⊢
  have db := (stands "db").trans named
  obtain ⟨i, r, replaces⟩ :=
    replaces_of_yields serves_shared traced.toSound asked_mount db (by decide) yields done
  obtain rfl : i = 1 := by
    have least := replaces.next.above
    have most : i < 2 := replaces.next.below
    omega
  obtain rfl := replaces.found stranger ((stands "db_1").trans taken)
  exact ⟨turns, reply, w', here ▸ served, db, by decide, by decide, yields, done,
    replaces.mounts, by decide⟩

end Daemon

end BlockVolumes
