import BlockVolumes.Proofs.Daemon.CreateAgain

/-! How far unmounting by name reaches. A volume with replicas is looked for by its place, and the
host is asked to unmount a place, so whatever else is mounted there may be unmounted instead. -/

namespace BlockVolumes

open Plugin (Chosen Unmounting)

def Volume.Kin (v u : Volume) : Prop :=
  u.id = v.id ∨ ∃ i, 1 ≤ i ∧ i < v.spec.scale.toNat ∧
    u.locator.name = Plugin.replicaName v.locator.name i

namespace Scene

/-- All volumes but these stay as they are, and so do the mounts of their devices. -/
structure Spares (before after : Scene) (among : Volume → Prop) : Prop where
  volumes : ∀ u, ¬ among u → (u ∈ after.volumes ↔ u ∈ before.volumes)
  mounts : ∀ u ∈ before.volumes, ¬ among u →
    after.mounts.filter (·.device = u.device) = before.mounts.filter (·.device = u.device)

def target (s : Scene) (v : Volume) (place : String) : Option Volume :=
  if 1 < v.spec.scale then BlockDriver.lastMountedAt place s.volumes else some v

/-- A volume is one of these, and so is the one mounted last in its place. -/
def Within (s : Scene) (among : Volume → Prop) (chosen : Option Volume) : Prop :=
  ∀ c place, chosen = some c → c.mountPath? = some place →
    among c ∧ ∀ u ∈ s.volumes, s.lastAt place = some u.device → among u

theorem Spares.refl (s : Scene) (among : Volume → Prop) : s.Spares s among :=
  ⟨fun _ _ => .rfl, fun _ _ _ => rfl⟩

theorem filter_device_withoutLast {s : Scene} {place device : String} {left : List Mount}
    (removed : RecordingHost.withoutLast place s.mounts = some left) :
    left.filter (·.device = device) = s.mounts.filter (·.device = device) ↔
      s.lastAt place ≠ some device := by
  obtain ⟨before, m, after, split, kept, here, none⟩ := RecordingHost.withoutLast_eq_some removed
  have last : s.lastAt place = some m.device := by simp [lastAt, split, here, none]
  rw [last, kept, split]
  by_cases same : m.device = device
  · refine iff_of_false (fun still => ?_) (by simp [same])
    have length := congrArg List.length still
    simp [same] at length
  · exact iff_of_true (by simp [same]) (by simpa using same)

end Scene

namespace Bench

variable {b c : Bench} {v t : Volume} {place : String} {mishaps : List Mishap}
  {result : Except VolumeError Unit}

theorem Issued.spares_iff (issued : Issued b) (found : b.records.get? t.id.text = some t)
    (mounted : t.mountPath? = some place)
    (records : c.records = b.records.insert t.id.text t.unmounted)
    (left : RecordingHost.withoutLast place b.mounts = some c.mounts) :
    b.scene.Spares c.scene v.Kin ↔
      v.Kin t ∧ ∀ u ∈ b.scene.volumes, b.scene.lastAt place = some u.device → v.Kin u := by
  have here : t ∈ b.scene.volumes := mem_scene.2 ⟨_, found⟩
  have changed := fun {u} => mem_scene_of_changed issued found records (u := u)
  have unmounts (u : Volume) : c.scene.mounts.filter (·.device = u.device) =
      b.scene.mounts.filter (·.device = u.device) ↔ b.scene.lastAt place ≠ some u.device :=
    Scene.filter_device_withoutLast left
  constructor
  · intro spares
    constructor
    · refine Classical.byContradiction fun stranger => ?_
      rcases changed.1 ((spares.volumes t stranger).2 here) with same | ⟨-, other⟩
      · rw [same] at mounted
        cases mounted
      · exact other rfl
    · intro u there last
      refine Classical.byContradiction fun stranger => ?_
      exact (unmounts u).1 (spares.mounts u there stranger) last
  · rintro ⟨kin, lastKin⟩
    constructor
    · intro u stranger
      rw [changed]
      constructor
      · rintro (rfl | ⟨there, -⟩)
        · exact absurd kin stranger
        · exact there
      · intro there
        refine .inr ⟨there, fun same => stranger ?_⟩
        rwa [issued.eq_of_mem there here same]
    · intro u there stranger
      exact (unmounts u).2 fun last => stranger (lastKin u there last)

theorem target_of_chosen {id : VolumeId} (own : b.OwnIds)
    (found : b.records.get? v.id.text = some v) (chosen : Chosen v place b id) :
    ∃ t, b.records.get? id.text = some t ∧ t.id = id ∧ b.scene.target v place = some t := by
  cases chosen with
  | itself one => exact ⟨v, found, rfl, by simp [Scene.target, one]⟩
  | @last t many last =>
    obtain ⟨key, there⟩ := mem_scene.1 (BlockDriver.mem_of_lastMountedAt last).1
    have aimed : BlockDriver.lastMountedAt place b.scene.volumes = some t := last
    exact ⟨t, own key t there ▸ there, rfl, by simp [Scene.target, many, aimed]⟩

theorem Issued.spares_iff_within (issued : Issued b) (found : b.records.get? v.id.text = some v)
    (unmounting : Unmounting v place b mishaps result c) : b.scene.Spares c.scene v.Kin ↔
      (result = .ok () → b.scene.Within v.Kin (b.scene.target v place)) := by
  cases unmounting with
  | bare => exact iff_of_true (.refl _ _) nofun
  | tried chosen unmounted =>
    obtain ⟨t, kept, rfl, aimed⟩ := target_of_chosen issued.own found chosen
    cases unmounted with
    | missing | free | refused => exact iff_of_true (.refl _ _) nofun
    | @done w spot mounts there mounted left =>
      obtain rfl : t = w := Option.some.inj (kept.symm.trans there)
      rw [issued.spares_iff there mounted rfl left, aimed]
      constructor
      · rintro kin - _ _ ⟨⟩ elsewhere
        obtain rfl := Option.some.inj (mounted.symm.trans elsewhere)
        exact kin
      · intro within
        exact within rfl t spot rfl mounted

end Bench

namespace Daemon

open Plugin (Verb volumeNamed success failureOf)

variable {d : Daemon} {u : BlockDriver} {b : Bench} {m : Moment} {turns : List Turn}
  {name : String} {body : List UInt8} {v : Volume} {mishaps : List Mishap} {reply : Http.Reply}
  {w w' : World}

theorem named_of_run
    (found : ((volumeNamed u.toVolumeDriver name).outcome.run (b.world m)).1 = .ok v) :
    b.named name = some v := by
  rw [Plugin.outcome_volumeNamed, Plugin.outcomeOf] at found
  cases named : b.named name <;> rw [named] at found <;> cases found
  rfl

theorem run_of_named (named : b.named name = some v) :
    ((volumeNamed u.toVolumeDriver name).outcome.run (b.world m)).1 = .ok v := by
  rw [Plugin.outcome_volumeNamed, Plugin.outcomeOf, named]

theorem unmounting_of_yields (serves : d.fleet.registry.get d.driver = .ok u.toVolumeDriver)
    (sound : b.Sound) (asked : Verb.unmount.name? body = some name) (named : b.named name = some v)
    (yields : (d.plugin.unmount body).Yields (b.world m) mishaps reply w') :
    ∃ c later result, w' = Bench.world c later ∧ reply = failureOf result ∧
      Plugin.Unmounting v (d.plugin.placeOf name) b mishaps result c := by
  obtain ⟨c, later, rfl, handled⟩ :=
    (Plugin.leads_handled (s := d.plugin) serves sound asked).sound yields
  cases handled with
  | @unmount t _ result _ also unmounting =>
    obtain rfl := Option.some.inj (named.symm.trans also)
    exact ⟨c, later, result, rfl, rfl, unmounting⟩
  | unknown none =>
    rw [named] at none
    cases none

theorem spares_iff_of_yields (serves : d.fleet.registry.get d.driver = .ok u.toVolumeDriver)
    (issued : b.Issued) (asked : Verb.unmount.name? body = some name)
    (found : ((volumeNamed u.toVolumeDriver name).outcome.run (b.world m)).1 = .ok v)
    (yields : (d.plugin.unmount body).Yields (b.world m) mishaps reply w') :
    (b.world m).scene.Spares w'.scene v.Kin ↔ (reply = success →
      (b.world m).scene.Within v.Kin ((b.world m).scene.target v (d.plugin.placeOf name))) := by
  have named := named_of_run found
  have kept := (Bench.named_iff.1 named).found issued.own
  obtain ⟨c, later, result, rfl, rfl, unmounting⟩ :=
    unmounting_of_yields serves issued.toSound asked named yields
  rw [Bench.scene_world, Bench.scene_world, Plugin.failureOf_eq_success]
  exact issued.spares_iff_within kept unmounting

def wantedTwice : Json :=
  Plugin.VolumeRequest.shape.toJson ⟨"db", some (.ofList [("size", "4096"), ("scale", "2")])⟩

def mounting (id place : String) : Http.Request × Service :=
  native "PUT" ("/v1/volumes/" ++ id) (Api.SetRequest.shape.toJson
    ⟨none, none, some ⟨.none, .on, place⟩⟩)

/-- A volume db is made for two, and another volume is mounted over it in its place. -/
def visiting : List (Http.Request × Service) :=
  [(⟨"POST", ⟨"/VolumeDriver.Create".toUTF8.toList, []⟩, wantedTwice.bytes⟩, .plugin),
    creation "guest", mounting "volume0" "/mnt/db", mounting "volume1" "/mnt/db"]

def visited : World := shared.after ((Bench.ofRecords .empty).world .calm) visiting

def unmountBody : List UInt8 := (Plugin.MountRequest.shape.toJson ⟨"db", ""⟩).bytes

def kept? (w : World) : Option (Table Volume) :=
  match w.store.backend with
  | .memory store => some store.records
  | .persistent _ => none

def wantedDb : Volume where
  id := ⟨"volume0"⟩
  locator := .named "db"
  source := .unknown
  spec := ⟨4096, .ext4, 2, .empty⟩
  status := .none
  device := "/dev/nbd0"
  mountPaths := ["/mnt/db"]
  mountTime := some (.ofTicks 2)
  created := .ofTicks 0

def guest : Volume where
  id := ⟨"volume1"⟩
  locator := .named "guest"
  source := .unknown
  spec := .sized 4096 .ext4
  status := .none
  device := "/dev/nbd1"
  mountPaths := ["/mnt/db"]
  mountTime := some (.ofTicks 3)
  created := .ofTicks 1

def housed : Table Volume := (Table.empty.insert "volume0" wantedDb).insert "volume1" guest

theorem visited_records_mounts : kept? visited = some housed ∧
    visited.scene.mounts = [⟨"/mnt/db", "/dev/nbd0"⟩, ⟨"/mnt/db", "/dev/nbd1"⟩] := by
  decide +kernel

theorem records_of_kept? {table : Table Volume} (kept : kept? (b.world m) = some table) :
    b.records = table := by
  cases kind : b.kind with
  | memory =>
    simp only [kept?, Bench.world, Bench.store, Store.keeping, kind] at kept
    exact Option.some.inj kept
  | persistent =>
    simp only [kept?, Bench.world, Bench.store, Store.keeping, kind] at kept
    cases kept

theorem serves_visited : ∃ turns c later, visited = Bench.world c later ∧
    Serves shared ((Bench.ofRecords .empty).world .calm) turns visited ∧ c.Traced ∧
    c.records = housed ∧ c.mounts = [⟨"/mnt/db", "/dev/nbd0"⟩, ⟨"/mnt/db", "/dev/nbd1"⟩] := by
  obtain ⟨turns, served⟩ :
      ∃ turns, Serves shared ((Bench.ofRecords .empty).world .calm) turns visited :=
    Serves.start.after visiting
  obtain ⟨c, later, same, traced⟩ := served.traced serves_shared blank_ofRecords
  obtain ⟨records, mounts⟩ := visited_records_mounts
  have here : visited = c.world later := same
  rw [here] at records mounts
  exact ⟨turns, c, later, here, served, traced, records_of_kept? records,
    by rwa [Bench.scene_world] at mounts⟩

theorem get?_housed {key : String} {v : Volume} (found : housed.get? key = some v) :
    key = "volume1" ∧ v = guest ∨ key = "volume0" ∧ v = wantedDb :=
  Table.get?_pair found

theorem named_db (records : b.records = housed) : b.named "db" = some wantedDb := by
  have unknown : b.records.get? "db" = none := by rw [records]; rfl
  have found : b.records.get? "volume0" = some wantedDb := by rw [records]; rfl
  refine Bench.named_iff.2 (.inr ⟨unknown, "volume0", found, .inr rfl, ?_⟩)
  intro other w found goes
  rcases get?_housed (records ▸ found) with ⟨-, rfl⟩ | ⟨rfl, -⟩
  · exact absurd goes (by simp [Volume.GoesBy, guest, Locator.named])
  · rfl

theorem last_guest (records : b.records = housed) :
    BlockDriver.lastMountedAt "/mnt/db" b.scene.volumes = some guest := by
  apply BlockDriver.lastMountedAt_eq (Bench.mem_scene.2 ⟨"volume1", by rw [records]; rfl⟩) rfl
  intro w there _ other
  obtain ⟨key, found⟩ := Bench.mem_scene.1 there
  rcases get?_housed (records ▸ found) with ⟨-, rfl⟩ | ⟨-, rfl⟩
  · exact absurd rfl other
  · decide +kernel

theorem unmounting_guest {c : Bench} {result : Except VolumeError Unit}
    (records : b.records = housed)
    (mounts : b.mounts = [⟨"/mnt/db", "/dev/nbd0"⟩, ⟨"/mnt/db", "/dev/nbd1"⟩])
    (unmounting : Plugin.Unmounting wantedDb "/mnt/db" b mishaps result c) :
    result = .ok () ∧ c.records = housed.insert "volume1" guest.unmounted ∧
      c.mounts = [⟨"/mnt/db", "/dev/nbd0"⟩] := by
  have last : BlockDriver.lastMountedAt "/mnt/db" (inOrderOfCreation b.records.values) =
    some guest := last_guest records
  cases unmounting with
  | bare _ none => exact absurd (last.symm.trans none) (by simp)
  | tried chosen unmounted =>
    cases chosen with
    | itself one => exact absurd (by decide) one
    | last _ taken =>
      obtain rfl := Option.some.inj (last.symm.trans taken)
      have here : b.records.get? "volume1" = some guest := by rw [records]; rfl
      cases unmounted with
      | missing absent => exact absurd (here.symm.trans absent) (by simp)
      | free found free =>
        obtain rfl := Option.some.inj (here.symm.trans found)
        exact absurd free (by decide)
      | refused _ found mounted gone =>
        obtain rfl := Option.some.inj (here.symm.trans found)
        obtain rfl : "/mnt/db" = _ := Option.some.inj mounted
        rw [mounts] at gone
        exact absurd gone (by decide)
      | done found mounted left =>
        obtain rfl := Option.some.inj (here.symm.trans found)
        obtain rfl : "/mnt/db" = _ := Option.some.inj mounted
        rw [mounts] at left
        exact ⟨rfl, congrArg (·.insert "volume1" guest.unmounted) records,
          (Option.some.inj left).symm⟩

theorem asked_db : Verb.unmount.name? unmountBody = some "db" := by decide +kernel

theorem stranger_guest : ¬ wantedDb.Kin guest := by
  rintro (same | ⟨i, one, below, goes⟩)
  · exact absurd same (by decide)
  · obtain rfl : i = 1 := by
      have : wantedDb.spec.scale.toNat = 2 := rfl
      omega
    exact absurd goes (by decide)

/-- Wherever requests to the two servers have led: unmounting a volume by its name leaves all other
volumes but its replicas as they are, and mounted where they are, just if it fails, or the volume
that it takes and the one mounted last in that one's place are of the name. -/
theorem unmount_spares_iff (serves : d.fleet.registry.get d.driver = .ok u.toVolumeDriver)
    (blank : b.Blank) (served : Serves d (b.world m) turns w)
    (asked : Verb.unmount.name? body = some name)
    (found : ((volumeNamed u.toVolumeDriver name).outcome.run w).1 = .ok v)
    (yields : (d.plugin.unmount body).Yields w mishaps reply w') :
    w.scene.Spares w'.scene v.Kin ↔
      (reply = success → w.scene.Within v.Kin (w.scene.target v (d.plugin.placeOf name))) := by
  obtain ⟨c, before, rfl, traced⟩ := served.traced serves blank
  exact spares_iff_of_yields serves traced.toIssued asked found yields

/-- With the guest in the place. -/
theorem unmount_spares_iff_over_guest : ∃ mishaps reply w',
    (shared.plugin.unmount unmountBody).Yields visited mishaps reply w' ∧
    (visited.scene.Spares w'.scene wantedDb.Kin ↔
      (reply = success → visited.scene.Within wantedDb.Kin
        (visited.scene.target wantedDb (shared.plugin.placeOf "db")))) := by
  obtain ⟨turns, c, later, here, served, traced, records, -⟩ := serves_visited
  obtain ⟨mishaps, yields⟩ := (shared.plugin.unmount unmountBody).yields_run visited
  refine ⟨mishaps, _, _, yields, ?_⟩
  exact unmount_spares_iff serves_shared blank_ofRecords served asked_db
    (by rw [here]; exact run_of_named (named_db records)) yields

/-- Unmounting db unmounts the guest, and leaves db where it was. -/
theorem unmount_takes_guest : ∃ turns w' mishaps,
    Serves shared ((Bench.ofRecords .empty).world .calm) turns visited ∧
    ((volumeNamed (BlockDriver.mk "nbd" "/volumes").toVolumeDriver "db").outcome.run visited).1 =
      .ok wantedDb ∧
    (shared.plugin.unmount unmountBody).Yields visited mishaps success w' ∧
    guest ∈ visited.scene.volumes ∧ ¬ wantedDb.Kin guest ∧ guest ∉ w'.scene.volumes ∧
    wantedDb ∈ w'.scene.volumes ∧ w'.scene.mounts = [⟨"/mnt/db", "/dev/nbd0"⟩] ∧
    ¬ visited.scene.Spares w'.scene wantedDb.Kin := by
  obtain ⟨turns, c, later, here, served, traced, records, mounts⟩ := serves_visited
  obtain ⟨mishaps, yields⟩ := (shared.plugin.unmount unmountBody).yields_run visited
  have named := named_db records
  rw [here] at yields
  obtain ⟨e, after, result, there, told, unmounted⟩ :=
    unmounting_of_yields serves_shared traced.toSound asked_db named yields
  obtain ⟨rfl, recordsThen, mountsThen⟩ := unmounting_guest records mounts unmounted
  have guestBefore : guest ∈ c.scene.volumes :=
    Bench.mem_scene.2 ⟨"volume1", by rw [records]; rfl⟩
  have guestAfter : guest ∉ e.scene.volumes := by
    intro still
    obtain ⟨key, found⟩ := Bench.mem_scene.1 still
    rw [recordsThen, Table.get?_insert_eq_some] at found
    rcases found with ⟨-, same⟩ | ⟨other, before⟩
    · exact absurd same (by decide)
    · rcases get?_housed before with ⟨same, -⟩ | ⟨-, same⟩
      · exact other same.symm
      · exact absurd same (by decide)
  have dbAfter : wantedDb ∈ e.scene.volumes :=
    Bench.mem_scene.2 ⟨"volume0", by rw [recordsThen]; rfl⟩
  rw [there, told, ← here] at yields
  refine ⟨turns, e.world after, mishaps, served, ?_, yields, ?_⟩
  · rw [here]
    exact run_of_named named
  · rw [here, Bench.scene_world, Bench.scene_world]
    refine ⟨guestBefore, stranger_guest, guestAfter, dbAfter, mountsThen, fun spares => ?_⟩
    exact guestAfter ((spares.volumes guest stranger_guest).2 guestBefore)

end Daemon

end BlockVolumes
