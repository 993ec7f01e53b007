import BlockVolumes.Daemon.Basic
import BlockVolumes.Proofs.Api.Serving
import BlockVolumes.Proofs.Driver.Mounts
import BlockVolumes.Proofs.Plugin.Serving

/-! Records and mounts over all that is asked of the two servers of a daemon. -/

namespace BlockVolumes

/-- No volumes yet, nothing mounted, and no name of a device in use that is still to be handed
out. -/
structure Bench.Blank (b : Bench) : Prop where
  records : b.records = .empty
  mounts : b.mounts = []
  unused : b.NamesUnused

theorem Bench.Blank.absent {b : Bench} (blank : b.Blank) (key : String) :
    b.records.get? key = none :=
  absent_of_empty blank.records key

theorem Bench.Blank.traced {b : Bench} (blank : b.Blank) : b.Traced where
  own key v found := by simp [blank.absent] at found
  unused := blank.unused
  numbered key v found := by simp [blank.absent] at found
  apart key other v w found := by simp [blank.absent] at found
  mounted m member := by simp [blank.mounts] at member

theorem Bench.Blank.agrees {b : Bench} (blank : b.Blank) : b.scene.Agrees := by
  intro v here
  obtain ⟨key, found⟩ := Bench.mem_scene.1 here
  simp [blank.absent] at found

namespace Daemon

structure Turn where
  before : World
  after : World

inductive Serves (d : Daemon) (start : World) : List Turn → World → Prop
  | start : Serves d start [] start
  | request {turns : List Turn} {request : Http.Request} {service : Service}
      {mishaps : List Mishap} {reply : Http.Reply} {w v : World} (served : Serves d start turns w)
      (yields : (d.handle request service).Yields w mishaps reply v) :
    Serves d start (turns ++ [⟨w, v⟩]) v

variable {d : Daemon} {u : BlockDriver} {b : Bench} {m : Moment} {turns : List Turn}
  {start w : World}

theorem leads_handle (serves : d.fleet.registry.get d.driver = .ok u.toVolumeDriver)
    (sound : b.Sound) (request : Http.Request) (service : Service) :
    (d.handle request service).Leads b fun _ _ c => b.Touched u c := by
  cases service with
  | plugin =>
    let server : Plugin.Server := ⟨d.fleet.registry, d.driver, d.mountBase⟩
    exact Plugin.leads_serve (s := server) serves sound request
  | api =>
    let server : Api.Server := ⟨d.fleet.registry, d.driver⟩
    exact Api.leads_serve (s := server) serves sound request

theorem Serves.agrees (served : Serves d start turns w) (first : start.scene.Agrees)
    (all : ∀ turn ∈ turns, turn.after.scene.Agrees) : w.scene.Agrees := by
  cases served with
  | start => exact first
  | request => exact all _ (List.mem_append_right _ List.mem_cons_self)

theorem Serves.traced (served : Serves d (b.world m) turns w)
    (serves : d.fleet.registry.get d.driver = .ok u.toVolumeDriver) (blank : b.Blank) :
    ∃ (c : Bench) (later : Moment), w = c.world later ∧ c.Traced := by
  induction served with
  | start => exact ⟨b, m, rfl, blank.traced⟩
  | request _ yields ih =>
    obtain ⟨c, later, rfl, traced⟩ := ih
    obtain ⟨e, after, rfl, touched⟩ := (leads_handle serves traced.toSound _ _).sound yields
    exact ⟨e, after, rfl, (traced.touched touched).1⟩

def after (d : Daemon) (w : World) : List (Http.Request × Service) → World
  | [] => w
  | (request, service) :: later => d.after ((d.handle request service).run w).2 later

theorem Serves.after (served : Serves d start turns w) (requests : List (Http.Request × Service)) :
    ∃ more, Serves d start (turns ++ more) (d.after w requests) := by
  induction requests generalizing turns w with
  | nil => exact ⟨[], by simpa [Daemon.after] using served⟩
  | cons first later ih =>
    obtain ⟨request, service⟩ := first
    obtain ⟨mishaps, yields⟩ := (d.handle request service).yields_run w
    obtain ⟨more, there⟩ := ih (served.request yields)
    exact ⟨_, by simpa [Daemon.after] using there⟩

def shared : Daemon where
  fleet := ⟨⟨Table.empty.insert "nbd" (BlockDriver.mk "nbd" "/volumes").toVolumeDriver⟩, .empty,
    ((Bench.ofRecords .empty).world .calm).toMachine⟩
  driver := "nbd"
  mountBase := "/mnt"
  listening := []

def native (method path : String) (body : Json) : Http.Request × Service :=
  (⟨method, ⟨path.toUTF8.toList, []⟩, body.bytes⟩, .api)

def creation (name : String) : Http.Request × Service :=
  native "POST" "/v1/volumes" (Api.CreateRequest.shape.toJson
    ⟨.named name, none, .sized 4096 .ext4⟩)

def switching (id : String) (mount : Api.Switch) : Http.Request × Service :=
  native "PUT" ("/v1/volumes/" ++ id) (Api.SetRequest.shape.toJson
    ⟨none, none, some ⟨.none, mount, "/mnt"⟩⟩)

/-- Two volumes are mounted in one place, and the older one is unmounted. -/
def sharing : List (Http.Request × Service) :=
  [creation "first", creation "second", switching "volume0" .on, switching "volume1" .on,
    switching "volume0" .off]

theorem blank_ofRecords : (Bench.ofRecords .empty).Blank :=
  ⟨rfl, rfl, fun _ _ => rfl, fun _ _ => rfl⟩

theorem serves_shared : shared.fleet.registry.get shared.driver =
    .ok (BlockDriver.mk "nbd" "/volumes").toVolumeDriver := by
  simp [shared, DriverRegistry.get]

/-- Whatever is asked of a daemon, and whatever goes wrong on the way: the records tell what is
mounted where after every request, just if no request unmounts another volume than the one that
was mounted last in its place, or mounts one at the empty path. -/
theorem agrees_iff_orderly (serves : d.fleet.registry.get d.driver = .ok u.toVolumeDriver)
    (blank : b.Blank) (served : Serves d (b.world m) turns w) :
    (∀ turn ∈ turns, turn.after.scene.Agrees) ↔
      ∀ turn ∈ turns, turn.before.scene.Orderly turn.after.scene := by
  -- the last request is judged by the world before it, which agrees as long as all others did
  induction served with
  | start => simp
  | @request turns request service _ _ w v served yields ih =>
    obtain ⟨c, later, rfl, traced⟩ := served.traced serves blank
    obtain ⟨e, after, rfl, touched⟩ :=
      (leads_handle serves traced.toSound request service).sound yields
    have next : (∀ turn ∈ turns, turn.after.scene.Agrees) →
        ((e.world after).scene.Agrees ↔
          (c.world later).scene.Orderly (e.world after).scene) := by
      intro all
      have agrees := served.agrees (by rw [Bench.scene_world]; exact blank.agrees) all
      rw [Bench.scene_world] at agrees
      rw [Bench.scene_world, Bench.scene_world]
      exact (traced.touched touched).2 agrees
    simp only [List.forall_mem_append, List.forall_mem_singleton]
    rw [← ih]
    exact and_congr_right next

/-- Over the shared place. -/
theorem agrees_iff_orderly_of_sharing : ∃ turns,
    Serves shared ((Bench.ofRecords .empty).world .calm) turns
      (shared.after ((Bench.ofRecords .empty).world .calm) sharing) ∧
    ((∀ turn ∈ turns, turn.after.scene.Agrees) ↔
      ∀ turn ∈ turns, turn.before.scene.Orderly turn.after.scene) := by
  obtain ⟨turns, served⟩ := Serves.start.after (d := shared) sharing
  exact ⟨turns, served, agrees_iff_orderly serves_shared blank_ofRecords served⟩

/-- The host has removed the mount of the other volume. -/
theorem unmounts_other_volume : ∃ turns w,
    Serves shared ((Bench.ofRecords .empty).world .calm) turns w ∧
    w.scene.mounts = [⟨"/mnt", "/dev/nbd0"⟩] ∧
    (∃ v ∈ w.scene.volumes, v.device = "/dev/nbd1" ∧ v.mountPath? = some "/mnt") ∧
    ¬ ∀ turn ∈ turns, turn.after.scene.Agrees := by
  let w := shared.after ((Bench.ofRecords .empty).world .calm) sharing
  obtain ⟨turns, served⟩ := Serves.start.after (d := shared) sharing
  obtain ⟨mounts, told⟩ : w.scene.mounts = [⟨"/mnt", "/dev/nbd0"⟩] ∧
      (w.store.get ⟨"volume1"⟩).toOption.join.map (fun v => (v.device, v.mountPath?)) =
        some ("/dev/nbd1", some "/mnt") := by decide +kernel
  have other : ∃ v ∈ w.scene.volumes, v.device = "/dev/nbd1" ∧ v.mountPath? = some "/mnt" := by
    obtain ⟨c, later, same, -⟩ := served.traced serves_shared blank_ofRecords
    have there : w = c.world later := same
    rw [there] at told ⊢
    have read : (c.world later).store.get ⟨"volume1"⟩ = .ok (c.records.get? "volume1") :=
      Store.get_keeping c.kind c.records ⟨"volume1"⟩
    rw [read] at told
    obtain ⟨v, found, data⟩ := Option.map_eq_some_iff.1 told
    rw [Bench.scene_world]
    exact ⟨v, Bench.mem_scene.2 ⟨"volume1", found⟩, congrArg Prod.fst data, congrArg Prod.snd data⟩
  refine ⟨turns, w, served, mounts, other, fun all => ?_⟩
  obtain ⟨v, here, device, mounted⟩ := other
  have agrees : w.scene.Agrees :=
    served.agrees (by rw [Bench.scene_world]; exact blank_ofRecords.agrees) all
  have missing := agrees v here
  rw [mounts, Volume.mounting_of_mounted mounted, device] at missing
  exact absurd missing (by decide)

end Daemon

end BlockVolumes
