import BlockVolumes.Proofs.Daemon.Replicas
import BlockVolumes.Proofs.Storage.Below

/-! Where volumes are mounted by name. The place is what the name is when it is joined to the mount
base, and nothing keeps it below that, or away from the places of other names. -/

namespace BlockVolumes

namespace Plugin

variable {d : BlockDriver} {b c : Bench} {v r : Volume} {name place : String} {s : Server}
  {mishaps : List Mishap} {body : List UInt8}

def mountReply (place : String) : Except VolumeError Unit → Http.Reply
  | .ok () => send PathReply.shape ⟨place, ""⟩
  | .error error => failure error.message

theorem leads_mount_place (serves : s.registry.get s.driver = .ok d.toVolumeDriver)
    (sound : b.Sound) (asked : Verb.mount.name? body = some name) :
    (s.mount body).Leads b fun mishaps reply c => ∃ result,
      Mounting d name (s.placeOf name) b mishaps result c ∧
        reply = mountReply (s.placeOf name) result := by
  obtain ⟨request, read, rfl⟩ := Option.map_eq_some_iff.1 asked
  simp only [Server.mount, ofBody_of_decode (toOption_eq_some.1 read), resolve_of_get serves,
    Server.orReply]
  apply Routine.leads_bind.2
  apply leads_underName
  apply (leads_mount sound _ _).mono
  intro mishaps result c mounting
  cases result with
  | ok done => exact ⟨.ok (), by simpa using mounting, rfl⟩
  | error error => exact ⟨.error error, by simpa using mounting, rfl⟩

theorem Taken.obtained (named : b.named name = some v) (taken : Taken d v b mishaps (.ok r) c) :
    ∃ own, Obtained v.spec own b r c ∧ r.isMounted = false := by
  generalize chosen : Except.ok (ε := VolumeError) r = result at taken
  cases taken with
  | itself free =>
    cases chosen
    exact ⟨name, .found named, free⟩
  | single => cases chosen
  | scaled _ _ scaled =>
    obtain ⟨i, -, -, obtained, free, -⟩ := scaled.obtained chosen.symm
    exact ⟨_, obtained, free⟩

end Plugin

namespace Daemon

open Plugin (Verb)
open BlockVolumes.Path (Alike Below Enters)

variable {d : Daemon} {u : BlockDriver} {b : Bench} {m : Moment} {name : String}
  {body : List UInt8} {mishaps : List Mishap} {reply : Http.Reply} {w' : World}

theorem mounts_of_yields (serves : d.fleet.registry.get d.driver = .ok u.toVolumeDriver)
    (sound : b.Sound) (asked : Verb.mount.name? body = some name)
    (yields : (d.plugin.mount body).Yields (b.world m) mishaps reply w')
    (done : Plugin.succeeded reply = true) :
    reply = Plugin.send Plugin.PathReply.shape ⟨d.plugin.placeOf name, ""⟩ ∧
      ∃ r, (b.world m).Mounts r (d.plugin.placeOf name) w' := by
  obtain ⟨e, later, rfl, result, mounting, rfl⟩ :=
    (Plugin.leads_mount_place (s := d.plugin) serves sound asked).sound yields
  cases result with
  | error error =>
    rw [Plugin.mountReply, Plugin.succeeded_failure] at done
    cases done
  | ok answer =>
    refine ⟨rfl, ?_⟩
    generalize whole : Except.ok (ε := VolumeError) answer = outcome at mounting
    cases mounting with
    | missing | unready => cases whole
    | tried named taken mounted =>
      obtain ⟨own, obtained, free⟩ := taken.obtained named
      exact ⟨_, Plugin.mounts_of_obtained sound.own obtained free whole.symm mounted⟩

/-- Makes a volume by a name, and mounts it by that name. -/
def settling (name : String) : List (Http.Request × Service) :=
  [(⟨"POST", ⟨"/VolumeDriver.Create".toUTF8.toList, []⟩,
      (Plugin.VolumeRequest.shape.toJson ⟨name, none⟩).bytes⟩, .plugin),
    (⟨"POST", ⟨"/VolumeDriver.Mount".toUTF8.toList, []⟩,
      (Plugin.MountRequest.shape.toJson ⟨name, ""⟩).bytes⟩, .plugin)]

def settled (name : String) : World :=
  shared.after ((Bench.ofRecords .empty).world .calm) (settling name)

/-- Wherever requests to the two servers have led: a volume that is mounted by name is mounted in
the place of the name. That is below the mount base just if the name leads there, and it is the
place of another name just if the two are alike. -/
theorem mount_places_iff (serves : d.fleet.registry.get d.driver = .ok u.toVolumeDriver)
    (blank : b.Blank) (absolute : Path.isAbsolute d.mountBase = true) :
    (∀ turns w body name mishaps reply w', Serves d (b.world m) turns w →
      Verb.mount.name? body = some name → (d.plugin.mount body).Yields w mishaps reply w' →
      Plugin.succeeded reply = true →
      reply = Plugin.send Plugin.PathReply.shape ⟨d.plugin.placeOf name, ""⟩ ∧
        ∃ r, w.Mounts r (d.plugin.placeOf name) w') ∧
    (∀ name, Below d.mountBase (d.plugin.placeOf name) ↔ Enters d.mountBase name) ∧
    ∀ name other, Path.same (d.plugin.placeOf name) (d.plugin.placeOf other) = true ↔
      Alike d.mountBase name other := by
  refine ⟨?_, Path.below_join_iff absolute, Path.same_join_iff absolute⟩
  intro turns w body name mishaps reply w' served asked yields done
  obtain ⟨c, later, rfl, traced⟩ := served.traced serves blank
  exact mounts_of_yields serves traced.toSound asked yields done

/-- With a base right below the root. -/
theorem mount_places_shared :
    Path.isAbsolute shared.mountBase = true ∧
    Below shared.mountBase (shared.plugin.placeOf "../mnt/db") ∧
    Path.same (shared.plugin.placeOf "db") (shared.plugin.placeOf "db/") = true := by
  have absolute : Path.isAbsolute shared.mountBase = true := by decide
  obtain ⟨-, below, same⟩ := mount_places_iff (m := .calm) serves_shared blank_ofRecords absolute
  exact ⟨absolute, (below _).2 ⟨["db".toList], by decide, by decide⟩, (same _ _).2 (by decide)⟩

/-- Two names share a place, one has the mount base itself, and one a place outside of it. -/
theorem mounts_stray :
    (∀ name ∈ ["db", "db/", ".", ".."], ∃ turns,
      Serves shared ((Bench.ofRecords .empty).world .calm) turns (settled name) ∧
      (settled name).scene.mounts = [⟨shared.plugin.placeOf name, "/dev/nbd0"⟩]) ∧
    Path.same (shared.plugin.placeOf "db") (shared.plugin.placeOf "db/") = true ∧
    Path.same (shared.plugin.placeOf ".") shared.mountBase = true ∧
    ¬ Below shared.mountBase (shared.plugin.placeOf "..") := by
  have mounted : ∀ name ∈ ["db", "db/", ".", ".."],
      (settled name).scene.mounts = [⟨shared.plugin.placeOf name, "/dev/nbd0"⟩] := by
    decide +kernel
  refine ⟨fun name stray => ?_, by decide, by decide, Path.not_below_root (by decide)⟩
  obtain ⟨turns, served⟩ : ∃ turns,
      Serves shared ((Bench.ofRecords .empty).world .calm) turns (settled name) :=
    Serves.start.after _
  exact ⟨turns, served, mounted name stray⟩

end Daemon

end BlockVolumes
