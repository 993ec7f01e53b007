import BlockVolumes.Proofs.Driver.Course
import BlockVolumes.Proofs.Plugin.Naming
import BlockVolumes.Plugin.Server

/-! How the work of a plugin request can end, whatever its name stands for. -/

namespace BlockVolumes.Plugin

open Operation
open Bench (Sound)

variable {d : BlockDriver} {b c e : Bench} {v : Volume} {name : String}

inductive Grows (d : BlockDriver) : Bench → Bench → Prop
  | done {b : Bench} : Grows d b b
  | made {b c e : Bench} {locator : Locator} {source : Option Source} {spec : Spec}
      {mishaps : List Mishap} {result : Except VolumeError VolumeId}
      (none : b.named locator.name = none)
      (created : BlockDriver.Created d b locator source spec mishaps result c)
      (rest : Grows d c e) : Grows d b e

theorem Grows.trans (first : Grows d b c) (next : Grows d c e) : Grows d b e := by
  induction first with
  | done => exact next
  | made none created _ ih => exact .made none created (ih next)

theorem Grows.sound (sound : b.Sound) (grows : Grows d b c) : c.Sound := by
  induction grows with
  | done => exact sound
  | made _ created _ ih => exact ih (created.sound sound)

inductive Made (d : BlockDriver) (given : GivenName) (options : Option Labels) (b : Bench) :
    List Mishap → Except VolumeError Unit → Bench → Prop
  | there {v : Volume} (named : b.named given.name = some v) : Made d given options b [] (.ok ()) b
  | unclear {error : VolumeError} (none : b.named given.name = none)
      (bad : Server.requested given options = .error error) :
    Made d given options b [] (.error error) b
  | tried {spec : Spec} {labels : Labels} {mishaps : List Mishap}
      {result : Except VolumeError VolumeId} {c : Bench} (none : b.named given.name = none)
      (clear : Server.requested given options = .ok (spec, labels))
      (created : BlockDriver.Created d b ⟨given.name, labels⟩ .none spec mishaps result c) :
    Made d given options b mishaps (result.map fun _ => ()) c

theorem leads_createNamed (sound : b.Sound) (given : GivenName) (options : Option Labels) :
    (Server.createNamed d.toVolumeDriver given options).outcome.Leads b
      (Made d given options b) := by
  refine leads_bind.2 (leads_lift.2 (leads_volumeNamed (fun v named => ?_) fun none => ?_))
  · exact .there named
  · apply leads_bind.2
    show andThen _ _ [] (Server.requested given options) b
    cases clear : Server.requested given options with
    | error error => exact .unclear none clear
    | ok wanted =>
      obtain ⟨spec, labels⟩ := wanted
      apply leads_bind.2
      apply (BlockDriver.leads_create sound.unused).mono
      intro mishaps result c created
      cases result with
      | ok id =>
        have made : Made d given options b mishaps (.ok ()) c := .tried none clear created
        simpa [andThen, leads_pure] using made
      | error error => exact .tried none clear created

theorem Made.grows {given : GivenName} {options : Option Labels} {mishaps : List Mishap}
    {result : Except VolumeError Unit} (made : Made d given options b mishaps result c) :
    Grows d b c := by
  cases made with
  | there | unclear => exact .done
  | tried none _ created => exact .made none created .done

inductive Removed (d : BlockDriver) (name : String) (b : Bench) :
    List Mishap → Except VolumeError Unit → Bench → Prop
  | missing (none : b.named name = none) : Removed d name b [] (.error (.notFound name)) b
  | tried {v : Volume} {mishaps : List Mishap} {result : Except VolumeError Unit} {c : Bench}
      (named : b.named name = some v) (deleted : BlockDriver.Deleted v.id b mishaps result c) :
    Removed d name b mishaps result c

theorem leads_removeNamed (d : BlockDriver) (b : Bench) (name : String) :
    (Server.removeNamed d.toVolumeDriver name).outcome.Leads b (Removed d name b) := by
  refine leads_bind.2 (leads_volumeNamed (fun v named => ?_) fun none => ?_)
  · exact BlockDriver.leads_delete.mono fun _ _ _ deleted => .tried named deleted
  · exact .missing none

/-- A replica is made where its name stands for no volume. -/
inductive Replicated (d : BlockDriver) (v : Volume) (name : String) (b : Bench) :
    List Mishap → Except VolumeError Volume → Bench → Prop
  | there {r : Volume} (named : b.named name = some r) : Replicated d v name b [] (.ok r) b
  | made {r : Volume} {mishaps : List Mishap} {id : VolumeId} {c : Bench}
      (none : b.named name = none)
      (created : BlockDriver.Created d b (.named name) .none v.spec mishaps (.ok id) c)
      (found : c.records.get? id.text = some r) : Replicated d v name b mishaps (.ok r) c
  | failed {mishaps : List Mishap} {error : VolumeError} {c : Bench}
      (none : b.named name = none)
      (created : BlockDriver.Created d b (.named name) .none v.spec mishaps (.error error) c) :
    Replicated d v name b mishaps (.error error) c

theorem leads_replica (sound : b.Sound) (v : Volume) (index : Nat) :
    (replica d.toVolumeDriver v index).outcome.Leads b
      (Replicated d v (replicaName v.locator.name index) b) := by
  refine leads_bind.2 (leads_lift.2 (leads_volumeNamed (fun r named => ?_) fun none => ?_))
  · exact .there named
  · apply leads_bind.2
    apply (BlockDriver.leads_create sound.unused).mono
    intro mishaps result c created
    cases result with
    | error error => exact .failed none created
    | ok id =>
      obtain ⟨r, found⟩ := created.found
      have named : c.named id.text = some r := Bench.named_of_id found
      simp only [andThen]
      refine leads_volumeNamed (fun u also => ?_) fun missing => ?_
      · rw [named] at also
        cases also
        simpa using Replicated.made none created found
      · rw [named] at missing
        cases missing

theorem Replicated.grows {mishaps : List Mishap} {result : Except VolumeError Volume}
    (replicated : Replicated d v name b mishaps result c) : Grows d b c := by
  cases replicated with
  | there => exact .done
  | made none created | failed none created => exact .made none created .done

theorem Replicated.found {r : Volume} {mishaps : List Mishap} (sound : b.Sound)
    (replicated : Replicated d v name b mishaps (.ok r) c) : c.records.get? r.id.text = some r := by
  cases replicated with
  | there named => exact (Bench.named_iff.1 named).found sound.own
  | made none created found =>
    have own := (created.sound sound).own _ _ found
    rwa [own]

inductive ScaledUp (d : BlockDriver) (v : Volume) :
    Nat → Nat → Bench → List Mishap → Except VolumeError Volume → Bench → Prop
  | exhausted {index : Nat} {b : Bench} :
    ScaledUp d v index 0 b [] (.error (.scaleExhausted v.locator.name v.spec.scale)) b
  | failed {index count : Nat} {b c : Bench} {mishaps : List Mishap} {error : VolumeError}
      (replicated : Replicated d v (replicaName v.locator.name index) b mishaps (.error error) c) :
    ScaledUp d v index (count + 1) b mishaps (.error error) c
  | free {index count : Nat} {b c : Bench} {mishaps : List Mishap} {r : Volume}
      (replicated : Replicated d v (replicaName v.locator.name index) b mishaps (.ok r) c)
      (free : r.isMounted = false) : ScaledUp d v index (count + 1) b mishaps (.ok r) c
  | busy {index count : Nat} {b c e : Bench} {mishaps rest : List Mishap} {r : Volume}
      {result : Except VolumeError Volume}
      (replicated : Replicated d v (replicaName v.locator.name index) b mishaps (.ok r) c)
      (mounted : r.isMounted = true) (next : ScaledUp d v (index + 1) count c rest result e) :
    ScaledUp d v index (count + 1) b (mishaps ++ rest) result e

theorem leads_attach {post : List Mishap → Except VolumeError String → Bench → Prop}
    (found : b.records.get? v.id.text = some v)
    (free : v.isMounted = false → post [] (.ok (d.backingFile v.id)) b)
    (mounted : v.isMounted = true → post [] (.error (.attachedAtLimit v.id)) b) :
    (d.attach v.id).outcome.Leads b post := by
  apply BlockDriver.leads_attach.mono
  intro mishaps result c attached
  cases attached with
  | missing absent => simp [found] at absent
  | mounted also busy =>
    rw [found] at also
    cases also
    exact mounted busy
  | done also idle =>
    rw [found] at also
    cases also
    exact free idle

theorem leads_scaleUp (sound : b.Sound) (v : Volume) (index count : Nat) :
    (scaleUp d.toVolumeDriver v index count).outcome.Leads b (ScaledUp d v index count b) := by
  induction count generalizing b index with
  | zero => exact .exhausted
  | succ count ih =>
    apply leads_bind.2
    apply (leads_replica sound v index).mono
    intro mishaps result c replicated
    cases result with
    | error error => exact .failed replicated
    | ok r =>
    refine leads_bind.2 (leads_lift.2 (leads_attach (replicated.found sound) ?_ ?_))
    · intro idle
      simpa [andThen, leads_pure] using ScaledUp.free replicated idle
    · intro busy
      apply (ih (replicated.grows.sound sound) (index + 1)).mono
      intro rest result e next
      simpa using ScaledUp.busy replicated busy next

inductive Taken (d : BlockDriver) (v : Volume) (b : Bench) :
    List Mishap → Except VolumeError Volume → Bench → Prop
  | itself (free : v.isMounted = false) : Taken d v b [] (.ok v) b
  | single (mounted : v.isMounted = true) (one : ¬ 1 < v.spec.scale) :
    Taken d v b [] (.error (.attachedAtLimit v.id)) b
  | scaled {mishaps : List Mishap} {result : Except VolumeError Volume} {c : Bench}
      (mounted : v.isMounted = true) (many : 1 < v.spec.scale)
      (scaled : ScaledUp d v 1 (v.spec.scale.toNat - 1) b mishaps result c) :
    Taken d v b mishaps result c

theorem leads_attached (sound : b.Sound) (found : b.records.get? v.id.text = some v) :
    (attached d.toVolumeDriver v).outcome.Leads b (Taken d v b) := by
  refine leads_bind.2 (leads_lift.2 (leads_attach found ?_ ?_))
  · exact .itself
  · intro mounted
    by_cases many : 1 < v.spec.scale
    · simp only [andThen, many, if_true]
      exact (leads_scaleUp sound v 1 _).mono fun _ _ _ scaled => .scaled mounted many scaled
    · simp only [andThen, many, if_false]
      exact .single mounted many

inductive Mounting (d : BlockDriver) (name place : String) (b : Bench) :
    List Mishap → Except VolumeError Unit → Bench → Prop
  | missing (none : b.named name = none) :
    Mounting d name place b [] (.error (.notFound name)) b
  | unready {v : Volume} {mishaps : List Mishap} {error : VolumeError} {c : Bench}
      (named : b.named name = some v) (taken : Taken d v b mishaps (.error error) c) :
    Mounting d name place b mishaps (.error error) c
  | tried {v r : Volume} {mishaps rest : List Mishap} {result : Except VolumeError Unit}
      {c e : Bench}
      (named : b.named name = some v) (taken : Taken d v b mishaps (.ok r) c)
      (mounted : BlockDriver.Mounted r.id place
        (c.withFiles (c.files.makeDirectories place)).2 rest result e) :
    Mounting d name place b (mishaps ++ rest) result e

theorem ScaledUp.grows {index count : Nat} {mishaps : List Mishap}
    {result : Except VolumeError Volume} (scaled : ScaledUp d v index count b mishaps result c) :
    Grows d b c := by
  induction scaled with
  | exhausted => exact .done
  | failed replicated | free replicated => exact replicated.grows
  | busy replicated _ _ ih => exact replicated.grows.trans ih

theorem Taken.grows {mishaps : List Mishap} {result : Except VolumeError Volume}
    (taken : Taken d v b mishaps result c) : Grows d b c := by
  cases taken with
  | itself | single => exact .done
  | scaled _ _ scaled => exact scaled.grows

theorem leads_mount (sound : b.Sound) (name place : String) :
    (mount d.toVolumeDriver name place).outcome.Leads b (Mounting d name place b) := by
  refine leads_bind.2 (leads_volumeNamed (fun v named => ?_) fun none => ?_)
  · have found := (Bench.named_iff.1 named).found sound.own
    apply leads_bind.2
    apply (leads_attached sound found).mono
    intro mishaps result c taken
    cases result with
    | error error => exact .unready named taken
    | ok r =>
      have later := taken.grows.sound sound
      simp only [andThen]
      apply leads_call.2
      intro m
      have own : (c.withFiles (c.files.makeDirectories place)).2.OwnIds := by
        cases c.files.makeDirectories place <;> exact later.own
      apply (BlockDriver.leads_mount own).mono
      intro rest result e mounted
      simpa [Effect.mishaps] using Mounting.tried named taken mounted
  · exact .missing none

inductive Chosen (v : Volume) (place : String) (b : Bench) : VolumeId → Prop
  | itself (one : ¬ 1 < v.spec.scale) : Chosen v place b v.id
  | last {u : Volume} (many : 1 < v.spec.scale)
      (last : BlockDriver.lastMountedAt place (inOrderOfCreation b.records.values) = some u) :
    Chosen v place b u.id

inductive Unmounting (v : Volume) (place : String) (b : Bench) :
    List Mishap → Except VolumeError Unit → Bench → Prop
  | bare (many : 1 < v.spec.scale)
      (none : BlockDriver.lastMountedAt place (inOrderOfCreation b.records.values) = none) :
    Unmounting v place b [] (.error (.unmountFailed place "no volume mapping found")) b
  | tried {id : VolumeId} {mishaps : List Mishap} {result : Except VolumeError Unit} {c : Bench}
      (chosen : Chosen v place b id) (unmounted : BlockDriver.Unmounted id b mishaps result c) :
    Unmounting v place b mishaps result c

theorem leads_toUnmount (v : Volume) (place : String) :
    (toUnmount d.toVolumeDriver v place).outcome.Leads b fun mishaps result c =>
      mishaps = [] ∧ c = b ∧ ((∃ id, Chosen v place b id ∧ result = .ok id) ∨
        1 < v.spec.scale ∧
          BlockDriver.lastMountedAt place (inOrderOfCreation b.records.values) = none ∧
          result = .error (.unmountFailed place "no volume mapping found")) := by
  by_cases many : 1 < v.spec.scale
  · simp only [toUnmount, many, if_true]
    apply leads_bind.2
    apply BlockDriver.leads_mountedAt
    cases last : BlockDriver.lastMountedAt place (inOrderOfCreation b.records.values) with
    | none => exact ⟨rfl, rfl, .inr ⟨trivial, rfl, rfl⟩⟩
    | some u => exact ⟨rfl, rfl, .inl ⟨u.id, .last many last, rfl⟩⟩
  · simp only [toUnmount, many, if_false]
    exact ⟨rfl, rfl, .inl ⟨v.id, .itself many, rfl⟩⟩

theorem leads_unmount (sound : b.Sound) (v : Volume) (place : String) :
    (unmount d.toVolumeDriver v place).outcome.Leads b (Unmounting v place b) := by
  apply leads_bind.2
  apply (leads_toUnmount v place).mono
  rintro mishaps result c ⟨rfl, rfl, ⟨id, chosen, rfl⟩ | ⟨many, bare, rfl⟩⟩
  · apply leads_bind.2
    apply (BlockDriver.leads_unmount sound.own).mono
    intro mishaps result e unmounted
    cases result with
    | error error => exact .tried chosen unmounted
    | ok done =>
      refine leads_bind.2 (leads_lift.2 (BlockDriver.leads_detach.mono ?_))
      intro rest result f detached
      have same : rest = [] ∧ f = e := by cases detached <;> exact ⟨rfl, rfl⟩
      obtain ⟨rfl, rfl⟩ := same
      simpa [andThen, leads_pure] using Unmounting.tried chosen unmounted
  · exact .bare many bare

end BlockVolumes.Plugin
