import BlockVolumes.Proofs.Driver.Course
import BlockVolumes.Proofs.Driver.Devices
import BlockVolumes.Proofs.Driver.Lookup

/-! Whether the records tell where devices are mounted. The host is asked to unmount a place and not
a device, so this depends on the order in which volumes come and go there. -/

namespace BlockVolumes

open SimulatedConnector (nameOf)

def Volume.mounting (v : Volume) : List Mount :=
  v.mountPath?.toList.map fun place => ⟨place, v.device⟩

theorem Volume.mounting_of_free {v : Volume} (free : v.mountPath? = none) : v.mounting = [] := by
  simp [mounting, free]

theorem Volume.mounting_of_mounted {v : Volume} {place : String}
    (mounted : v.mountPath? = some place) : v.mounting = [⟨place, v.device⟩] := by
  simp [mounting, mounted]

theorem Volume.mounting_mountedAt (v : Volume) (place : String) (time : Time) :
    (v.mountedAt place time).mounting = if place = "" then [] else [⟨place, v.device⟩] := by
  by_cases empty : place = "" <;> simp [mounting, mountPath?, mountedAt, Option.filter, empty]

/-- The records of volumes next to what the host has mounted, oldest first. -/
structure Scene where
  volumes : List Volume
  mounts : List Mount

namespace Scene

/-- The device of each volume is mounted where its record says, once, and nowhere else. -/
def Agrees (s : Scene) : Prop :=
  ∀ v ∈ s.volumes, s.mounts.filter (·.device = v.device) = v.mounting

/-- The device that was mounted last in a place, and is still there. -/
def lastAt (s : Scene) (place : String) : Option String :=
  (s.mounts.filter (Path.same ·.path place)).getLast?.map (·.device)

/-- Volumes that were unmounted had been mounted last in their places, and nothing was mounted at
the empty path, which records take for none. -/
structure Orderly (before after : Scene) : Prop where
  last : ∀ v ∈ before.volumes, ∀ w ∈ after.volumes, w.device = v.device → w.mountPath? = none →
    ∀ place, v.mountPath? = some place → before.lastAt place = some v.device
  placed : ∀ m ∈ after.mounts, m.path = "" → m ∈ before.mounts

end Scene

def World.scene (w : World) : Scene where
  volumes := w.store.list.toOption.getD []
  mounts :=
    match w.host with
    | .recording h => h.mounts
    | .kernel _ => []

namespace Bench

variable {d : BlockDriver} {b c e : Bench}

def scene (b : Bench) : Scene := ⟨inOrderOfCreation b.records.values, b.mounts⟩

theorem scene_world (b : Bench) (m : Moment) : (b.world m).scene = b.scene := by
  have listed : (b.world m).store.list = .ok (inOrderOfCreation b.records.values) :=
    Store.list_keeping b.kind b.records
  simp only [World.scene, listed]
  rfl

theorem mem_scene {v : Volume} : v ∈ b.scene.volumes ↔ ∃ key, b.records.get? key = some v :=
  Store.mem_inOrderOfCreation.trans Table.mem_values

theorem Issued.eq_of_mem (issued : Issued b) {v w : Volume} (here : v ∈ b.scene.volumes)
    (there : w ∈ b.scene.volumes) (same : v.device = w.device) : v = w := by
  obtain ⟨_, foundV⟩ := mem_scene.1 here
  obtain ⟨_, foundW⟩ := mem_scene.1 there
  exact issued.eq foundV foundW same

structure Traced (b : Bench) : Prop extends Issued b where
  mounted : ∀ m ∈ b.mounts, ∃ n < b.next, m.device = nameOf n

def Unknown (b : Bench) (w : Volume) : Prop :=
  w.mountPath? = none ∧ ∃ n, b.next ≤ n ∧ w.device = nameOf n

structure Calm (b c : Bench) : Prop where
  mounts : c.mounts = b.mounts
  next : b.next ≤ c.next
  records : ∀ key w, c.records.get? key = some w → b.Unknown w ∨
    ∃ v, b.records.get? key = some v ∧ w.device = v.device ∧ w.mountPath? = v.mountPath?

namespace Calm

variable {mishaps : List Mishap}

theorem of_eq (records : c.records = b.records) (mounts : c.mounts = b.mounts)
    (next : b.next ≤ c.next) : Calm b c :=
  ⟨mounts, next, fun _ w found => .inr ⟨w, records ▸ found, rfl, rfl⟩⟩

theorem refl (b : Bench) : Calm b b := of_eq rfl rfl (Nat.le_refl _)

theorem trans (first : Calm b c) (later : Calm c e) : Calm b e := by
  have mounts := later.mounts.trans first.mounts
  refine ⟨mounts, Nat.le_trans first.next later.next, fun key w found => ?_⟩
  rcases later.records key w found with ⟨free, n, past, named⟩ | ⟨v, between, device, place⟩
  · exact .inl ⟨free, n, Nat.le_trans first.next past, named⟩
  · rcases first.records key v between with ⟨free, n, past, named⟩ | ⟨u, before, device', place'⟩
    · exact .inl ⟨place.trans free, n, past, device.trans named⟩
    · exact .inr ⟨u, before, device.trans device', place.trans place'⟩

theorem recorded {key : String} {v w : Volume} (found : b.records.get? key = some v)
    (device : w.device = v.device) (place : w.mountPath? = v.mountPath?) :
    Calm b { b with records := b.records.insert key w } := by
  refine ⟨rfl, Nat.le_refl _, fun other u there => .inr ?_⟩
  rcases Table.get?_insert_eq_some.1 there with ⟨rfl, rfl⟩ | ⟨-, before⟩
  · exact ⟨v, found, device, place⟩
  · exact ⟨u, before, rfl, rfl⟩

theorem provisioned {id : VolumeId} {locator : Locator} {source : Option Source} {spec : Spec}
    {result : Except VolumeError VolumeId}
    (made : BlockDriver.Provisioned d b id locator source spec mishaps result c) : Calm b c := by
  rcases made.outcome with ⟨-, -, v, -, added⟩ | ⟨-, worn⟩
  · refine ⟨added.mounts, added.next ▸ Nat.le_succ _, fun key w found => ?_⟩
    rw [added.records, Table.get?_insert_eq_some] at found
    rcases found with ⟨-, rfl⟩ | ⟨-, before⟩
    · exact .inl ⟨added.unmounted, b.next, Nat.le_refl _, added.device⟩
    · exact .inr ⟨w, before, rfl, rfl⟩
  · apply of_eq worn.records worn.mounts
    rcases worn.next with same | more <;> omega

theorem deleted {id : VolumeId} {result : Except VolumeError Unit}
    (deleted : BlockDriver.Deleted id b mishaps result c) : Calm b c := by
  cases deleted with
  | missing | unregistered | unlinked | kept => exact refl b
  | done =>
    refine ⟨rfl, Nat.le_refl _, fun key w found => .inr ?_⟩
    exact ⟨w, (Table.get?_erase_eq_some.1 found).2, rfl, rfl⟩

theorem drawn {n : Nat} (rest : Calm { b with drawn := n } c) : Calm b c := by
  have same : Calm b { b with drawn := n } := of_eq rfl rfl (Nat.le_refl _)
  exact same.trans rest

theorem copied {id : VolumeId} {locator : Locator} {result : Except VolumeError VolumeId}
    (copied : BlockDriver.Copied d b id locator mishaps result c) : Calm b c := by
  cases copied with
  | missing => exact refl b
  | uncreated found made => exact (provisioned made).drawn
  | undone found made lost gone => exact (provisioned made).drawn.trans (deleted gone)
  | done found made => exact (provisioned made).drawn.trans (of_eq rfl rfl (Nat.le_refl _))

theorem markedUp : Calm b { b with records := b.records.map Volume.markedUp } := by
  refine ⟨rfl, Nat.le_refl _, fun key w found => .inr ?_⟩
  rw [Table.get?_map] at found
  obtain ⟨v, before, rfl⟩ := Option.map_eq_some_iff.1 found
  exact ⟨v, before, v.markedUp_device, v.mountPath?_markedUp⟩

theorem of_call {call : Call} {result : Except VolumeError Unit} (still : call.remounts = false)
    (ends : call.Ends d b mishaps result c) : Calm b c := by
  cases call with
  | init =>
    cases ends with
    | refused => exact refl b
    | done => exact trans markedUp (of_eq rfl rfl (Nat.le_refl _))
  | create =>
    obtain ⟨full, created, -⟩ := ends
    cases created with
    | invalid => exact refl b
    | drawn valid made => exact (provisioned made).drawn
  | delete => exact deleted ends
  | mount | unmount => cases still
  | snapshot =>
    obtain ⟨full, made, -⟩ := ends
    exact copied made
  | set =>
    cases ends with
    | refused | missing => exact refl b
    | done found => exact recorded found rfl rfl
  | attach =>
    obtain ⟨full, attached, -⟩ := ends
    cases attached <;> exact refl b
  | detach => cases ends <;> exact refl b

theorem agrees (calm : Calm b c) (traced : Traced b) (agrees : b.scene.Agrees) :
    c.scene.Agrees := by
  intro w there
  obtain ⟨key, found⟩ := mem_scene.1 there
  show c.mounts.filter (·.device = w.device) = w.mounting
  rw [calm.mounts]
  rcases calm.records key w found with ⟨free, n, past, named⟩ | ⟨v, before, device, place⟩
  · -- the device of a new volume was not handed out before, so it cannot be mounted yet
    rw [Volume.mounting_of_free free, List.filter_eq_nil_iff]
    intro m member same
    obtain ⟨k, handed, other⟩ := traced.mounted m member
    have mine : m.device = nameOf n := (of_decide_eq_true same).trans named
    have := SimulatedConnector.nameOf_inj.1 (other.symm.trans mine)
    omega
  · have kept : w.mounting = v.mounting := by rw [Volume.mounting, device, place, Volume.mounting]
    rw [kept, device]
    exact agrees v (mem_scene.2 ⟨key, before⟩)

end Calm

inductive Remounted (b c : Bench) : Prop
  | mounted {key : String} {v : Volume} {place : String} {time : Time}
      (found : b.records.get? key = some v) (free : v.mountPath? = none)
      (records : c.records = b.records.insert key (v.mountedAt place time))
      (mounts : c.mounts = b.mounts ++ [⟨place, v.device⟩]) (next : c.next = b.next)
  | unmounted {key : String} {v : Volume} {place : String}
      (found : b.records.get? key = some v) (mounted : v.mountPath? = some place)
      (records : c.records = b.records.insert key v.unmounted)
      (left : RecordingHost.withoutLast place b.mounts = some c.mounts) (next : c.next = b.next)

namespace Remounted

theorem of_call {call : Call} {mishaps : List Mishap} {result : Except VolumeError Unit}
    (remounts : call.remounts = true) (ends : call.Ends d b mishaps result c) :
    c = b ∨ Remounted b c := by
  cases call with
  | mount =>
    cases ends with
    | missing | occupied | refused => exact .inl rfl
    | done found free => exact .inr (.mounted found free rfl rfl rfl)
  | unmount =>
    cases ends with
    | missing | free | refused => exact .inl rfl
    | done found mounted left => exact .inr (.unmounted found mounted rfl left rfl)
  | init | create | delete | snapshot | set | attach | detach => cases remounts

theorem congr (moved : Remounted b c) (records : e.records = c.records)
    (mounts : e.mounts = c.mounts) (next : e.next = c.next) : Remounted b e := by
  cases moved with
  | mounted found free records' mounts' next' =>
    exact .mounted found free (records.trans records') (mounts.trans mounts') (next.trans next')
  | unmounted found mounted records' left next' =>
    exact .unmounted found mounted (records.trans records') (mounts ▸ left) (next.trans next')

theorem before (moved : Remounted b c) {key : String} {w : Volume}
    (found : c.records.get? key = some w) :
    ∃ v, b.records.get? key = some v ∧ w.device = v.device := by
  cases moved with
  | mounted there free records | unmounted there mounted records =>
    rw [records, Table.get?_insert_eq_some] at found
    rcases found with ⟨rfl, rfl⟩ | ⟨-, before⟩
    · exact ⟨_, there, rfl⟩
    · exact ⟨w, before, rfl⟩

end Remounted

section Changed

variable {key : String} {v w : Volume} (issued : Issued b)
  (found : b.records.get? key = some v) (records : c.records = b.records.insert key w)

include issued found records

theorem mem_scene_of_changed {u : Volume} :
    u ∈ c.scene.volumes ↔ u = w ∨ u ∈ b.scene.volumes ∧ u.device ≠ v.device := by
  simp only [mem_scene, records, Table.get?_insert_eq_some]
  constructor
  · rintro ⟨other, ⟨-, rfl⟩ | ⟨different, before⟩⟩
    · exact .inl rfl
    · refine .inr ⟨⟨other, before⟩, fun same => different ?_⟩
      exact issued.apart key other v u found before same.symm
  · rintro (rfl | ⟨⟨other, before⟩, different⟩)
    · exact ⟨key, .inl ⟨rfl, rfl⟩⟩
    · refine ⟨other, .inr ⟨?_, before⟩⟩
      rintro rfl
      rw [found] at before
      cases before
      exact different rfl

theorem agrees_of_changed : c.scene.Agrees ↔
    c.mounts.filter (·.device = w.device) = w.mounting ∧
      ∀ u ∈ b.scene.volumes, u.device ≠ v.device →
        c.mounts.filter (·.device = u.device) = u.mounting := by
  constructor
  · intro agrees
    refine ⟨agrees w ((mem_scene_of_changed issued found records).2 (.inl rfl)), ?_⟩
    intro u there different
    exact agrees u ((mem_scene_of_changed issued found records).2 (.inr ⟨there, different⟩))
  · rintro ⟨own, others⟩ u there
    rcases (mem_scene_of_changed issued found records).1 there with rfl | ⟨before, different⟩
    · exact own
    · exact others u before different

theorem orderly_of_changed (device : w.device = v.device) : b.scene.Orderly c.scene ↔
    (w.mountPath? = none → ∀ place, v.mountPath? = some place →
      b.scene.lastAt place = some v.device) ∧
    ∀ m ∈ c.mounts, m.path = "" → m ∈ b.mounts := by
  have here : v ∈ b.scene.volumes := mem_scene.2 ⟨key, found⟩
  constructor
  · intro orderly
    have there := (mem_scene_of_changed issued found records (u := w)).2 (.inl rfl)
    exact ⟨orderly.last v here w there device, orderly.placed⟩
  · rintro ⟨own, placed⟩
    refine ⟨fun u before u' after same free place mounted => ?_, placed⟩
    rcases (mem_scene_of_changed issued found records).1 after with rfl | ⟨still, -⟩
    · obtain rfl := issued.eq_of_mem here before (device.symm.trans same)
      exact own free place mounted
    · rw [issued.eq_of_mem still before same, mounted] at free
      cases free

end Changed

namespace Remounted

variable {key place : String} {v : Volume} (issued : Issued b) (agrees : b.scene.Agrees)
  (found : b.records.get? key = some v)

include issued agrees found

theorem agrees_iff_of_mounted {time : Time} (free : v.mountPath? = none)
    (records : c.records = b.records.insert key (v.mountedAt place time))
    (mounts : c.mounts = b.mounts ++ [⟨place, v.device⟩]) :
    c.scene.Agrees ↔ b.scene.Orderly c.scene := by
  have unmounted : b.mounts.filter (·.device = v.device) = [] := by
    rw [← Volume.mounting_of_free free]
    exact agrees v (mem_scene.2 ⟨key, found⟩)
  have new : c.mounts.filter (·.device = v.device) = [⟨place, v.device⟩] := by
    simp [mounts, unmounted]
  have others : ∀ u ∈ b.scene.volumes, u.device ≠ v.device →
      c.mounts.filter (·.device = u.device) = u.mounting := by
    intro u there different
    rw [← agrees u there, mounts, List.filter_append]
    simp [different.symm, scene]
  calc
    c.scene.Agrees ↔ place ≠ "" := by
      rw [agrees_of_changed issued found records, and_iff_left others]
      show c.mounts.filter (·.device = v.device) = _ ↔ _
      rw [new, Volume.mounting_mountedAt]
      by_cases empty : place = "" <;> simp [empty]
    _ ↔ b.scene.Orderly c.scene := by
      rw [orderly_of_changed issued found records rfl]
      constructor
      · intro given
        refine ⟨fun _ place mounted => ?_, fun m there empty => ?_⟩
        · rw [free] at mounted
          cases mounted
        · rw [mounts, List.mem_append, List.mem_singleton] at there
          rcases there with before | rfl
          · exact before
          · exact absurd empty given
      · rintro ⟨-, placed⟩ rfl
        have there := placed ⟨"", v.device⟩ (by simp [mounts]) rfl
        exact List.filter_eq_nil_iff.1 unmounted _ there (decide_eq_true rfl)

theorem agrees_iff_of_unmounted (mounted : v.mountPath? = some place)
    (records : c.records = b.records.insert key v.unmounted)
    (left : RecordingHost.withoutLast place b.mounts = some c.mounts) :
    c.scene.Agrees ↔ b.scene.Orderly c.scene := by
  -- the host removes `m`, the last mount in the place: all depends on whose device that is
  obtain ⟨before, m, after, split, kept, here, none⟩ := RecordingHost.withoutLast_eq_some left
  have last : b.scene.lastAt place = some m.device := by
    simp [Scene.lastAt, scene, split, here, none]
  have own : b.mounts.filter (·.device = v.device) = [⟨place, v.device⟩] := by
    rw [← Volume.mounting_of_mounted mounted]
    exact agrees v (mem_scene.2 ⟨key, found⟩)
  have untouched : ∀ u : Volume, u.device ≠ m.device →
      c.mounts.filter (·.device = u.device) = b.mounts.filter (·.device = u.device) := by
    intro u different
    simp [split, kept, different.symm]
  calc
    c.scene.Agrees ↔ m.device = v.device := by
      rw [agrees_of_changed issued found records, Volume.mounting_of_free rfl]
      show c.mounts.filter (·.device = v.device) = [] ∧ _ ↔ _
      constructor
      · rintro ⟨gone, -⟩
        refine Classical.byContradiction fun different => ?_
        rw [untouched v (Ne.symm different), own] at gone
        cases gone
      · intro same
        refine ⟨?_, fun u there different => ?_⟩
        · rw [split, List.filter_append, List.filter_cons_of_pos (by simpa using same)] at own
          rcases List.append_eq_singleton_iff.1 own with ⟨early, late⟩ | ⟨-, none⟩
          · rw [kept, List.filter_append, early, (List.cons.inj late).2, List.append_nil]
          · cases none
        · rw [← agrees u there]
          exact untouched u (same ▸ different)
    _ ↔ b.scene.Orderly c.scene := by
      rw [orderly_of_changed issued found records rfl]
      constructor
      · intro same
        refine ⟨fun _ other elsewhere => ?_, fun x there _ => ?_⟩
        · obtain rfl := Option.some.inj (mounted.symm.trans elsewhere)
          rw [last, same]
        · rw [kept] at there
          simpa [split, or_left_comm] using Or.inr (List.mem_append.1 there)
      · rintro ⟨lastFirst, -⟩
        exact Option.some.inj (last.symm.trans (lastFirst rfl place mounted))

omit agrees found

theorem agrees_iff (agrees : b.scene.Agrees) (moved : Remounted b c) :
    c.scene.Agrees ↔ b.scene.Orderly c.scene := by
  cases moved with
  | mounted found free records mounts =>
    exact agrees_iff_of_mounted issued agrees found free records mounts
  | unmounted found mounted records left =>
    exact agrees_iff_of_unmounted issued agrees found mounted records left

end Remounted

theorem Issued.orderly (issued : Issued b) : b.scene.Orderly b.scene := by
  refine ⟨fun v here w there same free place mounted => ?_, fun m member _ => member⟩
  rw [issued.eq_of_mem there here same, mounted] at free
  cases free

theorem Calm.orderly_iff (calm : Calm b e) (issued : Issued b)
    (same : ∀ key w, c.records.get? key = some w →
      ∃ v, e.records.get? key = some v ∧ w.device = v.device) :
    b.scene.Orderly c.scene ↔ e.scene.Orderly c.scene := by
  have mounts : b.scene.mounts = e.scene.mounts := calm.mounts.symm
  have last : ∀ place, b.scene.lastAt place = e.scene.lastAt place := fun place => by
    rw [Scene.lastAt, Scene.lastAt, mounts]
  constructor
  · intro orderly
    refine ⟨fun v here w there device free place mounted => ?_, mounts ▸ orderly.placed⟩
    obtain ⟨key, found⟩ := mem_scene.1 here
    rcases calm.records key v found with ⟨unmounted, -⟩ | ⟨u, before, named, placed⟩
    · rw [unmounted] at mounted
      cases mounted
    · have known := mem_scene.2 ⟨key, before⟩
      rw [← last, named]
      exact orderly.last u known w there (device.trans named) free place (placed ▸ mounted)
  · intro orderly
    refine ⟨fun v here w there device free place mounted => ?_, mounts ▸ orderly.placed⟩
    obtain ⟨key, found⟩ := mem_scene.1 here
    obtain ⟨other, late⟩ := mem_scene.1 there
    obtain ⟨u, between, named⟩ := same other w late
    rcases calm.records other u between with ⟨-, n, past, fresh⟩ | ⟨v', before, own, placed⟩
    · exact absurd (device.symm.trans (named.trans fresh)) (issued.device_ne found past)
    · obtain rfl := issued.eq before found (own.symm.trans (named.symm.trans device))
      rw [last, ← device, named]
      exact orderly.last u (mem_scene.2 ⟨other, between⟩) w there named free place
        (placed.trans mounted)

/-- What the calls of a request come to: at most one mount or unmount, after calls that leave the
mounts alone. -/
def Moved (b c : Bench) : Prop :=
  Calm b c ∨ ∃ e, Calm b e ∧ Issued e ∧ Remounted e c

variable {attempts : List Attempt}

theorem Calm.moved (calm : Calm b e) (moved : Moved e c) : Moved b c := by
  rcases moved with rest | ⟨between, rest, issued, last⟩
  · exact .inl (calm.trans rest)
  · exact .inr ⟨between, calm.trans rest, issued, last⟩

theorem calm_withFiles (b : Bench) (result : Except IoError Files) :
    Calm b (b.withFiles result).2 := by
  cases result <;> exact .of_eq rfl rfl (Nat.le_refl _)

namespace Course

theorem looking (course : Course d b attempts c) (looking : ∀ a ∈ attempts, a.call.looks = true) :
    c.records = b.records ∧ c.mounts = b.mounts ∧ c.next = b.next := by
  induction course with
  | done => exact ⟨rfl, rfl, rfl⟩
  | @call b c e attempt later ends _ ih =>
    have rest := ih fun a member => looking a (List.mem_cons_of_mem _ member)
    have looks := looking attempt List.mem_cons_self
    have same : c = b := by
      obtain ⟨call, mishaps, result⟩ := attempt
      cases call with
      | attach =>
        obtain ⟨full, attached, -⟩ := ends
        cases attached <;> rfl
      | detach => cases ends <;> rfl
      | init | create | delete | mount | unmount | snapshot | set => cases looks
    exact same ▸ rest
  | @directories b e attempts path _ ih =>
    obtain ⟨records, mounts, next⟩ := ih looking
    cases made : b.files.makeDirectories path <;> rw [made] at records mounts next <;>
      exact ⟨records, mounts, next⟩

theorem moved (course : Course d b attempts c) (issued : Issued b)
    (settling : Settling attempts) : Moved b c := by
  induction course with
  | done => exact .inl (.refl _)
  | @directories b e attempts path _ ih =>
    exact (calm_withFiles b _).moved (ih (issued.withFiles _) settling)
  | @call b c e attempt later ends rest ih =>
    have issuedThen : Issued c := (Issued.kept d).step issued.own issued ends
    -- only one call of a request remounts, and after it nothing but looks can follow
    cases remounts : attempt.call.remounts with
    | false =>
      have after : Settling later := by
        cases settling with
        | still _ after => exact after
        | last looking => exact .looking looking
      exact (Calm.of_call remounts ends).moved (ih issuedThen after)
    | true =>
      cases settling with
      | still still => simp [remounts] at still
      | last looking =>
        obtain ⟨records, mounts, next⟩ := rest.looking looking
        rcases Remounted.of_call remounts ends with rfl | remounted
        · exact .inl (.of_eq records mounts (Nat.le_of_eq next.symm))
        · exact .inr ⟨b, .refl b, issued, remounted.congr records mounts next⟩

end Course

theorem Traced.moved (traced : Traced b) (issued : Issued c) (moved : Moved b c) : Traced c := by
  have known : ∀ {e}, Calm b e → ∀ m ∈ e.mounts, ∃ n < e.next, m.device = nameOf n := by
    intro e calm m member
    obtain ⟨n, handed, named⟩ := traced.mounted m (calm.mounts ▸ member)
    exact ⟨n, Nat.lt_of_lt_of_le handed calm.next, named⟩
  refine ⟨issued, ?_⟩
  rcases moved with calm | ⟨e, calm, between, remounted⟩
  · exact known calm
  · intro m member
    cases remounted with
    | @mounted key v _ _ found _ _ mounts next =>
      rw [next]
      rw [mounts, List.mem_append, List.mem_singleton] at member
      rcases member with before | rfl
      · exact known calm m before
      · exact between.numbered key v found
    | unmounted _ _ _ left next =>
      rw [next]
      obtain ⟨early, _, late, split, kept, -, -⟩ := RecordingHost.withoutLast_eq_some left
      apply known calm
      rw [kept, List.mem_append] at member
      rw [split, List.mem_append, List.mem_cons]
      exact member.imp id .inr

theorem Moved.agrees_iff (moved : Moved b c) (traced : Traced b) (issued : Issued c)
    (agrees : b.scene.Agrees) : c.scene.Agrees ↔ b.scene.Orderly c.scene := by
  rcases moved with calm | ⟨e, calm, between, remounted⟩
  · have orderly := (calm.orderly_iff traced.toIssued fun _ w found => ⟨w, found, rfl⟩).2
      issued.orderly
    exact iff_of_true (calm.agrees traced agrees) orderly
  · calc
      c.scene.Agrees ↔ e.scene.Orderly c.scene :=
        Remounted.agrees_iff between (calm.agrees traced agrees) remounted
      _ ↔ b.scene.Orderly c.scene :=
        (calm.orderly_iff traced.toIssued fun _ _ found => remounted.before found).symm

theorem Traced.touched (traced : Traced b) (touched : Touched d b c) :
    Traced c ∧ (b.scene.Agrees → (c.scene.Agrees ↔ b.scene.Orderly c.scene)) := by
  obtain ⟨attempts, course, -, settling⟩ := touched
  have issued : Issued c := course.keeps (Issued.kept d) (·.own)
    (fun files issued => issued.withFiles (.ok files)) traced.toIssued
  have moved := course.moved traced.toIssued settling
  exact ⟨traced.moved issued moved, moved.agrees_iff traced issued⟩

end Bench

end BlockVolumes
