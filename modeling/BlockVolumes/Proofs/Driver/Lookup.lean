import BlockVolumes.Plugin.Mounting
import BlockVolumes.Proofs.Driver.Upkeep

/-! How volumes are found by name and by the place they are mounted in, and what the host has
mounted there. -/

namespace BlockVolumes

open Operation

theorem Locator.picks_named {name : String} (given : name ≠ "") (other : Locator) :
    (Locator.named name).picks other = decide (other.name = name) := by
  have all : labelsWithin .empty other.labels = true := rfl
  by_cases same : name = other.name
  · simp [picks, named, all, same]
  · simp [picks, named, all, given, same, Ne.symm same]

namespace Bench

variable {b : Bench} {name path : String} {v : Volume}

def named (b : Bench) (name : String) : Option Volume :=
  match b.records.get? name with
  | some v => some v
  | none => Plugin.only? (.ok ((inOrderOfCreation b.records.values).filter fun v =>
      (Locator.named name).picks v.locator))

theorem named_of_id (found : b.records.get? name = some v) : b.named name = some v := by
  simp [named, found]

theorem values_nodup (own : b.OwnIds) : b.records.values.Nodup := by
  apply List.pairwise_map.2
  apply (List.pairwise_map.1 b.records.keys_nodup).imp_of_mem
  intro first second hereFirst hereSecond different same
  have ownFirst := own _ _ (Table.get?_eq_some_iff.2 hereFirst)
  have ownSecond := own _ _ (Table.get?_eq_some_iff.2 hereSecond)
  apply different
  calc
    first.1 = first.2.id.text := ownFirst.symm
    _ = second.2.id.text := by rw [same]
    _ = second.1 := ownSecond

theorem eq_singleton_of_nodup {α : Type} {values : List α} {v : α} (distinct : values.Nodup)
    (member : v ∈ values) (only : ∀ w ∈ values, w = v) : values = [v] := by
  cases values with
  | nil => cases member
  | cons first rest =>
    obtain rfl := only first List.mem_cons_self
    cases rest with
    | nil => rfl
    | cons second rest =>
      have same := only second (List.mem_cons_of_mem _ List.mem_cons_self)
      exact absurd (same ▸ List.mem_cons_self) (List.nodup_cons.1 distinct).1

theorem named_of_name (own : b.OwnIds) (given : name ≠ "") (noId : b.records.get? name = none)
    (found : b.records.get? v.id.text = some v) (goes : v.locator.name = name)
    (only : ∀ id w, b.records.get? id = some w → w.locator.name = name → id = v.id.text) :
    b.named name = some v := by
  have fitting : (inOrderOfCreation b.records.values).filter
      (fun w => (Locator.named name).picks w.locator) = [v] := by
    refine eq_singleton_of_nodup (List.Pairwise.filter _ ?_) ?_ ?_
    · exact (Store.perm_inOrderOfCreation _).nodup_iff.2 (values_nodup own)
    · rw [List.mem_filter, Store.mem_inOrderOfCreation, Locator.picks_named given]
      exact ⟨Table.mem_values.2 ⟨_, found⟩, by simpa using goes⟩
    · intro w member
      rw [List.mem_filter, Store.mem_inOrderOfCreation, Locator.picks_named given] at member
      obtain ⟨id, there⟩ := Table.mem_values.1 member.1
      rw [only id w there (by simpa using member.2), found] at there
      exact (Option.some.inj there).symm
  simp [named, noId, fitting, Plugin.only?]

theorem named_of_none (given : name ≠ "") (noId : b.records.get? name = none)
    (none : ∀ id w, b.records.get? id = some w → w.locator.name ≠ name) :
    b.named name = .none := by
  have fitting : (inOrderOfCreation b.records.values).filter
      (fun w => (Locator.named name).picks w.locator) = [] := by
    apply List.filter_eq_nil_iff.2
    intro w member
    rw [Store.mem_inOrderOfCreation] at member
    obtain ⟨id, there⟩ := Table.mem_values.1 member
    simpa [Locator.picks_named given] using none id w there
  simp [named, noId, fitting, Plugin.only?]

end Bench

namespace Plugin

theorem leads_volumeNamed {d : BlockDriver} {b : Bench} {name : String}
    {post : List Mishap → Except VolumeError Volume → Bench → Prop}
    (found : ∀ v, b.named name = some v → post [] (.ok v) b)
    (missing : b.named name = none → post [] (.error (.notFound name)) b) :
    (volumeNamed d.toVolumeDriver name).outcome.Leads b post := by
  refine leads_bind.2 (leads_lift.2 (leads_attempt.2 fun m => ?_))
  have byId := Store.inspect_keeping_one b.kind b.records ⟨name⟩
  cases here : b.records.get? name with
  | some v =>
    simpa [Effect.on, Bench.store, byId, here, Effect.mishaps, andThen, only?,
      leads_pure] using found v (Bench.named_of_id here)
  | none =>
  simp only [Effect.on, Bench.store, byId, here, Effect.mishaps, mapError_error, andThen, only?,
    List.nil_append]
  refine leads_bind.2 (leads_lift.2 (leads_attempt.2 fun m => ?_))
  simp only [Effect.on, Bench.store, Store.enumerate_keeping, Store.carries, Bool.and_true,
    Effect.mishaps, mapError_ok, andThen, List.nil_append]
  simp only [Bench.named, here] at found missing
  split
  · rename_i v only
    exact found v only
  · rename_i none
    exact missing none

end Plugin

namespace BlockDriver

def lastOf (met : Option Volume) (v : Volume) : Option Volume :=
  match met with
  | none => some v
  | some last => if mountedNoLater last v then some v else some last

theorem lastMountedAt_eq_foldl (path : String) (volumes : List Volume) :
    lastMountedAt path volumes = (volumes.filter (·.mountPath? = some path)).foldl lastOf none :=
  rfl

theorem lastOf_eq_or (met : Option Volume) (v : Volume) :
    lastOf met v = some v ∨ lastOf met v = met := by
  cases met with
  | none => exact .inl rfl
  | some last =>
    by_cases later : mountedNoLater last v = true
    · exact .inl (by simp [lastOf, later])
    · exact .inr (by simp [lastOf, later])

theorem lastOf_of_earlier {met : Option Volume} {v : Volume}
    (earlier : ∀ w, met = some w → mountedNoLater w v = true) : lastOf met v = some v := by
  cases met with
  | none => rfl
  | some last => simp [lastOf, earlier last rfl]

theorem foldl_lastOf_self {v : Volume} {placed : List Volume}
    (last : ∀ w ∈ placed, w ≠ v → mountedNoLater v w = false) :
    placed.foldl lastOf (some v) = some v := by
  induction placed with
  | nil => rfl
  | cons first rest ih =>
    have here : lastOf (some v) first = some v := by
      by_cases same : first = v
      · simp [lastOf, same]
      · simp [lastOf, last first List.mem_cons_self same]
    rw [List.foldl_cons, here]
    apply ih
    intro w there
    exact last w (List.mem_cons_of_mem first there)

theorem foldl_lastOf {v : Volume} {placed : List Volume} (member : v ∈ placed)
    (last : ∀ w ∈ placed, w ≠ v → mountedNoLater w v = true ∧ mountedNoLater v w = false)
    (met : Option Volume) (earlier : ∀ w, met = some w → mountedNoLater w v = true) :
    placed.foldl lastOf met = some v := by
  induction placed generalizing met with
  | nil => cases member
  | cons first rest ih =>
    have later := fun w there => last w (List.mem_cons_of_mem first there)
    rw [List.foldl_cons]
    by_cases now : first = v
    · rw [now, lastOf_of_earlier earlier]
      apply foldl_lastOf_self
      intro w there different
      exact (later w there different).2
    · have still : v ∈ rest := by simpa [Ne.symm now] using member
      apply ih still later
      intro w one
      rcases lastOf_eq_or met first with same | same
      · obtain rfl : first = w := Option.some.inj (same.symm.trans one)
        exact (last first List.mem_cons_self now).1
      · exact earlier w (same.symm.trans one)

theorem mem_of_foldl_lastOf {v : Volume} {placed : List Volume} {met : Option Volume}
    (last : placed.foldl lastOf met = some v) : v ∈ placed ∨ met = some v := by
  induction placed generalizing met with
  | nil => exact .inr last
  | cons first rest ih =>
    rcases ih last with later | here
    · exact .inl (List.mem_cons_of_mem first later)
    · rcases lastOf_eq_or met first with same | same
      · rw [same] at here
        cases here
        exact .inl List.mem_cons_self
      · exact .inr (same.symm.trans here)

theorem mem_of_lastMountedAt {path : String} {volumes : List Volume} {v : Volume}
    (last : lastMountedAt path volumes = some v) : v ∈ volumes ∧ v.mountPath? = some path := by
  rw [lastMountedAt_eq_foldl] at last
  rcases mem_of_foldl_lastOf last with member | none
  · simpa using member
  · cases none

theorem lastMountedAt_eq {path : String} {volumes : List Volume} {v : Volume}
    (member : v ∈ volumes) (mounted : v.mountPath? = some path)
    (last : ∀ w ∈ volumes, w.mountPath? = some path → w ≠ v →
      mountedNoLater w v = true ∧ mountedNoLater v w = false) :
    lastMountedAt path volumes = some v := by
  rw [lastMountedAt_eq_foldl]
  apply foldl_lastOf
  · simp [member, mounted]
  · intro w there different
    simp only [List.mem_filter, decide_eq_true_eq] at there
    exact last w there.1 there.2 different
  · intro w none
    cases none

theorem lastMountedAt_eq_none {path : String} {volumes : List Volume}
    (free : ∀ w ∈ volumes, w.mountPath? ≠ some path) : lastMountedAt path volumes = none := by
  have none : volumes.filter (·.mountPath? = some path) = [] := by
    simpa [List.filter_eq_nil_iff] using free
  simp [lastMountedAt, none]

theorem leads_mountedAt {d : BlockDriver} {b : Bench} {path : String}
    {post : List Mishap → Except VolumeError (Option VolumeId) → Bench → Prop}
    (reached : post [] (.ok ((lastMountedAt path (inOrderOfCreation b.records.values)).map (·.id)))
      b) : (d.toVolumeDriver.mountedAt path).outcome.Leads b post :=
  leads_bind.2 (leads_consult (Store.list_keeping _ _) reached)

end BlockDriver

namespace RecordingHost

theorem withoutLast_eq_none {path : String} {mounts : List Mount} :
    withoutLast path mounts = none ↔ mounts.filter (Path.same ·.path path) = [] := by
  induction mounts with
  | nil => simp [withoutLast]
  | cons m rest ih =>
    simp only [withoutLast]
    cases later : withoutLast path rest with
    | some left =>
      have more : rest.filter (Path.same ·.path path) ≠ [] := fun none => by
        simp [ih.2 none] at later
      by_cases same : Path.same m.path path = true <;> simp [same, more]
    | none =>
      have none := ih.1 later
      by_cases same : Path.same m.path path = true <;> simp [same, none]

theorem withoutLast_eq_some {place : String} {mounts left : List Mount}
    (removed : withoutLast place mounts = some left) : ∃ before m after,
      mounts = before ++ m :: after ∧ left = before ++ after ∧
      Path.same m.path place = true ∧ after.filter (Path.same ·.path place) = [] := by
  induction mounts generalizing left with
  | nil => cases removed
  | cons first rest ih =>
    simp only [withoutLast] at removed
    cases later : withoutLast place rest with
    | some remaining =>
      rw [later] at removed
      cases removed
      obtain ⟨before, m, after, rfl, rfl, same, none⟩ := ih later
      exact ⟨first :: before, m, after, rfl, rfl, same, none⟩
    | none =>
      rw [later] at removed
      by_cases same : Path.same first.path place = true
      · rw [if_pos same] at removed
        cases removed
        exact ⟨[], first, rest, rfl, rfl, same, withoutLast_eq_none.1 later⟩
      · rw [if_neg same] at removed
        cases removed

theorem filter_withoutLast {path : String} {mounts left : List Mount}
    (removed : withoutLast path mounts = some left) :
    left.filter (Path.same ·.path path) = (mounts.filter (Path.same ·.path path)).dropLast := by
  obtain ⟨before, m, after, rfl, rfl, here, none⟩ := withoutLast_eq_some removed
  simp [here, none]

end RecordingHost

end BlockVolumes
