import BlockVolumes.Proofs.Plugin.Stack

/-! Mounting and unmounting by name: which volume is taken, and what is left when a call on a device
fails on the way. -/

namespace BlockVolumes.Plugin.Family

open Operation

variable {f : Family} {b c : Bench} {stack : List Volume}

/-- What holds of a family between requests. -/
structure Holds (f : Family) (b : Bench) (stack : List Volume) : Prop where
  settled : f.Settled b
  stacked : f.Stacked b stack

namespace Holds

theorem on_stack (holds : f.Holds b stack) {i : Nat} (taken : i < stack.length) {v : Volume}
    (found : b.records.get? v.id.text = some v) (goes : v.locator.name = f.member i) :
    v ∈ stack := by
  obtain ⟨w, there⟩ : ∃ w, stack[i]? = some w := ⟨_, List.getElem?_eq_getElem taken⟩
  obtain ⟨also, same, -⟩ := holds.stacked.each i w there
  have known := Nat.lt_of_lt_of_le taken holds.stacked.short
  have one := holds.settled.alone i known _ v _ w found also goes same
  rw [one, also] at found
  cases found
  exact List.mem_of_getElem? there

theorem next_free (holds : f.Holds b stack) (room : stack.length < f.scale) {v : Volume}
    (found : b.records.get? v.id.text = some v)
    (goes : v.locator.name = f.member stack.length) : v.isMounted = false := by
  apply Bool.eq_false_iff.2
  intro mounted
  have member := holds.stacked.only _ v found (.inr ⟨⟨_, room, goes⟩, mounted⟩)
  obtain ⟨i, there⟩ := List.mem_iff_getElem?.1 member
  have same := member_inj ((holds.stacked.each i v there).2.1.symm.trans goes)
  have := (List.getElem?_eq_some_iff.1 there).1
  omega

theorem taken_le (holds : f.Holds b stack) {i : Nat}
    (none : ∀ id v, b.records.get? id = some v → v.locator.name ≠ f.member i) :
    stack.length ≤ i := by
  apply Nat.le_of_not_lt
  intro taken
  obtain ⟨w, there⟩ : ∃ w, stack[i]? = some w := ⟨_, List.getElem?_eq_getElem taken⟩
  obtain ⟨found, goes, -⟩ := holds.stacked.each i w there
  exact none _ w found goes

theorem worn {mishaps : List Mishap} (holds : f.Holds b stack)
    (worn : BlockDriver.Worn { b with drawn := b.drawn + 1 } mishaps c) : f.Holds c stack := by
  refine ⟨holds.settled.worn worn, holds.stacked.kept ?_ ?_ worn.times ?_ worn.mounts⟩
  · intro id v found
    exact by rwa [worn.records]
  · intro id v found
    exact .inl (by rwa [worn.records] at found)
  · rcases worn.clock with same | next
    · exact Nat.le_of_eq same.symm
    · exact Nat.le_of_lt (Nat.lt_of_lt_of_eq (Nat.lt_succ_self _) next.symm)

theorem added {v : Volume} {i : Nat} (holds : f.Holds b stack) (drawn : v.id = b.ids b.drawn)
    (none : ∀ id w, b.records.get? id = some w → w.locator.name ≠ f.member i)
    (added : BlockDriver.Added f.driver { b with drawn := b.drawn + 1 } (.named (f.member i))
      f.spec v c) : f.Holds c stack := by
  refine ⟨holds.settled.added drawn none added,
    holds.stacked.kept ?_ ?_ added.times ?_ added.mounts⟩
  · intro id w found
    rw [added.records]
    exact Table.get?_insert_of_absent _ added.absent found
  · intro id w found
    rw [added.records, Table.get?_insert_eq_some] at found
    rcases found with ⟨-, rfl⟩ | ⟨-, before⟩
    · exact .inr added.unmounted
    · exact .inl before
  · exact Nat.le_of_lt (Nat.lt_of_lt_of_eq (Nat.lt_succ_self _) added.clock.symm)

end Holds

inductive Sought (f : Family) (stack : List Volume) (i : Nat) (b : Bench) :
    List Mishap → Except VolumeError Volume → Bench → Prop
  | known {v : Volume} (found : b.records.get? v.id.text = some v)
      (goes : v.locator.name = f.member i) : Sought f stack i b [] (.ok v) b
  | made {v : Volume} {c : Bench} (untaken : stack.length ≤ i) (holds : f.Holds c stack)
      (found : c.records.get? v.id.text = some v) (goes : v.locator.name = f.member i) :
    Sought f stack i b [] (.ok v) c
  | failed {mishaps : List Mishap} {error : VolumeError} {c : Bench} (unlucky : mishaps ≠ [])
      (untaken : stack.length ≤ i) (holds : f.Holds c stack) :
    Sought f stack i b mishaps (.error error) c

theorem leads_replica (holds : f.Holds b stack) (proper : f.Proper) {i : Nat} {v : Volume}
    (positive : 0 < i) (known : i < f.scale) (name : v.locator.name = f.name)
    (spec : v.spec = f.spec) :
    (replica f.driver.toVolumeDriver v i).outcome.Leads b (Sought f stack i b) := by
  have goes : replicaName v.locator.name i = f.member i := by
    obtain ⟨j, rfl⟩ : ∃ j, i = j + 1 := ⟨i - 1, by omega⟩
    rw [name]
    rfl
  simp only [replica, goes, spec]
  by_cases there : ∃ w, b.records.get? w.id.text = some w ∧ w.locator.name = f.member i
  · obtain ⟨w, found, same⟩ := there
    have named := holds.settled.named_member proper known found same
    refine leads_bind.2 (leads_lift.2 (leads_volumeNamed (fun u here => ?_) fun none => ?_))
    · rw [named] at here
      cases here
      exact .known found same
    · rw [named] at none
      cases none
  · have none : ∀ id w, b.records.get? id = some w → w.locator.name ≠ f.member i := by
      intro id w found same
      exact there ⟨w, by rw [holds.settled.own id w found]; exact found, same⟩
    have untaken := holds.taken_le none
    have absent := holds.settled.named_absent proper known none
    refine leads_bind.2 (leads_lift.2 (leads_volumeNamed (fun u here => ?_) fun _ => ?_))
    · rw [absent] at here
      cases here
    apply leads_bind.2
    apply (BlockDriver.leads_create holds.settled.unused).mono
    intro mishaps result c created
    cases created with
    | invalid rejected =>
      rw [proper.valid] at rejected
      cases rejected
    | drawn valid made =>
    have fresh := holds.settled.fresh b.drawn (Nat.le_refl _)
    rcases made.outcome_of_free fresh.vacant proper.small fresh.absent with
      ⟨rfl, rfl, w, drawn, added⟩ | ⟨⟨error, rfl⟩, unlucky, worn⟩
    · have found := added.found
      have named : c.named (b.ids b.drawn).text = some w :=
        Bench.named_of_id (by rw [← drawn]; exact found)
      refine leads_volumeNamed (fun u here => ?_) fun none => ?_
      · rw [named] at here
        cases here
        exact .made untaken (holds.added drawn none added) found (by rw [added.located]; rfl)
      · rw [named] at none
        cases none
    · exact .failed unlucky untaken (holds.worn worn)

def limit (f : Family) : VolumeError :=
  if 1 < f.spec.scale then .scaleExhausted f.name f.spec.scale else .attachedAtLimit f.base

inductive Chosen (f : Family) (stack : List Volume) (b : Bench) :
    List Mishap → Except VolumeError Volume → Bench → Prop
  | full (whole : stack.length = f.scale) : Chosen f stack b [] (.error f.limit) b
  | taken {v : Volume} {c : Bench} (room : stack.length < f.scale) (holds : f.Holds c stack)
      (found : c.records.get? v.id.text = some v)
      (goes : v.locator.name = f.member stack.length) : Chosen f stack b [] (.ok v) c
  | failed {mishaps : List Mishap} {error : VolumeError} {c : Bench} (unlucky : mishaps ≠ [])
      (room : stack.length < f.scale) (holds : f.Holds c stack) :
    Chosen f stack b mishaps (.error error) c

theorem leads_attach_free {d : BlockDriver} {v : Volume}
    {post : List Mishap → Except VolumeError String → Bench → Prop}
    (found : b.records.get? v.id.text = some v) (free : v.isMounted = false)
    (reached : post [] (.ok (d.backingFile v.id)) b) : (d.attach v.id).outcome.Leads b post := by
  apply BlockDriver.leads_attach.mono
  intro mishaps result c attached
  cases attached with
  | missing absent => simp [found] at absent
  | mounted also mounted =>
    rw [found] at also
    cases also
    simp [free] at mounted
  | done => exact reached

theorem leads_attach_mounted {d : BlockDriver} {v : Volume}
    {post : List Mishap → Except VolumeError String → Bench → Prop}
    (found : b.records.get? v.id.text = some v) (mounted : v.isMounted = true)
    (reached : post [] (.error (.attachedAtLimit v.id)) b) :
    (d.attach v.id).outcome.Leads b post := by
  apply BlockDriver.leads_attach.mono
  intro mishaps result c attached
  cases attached with
  | missing absent => simp [found] at absent
  | mounted => exact reached
  | done also free =>
    rw [found] at also
    cases also
    simp [mounted] at free

theorem leads_scaleUp (holds : f.Holds b stack) (proper : f.Proper) {v : Volume}
    (name : v.locator.name = f.name) (spec : v.spec = f.spec) (many : 1 < f.spec.scale)
    (count : Nat) {i : Nat} (positive : 0 < i) (rest : i + count = f.scale)
    (untaken : i ≤ stack.length) :
    (scaleUp f.driver.toVolumeDriver v i count).outcome.Leads b (Chosen f stack b) := by
  induction count generalizing i with
  | zero =>
    have short := holds.stacked.short
    have reason : VolumeError.scaleExhausted v.locator.name v.spec.scale = f.limit := by
      rw [limit, if_pos many, name, spec]
    apply leads_throw.2
    rw [reason]
    exact .full (by omega)
  | succ count ih =>
    have known : i < f.scale := by omega
    apply leads_bind.2
    apply (leads_replica holds proper positive known name spec).mono
    intro mishaps result c sought
    cases sought with
    | known found goes =>
      apply leads_bind.2
      apply leads_lift.2
      by_cases taken : i < stack.length
      · have mounted : (Volume.mountPath? _) = some f.place :=
          (holds.stacked.mem (holds.on_stack taken found goes)).2
        apply leads_attach_mounted found (by simp [Volume.isMounted, mounted])
        exact ih (by omega) (by omega) taken
      · obtain rfl : i = stack.length := by omega
        apply leads_attach_free found (holds.next_free known found goes)
        exact .taken known holds found goes
    | made above after found goes =>
      obtain rfl : i = stack.length := by omega
      apply leads_bind.2
      apply leads_lift.2
      apply leads_attach_free found (after.next_free known found goes)
      exact .taken known after found goes
    | failed unlucky above after => exact .failed unlucky (by omega) after

theorem leads_attached (holds : f.Holds b stack) (proper : f.Proper) {v : Volume}
    (found : b.records.get? v.id.text = some v) (name : v.locator.name = f.name)
    (base : v.id = f.base) (spec : v.spec = f.spec) :
    (attached f.driver.toVolumeDriver v).outcome.Leads b (Chosen f stack b) := by
  have positive := proper.scale_pos
  have short := holds.stacked.short
  apply leads_bind.2
  apply leads_lift.2
  rcases Nat.eq_zero_or_pos stack.length with none | some
  · have goes : v.locator.name = f.member stack.length := by
      rw [none, name]
      rfl
    have room : stack.length < f.scale := by omega
    apply leads_attach_free found (holds.next_free room found goes)
    exact .taken room holds found goes
  · have mounted := (holds.stacked.mem (holds.on_stack some found name)).2
    apply leads_attach_mounted found (by simp [Volume.isMounted, mounted])
    by_cases many : 1 < f.spec.scale
    · simp only [spec, many, if_true]
      refine leads_scaleUp holds proper name spec many _ (by decide) ?_ some
      show 1 + (f.scale - 1) = f.scale
      omega
    · have one : f.scale ≤ 1 := UInt32.not_lt.1 many
      have reason : VolumeError.attachedAtLimit v.id = f.limit := by
        rw [limit, if_neg many, base]
      simp only [spec, many, if_false]
      apply leads_throw.2
      rw [reason]
      exact .full (by omega)

inductive MountEnds (f : Family) (stack : List Volume) (b : Bench) :
    List Mishap → Except VolumeError Unit → Bench → Prop
  | full (whole : stack.length = f.scale) : MountEnds f stack b [] (.error f.limit) b
  | done {v : Volume} {c : Bench} (room : stack.length < f.scale)
      (holds : f.Holds c (stack ++ [v])) : MountEnds f stack b [] (.ok ()) c
  | failed {mishaps : List Mishap} {error : VolumeError} {c : Bench} (unlucky : mishaps ≠ [])
      (room : stack.length < f.scale) (holds : f.Holds c stack) :
    MountEnds f stack b mishaps (.error error) c

theorem Holds.mounted {v : Volume} (holds : f.Holds b stack) (proper : f.Proper)
    (room : stack.length < f.scale) (found : b.records.get? v.id.text = some v)
    (goes : v.locator.name = f.member stack.length) (free : v.mountPath? = none) :
    f.Holds
      { b with
        records := b.records.insert v.id.text (v.mountedAt f.place (b.times b.clock))
        mounts := b.mounts ++ [⟨f.place, v.device⟩]
        clock := b.clock + 1 }
      (stack ++ [v.mountedAt f.place (b.times b.clock)]) := by
  refine ⟨?_, holds.stacked.push proper.placed room found goes free rfl rfl rfl rfl⟩
  refine holds.settled.of_alike ⟨holds.settled.unused.connected, holds.settled.unused.registered⟩
    ?_ rfl (Nat.le_refl _) fun _ fresh => fresh.vacant
  intro id
  exact Table.rel_insert Settled.Alike.refl found ⟨rfl, rfl, rfl⟩

theorem Holds.directed {files : Files} (holds : f.Holds b stack)
    (made : b.files.makeDirectories f.place = .ok files) : f.Holds { b with files } stack :=
  ⟨holds.settled.directed made, holds.stacked.kept (fun _ _ found => found)
    (fun _ _ found => .inl found) rfl (Nat.le_refl _) rfl⟩

theorem leads_volumeNamed_base (settled : f.Settled b) (proper : f.Proper)
    {post : List Mishap → Except VolumeError Volume → Bench → Prop}
    (reached : ∀ v, b.records.get? v.id.text = some v → v.locator.name = f.name → v.id = f.base →
      v.spec = f.spec → post [] (.ok v) b) :
    (volumeNamed f.driver.toVolumeDriver f.name).outcome.Leads b post := by
  obtain ⟨v, found, name, spec⟩ := settled.base
  have own := settled.own _ _ found
  rw [← own] at found
  have named := settled.named_member proper proper.scale_pos found name
  refine leads_volumeNamed (fun u here => ?_) fun none => ?_
  · obtain rfl : v = u := Option.some.inj (named.symm.trans here)
    exact reached v found name (VolumeId.ext own) spec
  · cases named.symm.trans none

theorem leads_mount (holds : f.Holds b stack) (proper : f.Proper) :
    (mount f.driver.toVolumeDriver f.name f.place).outcome.Leads b (MountEnds f stack b) := by
  apply leads_bind.2
  apply leads_volumeNamed_base holds.settled proper
  intro v found name base spec
  apply leads_bind.2
  apply (leads_attached holds proper found name base spec).mono
  intro mishaps result c chosen
  cases chosen with
  | full whole => exact .full whole
  | failed unlucky room after => exact .failed unlucky room after
  | @taken w c room after there goes =>
  apply leads_call.2
  intro m
  -- the place may be there already, or not be made at all
  have made : ∃ files, (Effect.on m c (.makeDirectories f.place)).2 = { c with files } ∧
      f.Holds { c with files } stack := by
    cases made : c.files.makeDirectories f.place with
    | ok files => exact ⟨files, by simp [Effect.on, made, Bench.withFiles], after.directed made⟩
    | error error => exact ⟨c.files, by simp [Effect.on, made, Bench.withFiles], after⟩
  obtain ⟨files, same, after⟩ := made
  have free : w.mountPath? = none := by
    simpa [Volume.isMounted] using after.next_free room there goes
  rw [same]
  apply (BlockDriver.leads_mount after.settled.own).mono
  intro rest result e mounted
  cases mounted with
  | missing absent => simp [there] at absent
  | occupied also mounted =>
    obtain rfl : w = _ := Option.some.inj (there.symm.trans also)
    simp [free] at mounted
  | refused reason also => exact .failed (by simp) room after
  | done also =>
    obtain rfl : w = _ := Option.some.inj (there.symm.trans also)
    exact .done room (after.mounted proper room there goes free)

inductive UnmountEnds (f : Family) (stack : List Volume) (b : Bench) :
    List Mishap → Except VolumeError Unit → Bench → Prop
  | bare {error : VolumeError} (none : stack = []) : UnmountEnds f stack b [] (.error error) b
  | done {rest : List Volume} {v : Volume} {c : Bench} (whole : stack = rest ++ [v])
      (holds : f.Holds c rest) : UnmountEnds f stack b [] (.ok ()) c

theorem Holds.unmounted {rest : List Volume} {v : Volume} {left : List Mount}
    (holds : f.Holds b (rest ++ [v]))
    (removed : RecordingHost.withoutLast f.place b.mounts = some left) :
    f.Holds { b with records := b.records.insert v.id.text v.unmounted, mounts := left } rest := by
  have found := (holds.stacked.mem (List.mem_append_right rest List.mem_cons_self)).1
  refine ⟨?_, holds.stacked.pop holds.settled.own removed⟩
  refine holds.settled.of_alike ⟨holds.settled.unused.connected, holds.settled.unused.registered⟩
    ?_ rfl (Nat.le_refl _) fun _ fresh => fresh.vacant
  intro id
  exact Table.rel_insert Settled.Alike.refl found ⟨rfl, rfl, rfl⟩

theorem leads_unmount_last {rest : List Volume} {v : Volume} (holds : f.Holds b (rest ++ [v])) :
    (BlockDriver.unmount v.id).outcome.Leads b fun mishaps result c =>
      mishaps = [] ∧ result = .ok () ∧ f.Holds c rest := by
  have ⟨found, mounted⟩ := holds.stacked.mem (List.mem_append_right rest List.mem_cons_self)
  apply (BlockDriver.leads_unmount holds.settled.own).mono
  intro mishaps result c unmounted
  cases unmounted with
  | missing absent => simp [found] at absent
  | free also free =>
    obtain rfl : v = _ := Option.some.inj (found.symm.trans also)
    simp [free] at mounted
  | refused reason also there gone =>
    obtain rfl : v = _ := Option.some.inj (found.symm.trans also)
    obtain rfl : f.place = _ := Option.some.inj (mounted.symm.trans there)
    have bare := holds.stacked.mounts
    simp [RecordingHost.withoutLast_eq_none.1 gone] at bare
  | done also there left =>
    obtain rfl : v = _ := Option.some.inj (found.symm.trans also)
    obtain rfl : f.place = _ := Option.some.inj (mounted.symm.trans there)
    exact ⟨rfl, rfl, holds.unmounted left⟩

theorem leads_toUnmount (holds : f.Holds b stack)
    (forward : 1 < f.scale → Time.Forward b.times f.since b.clock) {v : Volume}
    (spec : v.spec = f.spec) (first : 0 < stack.length → v ∈ stack) :
    (toUnmount f.driver.toVolumeDriver v f.place).outcome.Leads b fun mishaps result c =>
      mishaps = [] ∧ c = b ∧ ((∃ rest w, stack = rest ++ [w] ∧ result = .ok w.id) ∨
        stack = [] ∧ ((∃ error, result = .error error) ∨ result = .ok v.id)) := by
  have ends := List.eq_nil_or_concat stack
  simp only [List.concat_eq_append] at ends
  by_cases many : 1 < f.spec.scale
  · simp only [toUnmount, spec, many, if_true]
    apply leads_bind.2
    apply BlockDriver.leads_mountedAt
    rcases ends with rfl | ⟨rest, w, rfl⟩
    · rw [holds.stacked.lastMountedAt_nil]
      exact ⟨rfl, rfl, .inr ⟨rfl, .inl ⟨_, rfl⟩⟩⟩
    · rw [holds.stacked.lastMountedAt (forward (UInt32.lt_iff_toNat_lt.1 many))]
      exact ⟨rfl, rfl, .inl ⟨rest, w, rfl, rfl⟩⟩
  · simp only [toUnmount, spec, many, if_false]
    refine ⟨rfl, rfl, ?_⟩
    rcases ends with rfl | ⟨rest, w, rfl⟩
    · exact .inr ⟨rfl, .inr rfl⟩
    · have short := holds.stacked.short
      have one : f.scale ≤ 1 := UInt32.not_lt.1 many
      obtain rfl : rest = [] := List.eq_nil_of_length_eq_zero (by simp at short; omega)
      have same : v = w := by simpa using first (by simp)
      exact .inl ⟨[], w, rfl, by rw [same]⟩

theorem leads_unmount (holds : f.Holds b stack) (proper : f.Proper)
    (forward : 1 < f.scale → Time.Forward b.times f.since b.clock) {v : Volume}
    (found : b.records.get? v.id.text = some v) (name : v.locator.name = f.name)
    (spec : v.spec = f.spec) :
    (unmount f.driver.toVolumeDriver v f.place).outcome.Leads b (UnmountEnds f stack b) := by
  have first := fun some : 0 < stack.length => holds.on_stack some found name
  apply leads_bind.2
  apply (leads_toUnmount holds forward spec first).mono
  rintro mishaps result c ⟨rfl, rfl, ⟨rest, w, rfl, rfl⟩ | ⟨rfl, ⟨error, rfl⟩ | rfl⟩⟩
  · apply leads_bind.2
    apply (leads_unmount_last holds).mono
    rintro mishaps result c ⟨rfl, rfl, after⟩
    refine leads_bind.2 (leads_lift.2 (BlockDriver.leads_detach.mono ?_))
    rintro mishaps result e (⟨-⟩ | ⟨-⟩)
    · exact .done rfl after
    · exact .done rfl after
  · exact .bare rfl
  · apply leads_bind.2
    apply (BlockDriver.leads_unmount holds.settled.own).mono
    intro mishaps result c unmounted
    cases unmounted with
    | missing | free | refused => exact .bare rfl
    | done also mounted =>
      obtain rfl : v = _ := Option.some.inj (found.symm.trans also)
      have member := holds.stacked.only _ v found
        (.inr ⟨⟨0, proper.scale_pos, name⟩, by simp [Volume.isMounted, mounted]⟩)
      exact absurd member List.not_mem_nil

end BlockVolumes.Plugin.Family
