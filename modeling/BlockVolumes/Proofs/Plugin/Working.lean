import BlockVolumes.Proofs.Plugin.Handling

/-! Which calls the work of a plugin request comes to, and on which volumes. -/

namespace BlockVolumes

def Volume.Answers (v : Volume) (name : String) : Prop := v.id.text = name ∨ v.GoesBy name

namespace Plugin

open Bench (Course Worked WorksOn Persists Means)

variable {d : BlockDriver} {b c e : Bench} {v : Volume} {name place : String}
  {mishaps : List Mishap}

theorem Made.worked {given : GivenName} {options : Option Labels}
    {result : Except VolumeError Unit} (made : Made d given options b mishaps result c) :
    b.Worked d (fun _ => False) c := by
  cases made with
  | there | unclear => exact .idle d b _
  | tried _ _ created => exact .single (.create _ _ _) created.ends fun _ _ on => nomatch on

theorem Removed.worked {result : Except VolumeError Unit} (sound : b.Sound)
    (removed : Removed d name b mishaps result c) : b.Worked d (b.Means name) c := by
  cases removed with
  | missing => exact .idle d b _
  | @tried v _ _ _ named deleted =>
    have means := Bench.named_iff.1 named
    refine .single (.delete v.id) deleted ?_
    intro id u on found
    obtain rfl : v.id = id := Option.some.inj on
    rw [means.found sound.own] at found
    cases found
    exact means

def Replica (v : Volume) (index count : Nat) (u : Volume) : Prop :=
  ∃ i, index ≤ i ∧ i < index + count ∧ u.Answers (replicaName v.locator.name i)

theorem Means.answers (own : b.OwnIds) (means : b.Means name v) : v.Answers name := by
  rcases means with found | ⟨-, -, -, goes, -⟩
  · exact .inl (own _ _ found)
  · exact .inr goes

theorem Replicated.answers {r u : Volume} (sound : b.Sound)
    (replicated : Replicated d v name b mishaps (.ok r) c)
    (found : b.records.get? r.id.text = some u) : u.Answers name := by
  have kept := replicated.found sound
  cases replicated with
  | there named =>
    rw [found] at kept
    cases kept
    exact Means.answers sound.own (Bench.named_iff.1 named)
  | made none created recorded =>
    have own := (created.sound sound).own _ _ recorded
    rw [own, created.absent] at found
    cases found

theorem Replicated.course {result : Except VolumeError Volume}
    (replicated : Replicated d v name b mishaps result c) :
    b.Persists c ∧ ∃ attempts, Course d b attempts c ∧
      ∀ a ∈ attempts, a.call.remounts = false ∧ a.call.on? = none := by
  cases replicated with
  | there => exact ⟨.refl b, [], .done, by simp⟩
  | made _ created | failed _ created =>
    exact ⟨created.persists, _, .single created.ends, by simp [Call.remounts, Call.on?]⟩

theorem course_attach (found : b.records.get? v.id.text = some v) :
    ∃ result, Course d b [⟨.attach v.id, [], result⟩] b := by
  cases mounted : v.isMounted with
  | true => exact ⟨_, .single ⟨_, .mounted found mounted, rfl⟩⟩
  | false => exact ⟨_, .single ⟨_, .done found mounted, rfl⟩⟩

theorem course_detach {id : VolumeId} (found : b.records.get? id.text = some v) :
    Course d b [⟨.detach id, [], .ok ()⟩] b :=
  .single (BlockDriver.Detached.done found)

theorem worksOn_of_none {such : Volume → Prop} {attempts : List Attempt}
    (new : ∀ a ∈ attempts, a.call.on? = none) : b.WorksOn such attempts := by
  intro a member id u on
  simp [new a member] at on

structure Reached (d : BlockDriver) (b : Bench) (such : Volume → Prop)
    (result : Except VolumeError Volume) (c : Bench) : Prop where
  persists : b.Persists c
  chosen : ∀ r u, result = .ok r → b.records.get? r.id.text = some u → such u
  course : ∃ attempts, Course d b attempts c ∧ b.WorksOn such attempts ∧
    ∀ a ∈ attempts, a.call.remounts = false

namespace Reached

variable {such more : Volume → Prop} {result : Except VolumeError Volume}

theorem mono (reached : Reached d b such result c) (weaker : ∀ u, such u → more u) :
    Reached d b more result c := by
  obtain ⟨attempts, course, on, still⟩ := reached.course
  refine ⟨reached.persists, ?_, attempts, course, ?_, still⟩
  · intro r u same found
    exact weaker u (reached.chosen r u same found)
  · intro a member id u works found
    exact weaker u (on a member id u works found)

theorem next {earlier : Except VolumeError Volume} (first : Reached d b such earlier c)
    (reached : Reached d c such result e) : Reached d b such result e := by
  obtain ⟨attempts, course, on, still⟩ := first.course
  obtain ⟨later, rest, onThen, stillThen⟩ := reached.course
  refine ⟨first.persists.trans reached.persists, ?_, attempts ++ later, course.append rest,
    on.append (onThen.before first.persists), List.forall_mem_append.2 ⟨still, stillThen⟩⟩
  intro r u same found
  exact reached.chosen r u same (first.persists _ _ found)

end Reached

theorem Replicated.reached {r : Volume} (sound : b.Sound)
    (replicated : Replicated d v name b mishaps (.ok r) c) :
    Reached d b (·.Answers name) (.ok r) c := by
  obtain ⟨persists, attempts, course, plain⟩ := replicated.course
  obtain ⟨result, attached⟩ := course_attach (d := d) (replicated.found sound)
  have looked : b.WorksOn (·.Answers name) [⟨.attach r.id, [], result⟩] := by
    apply WorksOn.single
    rintro id u ⟨⟩ found
    exact replicated.answers sound found
  have new : b.WorksOn (·.Answers name) attempts :=
    worksOn_of_none fun a member => (plain a member).2
  refine ⟨persists, ?_, attempts ++ _, course.append attached, new.append looked, ?_⟩
  · rintro _ u ⟨⟩ found
    exact replicated.answers sound found
  · exact List.forall_mem_append.2
      ⟨fun a member => (plain a member).1, List.forall_mem_singleton.2 rfl⟩

theorem ScaledUp.reached {index count : Nat} {result : Except VolumeError Volume} (sound : b.Sound)
    (scaled : ScaledUp d v index count b mishaps result c) :
    Reached d b (Replica v index count) result c := by
  induction scaled with
  | exhausted => exact ⟨.refl _, by simp, [], .done, by simp [WorksOn], by simp⟩
  | failed replicated =>
    obtain ⟨persists, attempts, course, plain⟩ := replicated.course
    exact ⟨persists, by simp, attempts, course, worksOn_of_none fun a member => (plain a member).2,
      fun a member => (plain a member).1⟩
  | free replicated free =>
    apply (replicated.reached sound).mono
    intro u answers
    exact ⟨_, Nat.le_refl _, by omega, answers⟩
  | @busy index count b c e mishaps rest r result replicated mounted next ih =>
    have first : Reached d b (Replica v index (count + 1)) (.ok r) c := by
      apply (replicated.reached sound).mono
      intro u answers
      exact ⟨index, Nat.le_refl _, by omega, answers⟩
    apply first.next
    apply (ih (replicated.grows.sound sound)).mono
    rintro u ⟨i, later, below, answers⟩
    exact ⟨i, by omega, by omega, answers⟩

theorem Taken.reached {result : Except VolumeError Volume} (sound : b.Sound)
    (found : b.records.get? v.id.text = some v) (taken : Taken d v b mishaps result c) :
    Reached d b (fun u => u = v ∨ 1 < v.spec.scale ∧ Replica v 1 (v.spec.scale.toNat - 1) u)
      result c := by
  obtain ⟨answer, attached⟩ := course_attach (d := d) found
  have same : ∀ {u}, b.records.get? v.id.text = some u → u = v := by
    intro u also
    exact Option.some.inj (also.symm.trans found)
  have itself : Reached d b (fun u => u = v) (.ok v) b := by
    refine ⟨.refl b, ?_, _, attached, .single ?_, List.forall_mem_singleton.2 rfl⟩
    · rintro _ u ⟨⟩ also
      exact same also
    · rintro id u ⟨⟩ also
      exact same also
  cases taken with
  | itself free => exact itself.mono fun u same => .inl same
  | single mounted one =>
    refine ⟨.refl b, by simp, ?_⟩
    exact (itself.mono fun u same => .inl same).course
  | scaled mounted many scaled =>
    apply (itself.mono fun u same => .inl same).next
    exact (scaled.reached sound).mono fun u replica => .inr ⟨many, replica⟩

def Mountable (b : Bench) (name : String) (u : Volume) : Prop :=
  ∃ v, b.Means name v ∧ (u = v ∨ 1 < v.spec.scale ∧ Replica v 1 (v.spec.scale.toNat - 1) u)

theorem Mounting.worked {place : String} {result : Except VolumeError Unit} (sound : b.Sound)
    (mounting : Mounting d name place b mishaps result e) :
    b.Worked d (Mountable b name) e := by
  cases mounting with
  | missing => exact .idle d b _
  | @unready v _ error _ named taken =>
    have means := Bench.named_iff.1 named
    have reached : Reached d b (Mountable b name) _ _ :=
      (taken.reached sound (means.found sound.own)).mono fun u such => ⟨v, means, such⟩
    obtain ⟨attempts, course, on, still⟩ := reached.course
    refine ⟨attempts, course, on, ?_⟩
    simpa using Settling.after still .none
  | @tried v r mishaps rest result c e named taken mounted =>
    have means := Bench.named_iff.1 named
    have reached : Reached d b (Mountable b name) _ _ :=
      (taken.reached sound (means.found sound.own)).mono fun u such => ⟨v, means, such⟩
    obtain ⟨attempts, course, on, still⟩ := reached.course
    have mount : (Call.mount r.id place).Ends d _ rest result e := mounted
    have onChosen : b.WorksOn (Mountable b name) [⟨.mount r.id place, rest, result⟩] := by
      apply WorksOn.single
      rintro id u ⟨⟩ found
      exact reached.chosen r u rfl found
    exact ⟨_, course.append (.directories place (.single mount)), on.append onChosen,
      Settling.after still (.last (by simp))⟩

def Unmountable (b : Bench) (name place : String) (u : Volume) : Prop :=
  ∃ v, b.Means name v ∧ (u = v ∨ 1 < v.spec.scale ∧ u.mountPath? = some place)

theorem Chosen.unmountable {place : String} {id : VolumeId} {u : Volume} (own : b.OwnIds)
    (means : b.Means name v) (chosen : Chosen v place b id)
    (found : b.records.get? id.text = some u) : Unmountable b name place u := by
  cases chosen with
  | itself =>
    rw [means.found own] at found
    cases found
    exact ⟨v, means, .inl rfl⟩
  | @last w many last =>
    obtain ⟨member, mounted⟩ := BlockDriver.mem_of_lastMountedAt last
    rw [Store.mem_inOrderOfCreation] at member
    obtain ⟨key, there⟩ := Table.mem_values.1 member
    rw [← own _ _ there, found] at there
    cases there
    exact ⟨v, means, .inr ⟨many, mounted⟩⟩

theorem Unmounting.worked {place : String} {result : Except VolumeError Unit} (sound : b.Sound)
    (means : b.Means name v) (unmounting : Unmounting v place b mishaps result c) :
    b.Worked d (Unmountable b name place) c := by
  cases unmounting with
  | bare => exact .idle d b _
  | @tried id _ _ _ chosen unmounted =>
    have unmount : (Call.unmount id place).Ends d b mishaps result c := unmounted
    have on : ∀ call : Call, call.on? = some id → ∀ other u, call.on? = some other →
        b.records.get? other.text = some u → Unmountable b name place u := by
      intro call own other u works found
      rw [own] at works
      cases works
      exact chosen.unmountable sound.own means found
    cases unmounted with
    | missing | free | refused => exact .single _ unmount (on _ rfl)
    | @done w _ _ found mounted left =>
      have kept := Table.get?_insert_self b.records id.text w.unmounted
      have course := (Course.single unmount).append (course_detach kept)
      have unmounts : b.WorksOn (Unmountable b name place) [⟨.unmount id place, [], .ok ()⟩] :=
        .single (on _ rfl)
      exact ⟨_, course, unmounts.append (.single (on _ rfl)), .last (by simp [Call.looks])⟩

end Plugin

end BlockVolumes
