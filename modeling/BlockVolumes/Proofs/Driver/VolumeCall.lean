import BlockVolumes.Proofs.Driver.InTurn
import BlockVolumes.Proofs.Driver.Undisturbed

/-! The calls that a driver serves on one volume: that all their work is done under the lock of the
volume, and what each of them makes of its record, in any store and on any host. -/

namespace BlockVolumes

open Routine Operation

variable {α β : Type} {id : VolumeId}

namespace Operation

theorem plain_pure (value : α) : (pure value : Operation α).outcome.Plain := trivial

theorem plain_throw (error : VolumeError) : (throw error : Operation α).outcome.Plain := trivial

theorem plain_bind {operation : Operation α} {next : α → Operation β}
    (plain : operation.outcome.Plain) (later : ∀ value, (next value).outcome.Plain) :
    (operation >>= next).outcome.Plain := by
  rw [outcome_bind]
  apply plain.bind
  intro result
  cases result with
  | ok value => exact later value
  | error error => trivial

theorem plain_perform {effect : Effect α} (plain : effect.Plain) :
    (perform effect).outcome.Plain :=
  ⟨plain, fun _ => trivial⟩

theorem plain_attempt {ε : Type} {effect : Effect (Except ε α)} (meaning : ε → VolumeError)
    (plain : effect.Plain) : (attempt effect meaning).outcome.Plain := by
  apply plain_bind (plain_perform plain)
  intro answer
  cases answer with
  | ok value => exact plain_pure value
  | error error => exact plain_throw _

theorem outcome_bind_pure (operation : Operation α) (answer : α → β) :
    (do let value ← operation; return answer value : Operation β).outcome =
      operation.outcome >>= fun result => Routine.done (result.map answer) := by
  rw [outcome_bind]
  refine congrArg (operation.outcome >>= ·) (funext fun result => ?_)
  cases result <;> rfl

theorem run_perform (effect : Effect α) (w : World) :
    (perform effect).outcome.run w = (.ok (effect.perform w).1, (effect.perform w).2) := rfl

theorem run_attempt {ε : Type} (effect : Effect (Except ε α)) (meaning : ε → VolumeError)
    (w : World) :
    (attempt effect meaning).outcome.run w =
      ((effect.perform w).1.mapError meaning, (effect.perform w).2) := by
  rw [attempt, run_bind, run_perform]
  cases (effect.perform w).1 <;> rfl

end Operation

namespace BlockDriver

theorem plain_record (id : VolumeId) : (record id).outcome.Plain := by
  apply plain_bind (plain_attempt _ (by trivial))
  intro found
  cases found with
  | some v => exact plain_pure v
  | none => exact plain_throw _

theorem run_record (id : VolumeId) (w : World) :
    (record id).outcome.run w = (recordOf id (w.store.get id), w) := by
  rw [record, Operation.run_bind, run_consult]
  cases w.store.get id with
  | error error => rfl
  | ok found => cases found <;> rfl

end BlockDriver

inductive VolumeCall
  | delete
  | mount (path : String)
  | unmount (path : String)
  | set (locator : Option Locator) (spec : Option Spec)
  | attach
  | detach

abbrev VolumeAnswer : Type := Except VolumeError (Option String)

namespace VolumeCall

def operation (d : BlockDriver) (id : VolumeId) : VolumeCall → Operation (Option String)
  | delete => do
    d.toVolumeDriver.delete id
    return none
  | mount path => do
    d.toVolumeDriver.mount id path
    return none
  | unmount path => do
    d.toVolumeDriver.unmount id path
    return none
  | set locator spec => do
    d.toVolumeDriver.set id locator spec
    return none
  | attach => do
    let file ← d.toVolumeDriver.attach id
    return some file
  | detach => do
    d.toVolumeDriver.detach id
    return none

def routine (d : BlockDriver) (id : VolumeId) (call : VolumeCall) : Routine VolumeAnswer :=
  (call.operation d id).outcome

/-- Whether the call takes the lock. A change of the spec is refused before that. -/
def locks : VolumeCall → Bool
  | set _ (some _) => false
  | _ => true

end VolumeCall

/-- What a call makes of the record of its volume, if there is one. -/
inductive Rewrites (id : VolumeId) : VolumeCall → VolumeAnswer → Told → Told → Prop
  | missing {call : VolumeCall} (locks : call.locks = true) :
    Rewrites id call (.error (.notFound id.text)) (.ok none) (.ok none)
  | failed {call : VolumeCall} {told : Told} (error : VolumeError)
      (there : told ≠ .ok none ∨ call.locks = false) :
    Rewrites id call (.error error) told told
  | deleted (v : Volume) : Rewrites id .delete (.ok none) (.ok (some v)) (.ok none)
  | mounted {v : Volume} (path : String) (time : Time) (free : v.mountPath? = none) :
    Rewrites id (.mount path) (.ok none) (.ok (some v)) (.ok (some (v.mountedAt path time)))
  | unmounted {v : Volume} {place : String} (path : String)
      (mounted : v.mountPath? = some place) :
    Rewrites id (.unmount path) (.ok none) (.ok (some v)) (.ok (some v.unmounted))
  | located (v : Volume) (locator : Option Locator) :
    Rewrites id (.set locator none) (.ok none) (.ok (some v))
      (.ok (some { v with locator := locator.getD v.locator }))
  | attached {v : Volume} (file : String) (free : v.isMounted = false) :
    Rewrites id .attach (.ok (some file)) (.ok (some v)) (.ok (some v))
  | detached (v : Volume) : Rewrites id .detach (.ok none) (.ok (some v)) (.ok (some v))

theorem World.store_withFiles (w : World) (result : Except IoError Files) :
    (w.withFiles result).2.store = w.store := by
  cases result <;> rfl

theorem World.store_eq_of_unlocked {w v : World} (same : w.unlocked = v.unlocked) :
    w.store = v.store := by
  have parts : w.unlocked.store = v.unlocked.store := by rw [same]
  exact parts

def World.OwnId (w : World) (id : VolumeId) : Prop :=
  ∀ v, w.store.get id = .ok (some v) → v.id = id

namespace VolumeCall

def Works (id : VolumeId) (call : VolumeCall) (r : Routine VolumeAnswer) : Prop :=
  ∃ work : Routine VolumeAnswer, work.Plain ∧ r = under id work ∧ ∀ w : World, w.OwnId id →
    Rewrites id call (work.run w).1 (w.store.get id) ((work.run w).2.store.get id)

variable {call : VolumeCall}

theorem works_of_record {next : Volume → Operation α} {answer : α → Option String}
    (locks : call.locks = true) (plain : ∀ v, (next v).outcome.Plain)
    (rewrites : ∀ w v, w.store.get id = .ok (some v) → v.id = id →
      Rewrites id call (((next v).outcome.run w).1.map answer) (.ok (some v))
        (((next v).outcome.run w).2.store.get id)) :
    Works id call (do
      let value ← BlockDriver.underLock id do
        let v ← BlockDriver.record id
        next v
      return answer value : Operation (Option String)).outcome := by
  refine ⟨(do let v ← BlockDriver.record id; next v : Operation α).outcome >>=
    fun result => Routine.done (result.map answer), ?_, ?_, ?_⟩
  · exact (plain_bind (BlockDriver.plain_record id) plain).bind fun _ => trivial
  · rw [← under_bind_done, outcome_bind_pure]
    rfl
  · intro w own
    rw [Routine.run_bind, Operation.run_bind, BlockDriver.run_record]
    cases told : w.store.get id with
    | error error =>
      simp only [told, BlockDriver.recordOf, Routine.run]
      exact .failed _ (.inl (by simp))
    | ok found =>
      cases found with
      | none =>
        simp only [told, BlockDriver.recordOf, Routine.run]
        exact .missing locks
      | some v =>
        simp only [BlockDriver.recordOf, Routine.run]
        exact rewrites w v told (own v told)

theorem rewrites_of_error {w : World} {v : Volume} (told : w.store.get id = .ok (some v))
    (error : VolumeError) :
    Rewrites id call (.error error) (.ok (some v)) (w.store.get id) := by
  rw [told]
  exact .failed error (.inl nofun)

theorem rewrites_update {w : World} {v changed : Volume} (told : w.store.get id = .ok (some v))
    (same : changed.id = id)
    (done : Rewrites id call (.ok none) (.ok (some v)) (.ok (some changed))) :
    Rewrites id call
      (((attempt (.updateRecord changed) .ofStore).outcome.run w).1.map fun _ => none)
      (.ok (some v))
      (((attempt (.updateRecord changed) .ofStore).outcome.run w).2.store.get id) := by
  rw [run_attempt]
  simp only [Effect.perform, World.answering]
  obtain ⟨result, store, updated⟩ : ∃ result store, w.store.update changed = (result, store) :=
    ⟨_, _, rfl⟩
  rw [updated]
  cases result with
  | error error =>
    obtain rfl := Store.update_error updated
    exact rewrites_of_error told _
  | ok _ =>
    have read := Store.get_of_update (same ▸ told) updated
    rw [same] at read
    simp only [read]
    exact done

theorem rewrites_delete {w : World} {v : Volume} (told : w.store.get id = .ok (some v)) :
    Rewrites id .delete
      (((attempt (.deleteRecord id) .ofStore).outcome.run w).1.map fun _ => none)
      (.ok (some v)) (((attempt (.deleteRecord id) .ofStore).outcome.run w).2.store.get id) := by
  rw [run_attempt]
  simp only [Effect.perform, World.answering]
  obtain ⟨result, store, deleted⟩ : ∃ result store, w.store.delete id = (result, store) :=
    ⟨_, _, rfl⟩
  rw [deleted]
  cases result with
  | error error =>
    obtain rfl := Store.delete_error deleted
    exact rewrites_of_error told _
  | ok _ =>
    simp only [Store.get_of_delete told deleted]
    exact .deleted v

theorem works_mount (d : BlockDriver) (path : String) :
    Works id (.mount path) (routine d id (.mount path)) := by
  refine works_of_record rfl ?_ ?_
  · intro v
    cases v.mountPath? with
    | some mounted => exact plain_throw _
    | none =>
      apply plain_bind (plain_attempt _ (by trivial))
      intro _
      exact plain_bind (plain_perform (by trivial)) fun _ => plain_attempt _ (by trivial)
  · intro w v told own
    cases free : v.mountPath? with
    | some mounted => exact rewrites_of_error told _
    | none =>
      simp only
      rw [Operation.run_bind, run_attempt]
      cases (Effect.perform (.mount v.device path v.spec.filesystem) w).1 with
      | error error => exact rewrites_of_error told _
      | ok _ =>
        simp only [mapError_ok]
        rw [Operation.run_bind, run_perform]
        exact rewrites_update told own (.mounted path _ free)

theorem works_unmount (d : BlockDriver) (path : String) :
    Works id (.unmount path) (routine d id (.unmount path)) := by
  refine works_of_record rfl ?_ ?_
  · intro v
    cases v.mountPath? with
    | none => exact plain_throw _
    | some mounted =>
      exact plain_bind (plain_attempt _ (by trivial)) fun _ => plain_attempt _ (by trivial)
  · intro w v told own
    cases mounted : v.mountPath? with
    | none => exact rewrites_of_error told _
    | some place =>
      simp only
      rw [Operation.run_bind, run_attempt]
      cases (Effect.perform (.unmount place) w).1 with
      | error error => exact rewrites_of_error told _
      | ok _ => exact rewrites_update told own (.unmounted path mounted)

theorem works_set (d : BlockDriver) (locator : Option Locator) :
    Works id (.set locator none) (routine d id (.set locator none)) := by
  refine works_of_record rfl ?_ ?_
  · exact fun v => plain_attempt _ (by trivial)
  · intro w v told own
    exact rewrites_update told own (.located v locator)

theorem works_attach (d : BlockDriver) : Works id .attach (routine d id .attach) := by
  refine works_of_record rfl ?_ ?_
  · intro v
    split
    · exact plain_throw _
    · exact plain_pure _
  · intro w v told own
    cases free : v.isMounted with
    | true => exact rewrites_of_error told _
    | false =>
      show Rewrites id .attach (.ok (some (d.backingFile id))) (.ok (some v)) (w.store.get id)
      rw [told]
      exact .attached _ free

theorem works_detach (d : BlockDriver) : Works id .detach (routine d id .detach) := by
  refine works_of_record rfl ?_ ?_
  · exact fun v => plain_pure _
  · intro w v told own
    show Rewrites id .detach (.ok none) (.ok (some v)) (w.store.get id)
    rw [told]
    exact .detached v

theorem works_delete (d : BlockDriver) : Works id .delete (routine d id .delete) := by
  refine works_of_record rfl ?_ ?_
  · intro v
    apply plain_bind (plain_perform (by trivial))
    intro taken
    cases taken with
    | none => exact plain_throw _
    | some device =>
      apply plain_bind (plain_perform (by trivial))
      rintro ⟨answer, link⟩
      cases answer with
      | error error => exact plain_bind (plain_perform (by trivial)) fun _ => plain_throw _
      | ok _ => exact plain_bind (plain_perform (by trivial)) fun _ => plain_attempt _ (by trivial)
  · intro w v told own
    rw [Operation.run_bind, run_perform]
    cases (Effect.perform (.takeDevice v.device) w).1 with
    | none => exact rewrites_of_error told _
    | some device =>
      simp only
      rw [Operation.run_bind, run_perform]
      rcases (Effect.perform (.disconnect device.link)
          (Effect.perform (.takeDevice v.device) w).2).1 with ⟨answer, link⟩
      cases answer with
      | error error => exact rewrites_of_error told _
      | ok _ =>
        simp only
        rw [Operation.run_bind, run_perform]
        refine rewrites_delete ?_
        exact (congrArg (Store.get · id) (World.store_withFiles _ _)).trans told

end VolumeCall

end BlockVolumes
