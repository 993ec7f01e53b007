import BlockVolumes.Driver.Block
import BlockVolumes.Proofs.Driver.Bench

/-! What operations lead to, put together from what their calls do. -/

namespace BlockVolumes

open Routine

variable {α β : Type} {b : Bench}

namespace Operation

variable {post : List Mishap → Except VolumeError β → Bench → Prop}

def andThen (post : List Mishap → Except VolumeError β → Bench → Prop) (next : α → Operation β) :
    List Mishap → Except VolumeError α → Bench → Prop
  | mishaps, .ok value, c => (next value).outcome.Leads c fun rest => post (mishaps ++ rest)
  | mishaps, .error error, c => post mishaps (.error error) c

theorem leads_pure {value : β} :
    (pure value : Operation β).outcome.Leads b post ↔ post [] (.ok value) b := Iff.rfl

theorem leads_throw {error : VolumeError} :
    (throw error : Operation β).outcome.Leads b post ↔ post [] (.error error) b := Iff.rfl

theorem outcome_bind (operation : Operation α) (next : α → Operation β) :
    (operation >>= next).outcome = operation.outcome >>= fun
      | .ok value => (next value).outcome
      | .error error => Routine.done (.error error) := by
  refine congrArg (operation.outcome >>= ·) (funext fun result => ?_)
  cases result <;> rfl

theorem leads_bind {operation : Operation α} {next : α → Operation β} :
    (operation >>= next).outcome.Leads b post ↔
      operation.outcome.Leads b (andThen post next) := by
  rw [outcome_bind, Routine.leads_bind]
  have same : ∀ mishaps (result : Except VolumeError α) c,
      (Routine.Leads (match result with
        | .ok value => (next value).outcome
        | .error error => .done (.error error)) c fun rest => post (mishaps ++ rest)) ↔
      andThen post next mishaps result c := by
    intro mishaps result c
    cases result with
    | ok value => exact Iff.rfl
    | error error => simp [andThen, Routine.Leads]
  exact ⟨fun leads => leads.mono fun _ _ _ => (same _ _ _).1,
    fun leads => leads.mono fun _ _ _ => (same _ _ _).2⟩

theorem run_bind (operation : Operation α) (next : α → Operation β) (w : World) :
    (operation >>= next).outcome.run w = match operation.outcome.run w with
      | (.ok value, after) => (next value).outcome.run after
      | (.error error, after) => (.error error, after) := by
  rw [outcome_bind, Routine.run_bind]
  obtain ⟨result, after⟩ := operation.outcome.run w
  cases result <;> rfl

theorem run_lift (routine : Routine α) (w : World) :
    (outcome (ExceptT.lift routine)).run w = (.ok (routine.run w).1, (routine.run w).2) :=
  Routine.run_bind _ _ _

theorem leads_perform {effect : Effect β} : (perform effect).outcome.Leads b post ↔
    ∀ m, post (effect.mishaps (effect.on m b).1) (.ok (effect.on m b).1) (effect.on m b).2 := by
  simp only [outcome, perform, ExceptT.run, ExceptT.lift, ExceptT.mk, Routine.perform, Leads,
    List.append_nil, Functor.map, Routine.bind, Function.comp_apply]

theorem leads_lift {routine : Routine β} :
    (outcome (ExceptT.lift routine)).Leads b post ↔
      routine.Leads b fun mishaps value => post mishaps (.ok value) := by
  apply Routine.leads_bind.trans
  simp only [Function.comp_apply, Leads, List.append_nil]

theorem leads_call {effect : Effect α} {next : α → Operation β} :
    (perform effect >>= next).outcome.Leads b post ↔
      ∀ m, (next (effect.on m b).1).outcome.Leads (effect.on m b).2 fun rest =>
        post (effect.mishaps (effect.on m b).1 ++ rest) :=
  leads_bind.trans leads_perform

theorem outcome_attempt {ε : Type} (effect : Effect (Except ε α)) (meaning : ε → VolumeError) :
    (attempt effect meaning).outcome =
      Routine.perform effect >>= fun answer => Routine.done (answer.mapError meaning) :=
  congrArg (Routine.call effect) (funext fun answer => by cases answer <;> rfl)

theorem leads_attempt {ε : Type} {effect : Effect (Except ε β)} {meaning : ε → VolumeError} :
    (attempt effect meaning).outcome.Leads b post ↔
      ∀ m, post (effect.mishaps (effect.on m b).1) ((effect.on m b).1.mapError meaning)
        (effect.on m b).2 := by
  apply leads_call.trans
  apply forall_congr'
  intro m
  cases (effect.on m b).1 with
  | ok value => simp only [leads_pure, mapError_ok, List.append_nil]
  | error error => simp only [leads_throw, mapError_error, List.append_nil]

end Operation

namespace BlockDriver

open Operation

variable {post : List Mishap → Except VolumeError α → Bench → Prop}

theorem leads_underLock {id : VolumeId} {work : Operation α} (leads : work.outcome.Leads b post) :
    (underLock id work).outcome.Leads b post := by
  apply Routine.leads_bind.2
  apply Routine.leads_perform.2
  intro m
  apply Routine.leads_bind.2
  apply leads.mono
  intro mishaps result c reached
  apply Routine.leads_bind.2
  apply Routine.leads_perform.2
  intro m
  simpa [Effect.mishaps, Effect.on, Leads, pure] using reached

theorem leads_consult {query : Store → Except StoreError α} {answer : α}
    (answers : query b.store = .ok answer) (reached : post [] (.ok answer) b) :
    (consult query).outcome.Leads b post := by
  apply leads_attempt.2
  intro m
  simpa [Effect.on, answers, Effect.mishaps] using reached

theorem run_consult (query : Store → Except StoreError α) (w : World) :
    (consult query).outcome.run w = ((query w.store).mapError .ofStore, w) := by
  rw [consult, attempt, Operation.run_bind, Operation.perform, run_lift]
  simp only [Routine.perform, Routine.run, Effect.perform]
  cases query w.store <;> rfl

theorem leads_query {query : Store → Except StoreError α} (idle : ∀ result, post [] result b) :
    (consult query).outcome.Leads b post := by
  apply leads_attempt.2
  intro m
  exact idle _

end BlockDriver

end BlockVolumes
