import BlockVolumes.Driver.Effect
import BlockVolumes.Volume.Error

/-!
Routines: what a driver does, call after call, where each call may depend on earlier answers. An
operation is a routine that may fail.
-/

namespace BlockVolumes

inductive Routine (α : Type) : Type 1
  | done (value : α)
  | call {β : Type} (effect : Effect β) (next : β → Routine α)

namespace Routine

variable {α β : Type}

def bind : Routine α → (α → Routine β) → Routine β
  | done value, next => next value
  | call effect rest, next => call effect fun answer => (rest answer).bind next

instance : Monad Routine where
  pure := done
  bind := bind

def perform (effect : Effect α) : Routine α := call effect done

/-- Runs a routine alone: nobody else acts between its calls. -/
def run : Routine α → World → α × World
  | done value, w => (value, w)
  | call effect next, w =>
    let (answer, w) := effect.perform w
    (next answer).run w

end Routine

abbrev Operation (α : Type) : Type 1 := ExceptT VolumeError Routine α

namespace Operation

variable {α : Type}

def perform (effect : Effect α) : Operation α := ExceptT.lift (Routine.perform effect)

/-- Performs a call that may fail, and says what its failure means for the operation. -/
def attempt {ε : Type} (effect : Effect (Except ε α)) (meaning : ε → VolumeError) :
    Operation α := do
  match ← perform effect with
  | .ok value => return value
  | .error error => throw (meaning error)

def outcome (operation : Operation α) : Routine (Except VolumeError α) := operation.run

end Operation

end BlockVolumes
