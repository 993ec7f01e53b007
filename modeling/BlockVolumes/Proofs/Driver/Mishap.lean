import BlockVolumes.Driver.Routine

/-! Routines on a machine where things go wrong: simulated parts can be told to fail before any
single call. -/

namespace BlockVolumes

structure Faults where
  connect : Bool
  disconnect : Bool
  format : Bool
  mount : Bool
deriving DecidableEq

def Faults.none : Faults := ⟨false, false, false, false⟩

def Connector.under (f : Faults) : Connector → Connector
  | simulated c =>
    simulated { c with failConnect := f.connect, failNextDisconnect := f.disconnect }
  | kernel c => kernel c

def Host.under (f : Faults) : Host → Host
  | recording h => recording { h with failFormat := f.format, failMount := f.mount }
  | kernel h => kernel h

def World.under (w : World) (f : Faults) : World :=
  { w with connector := w.connector.under f, host := w.host.under f }

def World.faults (w : World) : Faults :=
  let (connect, disconnect) := match w.connector with
    | .simulated c => (c.failConnect, c.failNextDisconnect)
    | .kernel _ => (false, false)
  let (format, mount) := match w.host with
    | .recording h => (h.failFormat, h.failMount)
    | .kernel _ => (false, false)
  ⟨connect, disconnect, format, mount⟩

@[simp] theorem World.under_faults (w : World) : w.under w.faults = w := by
  obtain ⟨⟨store, connector, host, devices, volumeLocks, nameLocks⟩, machine⟩ := w
  cases connector <;> cases host <;> rfl

/-- A call on a device that did not do its work. -/
inductive Mishap
  | connect (file : String)
  | disconnect (device : String)
  | format (device : String)
  | mount (device path : String)
deriving DecidableEq

def Mishap.ifFailed {ε α : Type} (mishap : Mishap) : Except ε α → List Mishap
  | .ok _ => []
  | .error _ => [mishap]

/-- What went wrong in a call, by its answer. A link without a device cannot be disconnected, and
nothing goes wrong in that. -/
def Effect.mishaps : {β : Type} → Effect β → β → List Mishap
  | _, .connect link => fun answer => (Mishap.connect link.file).ifFailed answer.1
  | _, .disconnect ⟨_, some device⟩ => fun answer => (Mishap.disconnect device).ifFailed answer.1
  | _, .format device _ => (Mishap.format device).ifFailed
  | _, .mount device path _ => (Mishap.mount device path).ifFailed
  | _, _ => fun _ => []

structure World.ClockKept (w v : World) : Prop where
  times : v.times = w.times
  clock : w.clock ≤ v.clock

theorem World.ClockKept.trans {u v w : World} (first : u.ClockKept v) (later : v.ClockKept w) :
    u.ClockKept w :=
  ⟨later.times.trans first.times, Nat.le_trans first.clock later.clock⟩

theorem World.clockKept_withFiles (w : World) (result : Except IoError Files) :
    w.ClockKept (w.withFiles result).2 := by
  cases result <;> exact ⟨rfl, Nat.le_refl _⟩

theorem Effect.clockKept {β : Type} (effect : Effect β) (w : World) :
    w.ClockKept (effect.perform w).2 := by
  cases effect with
  | now => exact ⟨rfl, Nat.le_succ w.clock⟩
  | createFile | resizeFile | removeFile | copyFile | makeDirectories =>
    exact w.clockKept_withFiles _
  | _ => exact ⟨rfl, Nat.le_refl _⟩

namespace Routine

variable {α β : Type}

/-- A routine can give `value` and lead from `w` to `v`, with these mishaps on the way, when faults
come and go before each call. -/
def Yields : Routine α → World → List Mishap → α → World → Prop
  | done result, w, mishaps, value, v => mishaps = [] ∧ value = result ∧ v = w
  | call effect next, w, mishaps, value, v => ∃ faults answer after rest,
      effect.perform (w.under faults) = (answer, after) ∧
      mishaps = effect.mishaps answer ++ rest ∧ (next answer).Yields after rest value v

theorem bind_assoc {γ : Type} (r : Routine α) (f : α → Routine β) (g : β → Routine γ) :
    r >>= f >>= g = r >>= fun value => f value >>= g := by
  show (r.bind f).bind g = r.bind fun value => (f value).bind g
  induction r with
  | done value => rfl
  | call effect next ih =>
    simp only [bind]
    congr 1
    funext answer
    exact ih answer

instance : LawfulMonad Routine := LawfulMonad.mk' Routine
  (by
    intro α r
    show Routine.bind r _ = r
    induction r with
    | done value => rfl
    | call effect next ih => exact congrArg _ (funext ih))
  (by intros; rfl)
  (by intros; exact bind_assoc _ _ _)

theorem run_bind (r : Routine α) (f : α → Routine β) (w : World) :
    (r >>= f).run w = (f (r.run w).1).run (r.run w).2 := by
  induction r generalizing w with
  | done value => rfl
  | call effect next ih => exact ih _ _

/-- Runs a routine alone, with these faults at every call. The mishaps come before the answer. -/
def runUnder (faults : Faults) : Routine α → World → List Mishap × α × World
  | done value, w => ([], value, w)
  | call effect next, w =>
    let (answer, after) := effect.perform (w.under faults)
    let (rest, value, v) := (next answer).runUnder faults after
    (effect.mishaps answer ++ rest, value, v)

theorem yields_runUnder (r : Routine α) (faults : Faults) (w : World) :
    r.Yields w (r.runUnder faults w).1 (r.runUnder faults w).2.1 (r.runUnder faults w).2.2 := by
  induction r generalizing w with
  | done value => exact ⟨rfl, rfl, rfl⟩
  | call effect next ih => exact ⟨faults, _, _, _, rfl, rfl, ih _ _⟩

theorem yields_run (r : Routine α) (w : World) :
    ∃ mishaps, r.Yields w mishaps (r.run w).1 (r.run w).2 := by
  induction r generalizing w with
  | done value => exact ⟨[], rfl, rfl, rfl⟩
  | call effect next ih =>
    obtain ⟨rest, later⟩ := ih (effect.perform w).1 (effect.perform w).2
    refine ⟨effect.mishaps (effect.perform w).1 ++ rest, w.faults, _, _, rest, ?_, rfl, later⟩
    rw [World.under_faults]

theorem Yields.clockKept {r : Routine α} {w v : World} {mishaps : List Mishap} {value : α}
    (yields : r.Yields w mishaps value v) : w.ClockKept v := by
  induction r generalizing w mishaps with
  | done result =>
    obtain ⟨-, -, rfl⟩ := yields
    exact ⟨rfl, Nat.le_refl _⟩
  | call effect next ih =>
    obtain ⟨faults, answer, after, rest, answered, -, later⟩ := yields
    have kept := effect.clockKept (w.under faults)
    rw [answered] at kept
    exact World.ClockKept.trans ⟨kept.times, kept.clock⟩ (ih _ later)

end Routine

end BlockVolumes
