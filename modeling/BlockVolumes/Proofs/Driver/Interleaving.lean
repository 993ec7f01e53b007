import BlockVolumes.Proofs.Driver.Mishap
import BlockVolumes.Proofs.Lock.Line
import Mathlib.Logic.Function.Basic

/-! Routines side by side on one world, where the steps of each may come between those of others. A
step is a single call, or a look at a lock that is waited for. -/

namespace BlockVolumes

variable {ι α β : Type}

/-- A routine next to others: it can go on, or it waits for a lock that it has claimed. -/
inductive Task (α : Type)
  | ready (rest : Routine α)
  | awaitsVolume (claim : Claim) (next : Claim → Routine α)
  | awaitsName (claim : Claim) (next : Claim → Routine α)

namespace Task

def forVolume (claim : Claim) (next : Claim → Routine α) (w : World) : Task α :=
  if w.volumeLocks.holds claim then ready (next claim) else awaitsVolume claim next

def forName (claim : Claim) (next : Claim → Routine α) (w : World) : Task α :=
  if w.nameLocks.holds claim then ready (next claim) else awaitsName claim next

/-- A routine goes on with the answer of a call; a claim is answered when it has got the lock. -/
def after : {β : Type} → Effect β → β → (β → Routine α) → World → Task α
  | _, .lockVolume _, claim, next, w => forVolume claim next w
  | _, .lockName _, claim, next, w => forName claim next w
  | _, _, answer, next, _ => ready (next answer)

def step : Task α → World → Task α × World
  | ready (.done value), w => (ready (.done value), w)
  | ready (.call effect next), w =>
    let (answer, w) := effect.perform w
    (after effect answer next w, w)
  | awaitsVolume claim next, w =>
    let w := { w with volumeLocks := w.volumeLocks.look claim }
    (forVolume claim next w, w)
  | awaitsName claim next, w =>
    let w := { w with nameLocks := w.nameLocks.look claim }
    (forName claim next w, w)

def enters : Task α → World → Bool
  | ready (.call (.lockVolume id) _), w =>
    let (claim, locks) := w.volumeLocks.claim id.text
    locks.holds claim
  | awaitsVolume claim _, w => (w.volumeLocks.look claim).holds claim
  | _, _ => false

def result? : Task α → Option α
  | ready (.done value) => some value
  | _ => none

theorem result?_eq_some {task : Task α} {value : α} :
    task.result? = some value ↔ task = ready (.done value) := by
  cases task with
  | awaitsVolume | awaitsName => exact iff_of_false nofun nofun
  | ready rest =>
    cases rest with
    | done other => simp [result?]
    | call => exact iff_of_false nofun nofun

end Task

/-- Tasks side by side. `entered` are those that have got the lock of a volume, in that order. -/
structure Crew (ι α : Type) where
  world : World
  tasks : ι → Task α
  entered : List ι

namespace Crew

def of (w : World) (routines : ι → Routine α) : Crew ι α := ⟨w, fun i => .ready (routines i), []⟩

variable [DecidableEq ι]

def step (c : Crew ι α) (i : ι) : Crew ι α where
  world := ((c.tasks i).step c.world).2
  tasks := Function.update c.tasks i ((c.tasks i).step c.world).1
  entered := if (c.tasks i).enters c.world then c.entered ++ [i] else c.entered

def run (c : Crew ι α) (schedule : List ι) : Crew ι α := schedule.foldl step c

def arrived (c : Crew ι α) (i : ι) (claim : Claim) (next : Claim → Routine α) (locks : LockTable) :
    Crew ι α where
  world := { c.world with volumeLocks := locks }
  tasks := Function.update c.tasks i
    (Task.forVolume claim next { c.world with volumeLocks := locks })
  entered := if locks.holds claim then c.entered ++ [i] else c.entered

def Ended (c : Crew ι α) (results : ι → α) : Prop := ∀ i, (c.tasks i).result? = some (results i)

end Crew

def World.unlocked (w : World) : World := { w with volumeLocks := .empty }

theorem World.withFiles_unlocked (w : World) (result : Except IoError Files) :
    w.unlocked.withFiles result =
      ((w.withFiles result).1, (w.withFiles result).2.unlocked) := by
  cases result <;> rfl

theorem World.volumeLocks_withFiles (w : World) (result : Except IoError Files) :
    (w.withFiles result).2.volumeLocks = w.volumeLocks := by
  cases result <;> rfl

namespace Effect

def Plain : {β : Type} → Effect β → Prop
  | _, .lockVolume _ => False
  | _, .unlockVolume _ => False
  | _, .lockName _ => False
  | _, .unlockName _ => False
  | _, _ => True

theorem Plain.perform_unlocked {effect : Effect β} (plain : effect.Plain) (w : World) :
    effect.perform w.unlocked = ((effect.perform w).1, (effect.perform w).2.unlocked) := by
  cases effect with
  | lockVolume | unlockVolume | lockName | unlockName => exact plain.elim
  | now => simp only [perform, World.unlocked]
  | createFile | resizeFile | removeFile | copyFile | makeDirectories =>
    exact w.withFiles_unlocked _
  | _ => rfl

theorem Plain.volumeLocks_perform {effect : Effect β} (plain : effect.Plain) (w : World) :
    (effect.perform w).2.volumeLocks = w.volumeLocks := by
  cases effect with
  | lockVolume | unlockVolume | lockName | unlockName => exact plain.elim
  | createFile | resizeFile | removeFile | copyFile | makeDirectories =>
    exact w.volumeLocks_withFiles _
  | _ => rfl

theorem Plain.after_eq {effect : Effect β} (plain : effect.Plain) (answer : β)
    (next : β → Routine α) (w : World) :
    Task.after effect answer next w = .ready (next answer) := by
  cases effect with
  | lockVolume | unlockVolume | lockName | unlockName => exact plain.elim
  | _ => rfl

theorem Plain.enters_eq {effect : Effect β} (plain : effect.Plain) (next : β → Routine α)
    (w : World) : Task.enters (.ready (.call effect next)) w = false := by
  cases effect with
  | lockVolume | unlockVolume | lockName | unlockName => exact plain.elim
  | _ => rfl

end Effect

namespace Routine

def Plain : Routine α → Prop
  | done _ => True
  | call effect next => effect.Plain ∧ ∀ answer, (next answer).Plain

theorem Plain.bind {r : Routine α} {f : α → Routine β} (plain : r.Plain)
    (later : ∀ value, (f value).Plain) : (r >>= f).Plain := by
  induction r with
  | done value => exact later value
  | call effect next ih => exact ⟨plain.1, fun answer => ih answer (plain.2 answer)⟩

theorem Plain.run_unlocked {r : Routine α} (plain : r.Plain) (w : World) :
    r.run w.unlocked = ((r.run w).1, (r.run w).2.unlocked) := by
  induction r generalizing w with
  | done value => rfl
  | call effect next ih =>
    simp only [run, plain.1.perform_unlocked w]
    exact ih _ (plain.2 _) _

def fate (r : Routine α) (w : World) : α × World := ((r.run w).1, (r.run w).2.unlocked)

theorem fate_eq_iff {r s : Routine α} {w v : World} : r.fate w = s.fate v ↔
    (r.run w).1 = (s.run v).1 ∧ (r.run w).2.unlocked = (s.run v).2.unlocked :=
  Prod.ext_iff

theorem Plain.fate_eq {r : Routine α} (plain : r.Plain) {w v : World}
    (alike : w.unlocked = v.unlocked) : r.fate w = r.fate v :=
  calc
    r.fate w = r.run w.unlocked := (plain.run_unlocked w).symm
    _ = r.run v.unlocked := by rw [alike]
    _ = r.fate v := plain.run_unlocked v

def release (claim : Claim) (value : α) : Routine α :=
  call (.unlockVolume claim) fun _ => done value

def under (id : VolumeId) (work : Routine α) : Routine α :=
  call (.lockVolume id) fun claim => work >>= release claim

theorem under_bind_done (id : VolumeId) (work : Routine α) (answer : α → β) :
    (under id work >>= fun value => done (answer value)) =
      under id (work >>= fun value => done (answer value)) := by
  show call _ _ = call _ _
  congr 1
  funext claim
  show work >>= release claim >>= (fun value => done (answer value)) =
    work >>= (fun value => done (answer value)) >>= release claim
  rw [bind_assoc, bind_assoc]
  rfl

theorem fate_bind_release (work : Routine α) (claim : Claim) (w : World) :
    (work >>= release claim).fate w = work.fate w := by
  rw [fate, run_bind]
  rfl

theorem fate_under {work : Routine α} (plain : work.Plain) (id : VolumeId) (w : World) :
    (under id work).fate w = work.fate w := by
  obtain ⟨claim, made⟩ : ∃ claim, claim = (w.volumeLocks.claim id.text).1 := ⟨_, rfl⟩
  obtain ⟨locks, entered⟩ : ∃ locks, locks = (w.volumeLocks.claim id.text).2 := ⟨_, rfl⟩
  have alike : ({ w with volumeLocks := locks } : World).unlocked = w.unlocked := rfl
  calc
    (under id work).fate w =
        (work >>= release claim).fate { w with volumeLocks := locks } := by rw [made, entered]; rfl
    _ = work.fate { w with volumeLocks := locks } := fate_bind_release ..
    _ = work.fate w := plain.fate_eq alike

def Guarded (id : VolumeId) (r : Routine α) : Prop :=
  (∃ value, r = done value) ∨ ∃ work : Routine α, work.Plain ∧ r = under id work

def runAll : List (Routine α) → World → List α × World
  | [], w => ([], w)
  | first :: rest, w =>
    let (value, w) := first.run w
    let (values, w) := runAll rest w
    (value :: values, w)

theorem runAll_cons (first : Routine α) (rest : List (Routine α)) (w : World) :
    runAll (first :: rest) w =
      ((first.run w).1 :: (runAll rest (first.run w).2).1, (runAll rest (first.run w).2).2) :=
  rfl

theorem runAll_append (first later : List (Routine α)) (w : World) :
    runAll (first ++ later) w =
      ((runAll first w).1 ++ (runAll later (runAll first w).2).1,
        (runAll later (runAll first w).2).2) := by
  induction first generalizing w with
  | nil => rfl
  | cons r rest ih =>
    simp only [List.cons_append, runAll_cons, ih]

theorem runAll_concat (first : List (Routine α)) (last : Routine α) (w : World) :
    runAll (first ++ [last]) w =
      ((runAll first w).1 ++ [(last.run (runAll first w).2).1],
        (last.run (runAll first w).2).2) :=
  runAll_append first [last] w

theorem runAll_done (values : List α) (w : World) :
    runAll (values.map done) w = (values, w) := by
  induction values with
  | nil => rfl
  | cons value rest ih => simp only [List.map_cons, runAll_cons, run, ih]

end Routine

def Task.fate : Task α → World → α × World
  | ready rest, w => rest.fate w
  | awaitsVolume claim next, w => (next claim).fate w
  | awaitsName claim next, w => (next claim).fate w

namespace Crew

open Routine

variable [DecidableEq ι] {c : Crew ι α} {i : ι}

theorem step_of_done {value : α} (task : c.tasks i = .ready (.done value)) : c.step i = c := by
  have same : Function.update c.tasks i (.ready (.done value)) = c.tasks := by
    rw [← task, Function.update_eq_self]
  unfold step
  rw [task]
  simp only [Task.step, Task.enters, same]
  rfl

theorem step_of_under {id : VolumeId} {work : Routine α}
    (task : c.tasks i = .ready (under id work)) :
    c.step i = c.arrived i (c.world.volumeLocks.claim id.text).1
      (fun claim => work >>= release claim) (c.world.volumeLocks.claim id.text).2 := by
  unfold step
  rw [task]
  rfl

theorem step_of_waiting {claim : Claim} {next : Claim → Routine α}
    (task : c.tasks i = .awaitsVolume claim next) :
    c.step i = c.arrived i claim next (c.world.volumeLocks.look claim) := by
  unfold step
  rw [task]
  rfl

theorem step_of_release {claim : Claim} {value : α}
    (task : c.tasks i = .ready (Routine.done value >>= release claim)) :
    c.step i = ⟨{ c.world with volumeLocks := c.world.volumeLocks.drop claim },
      Function.update c.tasks i (.ready (.done value)), c.entered⟩ := by
  unfold step
  rw [task]
  rfl

theorem step_of_plain {effect : Effect β} {next : β → Routine α} {f : α → Routine α}
    (plain : effect.Plain) (task : c.tasks i = .ready (Routine.call effect next >>= f)) :
    c.step i = ⟨(effect.perform c.world).2,
      Function.update c.tasks i (.ready (next (effect.perform c.world).1 >>= f)), c.entered⟩ := by
  have called : c.tasks i = .ready (.call effect fun answer => next answer >>= f) := task
  have enters := plain.enters_eq (fun answer => next answer >>= f) c.world
  have after := plain.after_eq (effect.perform c.world).1 (fun answer => next answer >>= f)
    (effect.perform c.world).2
  unfold step
  rw [called]
  simp only [Task.step, after, enters]
  rfl

end Crew

end BlockVolumes
