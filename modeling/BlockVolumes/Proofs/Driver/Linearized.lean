import BlockVolumes.Proofs.Driver.Invariant
import BlockVolumes.Proofs.Driver.VolumeCall

/-! Calls on one volume that are made side by side. However their steps interleave they end as if
they had been made one after the other, so each finds the record as the one before it left it: no
change is lost, a mounted volume is not mounted again, and nothing is recorded after a deletion. -/

namespace BlockVolumes

open Routine

variable {d : BlockDriver} {id : VolumeId}

namespace VolumeCall

variable {call : VolumeCall}

theorem works (d : BlockDriver) (id : VolumeId) (locks : call.locks = true) :
    Works id call (call.routine d id) := by
  cases call with
  | delete => exact works_delete d
  | mount path => exact works_mount d path
  | unmount path => exact works_unmount d path
  | set locator spec =>
    cases spec with
    | some spec => cases locks
    | none => exact works_set d locator
  | attach => exact works_attach d
  | detach => exact works_detach d

theorem refused_of_not_locks (d : BlockDriver) (id : VolumeId) (locks : call.locks = false) :
    ∃ error, call.routine d id = done (.error error) := by
  cases call with
  | set locator spec =>
    cases spec with
    | some spec => exact ⟨.notSupported "spec update", rfl⟩
    | none => cases locks
  | _ => cases locks

theorem guarded (d : BlockDriver) (id : VolumeId) (call : VolumeCall) :
    (call.routine d id).Guarded id := by
  cases locks : call.locks with
  | true =>
    obtain ⟨work, plain, whole, -⟩ := works d id locks
    exact .inr ⟨work, plain, whole⟩
  | false =>
    obtain ⟨error, refused⟩ := refused_of_not_locks d id locks
    exact .inl ⟨_, refused⟩

theorem locks_iff (d : BlockDriver) (id : VolumeId) (call : VolumeCall) :
    call.locks = true ↔ ∀ answer, call.routine d id ≠ done answer := by
  cases locks : call.locks with
  | true =>
    obtain ⟨work, -, whole, -⟩ := works d id locks
    rw [whole]
    exact iff_of_true rfl nofun
  | false =>
    obtain ⟨error, refused⟩ := refused_of_not_locks d id locks
    exact iff_of_false nofun fun never => never _ refused

theorem rewrites_run (d : BlockDriver) (call : VolumeCall) {w : World} (own : w.OwnId id) :
    Rewrites id call ((call.routine d id).run w).1 (w.store.get id)
      (((call.routine d id).run w).2.store.get id) := by
  cases locks : call.locks with
  | true =>
    obtain ⟨work, plain, whole, rewrites⟩ := works d id locks
    obtain ⟨answer, world⟩ := fate_eq_iff.1 (fate_under plain id w)
    rw [whole, answer, World.store_eq_of_unlocked world]
    exact rewrites w own
  | false =>
    obtain ⟨error, refused⟩ := refused_of_not_locks d id locks
    rw [refused]
    exact .failed error (.inr locks)

end VolumeCall

abbrev AnsweredCall : Type := VolumeCall × VolumeAnswer

theorem Rewrites.own {call : VolumeCall} {answer : VolumeAnswer} {before after : Told}
    (rewrites : Rewrites id call answer before after)
    (own : ∀ v, before = .ok (some v) → v.id = id) (v : Volume) (found : after = .ok (some v)) :
    v.id = id := by
  cases rewrites with
  | missing | deleted => cases found
  | failed | attached | detached => exact own v found
  | @mounted u | @unmounted u | located u =>
    cases found
    exact own u rfl

/-- Calls one after the other, where each works on the record as the one before it left it. -/
inductive Rewritten (id : VolumeId) : List AnsweredCall → Told → Told → Prop
  | nil {told : Told} : Rewritten id [] told told
  | cons {call : VolumeCall} {answer : VolumeAnswer} {later : List AnsweredCall}
      {before between after : Told}
      (first : Rewrites id call answer before between) (rest : Rewritten id later between after) :
    Rewritten id ((call, answer) :: later) before after

namespace Rewritten

variable {first later : List AnsweredCall} {before after : Told}

theorem split (history : Rewritten id (first ++ later) before after) :
    ∃ between, Rewritten id first before between ∧ Rewritten id later between after := by
  induction first generalizing before with
  | nil => exact ⟨before, .nil, history⟩
  | cons entry rest ih =>
    cases history with
    | cons head tail =>
      obtain ⟨between, early, late⟩ := ih tail
      exact ⟨between, .cons head early, late⟩

theorem gone (history : Rewritten id later (.ok none) after) :
    (∀ entry ∈ later, entry.1.locks = true → entry.2 = .error (.notFound id.text)) ∧
      after = .ok none := by
  induction later with
  | nil =>
    cases history
    exact ⟨List.forall_mem_nil _, rfl⟩
  | cons entry rest ih =>
    cases history with
    | cons head tail =>
      cases head with
      | missing locks =>
        obtain ⟨missed, none⟩ := ih tail
        exact ⟨List.forall_mem_cons.2 ⟨fun _ => rfl, missed⟩, none⟩
      | failed error there =>
        obtain ⟨missed, none⟩ := ih tail
        refine ⟨List.forall_mem_cons.2 ⟨fun locks => ?_, missed⟩, none⟩
        rcases there with there | there
        · exact absurd rfl there
        · rw [there] at locks
          cases locks

end Rewritten

def Barred (told : Told) : Prop :=
  told = .ok none ∨ ∃ v place, told = .ok (some v) ∧ v.mountPath? = some place

theorem not_barred_of_free {v : Volume} (free : v.mountPath? = none) :
    ¬ Barred (.ok (some v)) := by
  intro barred
  obtain missing | ⟨u, place, found, mounted⟩ := barred
  · cases missing
  · cases found
    rw [free] at mounted
    cases mounted

theorem Rewrites.barred {call : VolumeCall} {answer : VolumeAnswer} {before after : Told}
    (rewrites : Rewrites id call answer before after) (barred : Barred before) :
    (∃ path, call = .unmount path ∧ answer = .ok none) ∨ Barred after := by
  cases rewrites with
  | missing | deleted => exact .inr (.inl rfl)
  | failed | attached | detached => exact .inr barred
  | unmounted path => exact .inl ⟨path, rfl, rfl⟩
  | mounted path time free => exact absurd barred (not_barred_of_free free)
  | located =>
    obtain missing | ⟨v, place, found, mounted⟩ := barred
    · cases missing
    · cases found
      exact .inr (.inr ⟨_, place, rfl, mounted⟩)

theorem Rewritten.unmounted_of_mounted {between later : List AnsweredCall} {path : String}
    {before after : Told}
    (history : Rewritten id (between ++ (.mount path, .ok none) :: later) before after)
    (barred : Barred before) : ∃ place, (VolumeCall.unmount place, .ok none) ∈ between := by
  induction between generalizing before with
  | nil =>
    cases history with
    | cons head tail =>
      cases head with
      | mounted path time free => exact absurd barred (not_barred_of_free free)
  | cons entry rest ih =>
    cases history with
    | cons head tail =>
      rcases head.barred barred with ⟨place, rfl, rfl⟩ | still
      · exact ⟨place, List.mem_cons_self⟩
      · obtain ⟨place, member⟩ := ih tail still
        exact ⟨place, List.mem_cons_of_mem _ member⟩

/-- What the answers to calls on one volume tell together. -/
structure Coherent (id : VolumeId) (history : List AnsweredCall) (before after : Told) : Prop where
  /-- No change of the record is lost: each call finds what the one before it left. -/
  rewritten : Rewritten id history before after
  /-- While the volume stays mounted no other mount succeeds. -/
  exclusive : ∀ first between later path other,
    history = first ++ (.mount path, .ok none) :: (between ++ (.mount other, .ok none) :: later) →
      path ≠ "" → ∃ place, (VolumeCall.unmount place, .ok none) ∈ between
  /-- After a deletion nothing is found any more, and nothing is recorded. -/
  final : ∀ first later, history = first ++ (.delete, .ok none) :: later →
    (∀ entry ∈ later, entry.1.locks = true → entry.2 = .error (.notFound id.text)) ∧
      after = .ok none

theorem Rewritten.coherent {history : List AnsweredCall} {before after : Told}
    (rewritten : Rewritten id history before after) : Coherent id history before after := by
  constructor
  case rewritten => exact rewritten
  case exclusive =>
    intro first between later path other same given
    rw [same] at rewritten
    obtain ⟨_, -, rest⟩ := rewritten.split
    cases rest with
    | cons head tail =>
      cases head with
      | @mounted v _ time free =>
        exact tail.unmounted_of_mounted
          (.inr ⟨_, path, rfl, v.mountPath?_mountedAt given time⟩)
  case final =>
    intro first later same
    rw [same] at rewritten
    obtain ⟨_, -, rest⟩ := rewritten.split
    cases rest with
    | cons head tail =>
      cases head with
      | deleted v => exact tail.gone

theorem rewritten_runAll (d : BlockDriver) (calls : List VolumeCall) {w : World}
    (own : w.OwnId id) :
    Rewritten id (calls.zip (runAll (calls.map fun call => call.routine d id) w).1)
      (w.store.get id) ((runAll (calls.map fun call => call.routine d id) w).2.store.get id) := by
  induction calls generalizing w with
  | nil => exact .nil
  | cons call rest ih =>
    have first := call.rewrites_run d own
    rw [List.map_cons, runAll_cons, List.zip_cons_cons]
    exact .cons first (ih (first.own own))

theorem Reaches.ownId {b : Bench} {m : Moment} {history : List Attempt} {w : World}
    (reached : Reaches d (b.world m) history w) (sound : b.Sound) (id : VolumeId) : w.OwnId id := by
  have onBench : ∃ (c : Bench) (later : Moment), w = c.world later ∧ c.Sound := by
    induction reached with
    | start => exact ⟨b, m, rfl, sound⟩
    | call _ yields ih =>
      obtain ⟨c, later, rfl, between⟩ := ih
      obtain ⟨e, last, same, ends⟩ := (Call.leads _ between.unused between.own).sound yields
      exact ⟨e, last, same, (Bench.Sound.kept d).step between.own between ends⟩
  obtain ⟨c, later, rfl, sound⟩ := onBench
  intro v found
  have told : (c.world later).store.get id = .ok (c.records.get? id.text) :=
    Store.get_keeping c.kind c.records id
  rw [told] at found
  exact VolumeId.ext (sound.own _ v (Except.ok.inj found))

namespace VolumeCall

variable {n : Nat} {calls : Fin n → VolumeCall} {w : World} {others : List Claim}

def crew (d : BlockDriver) (id : VolumeId) (w : World) (calls : Fin n → VolumeCall) :
    Crew (Fin n) VolumeAnswer :=
  .of w fun i => (calls i).routine d id

/-- The calls have ended as if they had been made one after the other, in this order. -/
structure Serialized (d : BlockDriver) (id : VolumeId) (w : World) (calls : Fin n → VolumeCall)
    (c : Crew (Fin n) VolumeAnswer) (results : Fin n → VolumeAnswer) (order : List (Fin n)) :
    Prop where
  complete : order.Perm (List.finRange n)
  /-- Those that take the lock come in the order in which they got it. -/
  acquired : order.filter (fun i => (calls i).locks) = c.entered
  answers : (runAll (order.map fun i => (calls i).routine d id) w).1 = order.map results
  /-- Records, devices, connections, mounts and all else are the same, apart from the locks. -/
  world : (runAll (order.map fun i => (calls i).routine d id) w).2.unlocked = c.world.unlocked

theorem Serialized.coherent {c : Crew (Fin n) VolumeAnswer} {results : Fin n → VolumeAnswer}
    {order : List (Fin n)} (serialized : Serialized d id w calls c results order)
    (own : w.OwnId id) :
    Coherent id (order.map fun i => (calls i, results i)) (w.store.get id)
      (c.world.store.get id) := by
  have same : (order.map calls).map (fun call => call.routine d id) =
      order.map fun i => (calls i).routine d id := List.map_map
  have rewritten := rewritten_runAll d (order.map calls) own
  rw [same, serialized.answers, World.store_eq_of_unlocked serialized.world, List.zip_map']
    at rewritten
  exact rewritten.coherent

section Order

variable {inside : List (Fin n)} {chosen : Fin n → Bool}

theorem perm_finRange (once : inside.Nodup) (all : ∀ i, chosen i = true ↔ i ∈ inside) :
    (inside ++ (List.finRange n).filter fun i => !chosen i).Perm (List.finRange n) := by
  have picked : inside.Perm ((List.finRange n).filter chosen) := by
    apply (List.perm_ext_iff_of_nodup once ((List.nodup_finRange n).filter _)).2
    simp [all]
  exact (picked.append_right _).trans (List.filter_append_perm chosen _)

theorem filter_chosen (all : ∀ i, chosen i = true ↔ i ∈ inside) :
    (inside ++ (List.finRange n).filter fun i => !chosen i).filter chosen = inside := by
  have taken : inside.filter chosen = inside :=
    List.filter_eq_self.2 fun i member => (all i).2 member
  have left : ((List.finRange n).filter fun i => !chosen i).filter chosen = [] := by
    simp [List.filter_filter]
  rw [List.filter_append, taken, left, List.append_nil]

end Order

theorem exists_serialized (tied : w.volumeLocks.Tied others)
    (free : ∀ claim ∈ others, claim.key ≠ id.text) (schedule : List (Fin n))
    {results : Fin n → VolumeAnswer}
    (ended : ((crew d id w calls).run schedule).Ended results) :
    ∃ order, Serialized d id w calls ((crew d id w calls).run schedule) results order := by
  have start : InTurn id w (fun i => (calls i).routine d id) _ (crew d id w calls) :=
    .of tied free
  obtain ⟨claimOf, turn⟩ := start.run (fun i => (calls i).guarded d id) schedule
  obtain ⟨answers, world, refused⟩ := turn.ended ended
  generalize finished : (crew d id w calls).run schedule = c at *
  have locked : ∀ i, (calls i).locks = true ↔ i ∈ c.entered := by
    intro i
    rw [locks_iff d id]
    constructor
    · intro never
      by_cases inside : i ∈ c.entered
      · exact inside
      · exact absurd (refused i inside) (never _)
    · intro inside answer refused
      rw [← finished] at inside
      exact Crew.not_mem_entered ⟨answer, congrArg Task.ready refused⟩ List.not_mem_nil _ inside
  -- Calls that are refused before they ask for the lock can come anywhere; they are put last.
  obtain ⟨idle, chosen⟩ : ∃ idle, idle = (List.finRange n).filter fun i => !(calls i).locks :=
    ⟨_, rfl⟩
  have unmoved : idle.map (fun i => (calls i).routine d id) = (idle.map results).map done := by
    rw [List.map_map]
    refine List.map_congr_left fun i member => refused i fun inside => ?_
    simp [chosen, (locked i).2 inside] at member
  refine ⟨c.entered ++ idle, ?complete, ?acquired, ?answers, ?world⟩
  case complete => exact chosen ▸ perm_finRange turn.once locked
  case acquired => exact chosen ▸ filter_chosen locked
  case answers =>
    rw [List.map_append, List.map_append, runAll_append, unmoved, runAll_done, answers]
  case world =>
    rw [List.map_append, runAll_append, unmoved, runAll_done]
    exact world

/-- Calls on one volume are linearized. Whatever calls are made side by side and however their steps
interleave, they can all go on to their ends, and once they have ended it is as if they had been
made one after the other, in the order in which they got the lock of the volume: the answers are the
same, and so are records, devices, connections, mounts and everything else but the locks. What the
answers tell together is coherent. -/
theorem calls_linearize (d : BlockDriver) (calls : Fin n → VolumeCall)
    (tied : w.volumeLocks.Tied others) (free : ∀ claim ∈ others, claim.key ≠ id.text)
    (schedule : List (Fin n)) :
    (∃ rest results, ((crew d id w calls).run (schedule ++ rest)).Ended results) ∧
    ∀ results, ((crew d id w calls).run schedule).Ended results → ∃ order,
      Serialized d id w calls ((crew d id w calls).run schedule) results order ∧
      (w.OwnId id → Coherent id (order.map fun i => (calls i, results i)) (w.store.get id)
        (((crew d id w calls).run schedule).world.store.get id)) := by
  have start : InTurn id w (fun i => (calls i).routine d id) _ (crew d id w calls) :=
    .of tied free
  have guarded := fun i => (calls i).guarded d id
  constructor
  · obtain ⟨claimOf, turn⟩ := start.run guarded schedule
    obtain ⟨rest, results, ended⟩ :=
      turn.exists_ended guarded fun i => .inl (List.mem_finRange i)
    refine ⟨rest, results, ?_⟩
    rw [Crew.run_append]
    exact ended
  · intro results ended
    obtain ⟨order, serialized⟩ := exists_serialized tied free schedule ended
    exact ⟨order, serialized, serialized.coherent⟩

deriving instance DecidableEq for Except

def bench : BlockDriver := ⟨"nbd", "/volumes"⟩

def furnished : World :=
  (((Call.create (.named "data") none (.sized 4096 .ext4)).operation bench).outcome.run
    ((Bench.ofRecords .empty).world .calm)).2.unlocked

theorem ownId_furnished : furnished.OwnId ⟨"volume0"⟩ := by
  obtain ⟨mishaps, yields⟩ := ((Call.create (.named "data") none
    (.sized 4096 .ext4)).operation bench).outcome.yields_run
      ((Bench.ofRecords .empty).world .calm)
  have reached : Reaches bench ((Bench.ofRecords .empty).world .calm)
      [⟨.create (.named "data") none (.sized 4096 .ext4), mishaps, _⟩] _ := .call .start yields
  have sound : (Bench.ofRecords .empty).Sound :=
    .of_empty rfl ⟨fun _ _ => rfl, fun _ _ => rfl⟩
  exact reached.ownId sound ⟨"volume0"⟩

def rivals : Fin 3 → VolumeCall
  | 0 => mount "/mnt"
  | 1 => delete
  | 2 => mount "/srv"

def outcomes : Fin 3 → VolumeAnswer
  | 0 => .error (.alreadyMounted ⟨"volume0"⟩ "/srv")
  | 1 => .ok none
  | 2 => .ok none

/-- The rivals take turns, first to claim the lock and then to go on or look again. -/
def rounds : List (Fin 3) := (List.replicate 14 [2, 0, 1]).flatten

theorem calls_linearize_rivals :
    ((crew bench ⟨"volume0"⟩ furnished rivals).run rounds).Ended outcomes ∧
    ∃ order, Serialized bench ⟨"volume0"⟩ furnished rivals
        ((crew bench ⟨"volume0"⟩ furnished rivals).run rounds) outcomes order ∧
      (order.filter fun i => (rivals i).locks) = [2, 0, 1] ∧
      Coherent ⟨"volume0"⟩ (order.map fun i => (rivals i, outcomes i))
        (furnished.store.get ⟨"volume0"⟩)
        (((crew bench ⟨"volume0"⟩ furnished rivals).run rounds).world.store.get ⟨"volume0"⟩) := by
  have ended : ∀ i, (((crew bench ⟨"volume0"⟩ furnished rivals).run rounds).tasks i).result? =
      some (outcomes i) := by
    decide +kernel
  have entered : ((crew bench ⟨"volume0"⟩ furnished rivals).run rounds).entered = [2, 0, 1] := by
    decide +kernel
  obtain ⟨order, serialized, coherent⟩ :=
    (calls_linearize bench rivals LockTable.tied_empty (by simp) rounds).2 outcomes ended
  exact ⟨ended, order, serialized, serialized.acquired.trans entered, coherent ownId_furnished⟩

end VolumeCall

end BlockVolumes
