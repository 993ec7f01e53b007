import BlockVolumes.Proofs.Driver.Interleaving

/-! Routines that do all their work under the lock of one volume. Each has the world to itself while
it works, so whatever the order of their steps they end as if they had run one after the other, in
the order in which they got the lock; and they can always go on to their ends. -/

namespace BlockVolumes

variable {ι α : Type}

open Routine

/-- How far a task has come that works under the lock of one volume, and what claim it has on it. -/
inductive Stage (id : VolumeId) (locks : LockTable) (entered : Prop) (routine : Routine α) :
    Task α → Option Claim → Prop
  | unstarted (yet : ¬ entered) : Stage id locks entered routine (.ready routine) none
  | waiting {work : Routine α} {claim : Claim} (plain : work.Plain)
      (whole : routine = under id work) (yet : ¬ entered) :
    Stage id locks entered routine
      (.awaitsVolume claim fun claim => work >>= release claim) (some claim)
  | working {rest : Routine α} {claim : Claim} (plain : rest.Plain)
      (held : locks.holds claim = true) (inside : entered) :
    Stage id locks entered routine (.ready (rest >>= release claim)) (some claim)
  | ended {value : α} (past : entered) :
    Stage id locks entered routine (.ready (.done value)) none

namespace Stage

variable {id : VolumeId} {locks later : LockTable} {entered still : Prop} {routine : Routine α}
  {task : Task α} {claim? : Option Claim}

theorem keep (stage : Stage id locks entered routine task claim?) (same : still ↔ entered)
    (held : ∀ claim, claim? = some claim → later.holds claim = locks.holds claim) :
    Stage id later still routine task claim? := by
  cases stage with
  | unstarted yet => exact .unstarted (same.not.2 yet)
  | waiting plain whole yet => exact .waiting plain whole (same.not.2 yet)
  | working plain has inside => exact .working plain ((held _ rfl).trans has) (same.2 inside)
  | ended past => exact .ended (same.2 past)

theorem fate_eq (stage : Stage id locks entered routine task claim?) (inside : entered)
    {w v : World} (alike : w.unlocked = v.unlocked) : task.fate w = task.fate v := by
  cases stage with
  | unstarted yet => exact absurd inside yet
  | waiting plain whole yet => exact absurd inside yet
  | ended => exact congrArg (Prod.mk _) alike
  | @working rest claim plain held _ =>
    calc
      (rest >>= release claim).fate w = rest.fate w := fate_bind_release ..
      _ = rest.fate v := plain.fate_eq alike
      _ = (rest >>= release claim).fate v := (fate_bind_release ..).symm

theorem holds {claim : Claim} (stage : Stage id locks entered routine task (some claim))
    (inside : entered) : locks.holds claim = true := by
  cases stage with
  | waiting plain whole yet => exact absurd inside yet
  | working plain held inside => exact held

theorem claim_of_done {value : α} (stage : Stage id locks entered routine task claim?)
    (ended : task = .ready (.done value)) : claim? = none := by
  cases stage with
  | unstarted | ended => rfl
  | waiting => cases ended
  | @working rest claim =>
    have same : rest >>= release claim = done value := Task.ready.inj ended
    cases rest <;> cases same

theorem fate_fst_eq (stage : Stage id locks entered routine task none) (inside : entered)
    (w v : World) : (task.fate w).1 = (task.fate v).1 := by
  cases stage with
  | unstarted yet => exact absurd inside yet
  | ended => rfl

end Stage

/-- The claims of tasks on the lock of a volume. `claimOf` tells which claim each task has, and
`claims` are all claims that there are on any lock. -/
structure Lined (id : VolumeId) (locks : LockTable) (claimOf : ι → Option Claim)
    (claims : List Claim) : Prop where
  tied : locks.Tied claims
  own : ∀ {i claim}, claimOf i = some claim → claim ∈ claims ∧ claim.key = id.text
  apart : ∀ {i j claim}, claimOf i = some claim → claimOf j = some claim → i = j
  manned : ∀ claim ∈ claims, claim.key = id.text → ∃ i, claimOf i = some claim

namespace Lined

variable {id : VolumeId} {locks : LockTable} {claimOf : ι → Option Claim} {claims : List Claim}
  {c other : Claim} {i j : ι}

theorem different (lined : Lined id locks claimOf claims) (has : claimOf i = some c)
    (hasToo : claimOf j = some other) (unlike : j ≠ i) : other ≠ c := by
  intro same
  rw [same] at hasToo
  exact unlike (lined.apart hasToo has)

theorem split (lined : Lined id locks claimOf claims) (has : claimOf i = some c) :
    ∃ before after, claims = before ++ c :: after ∧
      ∀ {j other}, claimOf j = some other → j ≠ i → other ∈ before ++ after := by
  obtain ⟨before, after, rfl⟩ := List.append_of_mem (lined.own has).1
  refine ⟨before, after, rfl, ?_⟩
  intro j other hasToo unlike
  have anywhere := List.mem_append.1 (lined.own hasToo).1
  rcases anywhere with early | late
  · exact List.mem_append_left _ early
  · rcases List.mem_cons.1 late with here | late
    · exact absurd here (lined.different has hasToo unlike)
    · exact List.mem_append_right _ late

theorem unheld (lined : Lined id locks claimOf claims) (has : claimOf i = some c)
    (held : locks.holds c = true) (hasToo : claimOf j = some other) (unlike : j ≠ i) :
    locks.holds other = false := by
  obtain ⟨before, after, rfl, among⟩ := lined.split has
  have same : other.key = c.key := (lined.own hasToo).2.trans (lined.own has).2.symm
  exact lined.tied.alone (among hasToo unlike) same held

theorem look (lined : Lined id locks claimOf claims) (claim : Claim) :
    Lined id (locks.look claim) claimOf claims :=
  { lined with tied := lined.tied.look claim }

theorem holds_claim (lined : Lined id locks claimOf claims) (has : claimOf i = some c) :
    (locks.claim id.text).2.holds c = locks.holds c :=
  LockTable.holds_claim (lined.tied.past _ (lined.own has).1) id.text

theorem holds_look (lined : Lined id locks claimOf claims) (has : claimOf i = some c)
    (hasToo : claimOf j = some other) (unlike : j ≠ i) :
    (locks.look c).holds other = locks.holds other := by
  obtain ⟨before, after, rfl, among⟩ := lined.split has
  exact LockTable.holds_look (lined.tied.ticket_ne (among hasToo unlike)).symm

theorem holds_drop (lined : Lined id locks claimOf claims) (has : claimOf i = some c)
    (hasToo : claimOf j = some other) (unlike : j ≠ i) :
    (locks.drop c).holds other = locks.holds other := by
  obtain ⟨before, after, rfl, among⟩ := lined.split has
  exact lined.tied.holds_drop (among hasToo unlike)

variable [DecidableEq ι]

theorem change {later : LockTable} {all : List Claim} {claim? : Option Claim}
    (lined : Lined id locks claimOf claims) (tied : later.Tied all)
    (mine : ∀ claim, claim? = some claim →
      (claim ∈ all ∧ claim.key = id.text) ∧ ∀ j, claimOf j = some claim → j = i)
    (kept : ∀ {j other}, claimOf j = some other → j ≠ i → other ∈ all)
    (added : ∀ other ∈ all, other.key = id.text →
      claim? = some other ∨ ∃ j, j ≠ i ∧ claimOf j = some other) :
    Lined id later (Function.update claimOf i claim?) all := by
  constructor
  case tied => exact tied
  case own =>
    intro j claim has
    by_cases here : j = i
    · rw [here, Function.update_self] at has
      exact (mine claim has).1
    · rw [Function.update_of_ne here] at has
      exact ⟨kept has here, (lined.own has).2⟩
  case apart =>
    intro j k claim has hasToo
    by_cases here : j = i <;> by_cases there : k = i
    · rw [here, there]
    · rw [here, Function.update_self] at has
      rw [Function.update_of_ne there] at hasToo
      exact absurd ((mine claim has).2 k hasToo) there
    · rw [there, Function.update_self] at hasToo
      rw [Function.update_of_ne here] at has
      exact absurd ((mine claim hasToo).2 j has) here
    · rw [Function.update_of_ne here] at has
      rw [Function.update_of_ne there] at hasToo
      exact lined.apart has hasToo
  case manned =>
    intro claim member key
    rcases added claim member key with has | ⟨j, elsewhere, has⟩
    · exact ⟨i, (Function.update_self ..).trans has⟩
    · exact ⟨j, (Function.update_of_ne elsewhere ..).trans has⟩

theorem claim (lined : Lined id locks claimOf claims) (new : claimOf i = none) :
    Lined id (locks.claim id.text).2 (Function.update claimOf i (some (locks.claim id.text).1))
      (claims ++ [(locks.claim id.text).1]) := by
  have elsewhere : ∀ {j e}, claimOf j = some e → j ≠ i := by
    intro j e has same
    rw [same, new] at has
    cases has
  have nobodys : ∀ j, claimOf j ≠ some (locks.claim id.text).1 := by
    intro j has
    exact absurd (lined.tied.past _ (lined.own has).1) (Nat.lt_irrefl _)
  apply lined.change (lined.tied.claim id.text)
  case mine =>
    intro e made
    obtain rfl := Option.some.inj made
    exact ⟨⟨by simp, rfl⟩, fun j has => absurd has (nobodys j)⟩
  case kept =>
    intro j e has _
    exact List.mem_append_left _ (lined.own has).1
  case added =>
    intro e member key
    rcases List.mem_append.1 member with before | last
    · obtain ⟨j, has⟩ := lined.manned e before key
      exact .inr ⟨j, elsewhere has, has⟩
    · exact .inl (congrArg some (List.mem_singleton.1 last).symm)

theorem drop (lined : Lined id locks claimOf claims) (has : claimOf i = some c) :
    ∃ rest, Lined id (locks.drop c) (Function.update claimOf i none) rest := by
  obtain ⟨before, after, rfl, among⟩ := lined.split has
  refine ⟨before ++ after, lined.change lined.tied.drop (by simp) among ?_⟩
  intro e member key
  have there : e ∈ before ++ c :: after :=
    ((List.sublist_cons_self c after).append_left before).mem member
  obtain ⟨j, hasToo⟩ := lined.manned e there key
  have elsewhere : j ≠ i := by
    intro same
    rw [same, has] at hasToo
    exact lined.tied.ticket_ne member (congrArg Claim.ticket (Option.some.inj hasToo).symm)
  exact .inr ⟨j, elsewhere, hasToo⟩

end Lined

/-- What is true of a crew whose tasks all work under the lock of one volume, wherever they are. -/
structure InTurn (id : VolumeId) (start : World) (routines : ι → Routine α)
    (claimOf : ι → Option Claim) (c : Crew ι α) : Prop where
  lined : ∃ claims, Lined id c.world.volumeLocks claimOf claims
  stage : ∀ i, Stage id c.world.volumeLocks (i ∈ c.entered) (routines i) (c.tasks i) (claimOf i)
  once : c.entered.Nodup
  /-- All results, also the one of the task at work, are those of running one after the other. -/
  answers : (c.entered.map fun i => ((c.tasks i).fate c.world).1) =
    (runAll (c.entered.map routines) start).1
  /-- Between two tasks the world is as if they had run one after the other. -/
  idle : (∀ i ∈ c.entered, claimOf i = none) →
    c.world.unlocked = (runAll (c.entered.map routines) start).2.unlocked
  /-- The task at work takes the world to where running one after the other leads. -/
  busy : ∀ {i claim}, i ∈ c.entered → claimOf i = some claim →
    ((c.tasks i).fate c.world).2 = (runAll (c.entered.map routines) start).2.unlocked

namespace InTurn

variable {id : VolumeId} {start : World} {routines : ι → Routine α} {claimOf : ι → Option Claim}
  {c : Crew ι α} {i j : ι}

theorem holds (turn : InTurn id start routines claimOf c) {claim : Claim}
    (inside : i ∈ c.entered) (has : claimOf i = some claim) :
    c.world.volumeLocks.holds claim = true :=
  (has ▸ turn.stage i).holds inside

theorem alone (turn : InTurn id start routines claimOf c) {claim other : Claim}
    (inside : i ∈ c.entered) (has : claimOf i = some claim) (insideToo : j ∈ c.entered)
    (hasToo : claimOf j = some other) : j = i := by
  obtain ⟨claims, lined⟩ := turn.lined
  by_cases same : j = i
  · exact same
  · have held := turn.holds insideToo hasToo
    rw [lined.unheld has (turn.holds inside has) hasToo same] at held
    cases held

variable [DecidableEq ι]

section Arrival

variable {work : Routine α} {claim : Claim} {locks : LockTable} {claims : List Claim}

theorem fate_arrived (turn : InTurn id start routines claimOf c) (yet : i ∉ c.entered)
    (next : Claim → Routine α) (inside : j ∈ c.entered) :
    ((c.arrived i claim next locks).tasks j).fate (c.arrived i claim next locks).world =
      (c.tasks j).fate c.world := by
  have elsewhere : j ≠ i := fun same => yet (same ▸ inside)
  have same : (c.arrived i claim next locks).tasks j = c.tasks j :=
    Function.update_of_ne elsewhere ..
  have alike : (c.arrived i claim next locks).world.unlocked = c.world.unlocked := rfl
  rw [same]
  exact (turn.stage j).fate_eq inside alike

theorem answers_arrived (turn : InTurn id start routines claimOf c) (yet : i ∉ c.entered)
    (next : Claim → Routine α) :
    (c.entered.map fun j =>
        (((c.arrived i claim next locks).tasks j).fate (c.arrived i claim next locks).world).1) =
      (runAll (c.entered.map routines) start).1 := by
  rw [← turn.answers]
  apply List.map_congr_left
  intro j inside
  rw [turn.fate_arrived yet next inside]

theorem stage_arrived (turn : InTurn id start routines claimOf c) {next : Claim → Routine α}
    {claim? : Option Claim}
    (kept : ∀ {j other}, claimOf j = some other → j ≠ i →
      locks.holds other = c.world.volumeLocks.holds other)
    (mine : Stage id locks (i ∈ (c.arrived i claim next locks).entered) (routines i)
      ((c.arrived i claim next locks).tasks i) claim?) (j : ι) :
    Stage id locks (j ∈ (c.arrived i claim next locks).entered) (routines j)
      ((c.arrived i claim next locks).tasks j) (Function.update claimOf i claim? j) := by
  by_cases here : j = i
  · rw [here, Function.update_self]
    exact mine
  · have same : (c.arrived i claim next locks).tasks j = c.tasks j :=
      Function.update_of_ne here ..
    have entered : j ∈ (c.arrived i claim next locks).entered ↔ j ∈ c.entered := by
      simp only [Crew.arrived]
      split
      · simp [here]
      · exact Iff.rfl
    rw [same, Function.update_of_ne here]
    exact (turn.stage j).keep entered fun _ has => kept has here

theorem enter (turn : InTurn id start routines claimOf c) (plain : work.Plain)
    (whole : routines i = under id work) (yet : i ∉ c.entered)
    (lined : Lined id locks (Function.update claimOf i (some claim)) claims)
    (kept : ∀ {j other}, claimOf j = some other → j ≠ i →
      locks.holds other = c.world.volumeLocks.holds other)
    (got : locks.holds claim = true) :
    InTurn id start routines (Function.update claimOf i (some claim))
      (c.arrived i claim (fun claim => work >>= release claim) locks) := by
  obtain ⟨later, arrived⟩ :
    ∃ later, later = c.arrived i claim (fun claim => work >>= release claim) locks := ⟨_, rfl⟩
  have entered : later.entered = c.entered ++ [i] := arrived ▸ if_pos got
  have task : later.tasks i = .ready (work >>= release claim) :=
    arrived ▸ (Function.update_self ..).trans (if_pos got)
  have elsewhere : ∀ {j}, j ∈ c.entered → j ≠ i := fun inside same => yet (same ▸ inside)
  -- whoever was at work would still have the lock
  have free : ∀ j ∈ c.entered, claimOf j = none := by
    intro j inside
    cases has : claimOf j with
    | none => rfl
    | some other =>
      have held := kept has (elsewhere inside)
      rw [turn.holds inside has, lined.unheld (Function.update_self ..) got
        ((Function.update_of_ne (elsewhere inside) ..).trans has) (elsewhere inside)] at held
      cases held
  have found : later.world.unlocked = (runAll (c.entered.map routines) start).2.unlocked :=
    arrived ▸ turn.idle free
  have mine : (later.tasks i).fate later.world =
      (routines i).fate (runAll (c.entered.map routines) start).2 :=
    calc
      (later.tasks i).fate later.world = (work >>= release claim).fate later.world := by
        rw [task]; rfl
      _ = work.fate later.world := fate_bind_release ..
      _ = work.fate (runAll (c.entered.map routines) start).2 := plain.fate_eq found
      _ = (routines i).fate (runAll (c.entered.map routines) start).2 := by
        rw [whole, fate_under plain]
  have all : runAll (later.entered.map routines) start =
      ((runAll (c.entered.map routines) start).1 ++ [((later.tasks i).fate later.world).1],
        ((routines i).run (runAll (c.entered.map routines) start).2).2) := by
    rw [entered, List.map_append, List.map_singleton, runAll_concat, mine]
    rfl
  rw [← arrived]
  constructor
  case lined => exact ⟨claims, arrived ▸ lined⟩
  case stage =>
    subst arrived
    apply turn.stage_arrived kept
    rw [task, entered]
    exact .working plain got (by simp)
  case once =>
    rw [entered]
    exact List.nodup_append.2 ⟨turn.once, by simp, by simpa using fun j inside => elsewhere inside⟩
  case answers =>
    rw [all, entered, List.map_append, List.map_singleton, arrived]
    rw [turn.answers_arrived yet]
  case idle =>
    intro idle
    have none := idle i (by simp [entered])
    rw [Function.update_self] at none
    cases none
  case busy =>
    intro j other inside has
    have here : j = i := by
      by_cases same : j = i
      · exact same
      · rw [entered, List.mem_append, List.mem_singleton] at inside
        rw [Function.update_of_ne same, free j (inside.resolve_right same)] at has
        cases has
    rw [here, mine, all]
    rfl

theorem await (turn : InTurn id start routines claimOf c) (plain : work.Plain)
    (whole : routines i = under id work) (yet : i ∉ c.entered)
    (lined : Lined id locks (Function.update claimOf i (some claim)) claims)
    (kept : ∀ {j other}, claimOf j = some other → j ≠ i →
      locks.holds other = c.world.volumeLocks.holds other)
    (unheld : ¬ locks.holds claim = true) :
    InTurn id start routines (Function.update claimOf i (some claim))
      (c.arrived i claim (fun claim => work >>= release claim) locks) := by
  have entered : (c.arrived i claim (fun claim => work >>= release claim) locks).entered =
      c.entered := if_neg unheld
  have task : (c.arrived i claim (fun claim => work >>= release claim) locks).tasks i =
      .awaitsVolume claim fun claim => work >>= release claim :=
    (Function.update_self ..).trans (if_neg unheld)
  have same : ∀ {j}, j ∈ c.entered → Function.update claimOf i (some claim) j = claimOf j :=
    fun {j} inside => Function.update_of_ne (fun here : j = i => yet (here ▸ inside)) ..
  constructor
  case lined => exact ⟨claims, lined⟩
  case stage =>
    apply turn.stage_arrived kept
    rw [task, entered]
    exact .waiting plain whole yet
  case once =>
    rw [entered]
    exact turn.once
  case answers =>
    rw [entered]
    exact turn.answers_arrived yet _
  case idle =>
    rw [entered]
    intro idle
    exact turn.idle fun j inside => (same inside).symm.trans (idle j inside)
  case busy =>
    rw [entered]
    intro j other inside has
    rw [turn.fate_arrived yet _ inside]
    exact turn.busy inside ((same inside).symm.trans has)

theorem arrive (turn : InTurn id start routines claimOf c) (plain : work.Plain)
    (whole : routines i = under id work) (yet : i ∉ c.entered)
    (lined : Lined id locks (Function.update claimOf i (some claim)) claims)
    (kept : ∀ {j other}, claimOf j = some other → j ≠ i →
      locks.holds other = c.world.volumeLocks.holds other) :
    InTurn id start routines (Function.update claimOf i (some claim))
      (c.arrived i claim (fun claim => work >>= release claim) locks) := by
  by_cases got : locks.holds claim = true
  · exact turn.enter plain whole yet lined kept got
  · exact turn.await plain whole yet lined kept got

end Arrival

theorem goOn (turn : InTurn id start routines claimOf c) {claim : Claim} (inside : i ∈ c.entered)
    (has : claimOf i = some claim) {task : Task α} {w : World} {claim? : Option Claim}
    {claims : List Claim} (fate : task.fate w = (c.tasks i).fate c.world)
    (lined : Lined id w.volumeLocks (Function.update claimOf i claim?) claims)
    (stage : Stage id w.volumeLocks True (routines i) task claim?)
    (kept : ∀ {j other}, claimOf j = some other → j ≠ i →
      w.volumeLocks.holds other = c.world.volumeLocks.holds other)
    (ended : claim? = none → (task.fate w).2 = w.unlocked) :
    InTurn id start routines (Function.update claimOf i claim?)
      ⟨w, Function.update c.tasks i task, c.entered⟩ := by
  have nobody : ∀ {j}, j ∈ c.entered → j ≠ i → claimOf j = none := by
    intro j insideToo unlike
    cases hasToo : claimOf j with
    | none => rfl
    | some other => exact absurd (turn.alone inside has insideToo hasToo) unlike
  constructor
  case lined => exact ⟨claims, lined⟩
  case stage =>
    intro j
    by_cases here : j = i
    · subst here
      simpa using stage.keep (iff_of_true inside trivial) fun _ _ => rfl
    · simpa [here] using (turn.stage j).keep Iff.rfl fun _ hasToo => kept hasToo here
  case once => exact turn.once
  case answers =>
    rw [← turn.answers]
    apply List.map_congr_left
    intro j insideToo
    by_cases here : j = i
    · subst here
      simp [fate]
    · have past := turn.stage j
      rw [nobody insideToo here] at past
      simpa [here] using past.fate_fst_eq insideToo w c.world
  case idle =>
    intro idle
    have none := idle i inside
    rw [Function.update_self] at none
    rw [← turn.busy inside has, ← fate, ended none]
  case busy =>
    intro j other insideToo hasToo
    by_cases here : j = i
    · subst here
      simpa [fate] using turn.busy inside has
    · rw [Function.update_of_ne here, nobody insideToo here] at hasToo
      cases hasToo

theorem step (turn : InTurn id start routines claimOf c)
    (guarded : ∀ i, (routines i).Guarded id) (i : ι) :
    ∃ claimOf, InTurn id start routines claimOf (c.step i) := by
  obtain ⟨claims, lined⟩ := turn.lined
  have stage := turn.stage i
  generalize task : c.tasks i = t at stage
  generalize has : claimOf i = claim? at stage
  cases stage with
  | unstarted yet =>
    rcases guarded i with ⟨value, refused⟩ | ⟨work, plain, whole⟩
    · rw [refused] at task
      exact ⟨claimOf, (Crew.step_of_done task).symm ▸ turn⟩
    · rw [whole] at task
      rw [Crew.step_of_under task]
      exact ⟨_, turn.arrive plain whole yet (lined.claim has) fun hasToo _ =>
        lined.holds_claim hasToo⟩
  | @waiting work claim plain whole yet =>
    have among : Lined id (c.world.volumeLocks.look claim)
        (Function.update claimOf i (some claim)) claims := by
      rw [← has, Function.update_eq_self]
      exact lined.look claim
    rw [Crew.step_of_waiting task]
    exact ⟨_, turn.arrive plain whole yet among fun hasToo unlike =>
      lined.holds_look has hasToo unlike⟩
  | @working rest claim plain held inside =>
    cases rest with
    | done value =>
      obtain ⟨rest, among⟩ := lined.drop has
      rw [Crew.step_of_release task]
      refine ⟨_, turn.goOn inside has ?fate among (.ended trivial) ?kept fun _ => rfl⟩
      case fate =>
        rw [task]
        rfl
      case kept => exact fun hasToo unlike => lined.holds_drop has hasToo unlike
    | call effect next =>
      have locks := plain.1.volumeLocks_perform c.world
      have among : Lined id (effect.perform c.world).2.volumeLocks
          (Function.update claimOf i (some claim)) claims := by
        rw [← has, Function.update_eq_self, locks]
        exact lined
      have still : (effect.perform c.world).2.volumeLocks.holds claim = true := by
        rw [locks]
        exact held
      rw [Crew.step_of_plain plain.1 task]
      refine ⟨_, turn.goOn inside has ?fate among (.working (plain.2 _) still trivial) ?kept nofun⟩
      case fate =>
        rw [task]
        rfl
      case kept =>
        intro j other _ _
        rw [locks]
  | ended past => exact ⟨claimOf, (Crew.step_of_done task).symm ▸ turn⟩

theorem run (turn : InTurn id start routines claimOf c) (guarded : ∀ i, (routines i).Guarded id)
    (schedule : List ι) : ∃ claimOf, InTurn id start routines claimOf (c.run schedule) := by
  induction schedule generalizing c claimOf with
  | nil => exact ⟨claimOf, turn⟩
  | cons i rest ih =>
    obtain ⟨_, next⟩ := turn.step guarded i
    exact ih next

omit [DecidableEq ι] in
theorem of {others : List Claim} (tied : start.volumeLocks.Tied others)
    (free : ∀ claim ∈ others, claim.key ≠ id.text) :
    InTurn id start routines (fun _ => none) (.of start routines) where
  lined := ⟨others, tied, nofun, nofun, fun claim member key => absurd key (free claim member)⟩
  stage _ := .unstarted List.not_mem_nil
  once := List.nodup_nil
  answers := rfl
  idle _ := rfl
  busy inside := absurd inside List.not_mem_nil

omit [DecidableEq ι] in
theorem ended (turn : InTurn id start routines claimOf c) {results : ι → α}
    (ended : c.Ended results) :
    (runAll (c.entered.map routines) start).1 = c.entered.map results ∧
      (runAll (c.entered.map routines) start).2.unlocked = c.world.unlocked ∧
      ∀ i, i ∉ c.entered → routines i = done (results i) := by
  have through : ∀ i, c.tasks i = .ready (.done (results i)) :=
    fun i => Task.result?_eq_some.1 (ended i)
  have none : ∀ i, claimOf i = none := fun i => (turn.stage i).claim_of_done (through i)
  refine ⟨?answers, (turn.idle fun i _ => none i).symm, ?refused⟩
  case answers =>
    rw [← turn.answers]
    apply List.map_congr_left
    intro i inside
    rw [through i]
    rfl
  case refused =>
    intro i yet
    have stage := turn.stage i
    rw [none i] at stage
    generalize task : c.tasks i = t at stage
    cases stage with
    | unstarted =>
      rw [through i] at task
      exact (Task.ready.inj task).symm
    | ended past => exact absurd past yet

end InTurn

namespace Crew

variable [DecidableEq ι] {c : Crew ι α} {i : ι}

def Through (c : Crew ι α) (i : ι) : Prop := ∃ value, c.tasks i = .ready (.done value)

theorem run_append (c : Crew ι α) (first later : List ι) :
    c.run (first ++ later) = (c.run first).run later :=
  List.foldl_append

theorem Through.run (through : c.Through i) (schedule : List ι) : (c.run schedule).Through i := by
  induction schedule generalizing c with
  | nil => exact through
  | cons j rest ih =>
    obtain ⟨value, task⟩ := through
    apply ih
    by_cases here : j = i
    · subst here
      exact ⟨value, by rw [step_of_done task, task]⟩
    · exact ⟨value, (Function.update_of_ne (Ne.symm here) ..).trans task⟩

theorem not_mem_entered (through : c.Through i) (out : i ∉ c.entered) (schedule : List ι) :
    i ∉ (c.run schedule).entered := by
  induction schedule generalizing c with
  | nil => exact out
  | cons j rest ih =>
    by_cases here : j = i
    · subst here
      obtain ⟨value, task⟩ := through
      apply ih (c := c.step j) <;> rw [step_of_done task]
      · exact ⟨value, task⟩
      · exact out
    · apply ih (through.run [j])
      show i ∉ (c.step j).entered
      simp only [step]
      split
      · simp [out, Ne.symm here]
      · exact out

theorem exists_through {rest : Routine α} {claim : Claim} (plain : rest.Plain)
    (task : c.tasks i = .ready (rest >>= release claim)) :
    ∃ schedule, (c.run schedule).Through i := by
  induction rest generalizing c with
  | done value =>
    have ended : (c.step i).tasks i = .ready (.done value) := by
      rw [step_of_release task]
      exact Function.update_self ..
    exact ⟨[i], value, ended⟩
  | call effect next ih =>
    have later : (c.step i).tasks i =
        .ready (next (effect.perform c.world).1 >>= release claim) := by
      rw [step_of_plain plain.1 task]
      exact Function.update_self ..
    obtain ⟨schedule, through⟩ := ih _ (plain.2 _) later
    exact ⟨i :: schedule, through⟩

theorem exists_through_of_arrived {work : Routine α} {claim : Claim} {locks : LockTable}
    (plain : work.Plain)
    (next : c.step i = c.arrived i claim (fun claim => work >>= release claim) locks)
    (got : locks.holds claim = true) : ∃ schedule, (c.run schedule).Through i := by
  have task : (c.step i).tasks i = .ready (work >>= release claim) := by
    rw [next]
    exact (Function.update_self ..).trans (if_pos got)
  obtain ⟨schedule, through⟩ := exists_through plain task
  exact ⟨i :: schedule, through⟩

end Crew

namespace InTurn

variable {id : VolumeId} {start : World} {routines : ι → Routine α} {claimOf : ι → Option Claim}
  {c : Crew ι α} {i : ι}

theorem not_through (turn : InTurn id start routines claimOf c) {claim : Claim}
    (has : claimOf i = some claim) : ¬ c.Through i := by
  intro through
  obtain ⟨value, task⟩ := through
  rw [(turn.stage i).claim_of_done task] at has
  cases has

variable [DecidableEq ι]

theorem exists_progress (turn : InTurn id start routines claimOf c)
    (guarded : ∀ i, (routines i).Guarded id) (unfinished : ¬ c.Through i) :
    ∃ j schedule, ¬ c.Through j ∧ (c.run schedule).Through j := by
  obtain ⟨claims, lined⟩ := turn.lined
  cases found : claims.find? (·.key = id.text) with
  | none =>
    have nobody : ∀ claim ∈ claims, claim.key ≠ id.text := by
      simpa using found
    refine ⟨i, ?_⟩
    have stage := turn.stage i
    generalize task : c.tasks i = t at stage
    generalize has : claimOf i = claim? at stage
    cases stage with
    | unstarted yet =>
      rcases guarded i with ⟨value, refused⟩ | ⟨work, plain, whole⟩
      · exact absurd ⟨value, refused ▸ task⟩ unfinished
      · have got := (lined.tied.holds_claim_iff id.text).2 nobody
        obtain ⟨schedule, through⟩ :=
          Crew.exists_through_of_arrived plain (Crew.step_of_under (whole ▸ task)) got
        exact ⟨schedule, unfinished, through⟩
    | waiting | working => exact absurd (lined.own has).2 (nobody _ (lined.own has).1)
    | ended => exact absurd ⟨_, task⟩ unfinished
  | some claim =>
    -- The task to go on is the one whose claim has waited longest, which need not be `i`.
    obtain ⟨key, before, after, rfl, earlier⟩ := List.find?_eq_some_iff_append.1 found
    have key : claim.key = id.text := by simpa using key
    have earlier : ∀ e ∈ before, e.key ≠ claim.key := by simpa [key] using earlier
    obtain ⟨j, has⟩ := lined.manned claim (by simp) key
    have behind := turn.not_through has
    have stage := turn.stage j
    generalize task : c.tasks j = t at stage
    rw [has] at stage
    cases stage with
    | waiting plain whole yet =>
      have got : (c.world.volumeLocks.look claim).holds claim = true := by
        rw [LockTable.holds_look_self]
        exact lined.tied.grants_iff.2 earlier
      obtain ⟨schedule, through⟩ :=
        Crew.exists_through_of_arrived plain (Crew.step_of_waiting task) got
      exact ⟨j, schedule, behind, through⟩
    | working plain held inside =>
      obtain ⟨schedule, through⟩ := Crew.exists_through plain task
      exact ⟨j, schedule, behind, through⟩

theorem exists_ended (turn : InTurn id start routines claimOf c)
    (guarded : ∀ i, (routines i).Guarded id) {unfinished : List ι}
    (others : ∀ i, i ∈ unfinished ∨ c.Through i) :
    ∃ schedule results, (c.run schedule).Ended results := by
  induction count : unfinished.length using Nat.strongRecOn generalizing c claimOf unfinished with
  | ind n ih =>
  by_cases all : ∀ i, c.Through i
  · obtain ⟨results, ended⟩ := Classical.skolem.1 all
    exact ⟨[], results, fun i => Task.result?_eq_some.2 (ended i)⟩
  · obtain ⟨i, running⟩ := Classical.not_forall.1 all
    obtain ⟨j, schedule, behind, through⟩ := turn.exists_progress guarded running
    obtain ⟨claimOf', later⟩ := turn.run guarded schedule
    have fewer : (unfinished.filter (· ≠ j)).length < unfinished.length := by
      have listed := (others j).resolve_right behind
      apply List.length_filter_lt_length_iff_exists.2
      exact ⟨j, listed, by simp⟩
    have left : ∀ i, i ∈ unfinished.filter (· ≠ j) ∨ (c.run schedule).Through i := by
      intro i
      by_cases here : i = j
      · exact .inr (here ▸ through)
      · rcases others i with listed | done
        · exact .inl (by simp [listed, here])
        · exact .inr (done.run schedule)
    obtain ⟨more, results, ended⟩ := ih _ (count ▸ fewer) later left rfl
    exact ⟨schedule ++ more, results, by rw [Crew.run_append]; exact ended⟩

end InTurn

end BlockVolumes
