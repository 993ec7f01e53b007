import BlockVolumes.Proofs.Lock.Line

/-! What is done to one lock table over time. Claims are kept in slots; the next claim put in a slot
takes the place of the one that was there. -/

namespace BlockVolumes

inductive Step
  | lock (slot key : String)
  | poll (slot : String)
  | drop (slot : String)
deriving DecidableEq

def Step.looksAt : Step → Option String
  | .lock slot _ | .poll slot => some slot
  | .drop _ => none

inductive Answer
  | got (key : String)
  | waiting
  | dropped
  | nothing
deriving DecidableEq

/-- `claims` are those alive, each with its slot, from the oldest to the latest. `gone` are the
others, the last to go away first, and whether they had got the lock. -/
structure Slots where
  table : LockTable
  claims : List (String × Claim)
  gone : List (Claim × Bool)

namespace Slots

def empty : Slots := ⟨.empty, [], []⟩

def inSlot (s : Slots) (slot : String) : Option (String × Claim) :=
  s.claims.find? (·.1 = slot)

def letGo (s : Slots) (slot : String) : Slots :=
  match s.inSlot slot with
  | some (_, c) =>
    ⟨s.table.drop c, s.claims.eraseP (·.1 = slot), (c, s.table.holds c) :: s.gone⟩
  | none => s

def answerTo (table : LockTable) (c : Claim) : Answer :=
  if table.holds c then .got c.key else .waiting

/-- A claim gets its first look before the one that it takes the place of goes away. -/
def step (s : Slots) : Step → Answer × Slots
  | .lock slot key =>
    let started := s.table.claim key
    let rest := { s with table := started.2 }.letGo slot
    (answerTo started.2 started.1, { rest with claims := rest.claims ++ [(slot, started.1)] })
  | .poll slot =>
    match s.inSlot slot with
    | some (_, c) => (answerTo (s.table.look c) c, { s with table := s.table.look c })
    | none => (.nothing, s)
  | .drop slot => (if (s.inSlot slot).isSome then .dropped else .nothing, s.letGo slot)

def follow (s : Slots) (steps : List Step) : Slots := steps.foldl (fun s x => (s.step x).2) s

def run (steps : List Step) : Slots := empty.follow steps

theorem run_append (steps more : List Step) : run (steps ++ more) = (run steps).follow more :=
  List.foldl_append

def Claimed (s : Slots) (key : String) : Prop := ∃ e ∈ s.claims, e.2.key = key

/-- Whether the last claim on the key to go away had not got the lock. -/
def Abandoned (s : Slots) (key : String) : Prop :=
  (s.gone.find? (·.1.key = key)).map (·.2) = some false

variable {s : Slots} {slot : String} {c : Claim} {late : List Claim}
  {before after : List (String × Claim)}

theorem inSlot_cases (s : Slots) (slot : String) :
    s.inSlot slot = none ∨ ∃ before c after, s.inSlot slot = some (slot, c) ∧
      s.claims = before ++ (slot, c) :: after ∧
      s.claims.eraseP (·.1 = slot) = before ++ after := by
  cases found : s.inSlot slot with
  | none => exact .inl rfl
  | some entry =>
    obtain ⟨name, c⟩ := entry
    obtain ⟨here, before, after, claims, others⟩ := List.find?_eq_some_iff_append.1 found
    obtain rfl : name = slot := by simpa using here
    refine .inr ⟨before, c, after, rfl, claims, ?_⟩
    rw [claims, List.eraseP_append_right _ (by simpa using others)]
    simp

theorem letGo_cases (s : Slots) (slot : String) :
    (∀ e ∈ s.claims, e.1 ≠ slot) ∧ s.letGo slot = s ∨
    ∃ before c after, s.claims = before ++ (slot, c) :: after ∧
      s.letGo slot = ⟨s.table.drop c, before ++ after, (c, s.table.holds c) :: s.gone⟩ := by
  rcases inSlot_cases s slot with found | ⟨before, c, after, found, claims, erased⟩
  · have nobody : ∀ e ∈ s.claims, e.1 ≠ slot := by simpa [inSlot] using found
    exact .inl ⟨nobody, by simp [letGo, found]⟩
  · exact .inr ⟨before, c, after, claims, by simp [letGo, found, erased]⟩

theorem abandoned_cons (t : LockTable) (claims : List (String × Claim)) (c : Claim) (got : Bool)
    (gone : List (Claim × Bool)) (key : String) :
    Abandoned ⟨t, claims, (c, got) :: gone⟩ key ↔
      if c.key = key then got = false else Abandoned ⟨t, claims, gone⟩ key := by
  by_cases here : c.key = key <;> simp [Abandoned, here]

theorem exists_mem_claims {key : String} :
    (∃ c ∈ s.claims.map (·.2), c.key = key) ↔ s.Claimed key := by
  constructor
  · rintro ⟨c, there, here⟩
    obtain ⟨e, member, rfl⟩ := List.mem_map.1 there
    exact ⟨e, member, here⟩
  · rintro ⟨e, member, here⟩
    exact ⟨e.2, List.mem_map.2 ⟨e, member, rfl⟩, here⟩

theorem exists_mem_middle {P : Claim → Prop} {before after : List Claim} :
    (∃ e ∈ before ++ c :: after, P e) ↔ P c ∨ ∃ e ∈ before ++ after, P e := by
  simp only [List.mem_append, List.mem_cons, or_and_right, exists_or, exists_eq_left]
  exact or_left_comm

structure Sound (s : Slots) (late : List Claim) : Prop where
  tied : s.table.Tied (s.claims.map (·.2) ++ late)
  slots : (s.claims.map (·.1)).Nodup
  kept : ∀ key, s.table.numbers.contains key = true ↔
    (∃ c ∈ s.claims.map (·.2) ++ late, c.key = key) ∨ s.Abandoned key

theorem sound_empty : Sound empty [] :=
  ⟨LockTable.tied_empty, List.nodup_nil,
    by simp [empty, LockTable.empty, Abandoned, Table.contains]⟩

namespace Sound

theorem slot_ne (sound : s.Sound late) (claims : s.claims = before ++ (slot, c) :: after)
    {e : String × Claim} (other : e ∈ before ++ after) : e.1 ≠ slot := by
  have slots := sound.slots
  rw [claims, List.map_append, List.map_cons, List.nodup_append, List.nodup_cons] at slots
  rcases List.mem_append.1 other with early | late
  · exact slots.2.2 e.1 (List.mem_map_of_mem early) slot List.mem_cons_self
  · rintro rfl
    exact slots.2.1.1 (List.mem_map.2 ⟨e, late, rfl⟩)

theorem ticket_ne (sound : s.Sound late) (claims : s.claims = before ++ (slot, c) :: after)
    {e : String × Claim} (other : e ∈ before ++ after) : e.2.ticket ≠ c.ticket := by
  have tied := sound.tied
  rw [claims, List.map_append, List.map_cons, List.append_assoc, List.cons_append] at tied
  apply tied.ticket_ne
  rw [← List.append_assoc, ← List.map_append]
  exact List.mem_append_left _ (List.mem_map_of_mem other)

theorem inSlot (sound : s.Sound late) (claims : s.claims = before ++ (slot, c) :: after) :
    s.inSlot slot = some (slot, c) := by
  have others : ∀ e ∈ before, ¬ e.1 = slot := by
    intro e early
    exact sound.slot_ne claims (List.mem_append_left _ early)
  have none : before.find? (·.1 = slot) = none := by simpa using others
  simp [Slots.inSlot, claims, none]

theorem letGo (sound : s.Sound late) (slot : String) : (s.letGo slot).Sound late := by
  rcases letGo_cases s slot with ⟨-, same⟩ | ⟨before, c, after, claims, gone⟩
  · rw [same]
    exact sound
  · have tied := sound.tied
    have kept := sound.kept
    have slots := sound.slots
    rw [claims, List.map_append, List.map_cons, List.append_assoc, List.cons_append] at tied
    simp only [claims, List.map_append, List.map_cons, List.append_assoc, List.cons_append] at kept
    rw [claims, List.map_append, List.map_cons] at slots
    rw [gone]
    constructor
    · rw [List.map_append, List.append_assoc]
      exact tied.drop
    · rw [List.map_append]
      exact slots.sublist ((List.sublist_cons_self _ _).append_left _)
    · intro key
      rw [tied.contains_drop, kept, abandoned_cons, List.map_append, List.append_assoc,
        exists_mem_middle]
      by_cases here : c.key = key
      · cases held : s.table.holds c <;> simp [here]
      · rw [if_neg here]
        simp [here, Abandoned]

theorem claim (sound : s.Sound []) (key : String) :
    Sound { s with table := (s.table.claim key).2 } [(s.table.claim key).1] := by
  have tied : s.table.Tied (s.claims.map (·.2)) := by simpa using sound.tied
  refine ⟨tied.claim key, sound.slots, ?_⟩
  intro other
  have numbers : (s.table.claim key).2.numbers =
    s.table.numbers.insert key (s.table.lockFor key) := rfl
  have mine : (s.table.claim key).1.key = key := rfl
  have kept := sound.kept other
  rw [Table.contains] at kept
  simp only [numbers, Table.contains, Table.get?_insert]
  by_cases here : key = other
  · subst here
    simp [mine]
  · simpa [here, mine, Abandoned] using kept

theorem mem_letGo (sound : s.Sound late) {e : String × Claim} (there : e ∈ (s.letGo slot).claims) :
    e ∈ s.claims ∧ e.1 ≠ slot := by
  rcases letGo_cases s slot with ⟨nobody, same⟩ | ⟨before, c, after, claims, gone⟩
  · rw [same] at there
    exact ⟨there, nobody e there⟩
  · rw [gone] at there
    refine ⟨?_, sound.slot_ne claims there⟩
    rw [claims]
    exact ((List.sublist_cons_self _ after).append_left before).mem there

theorem holds_letGo (sound : s.Sound late) (there : c ∈ (s.letGo slot).claims.map (·.2) ++ late) :
    (s.letGo slot).table.holds c = s.table.holds c := by
  rcases letGo_cases s slot with ⟨-, same⟩ | ⟨before, gone, after, claims, left⟩
  · rw [same]
  · have tied := sound.tied
    rw [claims, List.map_append, List.map_cons, List.append_assoc, List.cons_append] at tied
    rw [left] at there ⊢
    rw [List.map_append, List.append_assoc] at there
    exact tied.holds_drop there

theorem settle (sound : s.Sound [c]) (free : ∀ e ∈ s.claims, e.1 ≠ slot) :
    Sound { s with claims := s.claims ++ [(slot, c)] } [] := by
  refine ⟨?_, ?_, ?_⟩
  · simpa using sound.tied
  · have apart : ∀ name ∈ s.claims.map (·.1), name ≠ slot := by
      intro name there
      obtain ⟨e, member, rfl⟩ := List.mem_map.1 there
      exact free e member
    simpa [List.nodup_append, sound.slots] using apart
  · intro key
    have kept := sound.kept key
    simpa [Abandoned] using kept

theorem step (sound : s.Sound []) (x : Step) : (s.step x).2.Sound [] := by
  cases x with
  | lock slot key =>
    have started := sound.claim key
    exact (started.letGo slot).settle fun e there => (started.mem_letGo there).2
  | poll slot =>
    rcases inSlot_cases s slot with found | ⟨before, c, after, found, -, -⟩
    · simpa [Slots.step, found] using sound
    · have kept : ∀ key, (s.table.look c).numbers.contains key = s.table.numbers.contains key := by
        intro key
        rw [LockTable.numbers_look]
      have looked : Sound { s with table := s.table.look c } [] :=
        ⟨sound.tied.look c, sound.slots, fun key => (kept key ▸ sound.kept key :)⟩
      simpa [Slots.step, found] using looked
  | drop slot => exact sound.letGo slot

theorem follow (sound : s.Sound []) (steps : List Step) : (s.follow steps).Sound [] := by
  induction steps generalizing s with
  | nil => exact sound
  | cons x later ih => exact ih (sound.step x)

end Sound

theorem sound_run (steps : List Step) : (run steps).Sound [] := sound_empty.follow steps

theorem answerTo_eq_got (t : LockTable) (c : Claim) :
    answerTo t c = .got c.key ↔ t.holds c = true := by
  cases held : t.holds c <;> simp [answerTo, held]

namespace Sound

theorem lock_iff (sound : s.Sound []) (slot key : String) :
    (s.step (.lock slot key)).1 = .got key ↔ ¬ s.Claimed key := by
  have tied : s.table.Tied (s.claims.map (·.2)) := by simpa using sound.tied
  have first : (s.step (.lock slot key)).1 = .got key ↔
      (s.table.claim key).2.holds (s.table.claim key).1 = true :=
    answerTo_eq_got _ (s.table.claim key).1
  rw [first, tied.holds_claim_iff, ← exists_mem_claims]
  simp only [not_exists, not_and]

theorem poll_iff (sound : s.Sound []) (claims : s.claims = before ++ (slot, c) :: after) :
    (s.step (.poll slot)).1 = .got c.key ↔ ∀ e ∈ before, e.2.key ≠ c.key := by
  have tied := sound.tied
  rw [claims, List.append_nil, List.map_append, List.map_cons] at tied
  have answer : (s.step (.poll slot)).1 = answerTo (s.table.look c) c := by
    simp [Slots.step, sound.inSlot claims]
  rw [answer, answerTo_eq_got, LockTable.holds_look_self, tied.grants_iff, List.forall_mem_map]

theorem holds_lock_step (sound : s.Sound []) (slot key : String) {e : String × Claim}
    (alive : e ∈ (s.step (.lock slot key)).2.claims) :
    (s.step (.lock slot key)).2.table.holds e.2 = true ↔
      e ∈ s.claims ∧ s.table.holds e.2 = true ∨
        slot = e.1 ∧ (s.step (.lock slot key)).1 = .got e.2.key := by
  have older : ∀ other ∈ s.claims, other.2.ticket < s.table.tickets := by
    intro other there
    exact sound.tied.past other.2 (List.mem_append_left _ (List.mem_map.2 ⟨other, there, rfl⟩))
  have claimed := sound.claim key
  have own : (s.table.claim key).1.key = key := rfl
  have ticket : (s.table.claim key).1.ticket = s.table.tickets := rfl
  have unmoved : ∀ other ∈ s.claims,
      (s.table.claim key).2.holds other.2 = s.table.holds other.2 := by
    intro other there
    exact LockTable.holds_claim (older other there) key
  obtain ⟨c, t, started⟩ : ∃ c t, s.table.claim key = (c, t) := ⟨_, _, rfl⟩
  simp only [started] at claimed own ticket unmoved
  obtain ⟨rest, left⟩ : ∃ rest, rest = Slots.letGo { s with table := t } slot := ⟨_, rfl⟩
  have stepped : s.step (.lock slot key) =
      (answerTo t c, { rest with claims := rest.claims ++ [(slot, c)] }) := by
    simp [Slots.step, started, left]
  rw [stepped] at alive ⊢
  rcases List.mem_append.1 alive with other | new
  · rw [left] at other
    have there := claimed.mem_letGo other
    have kept : rest.table.holds e.2 = t.holds e.2 := by
      rw [left]
      exact claimed.holds_letGo (List.mem_append_left _ (List.mem_map_of_mem other))
    simp [kept, unmoved e there.1, there.1, Ne.symm there.2]
  · obtain rfl : e = (slot, c) := List.mem_singleton.1 new
    have kept : rest.table.holds c = t.holds c := by
      rw [left]
      exact claimed.holds_letGo (List.mem_append_right _ List.mem_cons_self)
    have unseen : (slot, c) ∉ s.claims := by
      intro there
      exact absurd (older _ there) (by simp [ticket])
    simp [kept, unseen, answerTo_eq_got]

theorem holds_poll_step (sound : s.Sound []) (slot : String) {e : String × Claim}
    (alive : e ∈ s.claims) :
    (s.step (.poll slot)).2.table.holds e.2 = true ↔
      s.table.holds e.2 = true ∨ slot = e.1 ∧ (s.step (.poll slot)).1 = .got e.2.key := by
  rcases inSlot_cases s slot with found | ⟨before, c, after, found, claims, -⟩
  · have stepped : s.step (.poll slot) = (.nothing, s) := by simp [Slots.step, found]
    simp [stepped]
  · have stepped : s.step (.poll slot) =
        (answerTo (s.table.look c) c, { s with table := s.table.look c }) := by
      simp [Slots.step, found]
    rw [stepped]
    rw [claims, List.mem_append, List.mem_cons] at alive
    by_cases mine : e = (slot, c)
    · subst mine
      have granted := LockTable.grants_of_holds (t := s.table) (c := c)
      simpa [answerTo_eq_got, LockTable.holds_look_self] using granted
    · have other : e ∈ before ++ after := by simpa [mine] using alive
      have kept : (s.table.look c).holds e.2 = s.table.holds e.2 :=
        LockTable.holds_look (sound.ticket_ne claims other).symm
      simp [kept, (sound.slot_ne claims other).symm]

theorem holds_step (sound : s.Sound []) (x : Step) {e : String × Claim}
    (alive : e ∈ (s.step x).2.claims) :
    (s.step x).2.table.holds e.2 = true ↔
      e ∈ s.claims ∧ s.table.holds e.2 = true ∨
        x.looksAt = some e.1 ∧ (s.step x).1 = .got e.2.key := by
  cases x with
  | lock slot key => simpa [Step.looksAt] using sound.holds_lock_step slot key alive
  | poll slot =>
    have there : e ∈ s.claims := by
      rcases inSlot_cases s slot with found | ⟨before, c, after, found, -, -⟩ <;>
        simpa [Slots.step, found] using alive
    simpa [Step.looksAt, there] using sound.holds_poll_step slot there
  | drop slot =>
    have there := sound.mem_letGo alive
    have kept : (s.letGo slot).table.holds e.2 = s.table.holds e.2 :=
      sound.holds_letGo (List.mem_append_left _ (List.mem_map_of_mem alive))
    have left : (s.step (.drop slot)).2 = s.letGo slot := rfl
    simp [left, kept, there.1, Step.looksAt]

theorem tickets_letGo (s : Slots) (slot : String) :
    (s.letGo slot).table.tickets = s.table.tickets := by
  rcases letGo_cases s slot with ⟨-, same⟩ | ⟨before, c, after, -, gone⟩
  · rw [same]
  · rw [gone, LockTable.tickets_drop]

theorem mem_step (sound : s.Sound []) (x : Step) {e : String × Claim}
    (alive : e ∈ (s.step x).2.claims) : e ∈ s.claims ∨ s.table.tickets ≤ e.2.ticket := by
  cases x with
  | lock slot key =>
    rcases List.mem_append.1 alive with other | new
    · exact .inl ((sound.claim key).mem_letGo other).1
    · rw [List.mem_singleton.1 new]
      exact .inr (Nat.le_refl _)
  | poll slot =>
    rcases inSlot_cases s slot with found | ⟨before, c, after, found, -, -⟩
    · exact .inl (by simpa [Slots.step, found] using alive)
    · exact .inl (by simpa [Slots.step, found] using alive)
  | drop slot => exact .inl (sound.mem_letGo alive).1

theorem tickets_step (s : Slots) (x : Step) :
    s.table.tickets ≤ (s.step x).2.table.tickets := by
  cases x with
  | lock slot key =>
    have more : (s.step (.lock slot key)).2.table.tickets = s.table.tickets + 1 :=
      tickets_letGo { s with table := (s.table.claim key).2 } slot
    omega
  | poll slot =>
    rcases inSlot_cases s slot with found | ⟨before, c, after, found, -, -⟩ <;>
      simp [Slots.step, found]
  | drop slot => exact Nat.le_of_eq (tickets_letGo s slot).symm

theorem not_mem_follow (sound : s.Sound []) {e : String × Claim} (gone : e ∉ s.claims)
    (old : e.2.ticket < s.table.tickets) (steps : List Step) : e ∉ (s.follow steps).claims := by
  induction steps generalizing s with
  | nil => exact gone
  | cons x later ih =>
    refine ih (sound.step x) ?_ (Nat.lt_of_lt_of_le old (tickets_step s x))
    intro back
    rcases sound.mem_step x back with there | new
    · exact gone there
    · exact absurd new (Nat.not_le_of_lt old)

theorem holds_follow (sound : s.Sound []) {e : String × Claim} (alive : e ∈ s.claims)
    (held : s.table.holds e.2 = true) (steps : List Step) (still : e ∈ (s.follow steps).claims) :
    (s.follow steps).table.holds e.2 = true := by
  induction steps generalizing s with
  | nil => exact held
  | cons x later ih =>
    have old : e.2.ticket < s.table.tickets :=
      sound.tied.past e.2 (List.mem_append_left _ (List.mem_map.2 ⟨e, alive, rfl⟩))
    by_cases there : e ∈ (s.step x).2.claims
    · have heldThen := (sound.holds_step x there).2 (.inl ⟨alive, held⟩)
      exact ih (sound.step x) there heldThen still
    · have never := (sound.step x).not_mem_follow there (Nat.lt_of_lt_of_le old (tickets_step s x))
      exact absurd still (never _)

theorem alone (sound : s.Sound []) {e other : String × Claim} (alive : e ∈ s.claims)
    (aliveToo : other ∈ s.claims) (same : other.2.key = e.2.key)
    (held : s.table.holds e.2 = true) (heldToo : s.table.holds other.2 = true) : other = e := by
  apply Decidable.byContradiction
  intro different
  obtain ⟨before, after, claims⟩ := List.append_of_mem alive
  have tied := sound.tied
  rw [claims, List.append_nil, List.map_append, List.map_cons] at tied
  have elsewhere : other.2 ∈ before.map (·.2) ++ after.map (·.2) := by
    have there : other ∈ before ++ after := by simpa [claims, different] using aliveToo
    rw [← List.map_append]
    exact List.mem_map.2 ⟨other, there, rfl⟩
  have unheld := tied.alone elsewhere same held
  rw [heldToo] at unheld
  cases unheld

end Sound

/-- At every point, for all that may come next: `locked` and `polled` tell who gets the lock at a
look, `held` that exactly those have it, from then on and until they go away. -/
structure FirstComeFirstServed (steps : List Step) : Prop where
  locked : ∀ slot key, ((run steps).step (.lock slot key)).1 = .got key ↔ ¬ (run steps).Claimed key
  polled : ∀ slot before c after, (run steps).claims = before ++ (slot, c) :: after →
    (((run steps).step (.poll slot)).1 = .got c.key ↔ ∀ e ∈ before, e.2.key ≠ c.key)
  held : ∀ x, ∀ e ∈ ((run steps).step x).2.claims,
    ((run steps).step x).2.table.holds e.2 = true ↔
      e ∈ (run steps).claims ∧ (run steps).table.holds e.2 = true ∨
        x.looksAt = some e.1 ∧ ((run steps).step x).1 = .got e.2.key
  kept : ∀ e ∈ (run steps).claims, (run steps).table.holds e.2 = true →
    ∀ more, e ∈ (run (steps ++ more)).claims → (run (steps ++ more)).table.holds e.2 = true
  alone : ∀ e ∈ (run steps).claims, ∀ other ∈ (run steps).claims, other.2.key = e.2.key →
    (run steps).table.holds e.2 = true → (run steps).table.holds other.2 = true → other = e

theorem first_come_first_served (steps : List Step) : FirstComeFirstServed steps := by
  have sound := sound_run steps
  constructor
  · intro slot key
    exact sound.lock_iff slot key
  · intro slot before c after claims
    exact sound.poll_iff claims
  · intro x e alive
    exact sound.holds_step x alive
  · intro e alive held more
    rw [run_append]
    exact sound.holds_follow alive held more
  · intro e alive other aliveToo same held heldToo
    exact sound.alone alive aliveToo same held heldToo

/-- A key is in the table while a claim on it is alive, and after that if the last claim on it to go
away had not got the lock. -/
theorem remembered_iff (steps : List Step) :
    (∀ key, (run steps).table.numbers.contains key = true ↔
      (run steps).Claimed key ∨ (run steps).Abandoned key) ∧
    ((run steps).claims = [] →
      ((run steps).table.size = 0 ↔ ∀ key, ¬ (run steps).Abandoned key)) := by
  have kept : ∀ key, (run steps).table.numbers.contains key = true ↔
      (run steps).Claimed key ∨ (run steps).Abandoned key := by
    intro key
    rw [(sound_run steps).kept, List.append_nil, exists_mem_claims]
  refine ⟨kept, ?_⟩
  intro nobody
  have unclaimed : ∀ key, ¬ (run steps).Claimed key := by simp [Claimed, nobody]
  rw [LockTable.size, Table.size_eq_zero_iff]
  simp [← Bool.not_eq_true, kept, unclaimed]

/-- The second claim is handed the lock when the first one goes away, and goes away without a
look. -/
theorem left_behind :
    (run [.lock "a" "k", .lock "b" "k", .drop "a", .drop "b"]).claims = [] ∧
      (run [.lock "a" "k", .lock "b" "k", .drop "a", .drop "b"]).table.size = 1 := by
  decide

end Slots

end BlockVolumes
