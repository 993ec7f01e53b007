import BlockVolumes.Lock.Table
import BlockVolumes.Proofs.Table

/-! The line of claims at each lock of a table, and that the claims on one key all stand in the line
of the lock that the key has. -/

namespace BlockVolumes

namespace FairLock

variable {l : FairLock} {line before after : List Nat} {ticket : Nat}

/-- These tickets stand at the lock; the first of them has been given it. -/
def Serves (l : FairLock) : List Nat → Prop
  | [] => l = free
  | first :: rest => (∃ awake, l.owner = some ⟨first, awake⟩) ∧ l.waiting = rest

theorem isOwner_iff : l.isOwner ticket = true ↔ ∃ awake, l.owner = some ⟨ticket, awake⟩ := by
  obtain ⟨owner, waiting⟩ := l
  cases owner with
  | none => simp [isOwner]
  | some o =>
    obtain ⟨first, awake⟩ := o
    simp [isOwner]

theorem Serves.isOwner_iff (serves : l.Serves line) :
    l.isOwner ticket = true ↔ line.head? = some ticket := by
  cases line with
  | nil =>
    obtain rfl : l = free := serves
    simp [isOwner, free]
  | cons first rest =>
    obtain ⟨⟨awake, owner⟩, -⟩ := serves
    simp [isOwner, owner]

theorem Serves.inUse_iff (serves : l.Serves line) : l.inUse = true ↔ line ≠ [] := by
  cases line with
  | nil =>
    obtain rfl : l = free := serves
    simp [inUse, free]
  | cons first rest =>
    obtain ⟨⟨awake, owner⟩, -⟩ := serves
    simp [inUse, owner]

theorem Serves.join (serves : l.Serves line) (ticket : Nat) :
    (l.join ticket).Serves (line ++ [ticket]) := by
  cases line with
  | nil =>
    obtain rfl : l = free := serves
    exact ⟨⟨true, rfl⟩, rfl⟩
  | cons first rest =>
    obtain ⟨⟨awake, owner⟩, waiting⟩ := serves
    have joined : l.join ticket = { l with waiting := l.waiting ++ [ticket] } := by
      simp [FairLock.join, owner]
    rw [joined, waiting]
    exact ⟨⟨awake, owner⟩, rfl⟩

theorem Serves.look (serves : l.Serves line) (ticket : Nat) : (l.look ticket).Serves line := by
  by_cases owns : l.isOwner ticket = true
  · cases line with
    | nil =>
      have first := serves.isOwner_iff.1 owns
      cases first
    | cons first rest =>
      obtain rfl : first = ticket := Option.some.inj (serves.isOwner_iff.1 owns)
      simp only [FairLock.look, owns, if_true]
      exact ⟨⟨true, rfl⟩, serves.2⟩
  · simpa [FairLock.look, owns] using serves

theorem Serves.handOver {first : Nat} {rest : List Nat} (serves : l.Serves (first :: rest)) :
    l.handOver.Serves rest := by
  have waiting : l.waiting = rest := serves.2
  cases rest with
  | nil => simp [FairLock.handOver, waiting, Serves]
  | cons next later => simp [FairLock.handOver, waiting, Serves]

theorem Serves.leave (serves : l.Serves (before ++ ticket :: after)) (other : ticket ∉ before) :
    (l.leave ticket).Serves (before ++ after) := by
  cases before with
  | nil =>
    have owns : l.isOwner ticket = true := serves.isOwner_iff.2 rfl
    simp only [FairLock.leave, owns, if_true]
    exact serves.handOver
  | cons first rest =>
    have owner := serves.1
    have waiting : l.waiting = rest ++ ticket :: after := serves.2
    have different : first ≠ ticket := fun same => other (same ▸ List.mem_cons_self)
    have later : ticket ∉ rest := fun member => other (List.mem_cons_of_mem _ member)
    have waits : ¬ l.isOwner ticket = true := by
      rw [serves.isOwner_iff]
      simpa using different
    have left : l.waiting.erase ticket = rest ++ after := by
      rw [waiting, List.erase_append_right _ later, List.erase_cons_head]
    simp only [FairLock.leave, waits, left]
    exact ⟨owner, rfl⟩

end FairLock

namespace LockTable

variable {t : LockTable} {c e : Claim} {key : String} {claims before after : List Claim}

theorem lookup_filter_ne (number other : Nat) (locks : List (Nat × FairLock)) :
    (locks.filter (·.1 ≠ number)).lookup other =
      if number = other then none else locks.lookup other := by
  induction locks with
  | nil => simp
  | cons entry rest ih =>
    obtain ⟨n, lock⟩ := entry
    by_cases gone : n = number
    · subst gone
      by_cases here : n = other
      · simpa [here] using ih
      · have apart : (other == n) = false := by simpa using Ne.symm here
        simpa [here, apart, List.lookup_cons] using ih
    · by_cases here : n = other
      · subst here
        simp [gone, Ne.symm gone]
      · have apart : (other == n) = false := by simpa using Ne.symm here
        simpa [gone, apart, List.lookup_cons] using ih

@[simp] theorem lockAt_withoutLock (t : LockTable) (number other : Nat) :
    (t.withoutLock number).lockAt other =
      if number = other then .free else t.lockAt other := by
  simp only [lockAt, withoutLock, lookup_filter_ne]
  split <;> rfl

@[simp] theorem lockAt_setLock (t : LockTable) (number other : Nat) (lock : FairLock) :
    (t.setLock number lock).lockAt other = if number = other then lock else t.lockAt other := by
  by_cases same : number = other
  · simp [lockAt, setLock, same]
  · have apart : (other == number) = false := by simpa using Ne.symm same
    have kept := lockAt_withoutLock t number other
    simp only [lockAt, same, if_false] at kept
    simp [lockAt, setLock, List.lookup_cons, apart, same, kept]

@[simp] theorem numbers_setLock (t : LockTable) (number : Nat) (lock : FairLock) :
    (t.setLock number lock).numbers = t.numbers := rfl

theorem lockAt_claim (t : LockTable) (key : String) (number : Nat) :
    (t.claim key).2.lockAt number =
      if t.lockFor key = number then (t.lockAt number).join t.tickets else t.lockAt number := by
  have joined : (t.claim key).2.lockAt number =
      if t.lockFor key = number then (t.lockAt (t.lockFor key)).join t.tickets
      else t.lockAt number :=
    lockAt_setLock _ _ _ _
  rw [joined]
  split
  · rename_i same
    rw [same]
  · rfl

@[simp] theorem numbers_look (t : LockTable) (c : Claim) : (t.look c).numbers = t.numbers := by
  unfold look
  split <;> rfl

@[simp] theorem tickets_look (t : LockTable) (c : Claim) : (t.look c).tickets = t.tickets := by
  unfold look
  split <;> rfl

@[simp] theorem tickets_tidy (t : LockTable) (key : String) : (t.tidy key).tickets = t.tickets := by
  unfold tidy
  split
  · split <;> rfl
  · rfl

@[simp] theorem tickets_drop (t : LockTable) (c : Claim) : (t.drop c).tickets = t.tickets := by
  unfold drop
  split
  · exact tickets_tidy _ _
  · rfl

theorem lockAt_tidy {number : Nat} (used : (t.lockAt number).inUse = true) (key : String) :
    (t.tidy key).lockAt number = t.lockAt number := by
  unfold tidy
  split
  · rename_i idle _
    split
    · rfl
    · rename_i unused
      have different : idle ≠ number := by
        rintro rfl
        exact unused used
      exact (lockAt_withoutLock t idle number).trans (if_neg different)
  · rfl

theorem numbers_tidy {number : Nat} (has : t.numbers.get? key = some number) :
    (t.tidy key).numbers =
      if (t.lockAt number).inUse then t.numbers else t.numbers.erase key := by
  simp only [tidy, has]
  split <;> rfl

def lineFor (key : String) (claims : List Claim) : List Nat :=
  (claims.filter (·.key = key)).map (·.ticket)

@[simp] theorem lineFor_append (key : String) (claims more : List Claim) :
    lineFor key (claims ++ more) = lineFor key claims ++ lineFor key more := by
  simp [lineFor]

theorem lineFor_cons_of_eq (same : c.key = key) (claims : List Claim) :
    lineFor key (c :: claims) = c.ticket :: lineFor key claims := by
  simp [lineFor, same]

theorem lineFor_cons_of_ne (different : c.key ≠ key) (claims : List Claim) :
    lineFor key (c :: claims) = lineFor key claims := by
  simp [lineFor, different]

theorem lineFor_eq_nil : lineFor key claims = [] ↔ ∀ e ∈ claims, e.key ≠ key := by
  simp [lineFor, List.filter_eq_nil_iff]

theorem mem_lineFor {ticket : Nat} :
    ticket ∈ lineFor key claims ↔ ∃ e ∈ claims, e.key = key ∧ e.ticket = ticket := by
  simp [lineFor, and_assoc]

/-- Every claim, from the oldest to the latest, shares in the lock that its key has, and the line at
each lock is made of the claims on its key. -/
structure Tied (t : LockTable) (claims : List Claim) : Prop where
  own : ∀ c ∈ claims, t.numbers.get? c.key = some c.lock
  served : ∀ key number, t.numbers.get? key = some number →
    (t.lockAt number).Serves (lineFor key claims)
  apart : ∀ key other number, t.numbers.get? key = some number →
    t.numbers.get? other = some number → key = other
  numbered : ∀ key number, t.numbers.get? key = some number → number < t.tickets
  unmade : ∀ number, t.tickets ≤ number → t.lockAt number = .free
  past : ∀ c ∈ claims, c.ticket < t.tickets
  ordered : (claims.map (·.ticket)).Pairwise (· < ·)

theorem tied_empty : Tied empty [] := by
  constructor <;> simp [empty, lockAt]

namespace Tied

theorem ticket_lt (tied : t.Tied (before ++ c :: after)) (earlier : e ∈ before) :
    e.ticket < c.ticket := by
  have ordered := tied.ordered
  rw [List.map_append, List.pairwise_append] at ordered
  exact ordered.2.2 _ (List.mem_map_of_mem earlier) _ (by simp)

theorem ticket_ne (tied : t.Tied (before ++ c :: after)) (other : e ∈ before ++ after) :
    e.ticket ≠ c.ticket := by
  rcases List.mem_append.1 other with early | late
  · exact Nat.ne_of_lt (tied.ticket_lt early)
  · have ordered := tied.ordered
    rw [List.map_append, List.map_cons, List.pairwise_append, List.pairwise_cons] at ordered
    exact Nat.ne_of_gt (ordered.2.1.1 _ (List.mem_map_of_mem late))

theorem line (tied : t.Tied claims) (member : c ∈ claims) :
    (t.lockAt c.lock).Serves (lineFor c.key claims) :=
  tied.served c.key c.lock (tied.own c member)

theorem lock_eq_iff (tied : t.Tied claims) (member : c ∈ claims) {number : Nat}
    (has : t.numbers.get? key = some number) : c.lock = number ↔ c.key = key := by
  have own := tied.own c member
  constructor
  · intro same
    exact tied.apart c.key key number (same ▸ own) has
  · intro same
    rw [same, has] at own
    exact (Option.some.inj own).symm

theorem claim (tied : t.Tied claims) (key : String) :
    (t.claim key).2.Tied (claims ++ [(t.claim key).1]) := by
  obtain ⟨n, chosen⟩ : ∃ n, n = t.lockFor key := ⟨_, rfl⟩
  have started : (t.claim key).1 = ⟨key, n, t.tickets⟩ := by rw [chosen]; rfl
  have numbers : (t.claim key).2.numbers = t.numbers.insert key n := by rw [chosen]; rfl
  have tickets : (t.claim key).2.tickets = t.tickets + 1 := rfl
  have locks : ∀ m, (t.claim key).2.lockAt m =
      if n = m then (t.lockAt m).join t.tickets else t.lockAt m := by
    intro m
    rw [chosen]
    exact lockAt_claim t key m
  -- the lock is the key's own or a new one: in either case no other key has it
  have ours : n ≤ t.tickets ∧ (t.lockAt n).Serves (lineFor key claims) ∧
      ∀ other, other ≠ key → t.numbers.get? other ≠ some n := by
    cases has : t.numbers.get? key with
    | none =>
      obtain rfl : n = t.tickets := by simpa [lockFor, has] using chosen
      have nobody : lineFor key claims = [] := by
        apply lineFor_eq_nil.2
        rintro e member rfl
        have own := tied.own e member
        simp [has] at own
      refine ⟨Nat.le_refl _, ?_, fun other _ there => ?_⟩
      · rw [nobody]
        exact tied.unmade _ (Nat.le_refl _)
      · exact absurd (tied.numbered other _ there) (Nat.lt_irrefl _)
    | some number =>
      obtain rfl : n = number := by simpa [lockFor, has] using chosen
      refine ⟨Nat.le_of_lt (tied.numbered key n has), tied.served key n has, ?_⟩
      intro other different there
      exact different (tied.apart other key n there has)
  obtain ⟨made, joined, alone⟩ := ours
  rw [started]
  constructor
  · intro c member
    rw [numbers]
    rcases List.mem_append.1 member with before | new
    · have own := tied.own c before
      by_cases here : c.key = key
      · have same : c.lock = n := by
          simp [chosen, LockTable.lockFor, ← here, own]
        simp [here, same]
      · simpa [Ne.symm here] using own
    · rw [List.mem_singleton.1 new]
      simp
  · intro other number has
    rw [numbers, Table.get?_insert_eq_some] at has
    rcases has with ⟨rfl, rfl⟩ | ⟨different, has⟩
    · have mine : lineFor key [⟨key, n, t.tickets⟩] = [t.tickets] := lineFor_cons_of_eq rfl []
      rw [locks, if_pos rfl, lineFor_append, mine]
      exact joined.join t.tickets
    · have theirs : lineFor other [⟨key, n, t.tickets⟩] = [] := lineFor_cons_of_ne different []
      have unlike : n ≠ number := fun same => alone other (Ne.symm different) (same ▸ has)
      rw [locks, if_neg unlike, lineFor_append, theirs, List.append_nil]
      exact tied.served other number has
  · intro first second number hasFirst hasSecond
    rw [numbers, Table.get?_insert_eq_some] at hasFirst hasSecond
    rcases hasFirst with ⟨rfl, rfl⟩ | ⟨differentFirst, hasFirst⟩ <;>
      rcases hasSecond with ⟨rfl, same⟩ | ⟨differentSecond, hasSecond⟩
    · rfl
    · exact absurd hasSecond (alone second (Ne.symm differentSecond))
    · exact absurd (same ▸ hasFirst) (alone first (Ne.symm differentFirst))
    · exact tied.apart first second number hasFirst hasSecond
  · intro other number has
    rw [numbers, Table.get?_insert_eq_some] at has
    rw [tickets]
    rcases has with ⟨-, rfl⟩ | ⟨-, has⟩
    · omega
    · have := tied.numbered other number has
      omega
  · intro number later
    rw [tickets] at later
    have unlike : n ≠ number := by omega
    rw [locks, if_neg unlike]
    exact tied.unmade number (by omega)
  · intro c member
    rw [tickets]
    rcases List.mem_append.1 member with before | new
    · have := tied.past c before
      omega
    · rw [List.mem_singleton.1 new]
      exact Nat.lt_succ_self _
  · rw [List.map_append, List.pairwise_append]
    refine ⟨tied.ordered, by simp, ?_⟩
    intro ticket before other new
    obtain ⟨c, member, rfl⟩ := List.mem_map.1 before
    have last : other = t.tickets := by simpa using new
    rw [last]
    exact tied.past c member

theorem look (tied : t.Tied claims) (c : Claim) : (t.look c).Tied claims := by
  by_cases granted : t.grants c = true
  · have looked : t.look c = t.setLock c.lock ((t.lockAt c.lock).look c.ticket) := if_pos granted
    rw [looked]
    refine { tied with served := ?_, unmade := ?_ }
    · intro key number has
      rw [lockAt_setLock]
      split
      · rename_i here
        exact here ▸ (tied.served key number has).look c.ticket
      · exact tied.served key number has
    · intro number later
      rw [lockAt_setLock, tied.unmade number later]
      split
      · rename_i here
        have free : t.lockAt c.lock = .free := here ▸ tied.unmade number later
        simp [grants, free, FairLock.isOwner, FairLock.free] at granted
      · rfl
  · have same : t.look c = t := if_neg granted
    rw [same]
    exact tied

theorem tidy (tied : t.Tied claims) (key : String) : (t.tidy key).Tied claims := by
  cases has : t.numbers.get? key with
  | none =>
    have same : t.tidy key = t := by simp [LockTable.tidy, has]
    rw [same]
    exact tied
  | some number =>
  by_cases used : (t.lockAt number).inUse = true
  · have same : t.tidy key = t := by simp [LockTable.tidy, has, used]
    rw [same]
    exact tied
  · have nobody : ∀ e ∈ claims, e.key ≠ key := by
      apply lineFor_eq_nil.1
      simpa [(tied.served key number has).inUse_iff] using used
    have tidied : t.tidy key = { t.withoutLock number with numbers := t.numbers.erase key } := by
      simp [LockTable.tidy, has, used]
    rw [tidied]
    constructor
    · intro c member
      exact Table.get?_erase_eq_some.2 ⟨(nobody c member).symm, tied.own c member⟩
    · intro other n there
      obtain ⟨different, there⟩ := Table.get?_erase_eq_some.1 there
      have unlike : number ≠ n := fun same => different (tied.apart key other n (same ▸ has) there)
      have kept : ((t.withoutLock number).lockAt n).Serves (lineFor other claims) := by
        simpa [unlike] using tied.served other n there
      exact kept
    · intro first second n hasFirst hasSecond
      exact tied.apart first second n (Table.get?_erase_eq_some.1 hasFirst).2
        (Table.get?_erase_eq_some.1 hasSecond).2
    · intro other n there
      exact tied.numbered other n (Table.get?_erase_eq_some.1 there).2
    · intro n later
      have kept : (t.withoutLock number).lockAt n = .free := by
        rw [lockAt_withoutLock, tied.unmade n later, ite_self]
      exact kept
    · exact tied.past
    · exact tied.ordered

theorem left (tied : t.Tied (before ++ c :: after)) :
    (t.setLock c.lock ((t.lockAt c.lock).leave c.ticket)).Tied (before ++ after) := by
  have member : c ∈ before ++ c :: after := by simp
  have fewer : (before ++ after).Sublist (before ++ c :: after) :=
    (List.sublist_cons_self c after).append_left before
  refine { tied with
    own := fun e there => tied.own e (fewer.mem there)
    served := ?_
    unmade := ?_
    past := fun e there => tied.past e (fewer.mem there)
    ordered := ?_ }
  · intro key number has
    have serves := tied.served key number has
    rw [lockAt_setLock, lineFor_append]
    by_cases here : c.key = key
    · have mine : c.lock = number := (tied.lock_eq_iff member has).2 here
      have other : c.ticket ∉ lineFor key before := by
        intro there
        obtain ⟨e, early, -, same⟩ := mem_lineFor.1 there
        exact absurd (tied.ticket_lt early) (by omega)
      rw [lineFor_append, lineFor_cons_of_eq here] at serves
      rw [if_pos mine, mine]
      exact serves.leave other
    · have theirs : c.lock ≠ number := fun same => here ((tied.lock_eq_iff member has).1 same)
      rw [lineFor_append, lineFor_cons_of_ne here] at serves
      rw [if_neg theirs]
      exact serves
  · intro number later
    have made := tied.numbered c.key c.lock (tied.own c member)
    have theirs : c.lock ≠ number := by
      rintro rfl
      exact absurd later (Nat.not_le_of_lt made)
    rw [lockAt_setLock, if_neg theirs]
    exact tied.unmade number later
  · exact tied.ordered.sublist (fewer.map _)

theorem drop (tied : t.Tied (before ++ c :: after)) : (t.drop c).Tied (before ++ after) := by
  unfold LockTable.drop
  split
  · exact tied.left.tidy c.key
  · exact tied.left

end Tied

theorem holds_iff : t.holds c = true ↔ (t.lockAt c.lock).owner = some ⟨c.ticket, true⟩ := by
  simp [holds]

theorem grants_of_holds (held : t.holds c = true) : t.grants c = true := by
  simp [grants, FairLock.isOwner, holds_iff.1 held]

theorem holds_look_self (t : LockTable) (c : Claim) : (t.look c).holds c = t.grants c := by
  cases granted : t.grants c with
  | true =>
    have owns : (t.lockAt c.lock).isOwner c.ticket = true := granted
    simp [look, granted, holds, FairLock.look, owns]
  | false =>
    have unheld : t.holds c = false := by
      apply Bool.eq_false_iff.2
      intro held
      rw [grants_of_holds held] at granted
      cases granted
    simpa [look, granted] using unheld

theorem holds_claim (older : c.ticket < t.tickets) (key : String) :
    (t.claim key).2.holds c = t.holds c := by
  rw [Bool.eq_iff_iff, holds_iff, holds_iff, lockAt_claim]
  split
  · have different : t.tickets ≠ c.ticket := by omega
    cases owner : (t.lockAt c.lock).owner with
    | none => simp [FairLock.join, owner, different]
    | some first => simp [FairLock.join, owner]
  · rfl

theorem holds_look (other : e.ticket ≠ c.ticket) : (t.look e).holds c = t.holds c := by
  by_cases granted : t.grants e = true
  · have owns : (t.lockAt e.lock).isOwner e.ticket = true := granted
    rw [Bool.eq_iff_iff, holds_iff, holds_iff, look, if_pos granted, lockAt_setLock]
    split
    · rename_i same
      obtain ⟨awake, owner⟩ := FairLock.isOwner_iff.1 owns
      simp [FairLock.look, owns, ← same, owner, other]
    · rfl
  · rw [look, if_neg granted]

namespace Tied

theorem grants_iff (tied : t.Tied (before ++ c :: after)) :
    t.grants c = true ↔ ∀ e ∈ before, e.key ≠ c.key := by
  have serves := tied.line (c := c) (by simp)
  rw [lineFor_append, lineFor_cons_of_eq rfl] at serves
  have first : t.grants c = true ↔
      (lineFor c.key before ++ c.ticket :: lineFor c.key after).head? = some c.ticket :=
    serves.isOwner_iff
  rw [first, ← lineFor_eq_nil]
  constructor
  · intro leads
    cases line : lineFor c.key before with
    | nil => rfl
    | cons ticket rest =>
      have same : ticket = c.ticket := by simpa [line] using leads
      have there : ticket ∈ lineFor c.key before := by simp [line]
      obtain ⟨e, early, -, rfl⟩ := mem_lineFor.1 there
      exact absurd same (Nat.ne_of_lt (tied.ticket_lt early))
  · intro nobody
    simp [nobody]

theorem holds_claim_iff (tied : t.Tied claims) (key : String) :
    (t.claim key).2.holds (t.claim key).1 = true ↔ ∀ e ∈ claims, e.key ≠ key := by
  constructor
  · intro held
    exact (tied.claim key).grants_iff.1 (grants_of_holds held)
  · intro alone
    apply holds_iff.2
    have idle : t.lockAt (t.lockFor key) = .free := by
      cases has : t.numbers.get? key with
      | none =>
        apply tied.unmade
        simp [lockFor, has]
      | some number =>
        have serves := tied.served key number has
        rw [lineFor_eq_nil.2 alone] at serves
        have same : t.lockFor key = number := by simp [lockFor, has]
        rw [same]
        exact serves
    have locks : (t.claim key).2.lockAt (t.lockFor key) = FairLock.free.join t.tickets := by
      rw [lockAt_claim, if_pos rfl, idle]
    exact congrArg FairLock.owner locks

theorem holds_drop (tied : t.Tied (before ++ e :: after)) (member : c ∈ before ++ after) :
    (t.drop e).holds c = t.holds c := by
  obtain ⟨left, leaves⟩ :
    ∃ left, left = t.setLock e.lock ((t.lockAt e.lock).leave e.ticket) := ⟨_, rfl⟩
  have shared : (left.lockAt c.lock).inUse = true := by
    rw [leaves, (tied.left.line member).inUse_iff, Ne, lineFor_eq_nil]
    exact fun nobody => nobody c member rfl
  have locks : (t.drop e).lockAt c.lock = left.lockAt c.lock := by
    unfold LockTable.drop
    rw [← leaves]
    split
    · exact lockAt_tidy shared e.key
    · rfl
  rw [Bool.eq_iff_iff, holds_iff, holds_iff, locks, leaves, lockAt_setLock]
  split
  · rename_i same
    rw [same]
    by_cases owns : (t.lockAt c.lock).isOwner e.ticket = true
    · -- whoever comes next does not know yet
      obtain ⟨awake, owner⟩ := FairLock.isOwner_iff.1 owns
      have other := (tied.ticket_ne member).symm
      cases waiting : (t.lockAt c.lock).waiting with
      | nil => simp [FairLock.leave, owns, FairLock.handOver, waiting, FairLock.free, owner, other]
      | cons next later => simp [FairLock.leave, owns, FairLock.handOver, waiting, owner, other]
    · simp [FairLock.leave, owns]
  · rfl

theorem contains_drop (tied : t.Tied (before ++ c :: after)) (key : String) :
    (t.drop c).numbers.contains key = true ↔ t.numbers.contains key = true ∧
      (c.key = key → t.holds c = true → ∃ e ∈ before ++ after, e.key = key) := by
  have own := tied.own c (by simp)
  unfold LockTable.drop
  split
  · rename_i held
    obtain ⟨left, leaves⟩ :
      ∃ left, left = t.setLock c.lock ((t.lockAt c.lock).leave c.ticket) := ⟨_, rfl⟩
    have tiedLeft : left.Tied (before ++ after) := leaves ▸ tied.left
    have numbers : left.numbers = t.numbers := by rw [leaves, numbers_setLock]
    have has : left.numbers.get? c.key = some c.lock := by rw [numbers, own]
    have used : (left.lockAt c.lock).inUse = true ↔ ∃ e ∈ before ++ after, e.key = c.key := by
      have serves := tiedLeft.served c.key c.lock has
      rw [serves.inUse_iff, Ne, lineFor_eq_nil]
      simp
    rw [← leaves, Table.contains, numbers_tidy has, numbers]
    by_cases shared : (left.lockAt c.lock).inUse = true
    · rw [if_pos shared]
      constructor
      · intro there
        refine ⟨there, ?_⟩
        rintro rfl -
        exact used.1 shared
      · exact And.left
    · have nobody : ¬ ∃ e ∈ before ++ after, e.key = c.key := fun there => shared (used.2 there)
      rw [if_neg shared, Table.get?_erase]
      by_cases here : c.key = key
      · subst here
        constructor
        · intro there
          simp at there
        · rintro ⟨-, someone⟩
          exact absurd (someone rfl held) nobody
      · simp [here, Table.contains]
  · rename_i unheld
    simp [unheld]

theorem alone (tied : t.Tied (before ++ c :: after)) (other : e ∈ before ++ after)
    (same : e.key = c.key) (held : t.holds c = true) : t.holds e = false := by
  have member : c ∈ before ++ c :: after := by simp
  have memberToo : e ∈ before ++ c :: after :=
    ((List.sublist_cons_self c after).append_left before).mem other
  have locks : e.lock = c.lock := (tied.lock_eq_iff memberToo (tied.own c member)).2 same
  apply Bool.eq_false_iff.2
  intro heldToo
  have owner := holds_iff.1 held
  have ownerToo := holds_iff.1 heldToo
  rw [locks, owner] at ownerToo
  have tickets : c.ticket = e.ticket := by simpa using ownerToo
  exact tied.ticket_ne other tickets.symm

end Tied

end LockTable

end BlockVolumes
