import BlockVolumes.Lock.Fair
import BlockVolumes.Table

/-!
Locks by key. A key gets a lock when it is first claimed, and whoever claims it then shares in that
lock and keeps to it. A claim that got the lock looks at the key's lock when it goes away and
forgets it if nobody shares in it any more; a claim that only waited leaves the lock in the table.
-/

namespace BlockVolumes

/-- A claim shares in one lock, known by its number, whatever lock its key may get later. -/
structure Claim where
  key : String
  lock : Nat
  ticket : Nat
deriving DecidableEq

/-- `numbers` tells which lock each key has. All locks there are, with a key or without, are in
`locks`, each under the ticket of the claim that it was made for. -/
structure LockTable where
  numbers : Table Nat
  locks : List (Nat × FairLock)
  tickets : Nat
deriving DecidableEq

namespace LockTable

def empty : LockTable := ⟨.empty, [], 0⟩

def lockAt (t : LockTable) (number : Nat) : FairLock := (t.locks.lookup number).getD .free

def withoutLock (t : LockTable) (number : Nat) : LockTable :=
  { t with locks := t.locks.filter (·.1 ≠ number) }

def setLock (t : LockTable) (number : Nat) (lock : FairLock) : LockTable :=
  { t with locks := (number, lock) :: (t.withoutLock number).locks }

/-- The lock for a claim made now: the one that its key has, or else a new one. -/
def lockFor (t : LockTable) (key : String) : Nat := (t.numbers.get? key).getD t.tickets

def claim (t : LockTable) (key : String) : Claim × LockTable :=
  let number := t.lockFor key
  let entered : LockTable :=
    { t with numbers := t.numbers.insert key number, tickets := t.tickets + 1 }
  (⟨key, number, t.tickets⟩, entered.setLock number ((t.lockAt number).join t.tickets))

def grants (t : LockTable) (c : Claim) : Bool := (t.lockAt c.lock).isOwner c.ticket

def look (t : LockTable) (c : Claim) : LockTable :=
  if t.grants c then t.setLock c.lock ((t.lockAt c.lock).look c.ticket) else t

/-- Whether the claim has got the lock and knows it. -/
def holds (t : LockTable) (c : Claim) : Bool :=
  (t.lockAt c.lock).owner == some ⟨c.ticket, true⟩

/-- Forgets the lock of a key, unless somebody shares in it. -/
def tidy (t : LockTable) (key : String) : LockTable :=
  match t.numbers.get? key with
  | some number =>
    if (t.lockAt number).inUse then t
    else { t.withoutLock number with numbers := t.numbers.erase key }
  | none => t

def drop (t : LockTable) (c : Claim) : LockTable :=
  let left := t.setLock c.lock ((t.lockAt c.lock).leave c.ticket)
  if t.holds c then left.tidy c.key else left

def size (t : LockTable) : Nat := t.numbers.size

end LockTable

end BlockVolumes
