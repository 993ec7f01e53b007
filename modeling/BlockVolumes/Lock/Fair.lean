/-!
A lock that is passed on first come, first served. Claims are known by their tickets.
-/

namespace BlockVolumes

/-- The claim that the lock was given to; it is `awake` once it has noticed. -/
structure Owner where
  ticket : Nat
  awake : Bool
deriving DecidableEq

structure FairLock where
  owner : Option Owner
  waiting : List Nat
deriving DecidableEq

namespace FairLock

def free : FairLock := ⟨none, []⟩

def join (l : FairLock) (ticket : Nat) : FairLock :=
  match l.owner with
  | none => { l with owner := some ⟨ticket, true⟩ }
  | some _ => { l with waiting := l.waiting ++ [ticket] }

def isOwner (l : FairLock) (ticket : Nat) : Bool :=
  l.owner.any (·.ticket == ticket)

/-- An owner that looks notices that the lock is its own. -/
def look (l : FairLock) (ticket : Nat) : FairLock :=
  if l.isOwner ticket then { l with owner := some ⟨ticket, true⟩ } else l

def handOver (l : FairLock) : FairLock :=
  match l.waiting with
  | [] => free
  | next :: waiting => ⟨some ⟨next, false⟩, waiting⟩

def leave (l : FairLock) (ticket : Nat) : FairLock :=
  if l.isOwner ticket then l.handOver else { l with waiting := l.waiting.erase ticket }

def inUse (l : FairLock) : Bool := l.owner.isSome || !l.waiting.isEmpty

end FairLock

end BlockVolumes
