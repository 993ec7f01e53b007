import BlockVolumes.Store.Persistent

/-!
The store of volume records: five basic calls on either kind of store, and the queries built on
them. A store can be told to refuse some of its basic calls.
-/

namespace BlockVolumes

inductive Backend
  | memory (store : MemoryStore)
  | persistent (store : PersistentStore)

inductive StoreCall
  | create
  | get
  | update
  | delete
  | list
deriving DecidableEq

structure Store where
  backend : Backend
  refused : List StoreCall

namespace Store

def inMemory : Store := ⟨.memory .empty, []⟩

def onDisk : Store := ⟨.persistent .empty, []⟩

def guarded {α : Type} (s : Store) (call : StoreCall) (outcome : Except StoreError α) :
    Except StoreError α :=
  if call ∈ s.refused then .error (.database "injected") else outcome

def changing (s : Store) (call : StoreCall)
    (inMemory : MemoryStore → Except StoreError Unit × MemoryStore)
    (onDisk : PersistentStore → Except StoreError Unit × PersistentStore) :
    Except StoreError Unit × Store :=
  if call ∈ s.refused then (.error (.database "injected"), s)
  else match s.backend with
    | .memory store => (inMemory store).map id fun store => { s with backend := .memory store }
    | .persistent store =>
      (onDisk store).map id fun store => { s with backend := .persistent store }

def create (s : Store) (v : Volume) : Except StoreError Unit × Store :=
  s.changing .create (·.create v) (·.create v)

def get (s : Store) (id : VolumeId) : Except StoreError (Option Volume) :=
  s.guarded .get <| match s.backend with
    | .memory store => store.get id
    | .persistent store => store.get id

def update (s : Store) (v : Volume) : Except StoreError Unit × Store :=
  s.changing .update (·.update v) (·.update v)

def delete (s : Store) (id : VolumeId) : Except StoreError Unit × Store :=
  s.changing .delete (·.delete id) (·.delete id)

def list (s : Store) : Except StoreError (List Volume) :=
  s.guarded .list <| match s.backend with
    | .memory store => store.list
    | .persistent store => store.list

/-- The records of the IDs asked for, in that order; the first missing one is an error. -/
def inspect (s : Store) : List VolumeId → Except StoreError (List Volume)
  | [] => .ok []
  | id :: ids => do
    match ← s.get id with
    | some v => do .ok (v :: (← s.inspect ids))
    | none => .error (.notFound id.text)

/-- Labels that are not asked for never stand in the way. -/
def carries (wanted : Option Labels) (actual : Labels) : Bool :=
  match wanted with
  | some wanted => labelsWithin wanted actual
  | none => true

def enumerate (s : Store) (locator : Locator) (labels : Option Labels) :
    Except StoreError (List Volume) :=
  s.list.map fun volumes =>
    volumes.filter fun v => locator.picks v.locator && carries labels v.spec.labels

def isSnapshotOf (parents : List VolumeId) (v : Volume) : Bool :=
  match v.source.parent with
  | some parent => parents.isEmpty || parents.contains parent
  | none => false

def snapshots (s : Store) (parents : List VolumeId) (labels : Option Labels) :
    Except StoreError (List Volume) :=
  s.list.map fun volumes =>
    volumes.filter fun v => isSnapshotOf parents v && carries labels v.locator.labels

/-- Plants bytes in a store on disk; a store in memory has no place for them. -/
def plant (s : Store) (key : String) (bytes : List UInt8) : Store :=
  match s.backend with
  | .memory _ => s
  | .persistent store => { s with backend := .persistent (store.plant key bytes) }

/-- Number of records of a store in memory; a store on disk does not count them. -/
def size (s : Store) : Nat :=
  match s.backend with
  | .memory store => store.records.size
  | .persistent _ => 0

end Store

end BlockVolumes
