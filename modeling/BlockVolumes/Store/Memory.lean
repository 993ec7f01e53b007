import BlockVolumes.Store.Error
import BlockVolumes.Volume.Basic

/-!
A store that keeps the records themselves.
-/

namespace BlockVolumes

/-- Older records come first, and of records as old as each other the one with the lower ID. -/
def Volume.precedes (a b : Volume) : Bool :=
  if a.created = b.created then decide (a.id.text ≤ b.id.text) else a.created.le b.created

def Volume.insertInOrder (v : Volume) : List Volume → List Volume
  | [] => [v]
  | w :: rest => if v.precedes w then v :: w :: rest else w :: v.insertInOrder rest

def inOrderOfCreation (volumes : List Volume) : List Volume :=
  volumes.foldr Volume.insertInOrder []

structure MemoryStore where
  records : Table Volume

namespace MemoryStore

def empty : MemoryStore := ⟨.empty⟩

def create (s : MemoryStore) (v : Volume) : Except StoreError Unit × MemoryStore :=
  if s.records.contains v.id.text then (.error (.alreadyExists v.id.text), s)
  else (.ok (), ⟨s.records.insert v.id.text v⟩)

def get (s : MemoryStore) (id : VolumeId) : Except StoreError (Option Volume) :=
  .ok (s.records.get? id.text)

def update (s : MemoryStore) (v : Volume) : Except StoreError Unit × MemoryStore :=
  if s.records.contains v.id.text then (.ok (), ⟨s.records.insert v.id.text v⟩)
  else (.error (.notFound v.id.text), s)

def delete (s : MemoryStore) (id : VolumeId) : Except StoreError Unit × MemoryStore :=
  if s.records.contains id.text then (.ok (), ⟨s.records.erase id.text⟩)
  else (.error (.notFound id.text), s)

def list (s : MemoryStore) : Except StoreError (List Volume) :=
  .ok (inOrderOfCreation s.records.values)

end MemoryStore

end BlockVolumes
