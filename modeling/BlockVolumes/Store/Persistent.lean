import BlockVolumes.Json.Read
import BlockVolumes.Json.Value
import BlockVolumes.Store.Memory
import BlockVolumes.Volume.Shape

/-!
A store that keeps the JSON text of each record, as bytes under the record's ID. Bytes that are no
record stay where they are until somebody reads them.
-/

namespace BlockVolumes

structure PersistentStore where
  cells : Table (List UInt8)

namespace PersistentStore

def empty : PersistentStore := ⟨.empty⟩

def recordBytes (v : Volume) : List UInt8 := (Volume.shape.toJson v).bytes

def readRecord (bytes : List UInt8) : Except StoreError Volume :=
  (Volume.shape.decode bytes).mapError fun e => .serialization e.message

def create (s : PersistentStore) (v : Volume) : Except StoreError Unit × PersistentStore :=
  if s.cells.contains v.id.text then (.error (.alreadyExists v.id.text), s)
  else (.ok (), ⟨s.cells.insert v.id.text (recordBytes v)⟩)

def get (s : PersistentStore) (id : VolumeId) : Except StoreError (Option Volume) :=
  match s.cells.get? id.text with
  | some bytes => (readRecord bytes).map some
  | none => .ok none

def update (s : PersistentStore) (v : Volume) : Except StoreError Unit × PersistentStore :=
  if s.cells.contains v.id.text then (.ok (), ⟨s.cells.insert v.id.text (recordBytes v)⟩)
  else (.error (.notFound v.id.text), s)

def delete (s : PersistentStore) (id : VolumeId) : Except StoreError Unit × PersistentStore :=
  if s.cells.contains id.text then (.ok (), ⟨s.cells.erase id.text⟩)
  else (.error (.notFound id.text), s)

/-- Fails if any cell holds no record. -/
def list (s : PersistentStore) : Except StoreError (List Volume) :=
  (s.cells.values.mapM readRecord).map inOrderOfCreation

def plant (s : PersistentStore) (key : String) (bytes : List UInt8) : PersistentStore :=
  ⟨s.cells.insert key bytes⟩

end PersistentStore

end BlockVolumes
