/-!
File contents that are mostly zero: a length, and the bytes that are not zero.
-/

namespace BlockVolumes

/-- `bytes` holds the offsets and values of the bytes that are not zero. -/
structure SparseFile where
  length : Nat
  bytes : List (Nat × UInt8)
deriving DecidableEq

namespace SparseFile

def empty : SparseFile := ⟨0, []⟩

def resize (f : SparseFile) (length : Nat) : SparseFile :=
  ⟨length, f.bytes.filter (·.1 < length)⟩

def placed (offset : Nat) : List UInt8 → List (Nat × UInt8)
  | [] => []
  | b :: rest => if b = 0 then placed (offset + 1) rest else (offset, b) :: placed (offset + 1) rest

/-- Writing past the end makes the file longer; writing nothing changes nothing. -/
def write (f : SparseFile) (offset : Nat) (content : List UInt8) : SparseFile :=
  if content = [] then f
  else
    let stop := offset + content.length
    ⟨max f.length stop,
      f.bytes.filter (·.1 < offset) ++ placed offset content ++ f.bytes.filter (stop ≤ ·.1)⟩

def expand : (count offset : Nat) → List (Nat × UInt8) → List UInt8
  | 0, _, _ => []
  | count + 1, offset, [] => 0 :: expand count (offset + 1) []
  | count + 1, offset, (place, b) :: rest =>
    if place = offset then b :: expand count (offset + 1) rest
    else 0 :: expand count (offset + 1) ((place, b) :: rest)

def contents (f : SparseFile) : List UInt8 := expand f.length 0 f.bytes

def ofBytes (content : List UInt8) : SparseFile := empty.write 0 content

end SparseFile

end BlockVolumes
