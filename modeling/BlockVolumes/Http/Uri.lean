import BlockVolumes.Http.Percent

/-!
Request targets: a path, perhaps a query, perhaps after a scheme and an authority.
-/

namespace BlockVolumes.Http

structure Uri where
  path : List UInt8
  query : List UInt8
deriving DecidableEq

namespace Uri

def slash : UInt8 := 47

def question : UInt8 := 63

def hash : UInt8 := 35

def inPath (b : UInt8) : Bool :=
  let n := b.toNat
  n == 0x21 || n == 0x22 || (0x24 ≤ n && n ≤ 0x3B) || n == 0x3D || (0x40 ≤ n && n ≤ 0x5F) ||
    (0x61 ≤ n && n ≤ 0x7E) || 0x7F ≤ n

def inQuery (b : UInt8) : Bool :=
  let n := b.toNat
  n == 0x21 || (0x24 ≤ n && n ≤ 0x3B) || n == 0x3D || 0x3F ≤ n

/-- Reads a path and its query; what follows a hash sign does not count. -/
def ofPath? (bytes : List UInt8) : Option Uri :=
  let path := bytes.takeWhile fun b => b != question && b != hash
  let query := match bytes.drop path.length with
    | [] => []
    | mark :: rest => if mark = question then rest.takeWhile (· != hash) else []
  if path.all inPath && query.all inQuery then some ⟨if path = [] then [slash] else path, query⟩
  else none

def inScheme (b : UInt8) : Bool :=
  let n := b.toNat
  (48 ≤ n && n ≤ 57) || (65 ≤ n && n ≤ 90) || (97 ≤ n && n ≤ 122) || n == 43 || n == 45 || n == 46

def afterScheme? (bytes : List UInt8) : Option (List UInt8) :=
  let scheme := bytes.takeWhile inScheme
  match bytes.drop scheme.length with
  | 58 :: 47 :: 47 :: rest => if scheme = [] ∨ 64 < scheme.length then none else some rest
  | _ => none

def inAuthority (b : UInt8) : Bool :=
  let n := b.toNat
  inScheme b || n == 0x21 || n == 0x24 || (0x26 ≤ n && n ≤ 0x2C) || n == 0x3A || n == 0x3B ||
    n == 0x3D || n == 0x40 || n == 0x5B || n == 0x5D || n == 0x5F || n == 0x7E

def isAuthority (bytes : List UInt8) : Bool :=
  let host := (splitBytes 64 bytes).getLastD []
  let port := (splitBytes 93 host).getLastD []
  bytes.all inAuthority && (bytes = [] || host ≠ []) && port.count 58 ≤ 1 &&
    bytes.count 91 == bytes.count 93 && bytes.count 91 ≤ 1

/-- A target without a path is a host alone, and has nowhere to go to. -/
def ofBytes? (bytes : List UInt8) : Option Uri :=
  if 65534 < bytes.length then none
  else match bytes with
    | [] => none
    | [42] => some ⟨[42], []⟩
    | b :: _ =>
      if b = slash then ofPath? bytes
      else match afterScheme? bytes with
        | some rest =>
          let authority := rest.takeWhile fun b => b != slash && b != question && b != hash
          if authority ≠ [] ∧ isAuthority authority then ofPath? (rest.drop authority.length)
          else none
        | none => if isAuthority bytes then some ⟨[], []⟩ else none

def parse? (target : String) : Option Uri := ofBytes? target.toUTF8.toList

def segments? (u : Uri) : Option (List (List UInt8)) :=
  match splitBytes slash u.path with
  | [] :: segments => some segments
  | _ => none

end Uri

end BlockVolumes.Http
