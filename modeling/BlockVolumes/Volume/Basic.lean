import BlockVolumes.Shape.Basic

/-!
Volumes: how they are addressed, what was asked for, where they came from, and the record kept for
each.
-/

namespace BlockVolumes

abbrev Labels := Table String

structure VolumeId where
  text : String
deriving DecidableEq

structure Locator where
  name : String
  labels : Labels
deriving DecidableEq

inductive Filesystem
  | none
  | ext3
  | ext4
  | xfs
  | btrfs
deriving DecidableEq

/-- What was asked for; `scale` is the number of interchangeable volumes behind one name. -/
structure Spec where
  size : UInt64
  filesystem : Filesystem
  scale : UInt32
  labels : Labels
deriving DecidableEq

structure Source where
  parent : Option VolumeId
deriving DecidableEq

inductive Status
  | none
  | up
  | down
deriving DecidableEq

/-- The record of a volume. Only the first mount path is in use. -/
structure Volume where
  id : VolumeId
  locator : Locator
  source : Source
  spec : Spec
  status : Status
  device : String
  mountPaths : List String
  mountTime : Option Time
  created : Time
deriving DecidableEq

namespace Locator

def named (name : String) : Locator := ⟨name, .empty⟩

def any : Locator := named ""

end Locator

namespace Source

def unknown : Source := ⟨Option.none⟩

end Source

namespace Filesystem

def all : List Filesystem := [none, ext3, ext4, xfs, btrfs]

def name : Filesystem → String
  | none => "none"
  | ext3 => "ext3"
  | ext4 => "ext4"
  | xfs => "xfs"
  | btrfs => "btrfs"

end Filesystem

namespace Spec

def sized (size : UInt64) (filesystem : Filesystem) : Spec := ⟨size, filesystem, 1, .empty⟩

def blank : Spec := sized 0 .none

end Spec

def labelsWithin (wanted actual : Labels) : Bool :=
  wanted.entries.all fun (key, value) => actual.get? key == some value

namespace Locator

/-- Whether the locator picks out a volume located by `other`. The empty name picks all names. -/
def picks (l other : Locator) : Bool :=
  (l.name == "" || l.name == other.name) && labelsWithin l.labels other.labels

end Locator

namespace Volume

def fresh (id : VolumeId) (locator : Locator) (source : Option Source) (spec : Spec)
    (created : Time) : Volume :=
  ⟨id, locator, source.getD .unknown, spec, .none, "", [], none, created⟩

def mountPath? (v : Volume) : Option String :=
  v.mountPaths.head?.filter (· ≠ "")

def isMounted (v : Volume) : Bool := v.mountPath?.isSome

def isSnapshot (v : Volume) : Bool := v.source.parent.isSome

def mountedAt (v : Volume) (path : String) (time : Time) : Volume :=
  { v with mountPaths := [path], mountTime := some time }

def unmounted (v : Volume) : Volume :=
  { v with mountPaths := [], mountTime := none }

end Volume

end BlockVolumes
