import BlockVolumes.Text.Blank

/-!
Paths in a file system, as text. Two texts are the same path when their components are: repeated
and trailing slashes and single dots do not count, and `..` is kept.
-/

namespace BlockVolumes.Path

inductive Component
  | root
  | here
  | parent
  | name (text : List Char)
deriving DecidableEq

def separator : Char := '/'

def isAbsolute (path : String) : Bool := path.toList.head? == some separator

/-- A piece between separators; an empty one and a single dot are no component of their own. -/
def componentOf? : List Char → Option Component
  | [] => none
  | ['.'] => none
  | ['.', '.'] => some .parent
  | text => some (.name text)

/-- A path that starts with a single dot says so. -/
def components (path : String) : List Component :=
  let pieces := Text.splitOn separator path.toList
  let lead :=
    if isAbsolute path then [.root]
    else if pieces.head? = some ['.'] then [.here]
    else []
  lead ++ pieces.filterMap componentOf?

def same (a b : String) : Bool := components a == components b

/-- `path` seen from `base`: an absolute path stands for itself. -/
def join (base path : String) : String :=
  if isAbsolute path then path
  else if base = "" ∨ base.toList.getLast? = some separator then base ++ path
  else base ++ "/" ++ path

def hasNul (path : String) : Bool := path.toList.contains '\x00'

def ofPieces (pieces : List (List Char)) : String :=
  String.ofList ([separator].intercalate pieces)

def isVoid (piece : List Char) : Bool := (componentOf? piece).isNone

def withoutLastVoid (pieces : List (List Char)) : List (List Char) :=
  (pieces.reverse.dropWhile isVoid).reverse

/-- Whether a path ends in a separator or a dot, so that it can only be that of a directory. -/
def endsOpen (path : String) : Bool :=
  ((Text.splitOn separator path.toList).getLast?).any isVoid

/-- Pieces without the last one that counts, and without what leads nowhere before it. -/
def above (pieces : List (List Char)) : Option (List (List Char)) :=
  match withoutLastVoid pieces with
  | [] => none
  | named => some (withoutLastVoid named.dropLast)

/-- The path without its last name, as it is written; the root has none. -/
def directory? (path : String) : Option String :=
  match Text.splitOn separator path.toList with
  | [] :: rest =>
    if isAbsolute path then (above rest).map fun pieces => "/" ++ ofPieces pieces else none
  | ['.'] :: rest => some (((above rest).map fun pieces => ofPieces (['.'] :: pieces)).getD "")
  | pieces => (above pieces).map ofPieces

end BlockVolumes.Path
