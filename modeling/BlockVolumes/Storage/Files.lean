import BlockVolumes.IoError
import BlockVolumes.Storage.Sparse
import BlockVolumes.Table
import BlockVolumes.Text.Path

/-!
A file system of plain files and directories. Its entries are known by their resolved paths. On the
way that a path leads, everything but the last name has to be a directory.
-/

namespace BlockVolumes

namespace Path

/-- The names that lead to a path from the root, without dots. -/
def trail (path : String) : List (List Char) :=
  (components path).foldl (fun names c =>
    match c with
    | .root => []
    | .here => names
    | .parent => names.dropLast
    | .name text => names ++ [text]) []

def ofTrail (names : List (List Char)) : String :=
  String.ofList (names.flatMap (separator :: ·))

def resolve (path : String) : String := ofTrail (trail path)

end Path

structure Files where
  files : Table SparseFile
  directories : Table Unit

namespace Files

def empty : Files := ⟨.empty, .empty⟩

def get? (f : Files) (path : String) : Option SparseFile := f.files.get? (Path.resolve path)

def put (f : Files) (path : String) (file : SparseFile) : Files :=
  { f with files := f.files.insert (Path.resolve path) file }

def isDirectory (f : Files) (path : String) : Bool := f.directories.contains (Path.resolve path)

def nameLimit : Nat := 255

def isFileAt (f : Files) (names : List (List Char)) : Bool := f.files.contains (Path.ofTrail names)

def isDirectoryAt (f : Files) (names : List (List Char)) : Bool :=
  names.isEmpty || f.directories.contains (Path.ofTrail names)

def reach (f : Files) (place : List (List Char)) :
    List (List Char) → Except IoError (List (List Char))
  | [] => .ok place
  | piece :: rest =>
    if f.isFileAt place then .error .notADirectory
    else if !f.isDirectoryAt place then .error .notFound
    else if nameLimit < (String.ofList piece).utf8ByteSize then .error .nameTooLong
    else match Path.componentOf? piece with
      | none => f.reach place rest
      | some .parent => f.reach place.dropLast rest
      | some _ => f.reach (place ++ [piece]) rest

def locate (f : Files) (directory path : String) : Except IoError (List (List Char)) :=
  if path = "" then .error .notFound
  else if Path.hasNul path then .error .nulInPath
  else f.reach [] (Text.splitOn Path.separator (Path.join directory path).toList)

def lack (f : Files) (directory path : String) : IoError :=
  match f.locate directory path with
  | .ok place => if f.isDirectoryAt place then .isADirectory else .notFound
  | .error error => error

def lookup (f : Files) (path : String) : Except IoError SparseFile :=
  match f.get? path with
  | some file => .ok file
  | none => .error (f.lack "/" path)

def create (f : Files) (path : String) : Except IoError Files :=
  if (f.get? path).isSome || f.isDirectory path then .error .alreadyExists
  else .ok (f.put path .empty)

def lengthLimit : Nat := 1 <<< 63

def resize (f : Files) (path : String) (length : Nat) : Except IoError Files :=
  if lengthLimit ≤ length then .error (.other "number too large to fit in target type")
  else (f.lookup path).map fun file => f.put path (file.resize length)

def remove (f : Files) (path : String) : Except IoError Files :=
  (f.lookup path).map fun _ => { f with files := f.files.erase (Path.resolve path) }

def copy (f : Files) (source target : String) : Except IoError Files :=
  match f.lookup source with
  | .ok file => .ok (f.put target file)
  | .error error =>
    .error <| if error = .isADirectory then
      .other "the source path is neither a regular file nor a symlink to a regular file" else error

def modify (f : Files) (path : String) (change : SparseFile → SparseFile) : Except IoError Files :=
  (f.lookup path).map fun file => f.put path (change file)

def makeTrail (f : Files) (made : List (List Char)) : List (List Char) → Except IoError Files
  | [] => .ok f
  | name :: rest =>
    let here := made ++ [name]
    let path := Path.ofTrail here
    if f.files.contains path then .error (if rest = [] then .alreadyExists else .notADirectory)
    else ({ f with directories := f.directories.insert path () } : Files).makeTrail here rest

def makeDirectories (f : Files) (path : String) : Except IoError Files :=
  if Path.hasNul path then .error .nulInPath else f.makeTrail [] (Path.trail path)

def entries (f : Files) (path : String) : List String :=
  let lead := Path.trail path
  (f.files.keys ++ f.directories.keys).filterMap fun entry =>
    let names := Path.trail entry
    if names.dropLast = lead then names.getLast?.map String.ofList else none

end Files

end BlockVolumes
