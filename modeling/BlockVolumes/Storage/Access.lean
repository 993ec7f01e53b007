import BlockVolumes.Storage.Files
import BlockVolumes.Text.Utf8

/-!
Text files as programs read and write them, by paths seen from a directory.
-/

namespace BlockVolumes.Files

def isPresent (f : Files) (directory path : String) : Bool :=
  match f.locate directory path with
  | .ok place => f.isFileAt place || f.isDirectoryAt place
  | .error _ => false

def readText (f : Files) (directory path : String) : Except IoError String := do
  let place ← f.locate directory path
  match f.files.get? (Path.ofTrail place) with
  | some file =>
    match Text.decode? file.contents with
    | some text => return text
    | none => .error (.other "stream did not contain valid UTF-8")
  | none => .error (f.lack directory path)

def withoutLastSeparators (path : String) : String :=
  String.ofList ((path.toList.reverse.dropWhile (· = Path.separator)).reverse)

/--
Replaces what a file holds; the file is made if need be, the directory that it is in is not. A
path that ends with a separator asks for a directory, whatever is there.
-/
def writeText (f : Files) (directory path text : String) : Except IoError Files := do
  let bare := withoutLastSeparators path
  let place ← f.locate directory (if bare = "" then path else bare)
  if bare ≠ path || f.isDirectoryAt place then .error .isADirectory
  else .ok { f with
    files := f.files.insert (Path.ofTrail place) (.ofBytes text.toUTF8.toList) }

end BlockVolumes.Files
