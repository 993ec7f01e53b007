import BlockVolumes.Volume.Error
import BlockVolumes.Volume.Size

/-!
Volume specs from options, and volume names that carry their options with them, as in
`name=db,size=10G,fs=xfs,scale=3`. Options that name no field of a spec become labels.
-/

namespace BlockVolumes

inductive OptionError
  | malformed (piece : String)
  | missingName
  | invalidValue (key value : String)
deriving DecidableEq

namespace OptionError

def kind : OptionError → String
  | .malformed _ => "Malformed"
  | .missingName => "MissingName"
  | .invalidValue _ _ => "InvalidValue"

def message : OptionError → String
  | malformed piece => "Malformed option '" ++ piece ++ "', expected key=value"
  | missingName => "Inline volume spec is missing a name"
  | invalidValue key value => "Invalid value '" ++ value ++ "' for option '" ++ key ++ "'"

def toVolumeError (e : OptionError) : VolumeError := .invalidSpec e.message

end OptionError

def readSize (value : String) : Except OptionError UInt64 :=
  match Size.read? value with
  | some size => .ok size
  | none => .error (.invalidValue "size" value)

/-- Decimal digits, perhaps after a plus sign, within 32 bits. -/
def readScale? (value : String) : Option UInt32 :=
  let ds := match value.toList with
    | '+' :: rest => rest
    | ds => ds
  if ds = [] then none
  else match Size.digits 0 ds with
    | (n, []) => if n < UInt32.size then some (UInt32.ofNat n) else none
    | (_, _ :: _) => none

inductive OptionKind
  | name
  | size
  | filesystem
  | scale
  | label
deriving DecidableEq

def OptionKind.ofKey (key : String) : OptionKind :=
  match String.ofList (key.toList.map Char.toLower) with
  | "name" => .name
  | "size" => .size
  | "s" => .size
  | "fs" => .filesystem
  | "format" => .filesystem
  | "scale" => .scale
  | _ => .label

def takeOption (taken : Spec × Labels) (option : String × String) :
    Except OptionError (Spec × Labels) :=
  let (spec, labels) := taken
  let (key, value) := option
  match OptionKind.ofKey key with
  | .name => .ok (spec, labels)
  | .size => do .ok ({ spec with size := ← readSize value }, labels)
  | .filesystem =>
    match Filesystem.read value with
    | .ok filesystem => .ok ({ spec with filesystem }, labels)
    | .error _ => .error (.invalidValue key value)
  | .scale =>
    match readScale? value with
    | some scale => .ok ({ spec with scale }, labels)
    | none => .error (.invalidValue key value)
  | .label => .ok (spec, labels.insert key value)

def Spec.ofOptions (base : Spec) (options : Table String) : Except OptionError (Spec × Labels) :=
  options.entries.foldlM takeOption (base, .empty)

def Spec.standard : Spec := .sized (1024 * 1024 * 1024) .ext4

/-- A volume name as users give it. The spec is there if the name carried options. -/
structure GivenName where
  name : String
  spec : Option Spec
  labels : Labels
deriving DecidableEq

def pieces (raw : List Char) : List (List Char) :=
  ((Text.splitOn ',' raw).map Text.trim).filter (· ≠ [])

/-- Takes one `key=value` piece; a key given again gets the later value. -/
def takePiece (options : Table String) (piece : List Char) : Except OptionError (Table String) :=
  match Text.cut '=' piece with
  | some (key, value) =>
    .ok (options.insert (String.ofList (Text.trim key)) (String.ofList (Text.trim value)))
  | none => .error (.malformed (String.ofList piece))

namespace GivenName

/-- Reads a given name. One without `=` is just a name. -/
def read (base : Spec) (raw : String) : Except OptionError GivenName :=
  let trimmed := Text.trim raw.toList
  if '=' ∉ trimmed then .ok ⟨String.ofList trimmed, none, .empty⟩
  else do
    let options ← (pieces trimmed).foldlM takePiece .empty
    match (options.get? "name").filter (· ≠ "") with
    | none => .error .missingName
    | some name => do
      let (spec, labels) ← base.ofOptions options
      .ok ⟨name, some spec, labels⟩

/-- The name alone. Of a text that cannot be read, it is the first `name=` piece, or all of it. -/
def nameOf (base : Spec) (raw : String) : String :=
  match read base raw with
  | .ok given => given.name
  | .error _ =>
    let named := (Text.splitOn ',' raw.toList).findSome? fun piece =>
      Text.after? ['n', 'a', 'm', 'e', '='] (Text.trim piece)
    String.ofList (Text.trim (named.getD raw.toList))

end GivenName

end BlockVolumes
