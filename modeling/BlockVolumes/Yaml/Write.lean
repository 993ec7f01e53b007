import BlockVolumes.Json.Value
import BlockVolumes.Yaml.Style

/-!
Values as YAML documents: members and items on lines of their own, two blanks deeper than what they
belong to.
-/

namespace BlockVolumes.Yaml

def blanks (count : Nat) : List Char := List.replicate count ' '

def upperHex (width n : Nat) : List Char :=
  let digits := (Nat.toDigits 16 n).map Char.toUpper
  List.replicate (width - digits.length) '0' ++ digits

def escapeOf (c : Char) : List Char :=
  let n := c.toNat
  if n = 0x00 then ['0']
  else if n = 0x07 then ['a']
  else if n = 0x08 then ['b']
  else if n = 0x09 then ['t']
  else if n = 0x0A then ['n']
  else if n = 0x0B then ['v']
  else if n = 0x0C then ['f']
  else if n = 0x0D then ['r']
  else if n = 0x1B then ['e']
  else if n = 0x22 then ['"']
  else if n = 0x5C then ['\\']
  else if n = 0x85 then ['N']
  else if n = 0x2028 then ['L']
  else if n = 0x2029 then ['P']
  else if n ≤ 0xFF then 'x' :: upperHex 2 n
  else if n ≤ 0xFFFF then 'u' :: upperHex 4 n
  else 'U' :: upperHex 8 n

def doubleQuoted (s : List Char) : List Char :=
  let written (c : Char) : List Char :=
    if !isPrintable c || isBreak c || c == '"' || c == '\\' then '\\' :: escapeOf c else [c]
  '"' :: (s.flatMap written ++ ['"'])

def indentLines (indent : Nat) (write : Char → List Char) : (atStart : Bool) → List Char → List Char
  | _, [] => []
  | atStart, c :: rest =>
    if isBreak c then c :: indentLines indent write true rest
    else (if atStart then blanks indent else []) ++ write c ++ indentLines indent write false rest

def singleQuoted (indent : Nat) (s : List Char) : List Char :=
  let quoteTwice (c : Char) : List Char := if c = '\'' then ['\'', '\''] else [c]
  let ending := if s.getLast?.any isBreak then blanks indent else []
  '\'' :: (indentLines indent quoteTwice false s ++ ending ++ ['\''])

def chomping (s : List Char) : List Char :=
  match s.reverse with
  | last :: before =>
    if !isBreak last then ['-'] else if before.head?.all isBreak then ['+'] else []
  | [] => ['-']

/-- A block of lines as they are. Its depth is told where the first line does not show it. -/
def literal (indent : Nat) (s : List Char) : List Char :=
  let depth := if s.head?.any fun c => isSpace c || isBreak c then ['2'] else []
  '|' :: (depth ++ chomping s ++ '\n' :: indentLines indent (fun c => [c]) true s)

def scalar (style : Style) (indent : Nat) (s : String) : List Char :=
  match style with
  | .plain => s.toList
  | .singleQuoted => singleQuoted indent s.toList
  | .literal => literal indent s.toList
  | _ => doubleQuoted s.toList

def endLine (s : List Char) : List Char := if s.getLast?.any isBreak then s else s ++ ['\n']

/-- The text before a value. A key that is not simple has a mark and a line of its own. -/
def keyChars (indent : Nat) (key : String) : List Char :=
  let written := scalar (valueStyle key) (indent + 2) key
  if isSimpleKey key then blanks indent ++ written ++ [':']
  else blanks indent ++ ['?', ' '] ++ endLine written ++ blanks indent ++ [':']

def isOpen : Json → Bool
  | .list (_ :: _) => true
  | .object (_ :: _) => true
  | _ => false

def isList : Json → Bool
  | .list _ => true
  | _ => false

mutual

def lines (indent : Nat) : Json → List Char
  | .list (item :: items) => itemLines indent (item :: items)
  | .object (member :: members) => memberLines indent (member :: members)
  | .list [] => "[]\n".toList
  | .object [] => "{}\n".toList
  | .text s => endLine (scalar (valueStyle s) (indent + 2) s)
  | .null => "null\n".toList
  | .flag b => Json.flagChars b ++ ['\n']
  | .number n => Json.numberChars n ++ ['\n']

def itemLines (indent : Nat) : List Json → List Char
  | [] => []
  | item :: rest =>
    let body := lines (indent + 2) item
    blanks indent ++ ['-', ' '] ++ (if isOpen item then body.drop (indent + 2) else body) ++
      itemLines indent rest

def memberLines (indent : Nat) : List (String × Json) → List Char
  | [] => []
  | (key, value) :: rest =>
    let separator := if isOpen value then '\n' else ' '
    let depth := if isOpen value && !isList value then indent + 2 else indent
    keyChars indent key ++ separator :: (lines depth value ++ memberLines indent rest)

end

def write (j : Json) : String := String.ofList (lines 0 j)

end BlockVolumes.Yaml

namespace BlockVolumes

def Shape.encodeYaml {α : Type} (shape : Shape α) (value : α) : String :=
  Yaml.write (shape.toJson value)

end BlockVolumes
