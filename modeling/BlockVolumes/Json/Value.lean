import BlockVolumes.Shape.Basic

/-!
JSON values, their compact and their indented text, and the value that a shape writes.
-/

namespace BlockVolumes

inductive Json
  | null
  | flag (value : Bool)
  | number (value : Number)
  | text (value : String)
  | list (items : List Json)
  | object (members : List (String × Json))

instance : Inhabited Json := ⟨.null⟩

namespace Json

def natural (n : Nat) : Json := .number (.integer n)

def hexDigit (n : Nat) : Char := (Nat.toDigits 16 n).headD '0'

def escape (c : Char) : List Char :=
  if c = '"' then ['\\', '"']
  else if c = '\\' then ['\\', '\\']
  else if c = '\x08' then ['\\', 'b']
  else if c = '\x0c' then ['\\', 'f']
  else if c = '\n' then ['\\', 'n']
  else if c = '\r' then ['\\', 'r']
  else if c = '\t' then ['\\', 't']
  else if c.toNat < 32 then
    ['\\', 'u', '0', '0', hexDigit (c.toNat / 16), hexDigit (c.toNat % 16)]
  else [c]

def textChars (s : String) : List Char := '"' :: (s.toList.flatMap escape ++ ['"'])

def numberChars : Number → List Char
  | .integer (.ofNat n) => Nat.toDigits 10 n
  | .integer (.negSucc n) => '-' :: Nat.toDigits 10 (n + 1)
  | .real bits => Decimal.general bits

def flagChars (b : Bool) : List Char :=
  if b then ['t', 'r', 'u', 'e'] else ['f', 'a', 'l', 's', 'e']

mutual

def chars : Json → List Char
  | .null => ['n', 'u', 'l', 'l']
  | .flag b => flagChars b
  | .number n => numberChars n
  | .text s => textChars s
  | .list items => '[' :: (itemChars items ++ [']'])
  | .object members => '\x7b' :: (memberChars members ++ ['\x7d'])

def itemChars : List Json → List Char
  | [] => []
  | [item] => item.chars
  | item :: next :: rest => item.chars ++ ',' :: itemChars (next :: rest)

def memberChars : List (String × Json) → List Char
  | [] => []
  | [(name, value)] => textChars name ++ ':' :: value.chars
  | (name, value) :: next :: rest =>
    textChars name ++ ':' :: (value.chars ++ ',' :: memberChars (next :: rest))

end

def compact (j : Json) : String := String.ofList j.chars

def bytes (j : Json) : List UInt8 := j.compact.toUTF8.toList

def lineBreak (depth : Nat) : List Char := '\n' :: List.replicate (2 * depth) ' '

mutual

def indented (depth : Nat) : Json → List Char
  | .list [] => ['[', ']']
  | .list (item :: rest) =>
    '[' :: (indentedItems (depth + 1) (item :: rest) ++ lineBreak depth ++ [']'])
  | .object [] => ['\x7b', '\x7d']
  | .object (member :: rest) =>
    '\x7b' :: (indentedMembers (depth + 1) (member :: rest) ++ lineBreak depth ++ ['\x7d'])
  | .null => chars .null
  | .flag b => flagChars b
  | .number n => numberChars n
  | .text s => textChars s

def indentedItems (depth : Nat) : List Json → List Char
  | [] => []
  | item :: rest =>
    lineBreak depth ++ indented depth item ++
      (if rest.isEmpty then [] else [',']) ++ indentedItems depth rest

def indentedMembers (depth : Nat) : List (String × Json) → List Char
  | [] => []
  | (name, value) :: rest =>
    lineBreak depth ++ textChars name ++ ':' :: ' ' :: (indented depth value ++
      (if rest.isEmpty then [] else [',']) ++ indentedMembers depth rest)

end

def pretty (j : Json) : String := String.ofList (j.indented 0)

end Json

mutual

def Shape.toJson : {α : Type} → Shape α → α → Json
  | _, .text, s => .text s
  | _, .path, s => .text s
  | _, .flag, b => .flag b
  | _, .word32, n => .natural n.toNat
  | _, .word64, n => .natural n.toNat
  | _, .time, t => .text t.write
  | _, .table, t => .object (t.entries.map fun (key, value) => (key, .text value))
  | _, .optional _, none => .null
  | _, .optional shape, some value => shape.toJson value
  | _, .list shape, values => .list (values.map shape.toJson)
  | _, .choice _ label, value => .text (label value)
  | _, .record _ fields _ unpack, value => .object (fields.toJson (unpack value))
  | _, .wrapped shape _ unwrap, value => shape.toJson (unwrap value)

def Fields.toJson : {τ : Type} → Fields τ → τ → List (String × Json)
  | _, .nil, () => []
  | _, .cons key shape rest, (value, values) =>
    if key.hidden value then rest.toJson values
    else (key.name, shape.toJson value) :: rest.toJson values

end

end BlockVolumes
