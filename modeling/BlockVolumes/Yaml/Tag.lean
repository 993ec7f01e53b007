import BlockVolumes.Text.Utf8
import BlockVolumes.Yaml.Scalar
import BlockVolumes.Yaml.Token

/-!
Reading what starts with a mark of its own: names of anchors and aliases, tags, and directives.
-/

namespace BlockVolumes.Yaml

def readName (activity : Activity) (c : Cursor) : Except Fault (String × Cursor) :=
  let (name, after) := c.next.passWhile isWord
  let ends := after.gapAt 0 ||
    after.peek?.any fun x => ['?', ':', ',', ']', '\x7d', '%', '@', '\x60'].contains x
  if name ≠ [] ∧ ends then .ok (String.ofList name, after) else fail .noName activity

def readHandle (inDirective : Bool) (c : Cursor) : Except Fault (List Char × Cursor) :=
  if !c.sees '!' then fail .noTagMark (if inDirective then .shorthandHandle else .tag)
  else
    let (word, after) := c.next.passWhile isWord
    if after.sees '!' then .ok ('!' :: word ++ ['!'], after.next)
    else if inDirective && word ≠ [] then fail .noTagMark .shorthandMark
    else .ok ('!' :: word, after)

def isTagChar (verbatim : Bool) (c : Char) : Bool :=
  isWord c || ";/?:@&=+$.%!~*'()".toList.contains c || (verbatim && ",[]".toList.contains c)

def octetCount? (first : Nat) : Option Nat :=
  if first < 0x80 then some 1
  else if first / 0x20 = 6 then some 2
  else if first / 0x10 = 14 then some 3
  else if first / 8 = 30 then some 4
  else none

/-- The bytes of tag text, where escapes stand for bytes; `due` of them are still to come of a
character. -/
def tagBytes (activity : Activity) (due : Nat) : List Char → Except Fault (List UInt8)
  | '%' :: a :: b :: rest =>
    match hexNumber? [a, b] with
    | none => fail .noOctet activity
    | some n => do
      let count ← match octetCount? n with
        | some count => if due = 0 then .ok count else fail .badNextOctet activity
        | none =>
          if due = 0 then fail .badFirstOctet activity
          else if n / 0x40 = 2 then .ok due
          else fail .badNextOctet activity
      return UInt8.ofNat n :: (← tagBytes activity (count - 1) rest)
  | [] => if due = 0 then .ok [] else fail .noOctet activity
  | c :: rest =>
    if c = '%' ∨ 0 < due then fail .noOctet activity
    else do return String.utf8EncodeChar c ++ (← tagBytes activity 0 rest)

def readTagText (activity : Activity) (verbatim : Bool) (handle : List Char) (c : Cursor) :
    Except Fault (String × Cursor) := do
  let (text, after) := c.passWhile (isTagChar verbatim)
  if handle = [] ∧ text = [] then fail .noTagText activity
  else
    let bytes ← tagBytes activity 0 text
    match Text.decode? ((String.ofList handle.tail).toUTF8.toList ++ bytes) with
    | some text => return (text, after)
    | none => fail .badNextOctet activity

/-- A tag: its handle and what follows that. A mark alone is a tag without a handle. -/
def readTag (inFlow : Bool) (c : Cursor) : Except Fault (String × String × Cursor) := do
  let (handle, suffix, after) ←
    if c.peekAt? 1 = some '<' then do
      let (text, after) ← readTagText .tagText true [] (c.skip 2)
      if after.sees '>' then pure ("", text, after.next) else fail .noTagEnd .tag
    else do
      let (handle, after) ← readHandle false c
      if handle.length > 1 ∧ handle.getLast? = some '!' then do
        let (text, after) ← readTagText .tagText false [] after
        pure (String.ofList handle, text, after)
      else do
        let (text, after) ← readTagText .tagText false handle after
        pure (if text = "" then ("", "!", after) else ("!", text, after))
  if (inFlow && after.sees ',') || after.gapAt 0 then return (handle, suffix, after)
  else fail .noGap .tag

def readDigits (c : Cursor) : Except Fault (Nat × Cursor) :=
  let (digits, after) := c.passWhile Char.isDigit
  if digits = [] then fail .noVersion .version
  else if 9 < digits.length then fail .longVersion .version
  else .ok (digits.foldl (fun n d => 10 * n + (d.toNat - 48)) 0, after)

def readVersion (c : Cursor) : Except Fault (Token × Cursor) := do
  let (major, after) ← readDigits c
  if !after.sees '.' then fail .noVersionPoint .version
  else
    let (minor, after) ← readDigits after.next
    return (.version major minor, after)

def readShorthand (c : Cursor) : Except Fault (Token × Cursor) := do
  let (handle, after) ← readHandle true c
  if !after.seesBlank then fail .noBlank .shorthand
  else
    let (lead, after) ← readTagText .shorthandLead true [] (after.skipWhile isBlank)
    if after.gapAt 0 then return (.tagShorthand (String.ofList handle) lead, after)
    else fail .noGap .shorthand

def readDirective (c : Cursor) : Except Fault (Token × Cursor) := do
  let (name, after) := c.next.passWhile isWord
  if name = [] then fail .noDirectiveName .directive
  else if !after.gapAt 0 then fail .badDirectiveName .directive
  else
    let after := after.skipWhile isBlank
    let (token, after) ← match String.ofList name with
      | "YAML" => readVersion after
      | "TAG" => readShorthand after
      | _ => fail .unknownDirective .directive
    let after := after.skipWhile isBlank
    let after := if after.sees '#' then after.skipLine else after
    if after.atEnd || after.seesBreak then return (token, after.passBreak.2)
    else fail .noLineEnd .directive

end BlockVolumes.Yaml
