import BlockVolumes.Yaml.Document
import BlockVolumes.Yaml.Plain

/-!
Values from YAML documents, by shape. A document is read up to where it breaks off, so what is wrong
with its contents before that is what is told.
-/

namespace BlockVolumes

namespace Yaml

inductive Step
  | key (name : String)
  | item (index : Nat)
  | unnamed
deriving DecidableEq

abbrev Trail := List Step

def trailText : Trail → String
  | [] => ""
  | step :: outer =>
    let before := trailText outer
    let dotted := if outer = [] then before else before ++ "."
    match step with
    | .key name => dotted ++ name
    | .item index => (if outer = [] then "." else before) ++ "[" ++ toString index ++ "]"
    | .unnamed => dotted ++ "?"

inductive Error
  | malformed (fault : Fault)
  | mismatch (trail : Trail) (cause : Mismatch)
deriving DecidableEq

def Error.message : Error → String
  | .malformed fault => fault.message
  | .mismatch [] cause => cause.message describe
  | .mismatch trail cause => trailText trail ++ ": " ++ cause.message describe

def Document.breach (d : Document) : Error :=
  .malformed (d.fault.getD (Problem.alone .endOfText))

abbrev Reader (α : Type) := Document → Trail → List Part → Except Error (α × List Part)

def refuse {α : Type} (trail : Trail) (cause : Mismatch) : Except Error α :=
  .error (.mismatch trail cause)

def wrongPart {α : Type} (trail : Trail) (expected : String) : Part → Except Error α
  | .scalar s => refuse trail (s.mismatch expected)
  | .sequenceStart _ => refuse trail (.wrongType .sequence expected)
  | .mappingStart _ => refuse trail (.wrongType .map expected)
  | _ => .error (.malformed (Problem.alone .endOfText))

/-- Goes to the node behind an alias. Whatever is read there, reading goes on after the alias. -/
def throughAlias {α : Type} (read : Reader α) : Reader α := fun document trail parts =>
  match parts with
  | .alias anchor :: rest => do
    let (value, _) ← read document trail (document.atAnchor anchor)
    return (value, rest)
  | parts => read document trail parts

def readText (expected : String) : Reader String :=
  throughAlias fun document trail parts =>
    match parts with
    | .scalar s :: rest => .ok (s.text, rest)
    | part :: _ => wrongPart trail expected part
    | [] => .error document.breach

def readUnquoted {α : Type} (expected : String) (value? : String → Option (Except Mismatch α)) :
    Reader α :=
  throughAlias fun document trail parts =>
    match parts with
    | .scalar s :: rest =>
      match if s.style = .plain then value? s.text else none with
      | some (.ok value) => .ok (value, rest)
      | some (.error cause) => refuse trail cause
      | none => refuse trail (s.mismatch expected)
    | part :: _ => wrongPart trail expected part
    | [] => .error document.breach

def skipNode (document : Document) (depth : Nat) : List Part → Except Error (List Part)
  | [] => .error document.breach
  | part :: rest =>
    let depth := match part with
      | .sequenceStart _ => depth + 1
      | .mappingStart _ => depth + 1
      | .sequenceEnd => depth - 1
      | .mappingEnd => depth - 1
      | _ => depth
    if depth = 0 then .ok rest else skipNode document depth rest

def isBlankRecord : Part → Bool
  | .nothing => true
  | .scalar s => s.text == "" && s.style == .plain
  | _ => false

def readMembers {σ : Type} (member : String → Trail → σ → Document → List Part →
    Except Error (σ × List Part)) (document : Document) (trail : Trail) (state : σ) :
    (steps : Nat) → List Part → Except Error (σ × List Part)
  | 0, _ => .error document.breach
  | _ + 1, [] => .error document.breach
  | _ + 1, .mappingEnd :: rest => .ok (state, rest)
  | steps + 1, part :: rest => do
    let (name, after) ← readText "field identifier" document trail (part :: rest)
    let step := match part with
      | .scalar _ => Step.key name
      | _ => .unnamed
    let (state, after) ← member name (step :: trail) state document after
    readMembers member document trail state steps after

def readRecord {σ α : Type} (expected : String) (blank : σ)
    (member : String → Trail → σ → Document → List Part → Except Error (σ × List Part))
    (finish : σ → Except Mismatch α) : Reader α :=
  throughAlias fun document trail parts =>
    let finished (state : σ) (rest : List Part) : Except Error (α × List Part) :=
      match finish state with
      | .ok value => .ok (value, rest)
      | .error cause => refuse trail cause
    match parts with
    | .mappingStart _ :: rest => do
      let (state, rest) ← readMembers member document trail blank parts.length rest
      finished state rest
    | part :: rest =>
      if isBlankRecord part then finished blank rest else wrongPart trail expected part
    | [] => .error document.breach

def tableMember (name : String) (trail : Trail) (table : Table String) (document : Document)
    (parts : List Part) : Except Error (Table String × List Part) := do
  let (value, rest) ← readText "a string" document trail parts
  return (table.insert name value, rest)

def readTable : Reader (Table String) :=
  readRecord "a map" Table.empty tableMember .ok

def tagName? (tag : Option String) : Option String :=
  match tag.map String.toList with
  | some ['!'] => some "!"
  | some ('!' :: name) => some (String.ofList name)
  | _ => none

def readNothing (document : Document) (trail : Trail) : List Part → Except Error (List Part)
  | .scalar s :: rest =>
    if s.style = .plain ∧ (s.text = "" ∨ isNullWord s.text) then .ok rest
    else refuse trail (.wrongValue (.text s.text) "null")
  | part :: _ => wrongPart trail "unit" part
  | [] => .error document.breach

def tagOf : Part → Option String
  | .scalar s => s.tag
  | .sequenceStart tag => tag
  | .mappingStart tag => tag
  | _ => none

/-- A choice is made by a name, or by a tag; an unknown tag is laid to `outer`. -/
def readChoiceHere {α : Type} (options : List (String × α)) (outer : Trail) : Reader α :=
  fun document trail parts =>
    match parts with
    | [] => .error document.breach
    | part :: rest =>
      match tagName? (tagOf part), part with
      | some name, _ =>
        match pickOption options name with
        | .ok value => do return (value, ← readNothing document trail parts)
        | .error cause => refuse outer cause
      | none, .scalar s =>
        match pickOption options s.text with
        | .ok value => .ok (value, rest)
        | .error cause => refuse trail cause
      | none, part => wrongPart trail "a YAML tag starting with '!'" part

def readChoice {α : Type} (options : List (String × α)) : Reader α := fun document trail parts =>
  match parts with
  | .alias _ :: _ => throughAlias (readChoiceHere options trail) document trail parts
  | _ => readChoiceHere options trail.tail document trail parts

def isAbsent (outer : Trail) : Part → Except Error Bool
  | .nothing => .ok true
  | .scalar s =>
    if s.style ≠ .plain then .ok false
    else match s.tag with
      | none => .ok (s.text == "" || isNullWord s.text)
      | some tag =>
        if tag ≠ coreTag "null" then .ok false
        else if isNullWord s.text then .ok true
        else refuse outer (.wrongValue (.text s.text) "null")
  | _ => .ok false

def readOptional {α : Type} (read : Reader α) : Reader (Option α) :=
  throughAlias fun document trail parts =>
    match parts with
    | [] => .error document.breach
    | part :: rest => do
      if ← isAbsent trail.tail part then return (none, rest)
      else
        let (value, rest) ← read document trail parts
        return (some value, rest)

def readItems {α : Type} (read : Reader α) (document : Document) (trail : Trail) (items : List α) :
    (steps : Nat) → List Part → Except Error (List α × List Part)
  | 0, _ => .error document.breach
  | _ + 1, [] => .error document.breach
  | _ + 1, .sequenceEnd :: rest => .ok (items, rest)
  | steps + 1, parts => do
    let (item, rest) ← read document (.item items.length :: trail) parts
    readItems read document trail (items ++ [item]) steps rest

def readList {α : Type} (read : Reader α) : Reader (List α) :=
  throughAlias fun document trail parts =>
    match parts with
    | .sequenceStart _ :: rest => readItems read document trail [] parts.length rest
    | part :: rest =>
      if isBlankRecord part then .ok ([], rest) else wrongPart trail "a sequence" part
    | [] => .error document.breach

def wordValue {ω : Type} (make : Number → Except Mismatch ω) (s : String) :
    Option (Except Mismatch ω) :=
  (integer? s.toList).map fun n => make (.integer n)

end Yaml

open Yaml in
mutual

def Shape.readYaml : {α : Type} → Shape α → Yaml.Reader α
  | _, .text => readText "a string"
  | _, .path => readText "path string"
  | _, .flag => readUnquoted "a boolean" fun s => (flagWord? s).map .ok
  | _, .word32 => readUnquoted "u32" (wordValue word32Of)
  | _, .word64 => readUnquoted "u64" (wordValue word64Of)
  | _, .time => fun document trail parts => do
    let (text, rest) ← readText "an RFC 3339 formatted date and time string" document trail parts
    match timeOf text with
    | .ok time => return (time, rest)
    | .error cause => refuse trail cause
  | _, .table => readTable
  | _, .optional shape => readOptional shape.readYaml
  | _, .list shape => readList shape.readYaml
  | _, .choice options _ => readChoice options
  | _, .record name fields pack _ =>
    readRecord ("struct " ++ name) fields.blank fields.readYamlMember fun draft =>
      (fields.finish draft).map pack
  | _, .wrapped shape wrap _ => fun document trail parts => do
    let (value, rest) ← shape.readYaml document trail parts
    return (wrap value, rest)

def Fields.readYamlMember : {τ : Type} → (fields : Fields τ) → String → Yaml.Trail → fields.Draft →
    Yaml.Document → List Yaml.Part → Except Yaml.Error (fields.Draft × List Yaml.Part)
  | _, .nil, _, _, draft => fun document parts => do return (draft, ← skipNode document 0 parts)
  | _, @Fields.cons α _ key shape rest, name, trail, draft => fun document parts =>
    let draft : Option α × rest.Draft := draft
    if name = key.name then
      if draft.1.isSome then refuse trail.tail (.duplicateField key.name)
      else do
        let (value, parts) ← shape.readYaml document trail parts
        return ((some value, draft.2), parts)
    else do
      let (later, parts) ← rest.readYamlMember name trail draft.2 document parts
      return ((draft.1, later), parts)

end

def Shape.decodeYaml {α : Type} (shape : Shape α) (text : String) : Except Yaml.Error α := do
  let document := Yaml.Document.read text
  let (value, _) ← shape.readYaml document [] document.parts
  if document.fault.isSome then .error document.breach else return value

end BlockVolumes
