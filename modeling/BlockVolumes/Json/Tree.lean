import BlockVolumes.Json.Read
import BlockVolumes.Json.Value

/-!
Text as a JSON value of any kind, and a value of a given shape from a JSON value. Members are taken
in the order of their names.
-/

namespace BlockVolumes

namespace Json

def readTree : (depth : Nat) → Reader Json
  | 0 => fun _ => fail .endInValue
  | depth + 1 =>
    onValue fun b rest =>
      if b = letterN then do .ok (.null, ← word nullTail rest)
      else if b = letterT then do .ok (.flag true, ← word trueTail rest)
      else if b = letterF then do .ok (.flag false, ← word falseTail rest)
      else if b = quote then do
        let (s, rest) ← stringText rest
        .ok (.text s, rest)
      else if b = openList then do
        let (values, rest) ← items (readTree depth) (rest.length + 1) true [] rest
        .ok (.list values, ← closing rest)
      else if b = openObject then do
        let member name reversed := fun input => do
          let (value, rest) ← readTree depth (← skipColon input)
          .ok ((name, value) :: reversed, rest)
        let (reversed, rest) ← members member (rest.length + 1) true [] rest
        .ok (.object reversed.reverse, ← closeBrace rest)
      else
        match number? (b :: rest) with
        | some read => do
          let (n, rest) ← read
          .ok (.number n, rest)
        | none => fail .expectedValue

def parse (input : Input) : Except Error Json := do
  let (value, rest) ← readTree (input.length + 1) input
  if skipBlanks rest = [] then .ok value else fail .trailingCharacters

def parseText (s : String) : Except Error Json := parse s.toUTF8.toList

def found : Json → Found
  | .null => .null
  | .flag b => .flag b
  | .number n => .number n
  | .text s => .text s
  | .list _ => .sequence
  | .object _ => .map

def get (j : Json) (name : String) : Json :=
  match j with
  | .object members => ((members.find? (·.1 = name)).map (·.2)).getD .null
  | _ => .null

def wrongType {α : Type} (j : Json) (expected : String) : Except Mismatch α :=
  .error (.wrongType j.found expected)

def toText (j : Json) (expected : String) : Except Mismatch String :=
  match j with
  | .text s => .ok s
  | j => j.wrongType expected

def toChoice {α : Type} (options : List (String × α)) : Json → Except Mismatch α
  | .text name => pickOption options name
  | .object [(name, value)] => do
    let chosen ← pickOption options name
    match value with
    | .null => .ok chosen
    | value => value.wrongType "unit"
  | .object _ => .error (.wrongValue .map "map with a single key")
  | j => j.wrongType "string or map"

end Json

mutual

def Shape.ofJson : {α : Type} → Shape α → Json → Except Mismatch α
  | _, .text, j => j.toText "a string"
  | _, .path, j => j.toText "path string"
  | _, .flag, .flag b => .ok b
  | _, .flag, j => j.wrongType "a boolean"
  | _, .word32, .number n => word32Of n
  | _, .word32, j => j.wrongType "u32"
  | _, .word64, .number n => word64Of n
  | _, .word64, j => j.wrongType "u64"
  | _, .time, j => do timeOf (← j.toText "an RFC 3339 formatted date and time string")
  | _, .table, .object members => do
    let texts ← (Table.ofList members).entries.mapM fun (name, value) => do
      .ok (name, ← value.toText "a string")
    .ok (Table.ofList texts)
  | _, .table, j => j.wrongType "a map"
  | _, .optional _, .null => .ok none
  | _, .optional shape, j => (shape.ofJson j).map some
  | _, .list shape, .list values => values.mapM shape.ofJson
  | _, .list _, j => j.wrongType "a sequence"
  | _, .choice options _, j => j.toChoice options
  | _, .record _ fields pack _, .object members => do
    let draft ← (Table.ofList members).entries.foldlM
      (fun draft (name, value) => fields.putJson name draft value) fields.blank
    .ok (pack (← fields.finish draft))
  | _, .record name fields pack _, .list values => do
    let (packed, rest) ← fields.ofItems (sequenceExpectation name fields.count) 0 values
    if rest = 0 then .ok (pack packed)
    else .error (.wrongLength values.length "fewer elements in array")
  | _, .record name _ _ _, j => j.wrongType ("struct " ++ name)
  | _, .wrapped shape wrap _, j => (shape.ofJson j).map wrap

def Fields.putJson :
    {τ : Type} → (fields : Fields τ) → String → fields.Draft → Json → Except Mismatch fields.Draft
  | _, .nil, _, draft, _ => .ok draft
  | _, @Fields.cons α _ key shape rest, name, draft, value =>
    let draft : Option α × rest.Draft := draft
    if name = key.name then do .ok (some (← shape.ofJson value), draft.2)
    else do .ok (draft.1, ← rest.putJson name draft.2 value)

def Fields.ofItems :
    {τ : Type} → Fields τ → (expected : String) → (index : Nat) → List Json →
      Except Mismatch (τ × Nat)
  | _, .nil, _, _, values => .ok ((), values.length)
  | _, .cons _ shape rest, expected, index, value :: values => do
    let first ← shape.ofJson value
    let (others, left) ← rest.ofItems expected (index + 1) values
    .ok ((first, others), left)
  | _, .cons key _ rest, expected, index, [] =>
    match key.short with
    | some value => do
      let (others, left) ← rest.ofItems expected (index + 1) []
      .ok ((value, others), left)
    | none => .error (.wrongLength index expected)

end

end BlockVolumes
