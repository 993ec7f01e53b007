import BlockVolumes.Json.Skip

/-!
Reading a value of a given shape from JSON text. The first fault in reading order is the one
reported, be it in the text or in how it fits the shape.
-/

namespace BlockVolumes.Json

/-- The error for a value that does not start like the one expected. Numbers, words and strings are
read first, so that a fault inside them is reported instead. -/
def unexpected {α : Type} (expected : String) (b : UInt8) (rest : Input) : Except Error α :=
  if b = letterN then do
    let _ ← word nullTail rest
    refuse (.wrongType .null expected)
  else if b = letterT then do
    let _ ← word trueTail rest
    refuse (.wrongType (.flag true) expected)
  else if b = letterF then do
    let _ ← word falseTail rest
    refuse (.wrongType (.flag false) expected)
  else if b = quote then do
    let (s, _) ← stringText rest
    refuse (.wrongType (.text s) expected)
  else if b = openList then refuse (.wrongType .sequence expected)
  else if b = openObject then refuse (.wrongType .map expected)
  else
    match number? (b :: rest) with
    | some read => do
      let (n, _) ← read
      refuse (.wrongType (.number n) expected)
    | none => fail .expectedValue

def onValue {α : Type} (read : UInt8 → Reader α) : Reader α := fun input =>
  match skipBlanks input with
  | [] => fail .endInValue
  | b :: rest => read b rest

def readText (expected : String) : Reader String :=
  onValue fun b rest => if b = quote then stringText rest else unexpected expected b rest

def readFlag (expected : String) : Reader Bool :=
  onValue fun b rest =>
    if b = letterT then do .ok (true, ← word trueTail rest)
    else if b = letterF then do .ok (false, ← word falseTail rest)
    else unexpected expected b rest

def checked {α : Type} (result : Except Mismatch α) (rest : Input) : Except Error (α × Input) :=
  match result with
  | .ok value => .ok (value, rest)
  | .error cause => refuse cause

def readWord {ω : Type} (ofNumber : Number → Except Mismatch ω) (expected : String) : Reader ω :=
  onValue fun b rest =>
    match number? (b :: rest) with
    | some read => do
      let (n, rest) ← read
      checked (ofNumber n) rest
    | none => unexpected expected b rest

def nextItem (first : Bool) (input : Input) : Except Error (Option Input) :=
  match skipBlanks input with
  | [] => fail .endInList
  | b :: rest =>
    if b = closeList then .ok none
    else if first then .ok (some (b :: rest))
    else if b = comma then
      match skipBlanks rest with
      | [] => fail .endInValue
      | b :: rest => if b = closeList then fail .trailingComma else .ok (some (b :: rest))
    else fail .expectedListEnd

def closing (input : Input) : Except Error Input :=
  match skipBlanks input with
  | [] => fail .endInList
  | b :: rest =>
    if b = closeList then .ok rest
    else if b = comma then
      match skipBlanks rest with
      | closeList :: _ => fail .trailingComma
      | _ => fail .trailingCharacters
    else fail .trailingCharacters

def items {α : Type} (item : Reader α) :
    (steps : Nat) → (first : Bool) → (reversed : List α) → Reader (List α)
  | 0, _, reversed, input => .ok (reversed.reverse, input)
  | steps + 1, first, reversed, input => do
    match ← nextItem first input with
    | none => .ok (reversed.reverse, input)
    | some input =>
      let (value, rest) ← item input
      items item steps false (value :: reversed) rest

def nextMember (first : Bool) (input : Input) : Except Error (Option Input) :=
  match skipBlanks input with
  | [] => fail .endInObject
  | b :: rest =>
    if b = closeObject then .ok none
    else if first then if b = quote then .ok (some rest) else fail .keyNotText
    else if b = comma then
      match skipBlanks rest with
      | [] => fail .endInValue
      | b :: rest =>
        if b = quote then .ok (some rest)
        else if b = closeObject then fail .trailingComma
        else fail .keyNotText
    else fail .expectedObjectEnd

/-- Reads the members of an object up to its closing brace, each by `member` after its name. -/
def members {σ : Type} (member : String → σ → Reader σ) :
    (steps : Nat) → (first : Bool) → σ → Reader σ
  | 0, _, state, input => .ok (state, input)
  | steps + 1, first, state, input => do
    match ← nextMember first input with
    | none => .ok (state, input)
    | some input =>
      let (name, rest) ← stringText input
      let (state, rest) ← member name state rest
      members member steps false state rest

def closeBrace (input : Input) : Except Error Input :=
  match skipBlanks input with
  | closeObject :: rest => .ok rest
  | _ :: _ => fail .trailingCharacters
  | [] => fail .endInObject

/-- A member of a map to text; the last one of a name counts. -/
def tableMember (name : String) (table : Table String) : Reader (Table String) := fun input => do
  let rest ← skipColon input
  let (value, rest) ← readText "a string" rest
  .ok (table.insert name value, rest)

def readTable : Reader (Table String) :=
  onValue fun b rest =>
    if b = openObject then do
      let (table, rest) ← members tableMember (rest.length + 1) true .empty rest
      .ok (table, ← closeBrace rest)
    else unexpected "a map" b rest

/-- A choice, as its name or as an object of the name and null. -/
def readChoice {α : Type} (options : List (String × α)) : Reader α := fun input =>
  match skipBlanks input with
  | [] => fail .endInValue
  | b :: rest =>
    if b = quote then do
      let (name, rest) ← stringText rest
      checked (pickOption options name) rest
    else if b = openObject then do
      let (name, rest) ← readText "variant identifier" rest
      let (value, rest) ← checked (pickOption options name) rest
      let rest ← skipColon rest
      let rest ← onValue (fun b rest =>
        if b = letterN then do .ok ((), ← word nullTail rest) else unexpected "unit" b rest) rest
      match skipBlanks rest.2 with
      | closeObject :: rest => .ok (value, rest)
      | _ :: _ => fail .expectedValue
      | [] => fail .endInObject
    else fail .expectedValue

end BlockVolumes.Json

namespace BlockVolumes

open Json

mutual

def Shape.read : {α : Type} → Shape α → Reader α
  | _, .text => readText "a string"
  | _, .path => readText "path string"
  | _, .flag => readFlag "a boolean"
  | _, .word32 => readWord word32Of "u32"
  | _, .word64 => readWord word64Of "u64"
  | _, .time => fun input => do
    let (s, rest) ← readText "an RFC 3339 formatted date and time string" input
    checked (timeOf s) rest
  | _, .table => readTable
  | _, .optional shape => fun input =>
    match skipBlanks input with
    | letterN :: rest => do .ok (none, ← word nullTail rest)
    | input => do
      let (value, rest) ← shape.read input
      .ok (some value, rest)
  | _, .list shape =>
    onValue fun b rest =>
      if b = openList then do
        let (values, rest) ← items shape.read (rest.length + 1) true [] rest
        .ok (values, ← closing rest)
      else unexpected "a sequence" b rest
  | _, .choice options _ => readChoice options
  | _, .record name fields pack _ =>
    onValue fun b rest =>
      if b = openObject then do
        let (draft, rest) ← members fields.readMember (rest.length + 1) true fields.blank rest
        match fields.finish draft with
        | .ok values => .ok (pack values, ← closeBrace rest)
        | .error cause => refuse cause
      else if b = openList then do
        let (values, rest) ← fields.readItems (sequenceExpectation name fields.count) 0 rest
        .ok (pack values, ← closing rest)
      else unexpected ("struct " ++ name) b rest
  | _, .wrapped shape wrap _ => fun input => do
    let (value, rest) ← shape.read input
    .ok (wrap value, rest)

def Fields.readMember :
    {τ : Type} → (fields : Fields τ) → String → fields.Draft → Reader fields.Draft
  | _, .nil, _, draft => fun input => do .ok (draft, ← skipValue (← skipColon input))
  | _, @Fields.cons α _ key shape rest, name, draft => fun input =>
    let draft : Option α × rest.Draft := draft
    if name = key.name then
      if draft.1.isSome then refuse (.duplicateField key.name)
      else do
        let (value, input) ← shape.read (← skipColon input)
        .ok ((some value, draft.2), input)
    else do
      let (later, input) ← rest.readMember name draft.2 input
      .ok ((draft.1, later), input)

def Fields.readItems : {τ : Type} → Fields τ → (expected : String) → (index : Nat) → Reader τ
  | _, .nil, _, _ => fun input => .ok ((), input)
  | _, .cons key shape rest, expected, index => fun input => do
    match ← nextItem (index == 0) input with
    | some input =>
      let (value, input) ← shape.read input
      let (values, input) ← rest.readItems expected (index + 1) input
      .ok ((value, values), input)
    | none =>
      match key.short with
      | some value =>
        let (values, input) ← rest.readItems expected (index + 1) input
        .ok ((value, values), input)
      | none => refuse (.wrongLength index expected)

end

def Shape.decode {α : Type} (shape : Shape α) (input : Input) : Except Error α := do
  let (value, rest) ← shape.read input
  if skipBlanks rest = [] then .ok value else fail .trailingCharacters

def Shape.decodeText {α : Type} (shape : Shape α) (s : String) : Except Error α :=
  shape.decode s.toUTF8.toList

end BlockVolumes
