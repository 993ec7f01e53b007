import BlockVolumes.Yaml.Scanner

/-!
From tokens to events. The events of a text are those of its documents, one after the other, up to
where something is wrong.
-/

namespace BlockVolumes.Yaml

structure Scalar where
  text : String
  style : Style
  tag : Option String
deriving DecidableEq

inductive Event
  | documentStart
  | documentEnd
  | streamEnd
  | alias (name : String)
  | scalar (scalar : Scalar) (anchor : Option String)
  | sequenceStart (tag anchor : Option String)
  | sequenceEnd
  | mappingStart (tag anchor : Option String)
  | mappingEnd
deriving DecidableEq

inductive Expecting
  | firstDocument
  | document
  | content
  | documentEnd
  | node
  | blockItem
  | indentlessItem
  | blockKey
  | blockValue
  | flowItem (first : Bool)
  | flowPairKey
  | flowPairValue
  | flowPairEnd
  | flowKey (first : Bool)
  | flowValue
  | flowNoValue
deriving DecidableEq

/-- `next` is expected now and `after` once that is done; `shorthands` are those of the document.
What is wrong after the tokens is the `breach`. -/
structure Grammar where
  tokens : List Token
  breach : Fault
  next : Expecting
  after : List Expecting
  shorthands : List (String × String)

def empty : Event := .scalar ⟨"", .plain, none⟩ none

def standardShorthands : List (String × String) :=
  [("!", "!"), ("!!", "tag:yaml.org,2002:")]

namespace Grammar

def start (tokens : Reading Token) : Grammar :=
  ⟨tokens.items.drop 1, tokens.fault.getD (Problem.alone .endOfText), .firstDocument, [], []⟩

def peek (g : Grammar) : Except Fault Token :=
  match g.tokens with
  | token :: _ => .ok token
  | [] => .error g.breach

def skip (g : Grammar) : Grammar := { g with tokens := g.tokens.tail }

def expect (g : Grammar) (next : Expecting) : Grammar := { g with next }

def finish (g : Grammar) : Grammar :=
  match g.after with
  | next :: after => { g with next, after }
  | [] => { g with next := .document }

def before (g : Grammar) (next : Expecting) : Grammar := { g with after := next :: g.after }

def nothing (g : Grammar) (next : Expecting) : Except Fault (Event × Grammar) :=
  .ok (empty, g.expect next)

def isDirective : Token → Bool
  | .version _ _ => true
  | .tagShorthand _ _ => true
  | _ => false

def directives (g : Grammar) (versioned : Bool) (shorthands : List (String × String)) :
    List Token → Except Fault Grammar
  | .version major minor :: rest =>
    if versioned then .error (Problem.alone .repeatedVersion)
    else if major ≠ 1 ∨ (minor ≠ 1 ∧ minor ≠ 2) then .error (Problem.alone .unknownVersion)
    else g.directives true shorthands rest
  | .tagShorthand handle lead :: rest =>
    if shorthands.any (·.1 = handle) then .error (Problem.alone .repeatedShorthand)
    else g.directives versioned (shorthands ++ [(handle, lead)]) rest
  | tokens =>
    let missing := standardShorthands.filter fun (handle, _) => !shorthands.any (·.1 = handle)
    .ok { g with tokens, shorthands := shorthands ++ missing }

def document (g : Grammar) (first : Bool) : Except Fault (Event × Grammar) := do
  let tokens := if first then g.tokens else g.tokens.dropWhile (· = .documentEnd)
  let g := { g with tokens }
  let token ← g.peek
  if token = .streamEnd then return (.streamEnd, g.skip)
  else if first ∧ !isDirective token ∧ token ≠ .documentStart then
    return (.documentStart, { g with next := .node, after := [.documentEnd],
                                     shorthands := standardShorthands })
  else
    let g ← g.directives false [] g.tokens
    if (← g.peek) = .documentStart then
      return (.documentStart, { g.skip with next := .content, after := [.documentEnd] })
    else .error (Problem.alone .noDocumentStart)

def resolve (g : Grammar) (handle suffix : String) : Option String :=
  if handle = "" then some suffix
  else (g.shorthands.find? (·.1 = handle)).map fun (_, lead) => lead ++ suffix

/-- Whether a handle is defined is asked only once it is known what follows the tag. -/
def resolved (g : Grammar) (handle suffix : String) : Except Fault String := do
  let _ ← g.peek
  match g.resolve handle suffix with
  | some tag => return tag
  | none => fail .undefinedHandle .node

def properties (g : Grammar) : Except Fault (Option String × Option String × Grammar) :=
  let past (rest : List Token) : Grammar := { g with tokens := rest }
  match g.tokens with
  | .anchor name :: .tag handle suffix :: rest => do
    return (some name, some (← (past rest).resolved handle suffix), past rest)
  | .anchor name :: rest => .ok (some name, none, past rest)
  | .tag handle suffix :: .anchor name :: rest => do
    return (some name, some (← (past rest).resolved handle suffix), past rest)
  | .tag handle suffix :: rest => do
    return (none, some (← (past rest).resolved handle suffix), past rest)
  | _ => .ok (none, none, g)

def node (g : Grammar) (block indentless : Bool) : Except Fault (Event × Grammar) := do
  match g.tokens with
  | .alias name :: rest => return (.alias name, { g with tokens := rest }.finish)
  | _ =>
    let (anchor, tag, g) ← g.properties
    match ← g.peek, block with
    | .scalar text style, _ => return (.scalar ⟨text, style, tag⟩ anchor, g.skip.finish)
    | .flowSequenceStart, _ => return (.sequenceStart tag anchor, g.skip.expect (.flowItem true))
    | .flowMappingStart, _ => return (.mappingStart tag anchor, g.skip.expect (.flowKey true))
    | .blockSequenceStart, true => return (.sequenceStart tag anchor, g.skip.expect .blockItem)
    | .blockMappingStart, true => return (.mappingStart tag anchor, g.skip.expect .blockKey)
    | token, _ =>
      if indentless ∧ token = .blockEntry then
        return (.sequenceStart tag anchor, g.expect .indentlessItem)
      else if anchor.isSome ∨ tag.isSome then return (.scalar ⟨"", .plain, tag⟩ anchor, g.finish)
      else fail .noContent (if block then .blockNode else .flowNode)

def nodeUnless (g : Grammar) (enders : List Token) (block indentless : Bool) (next : Expecting) :
    Except Fault (Event × Grammar) := do
  if (← g.peek) ∈ enders then g.nothing next
  else (g.before next).node block indentless

def pastComma (g : Grammar) (first : Bool) (missing : Fault) : Except Fault Grammar := do
  if first then return g
  else if (← g.peek) = .flowEntry then return g.skip
  else .error missing

def flowItem (g : Grammar) (first : Bool) : Except Fault (Event × Grammar) := do
  if (← g.peek) = .flowSequenceEnd then return (.sequenceEnd, g.skip.finish)
  else
    let g ← g.pastComma first ⟨.noListEnd, some .flowSequence⟩
    match ← g.peek with
    | .key => return (.mappingStart none none, g.skip.expect .flowPairKey)
    | .flowSequenceEnd => return (.sequenceEnd, g.skip.finish)
    | _ => (g.before (.flowItem false)).node false false

def flowKey (g : Grammar) (first : Bool) : Except Fault (Event × Grammar) := do
  if (← g.peek) = .flowMappingEnd then return (.mappingEnd, g.skip.finish)
  else
    let g ← g.pastComma first ⟨.noObjectEnd, some .flowMapping⟩
    match ← g.peek with
    | .key => g.skip.nodeUnless [.value, .flowEntry, .flowMappingEnd] false false .flowValue
    | .flowMappingEnd => return (.mappingEnd, g.skip.finish)
    | _ => (g.before .flowNoValue).node false false

def step (g : Grammar) : Except Fault (Event × Grammar) := do
  let token ← g.peek
  match g.next with
  | .firstDocument => g.document true
  | .document => g.document false
  | .content =>
    if isDirective token ∨ token ∈ [.documentStart, .documentEnd, .streamEnd] then
      return (empty, g.finish)
    else g.node true false
  | .documentEnd =>
    return (.documentEnd, (if token = .documentEnd then g.skip else g).expect .document)
  | .node => g.node true false
  | .blockItem =>
    match token with
    | .blockEntry => g.skip.nodeUnless [.blockEntry, .blockEnd] true false .blockItem
    | .blockEnd => return (.sequenceEnd, g.skip.finish)
    | _ => fail .noItem .blockSequence
  | .indentlessItem =>
    match token with
    | .blockEntry =>
      g.skip.nodeUnless [.blockEntry, .key, .value, .blockEnd] true false .indentlessItem
    | _ => return (.sequenceEnd, g.finish)
  | .blockKey =>
    match token with
    | .key => g.skip.nodeUnless [.key, .value, .blockEnd] true true .blockValue
    | .blockEnd => return (.mappingEnd, g.skip.finish)
    | _ => fail .noKey .blockMapping
  | .blockValue =>
    match token with
    | .value => g.skip.nodeUnless [.key, .value, .blockEnd] true true .blockKey
    | _ => g.nothing .blockKey
  | .flowItem first => g.flowItem first
  | .flowPairKey =>
    if token ∈ [.value, .flowEntry, .flowSequenceEnd] then g.skip.nothing .flowPairValue
    else (g.before .flowPairValue).node false false
  | .flowPairValue =>
    match token with
    | .value => g.skip.nodeUnless [.flowEntry, .flowSequenceEnd] false false .flowPairEnd
    | _ => g.nothing .flowPairEnd
  | .flowPairEnd => return (.mappingEnd, g.expect (.flowItem false))
  | .flowKey first => g.flowKey first
  | .flowValue =>
    match token with
    | .value => g.skip.nodeUnless [.flowEntry, .flowMappingEnd] false false (.flowKey false)
    | _ => g.nothing (.flowKey false)
  | .flowNoValue => g.nothing (.flowKey false)

def events (g : Grammar) : (steps : Nat) → Reading Event
  | 0 => ⟨[], some g.breach⟩
  | steps + 1 =>
    match g.step with
    | .error fault => ⟨[], some fault⟩
    | .ok (.streamEnd, _) => ⟨[.streamEnd], none⟩
    | .ok (event, next) =>
      let later := next.events steps
      ⟨event :: later.items, later.fault⟩

end Grammar

/-- The events of a text. They end with the end of the stream if nothing is wrong. Each token takes
part in three events at most. -/
def Event.ofTokens (tokens : Reading Token) : Reading Event :=
  (Grammar.start tokens).events (3 * tokens.items.length + 3)

end BlockVolumes.Yaml
