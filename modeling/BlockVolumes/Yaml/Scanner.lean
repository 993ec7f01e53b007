import BlockVolumes.Yaml.Tag

/-!
From text to tokens. Structure given by indentation becomes tokens of its own. That something is a
key shows only at the colon after it, so its tokens wait until the colon comes or cannot come.
-/

namespace BlockVolumes.Yaml

/-- A place where a key may have begun: before the given token. It must have if it is the first
thing at the indentation of its collection. -/
structure KeyStart where
  token : Nat
  line : Nat
  column : Nat
  index : Nat
  mandatory : Bool

/-- A key has to end on its line, within 1024 characters. -/
def KeyStart.isStale (k : KeyStart) (c : Cursor) : Bool :=
  k.line < c.line || k.index + 1024 < c.index

/-- `columns` are those of the open block collections, innermost first, and `outer` the key starts
around the open flow collections. -/
structure Scanner where
  cursor : Cursor
  columns : List Nat
  outer : List (Option KeyStart)
  keyStart : Option KeyStart
  keyAllowed : Bool
  tokens : List Token

namespace Scanner

def start (text : List Char) : Scanner :=
  { cursor := .start text, columns := [], outer := [], keyStart := none, keyAllowed := true,
    tokens := [.streamStart] }

def inFlow (s : Scanner) : Bool := !s.outer.isEmpty

def emit (s : Scanner) (token : Token) : Scanner := { s with tokens := s.tokens ++ [token] }

def emitAt (s : Scanner) (number : Nat) (token : Token) : Scanner :=
  { s with tokens := s.tokens.take number ++ token :: s.tokens.drop number }

def mark (s : Scanner) (length : Nat) (token : Token) : Scanner :=
  { s.emit token with cursor := s.cursor.skip length }

def skipGap (s : Scanner) : (steps : Nat) → Scanner
  | 0 => s
  | steps + 1 =>
    let tabs := s.inFlow || !s.keyAllowed
    let c := s.cursor.skipWhile fun x => x == ' ' || (tabs && x == '\t')
    let c := if c.sees '#' then c.skipLine else c
    if c.seesBreak then
      { s with cursor := c.passBreak.2, keyAllowed := s.keyAllowed || !s.inFlow }.skipGap steps
    else { s with cursor := c }

/-- Gives up a key start that is stale; a mandatory one must not be. -/
def refresh (c : Cursor) : Option KeyStart → Except Fault (Option KeyStart)
  | none => .ok none
  | some k =>
    if !k.isStale c then .ok (some k)
    else if k.mandatory then fail .noColon .key
    else .ok none

def dropStale (s : Scanner) : Except Fault Scanner := do
  return { s with keyStart := ← refresh s.cursor s.keyStart,
                  outer := ← s.outer.mapM (refresh s.cursor) }

def dropKey (s : Scanner) : Except Fault Scanner :=
  if s.keyStart.any (·.mandatory) then fail .noColon .key else .ok { s with keyStart := none }

def noteKey (s : Scanner) : Except Fault Scanner :=
  if s.keyAllowed then do
    let s ← s.dropKey
    let c := s.cursor
    let mandatory := !s.inFlow && s.columns.head? == some c.column
    return { s with keyStart := some ⟨s.tokens.length, c.line, c.column, c.index, mandatory⟩ }
  else .ok s

def closeBlocks (s : Scanner) (column : Option Nat) : Scanner :=
  if s.inFlow then s
  else
    let closed := s.columns.takeWhile fun open_ => column.all (· < open_)
    { s with columns := s.columns.drop closed.length,
             tokens := s.tokens ++ closed.map fun _ => .blockEnd }

def openBlock (s : Scanner) (column number : Nat) (token : Token) : Scanner :=
  if s.inFlow || s.columns.head?.any (column ≤ ·) then s
  else { s.emitAt number token with columns := column :: s.columns }

def openBlockHere (s : Scanner) (token : Token) : Scanner :=
  s.openBlock s.cursor.column s.tokens.length token

def streamEnd (s : Scanner) : Except Fault Scanner := do
  let s ← (s.closeBlocks none).dropKey
  return { s.emit .streamEnd with keyAllowed := false }

def directive (s : Scanner) : Except Fault Scanner := do
  let s ← (s.closeBlocks none).dropKey
  let (token, after) ← readDirective s.cursor
  return { s.emit token with cursor := after, keyAllowed := false }

def documentMark (s : Scanner) (token : Token) : Except Fault Scanner := do
  let s ← (s.closeBlocks none).dropKey
  return { s.mark 3 token with keyAllowed := false }

def flowStart (s : Scanner) (token : Token) : Except Fault Scanner := do
  let s ← s.noteKey
  return { s.mark 1 token with
    outer := s.keyStart :: s.outer, keyStart := none, keyAllowed := true }

def flowEnd (s : Scanner) (token : Token) : Except Fault Scanner := do
  let s ← s.dropKey
  let s := s.mark 1 token
  return match s.outer with
    | keyStart :: outer => { s with outer, keyStart, keyAllowed := false }
    | [] => { s with keyAllowed := false }

def flowEntry (s : Scanner) : Except Fault Scanner := do
  let s ← s.dropKey
  return { s.mark 1 .flowEntry with keyAllowed := true }

def blockEntry (s : Scanner) : Except Fault Scanner := do
  if !s.inFlow && !s.keyAllowed then .error (Problem.alone .misplacedItem)
  else
    let s ← (s.openBlockHere .blockSequenceStart).dropKey
    return { s.mark 1 .blockEntry with keyAllowed := true }

def keyMark (s : Scanner) : Except Fault Scanner := do
  if !s.inFlow && !s.keyAllowed then .error (Problem.alone .misplacedKey)
  else
    let s ← (s.openBlockHere .blockMappingStart).dropKey
    return { s.mark 1 .key with keyAllowed := !s.inFlow }

def valueMark (s : Scanner) : Except Fault Scanner :=
  match s.keyStart with
  | some k =>
    let s := (s.emitAt k.token .key).openBlock k.column k.token .blockMappingStart
    .ok { s.mark 1 .value with keyStart := none, keyAllowed := false }
  | none =>
    if !s.inFlow && !s.keyAllowed then .error (Problem.alone .misplacedValue)
    else
      let s := s.openBlockHere .blockMappingStart
      .ok { s.mark 1 .value with keyAllowed := !s.inFlow }

def name (s : Scanner) (activity : Activity) (token : String → Token) : Except Fault Scanner := do
  let s ← s.noteKey
  let (text, after) ← readName activity s.cursor
  return { s.emit (token text) with cursor := after, keyAllowed := false }

def tag (s : Scanner) : Except Fault Scanner := do
  let s ← s.noteKey
  let (handle, suffix, after) ← readTag s.inFlow s.cursor
  return { s.emit (.tag handle suffix) with cursor := after, keyAllowed := false }

def block (s : Scanner) (folded : Bool) : Except Fault Scanner := do
  let s ← s.dropKey
  let (text, after) ← readBlock folded s.columns.head? s.cursor
  let style := if folded then Style.folded else .literal
  return { s.emit (.scalar (String.ofList text) style) with cursor := after, keyAllowed := true }

def quoted (s : Scanner) (reader : ScalarReader) (style : Style) : Except Fault Scanner := do
  let s ← s.noteKey
  let (text, after) ← reader s.cursor
  return { s.emit (.scalar (String.ofList text) style) with cursor := after, keyAllowed := false }

def plain (s : Scanner) : Except Fault Scanner := do
  let s ← s.noteKey
  let indent := (s.columns.head?.map (· + 1)).getD 0
  let scalar ← readPlain s.inFlow indent s.cursor
  return { s.emit (.scalar (String.ofList scalar.text) .plain) with
    cursor := scalar.after, keyAllowed := scalar.broken }

def isIndicator (c : Char) : Bool := "-?:,[]{}#&*!|>'\"%@\x60".toList.contains c

def startsPlain (s : Scanner) (x : Char) : Bool :=
  (!isIndicator x && !isBlank x) || (x == '-' && !(s.cursor.peekAt? 1).any isBlank) ||
    (!s.inFlow && (x == '?' || x == ':') && !s.cursor.gapAt 1)

def step (s : Scanner) : Except Fault Scanner := do
  let s ← (s.skipGap (stepsFor s.cursor)).dropStale
  let s := s.closeBlocks (some s.cursor.column)
  let c := s.cursor
  match c.peek? with
  | none => s.streamEnd
  | some x =>
    if c.column = 0 ∧ x = '%' then s.directive
    else if c.atDocumentMark then s.documentMark (if x = '-' then .documentStart else .documentEnd)
    else if x = '[' then s.flowStart .flowSequenceStart
    else if x = '\x7b' then s.flowStart .flowMappingStart
    else if x = ']' then s.flowEnd .flowSequenceEnd
    else if x = '\x7d' then s.flowEnd .flowMappingEnd
    else if x = ',' then s.flowEntry
    else if x = '-' ∧ c.gapAt 1 then s.blockEntry
    else if x = '?' ∧ (s.inFlow ∨ c.gapAt 1) then s.keyMark
    else if x = ':' ∧ (s.inFlow ∨ c.gapAt 1) then s.valueMark
    else if x = '*' then s.name .alias .alias
    else if x = '&' then s.name .anchor .anchor
    else if x = '!' then s.tag
    else if x = '|' ∧ !s.inFlow then s.block false
    else if x = '>' ∧ !s.inFlow then s.block true
    else if x = '\'' then s.quoted readSingleQuoted .singleQuoted
    else if x = '"' then s.quoted readDoubleQuoted .doubleQuoted
    else if s.startsPlain x then s.plain
    else fail .noToken .nextToken

def settled (s : Scanner) : Nat :=
  (s.keyStart :: s.outer).foldl (fun n k =>
    match k with
    | some k => min n k.token
    | none => n) s.tokens.length

/-- The tokens up to the end, or those that are certain before something turns out wrong. -/
def run (s : Scanner) : (steps : Nat) → Reading Token
  | 0 => ⟨s.tokens.take s.settled, some (Problem.alone .endOfText)⟩
  | steps + 1 =>
    match s.step with
    | .error fault => ⟨s.tokens.take s.settled, some fault⟩
    | .ok next =>
      if next.tokens.getLast? = some .streamEnd then ⟨next.tokens, none⟩ else next.run steps

end Scanner

def utf8Length (text : List Char) : Nat := 
  text.foldl (fun length c => length + c.utf8Size) 0

/-- The tokens of a text. They end with the end of the stream if nothing is wrong. -/
def Token.scan (text : String) : Reading Token :=
  let (mark, chars) := match text.toList with
    | '\uFEFF' :: rest => (['\uFEFF'], rest)
    | chars => ([], chars)
  let allowed := chars.takeWhile isAllowed
  if allowed.length = chars.length then (Scanner.start chars).run (chars.length + 2)
  else ⟨[], some (Problem.alone (.controlCharacter (utf8Length (mark ++ allowed))))⟩

end BlockVolumes.Yaml
