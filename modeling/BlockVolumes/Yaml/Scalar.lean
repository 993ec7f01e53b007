import BlockVolumes.Yaml.Cursor
import BlockVolumes.Yaml.Fault

/-!
Reading scalars: plain, quoted, and in blocks. Each reader starts at the first character of a scalar
and gives its text and the place after it, or what is wrong with the text. The steps that a reader
is given are more than enough; that they run out stands for the end of the text.
-/

namespace BlockVolumes.Yaml

abbrev ScalarReader := Cursor → Except Fault (List Char × Cursor)

/-- Blanks and breaks between two parts of a scalar. `blanks` are those before the first break. -/
structure Gap where
  blanks : List Char
  broken : Bool
  first : List Char
  more : List Char

namespace Gap

def none : Gap := ⟨[], false, [], []⟩

def escaped : Gap := ⟨[], true, [], []⟩

/-- What a gap is read as: a single break becomes a blank, and of several the first one goes. -/
def text (g : Gap) : List Char :=
  if g.broken then
    if g.first = ['\n'] then (if g.more = [] then [' '] else g.more) else g.first ++ g.more
  else g.blanks

end Gap

/-- Passes a gap. With a limit, a tab left of it is malformed once a line has begun. -/
def passGap (limit : Option Nat) (g : Gap) (c : Cursor) :
    (steps : Nat) → Except Fault (Gap × Cursor)
  | 0 => .error (Problem.alone .endOfText)
  | steps + 1 =>
    if c.seesBlank then
      if g.broken then
        if c.sees '\t' && limit.any (c.column < ·) then fail .tabBeforeIndent .plain
        else passGap limit g c.next steps
      else passGap limit { g with blanks := g.blanks ++ c.rest.take 1 } c.next steps
    else if c.seesBreak then
      let (text, after) := c.passBreak
      if g.broken then passGap limit { g with more := g.more ++ text } after steps
      else passGap limit { g with broken := true, first := text } after steps
    else .ok (g, c)

def stepsFor (c : Cursor) : Nat := c.rest.length + 1

def plainEnds (inFlow : Bool) (c : Cursor) : Bool :=
  match c.peek? with
  | some ':' => c.gapAt 1
  | some x => inFlow && (x == ',' || x == '[' || x == ']' || x == '\x7b' || x == '\x7d')
  | none => true

/-- In flow context a colon may not stand right before an indicator. -/
def badColon (inFlow : Bool) (c : Cursor) : Bool :=
  inFlow && c.sees ':' &&
    (c.peekAt? 1).any fun x => [',', '?', '[', ']', '\x7b', '\x7d'].contains x

def plainRun (inFlow : Bool) (text : List Char) (c : Cursor) : (steps : Nat) →
    Except Fault (List Char × Cursor)
  | 0 => .error (Problem.alone .endOfText)
  | steps + 1 =>
    if c.gapAt 0 then .ok (text, c)
    else if badColon inFlow c then fail .badColon .plain
    else if plainEnds inFlow c then .ok (text, c)
    else plainRun inFlow (text ++ c.rest.take 1) c.next steps

structure PlainScalar where
  text : List Char
  after : Cursor
  /-- Whether the gap after the scalar had a break in it. -/
  broken : Bool

/-- Lines of a plain scalar, each at the column `indent` at least unless in flow context. -/
def plainLines (inFlow : Bool) (indent : Nat) (text : List Char) (g : Gap) (c : Cursor) :
    (steps : Nat) → Except Fault PlainScalar
  | 0 => .error (Problem.alone .endOfText)
  | steps + 1 =>
    if c.atDocumentMark || c.sees '#' then .ok ⟨text, c, g.broken⟩
    else do
      let (run, after) ← plainRun inFlow [] c (stepsFor c)
      let joined := if run = [] then text else text ++ g.text ++ run
      let g := if run = [] then g else Gap.none
      if !after.seesBlank && !after.seesBreak then .ok ⟨joined, after, g.broken⟩
      else
        let (g, after) ← passGap (some indent) g after (stepsFor after)
        if !inFlow && after.column < indent then .ok ⟨joined, after, g.broken⟩
        else plainLines inFlow indent joined g after steps

def readPlain (inFlow : Bool) (indent : Nat) (c : Cursor) : Except Fault PlainScalar :=
  plainLines inFlow indent [] .none c (stepsFor c)

def singleRun (text : List Char) (c : Cursor) : (steps : Nat) → List Char × Cursor
  | 0 => (text, c)
  | steps + 1 =>
    match c.rest with
    | '\'' :: '\'' :: _ => singleRun (text ++ ['\'']) (c.skip 2) steps
    | '\'' :: _ => (text, c)
    | x :: _ =>
      if isBlank x || isBreak x then (text, c) else singleRun (text ++ [x]) c.next steps
    | [] => (text, c)

def shortEscape? : Char → Option Char
  | '0' => some '\x00'
  | 'a' => some '\x07'
  | 'b' => some '\x08'
  | 't' => some '\t'
  | '\t' => some '\t'
  | 'n' => some '\n'
  | 'v' => some '\x0b'
  | 'f' => some '\x0c'
  | 'r' => some '\r'
  | 'e' => some '\x1b'
  | ' ' => some ' '
  | '"' => some '"'
  | '/' => some '/'
  | '\\' => some '\\'
  | 'N' => some '\u0085'
  | '_' => some '\u00a0'
  | 'L' => some '\u2028'
  | 'P' => some '\u2029'
  | _ => none

def longEscape? : Char → Option Nat
  | 'x' => some 2
  | 'u' => some 4
  | 'U' => some 8
  | _ => none

def hexDigit? (c : Char) : Option Nat :=
  if c.isDigit then some (c.toNat - 48)
  else if 'a' ≤ c ∧ c ≤ 'f' then some (c.toNat - 87)
  else if 'A' ≤ c ∧ c ≤ 'F' then some (c.toNat - 55)
  else none

def hexNumber? (digits : List Char) : Option Nat :=
  digits.foldlM (fun n c => (hexDigit? c).map (16 * n + ·)) 0

def readEscape : List Char → Except Fault (Char × Nat)
  | [] => fail .unknownEscape .escape
  | letter :: rest =>
    match shortEscape? letter, longEscape? letter with
    | some c, _ => .ok (c, 1)
    | none, some count =>
      let digits := rest.take count
      match if digits.length = count then hexNumber? digits else none with
      | none => fail .noHexNumber .escape
      | some n =>
        if n.isValidChar then .ok (Char.ofNat n, count + 1) else fail .badCharacter .escape
    | none, none => fail .unknownEscape .escape

/-- The part of a scalar in double quotes up to a gap or its end. A break may be escaped, which
leaves nothing of it. -/
def doubleRun (text : List Char) (c : Cursor) :
    (steps : Nat) → Except Fault (List Char × Gap × Cursor)
  | 0 => .error (Problem.alone .endOfText)
  | steps + 1 =>
    match c.rest with
    | '"' :: _ => .ok (text, .none, c)
    | '\\' :: rest =>
      if rest.head?.any isBreak then .ok (text, .escaped, c.next.passBreak.2)
      else do
        let (x, length) ← readEscape rest
        doubleRun (text ++ [x]) (c.skip (length + 1)) steps
    | x :: _ =>
      if isBlank x || isBreak x then .ok (text, .none, c)
      else doubleRun (text ++ [x]) c.next steps
    | [] => .ok (text, .none, c)

def quotedParts (quote : Char) (run : Cursor → Except Fault (List Char × Gap × Cursor))
    (text : List Char) (c : Cursor) : (steps : Nat) → Except Fault (List Char × Cursor)
  | 0 => .error (Problem.alone .endOfText)
  | steps + 1 =>
    if c.atDocumentMark then fail .documentMark .quoted
    else if c.atEnd then fail .unclosed .quoted
    else do
      let (part, g, after) ← run c
      if after.sees quote then .ok (text ++ part, after.next)
      else
        let (g, after) ← passGap none g after (stepsFor after)
        quotedParts quote run (text ++ part ++ g.text) after steps

def readSingleQuoted : ScalarReader := fun c =>
  let run (c : Cursor) : Except Fault (List Char × Gap × Cursor) :=
    let (text, after) := singleRun [] c (stepsFor c)
    .ok (text, .none, after)
  quotedParts '\'' run [] c.next (stepsFor c)

def readDoubleQuoted : ScalarReader := fun c =>
  quotedParts '"' (fun c => doubleRun [] c (stepsFor c)) [] c.next (stepsFor c)

inductive Chomping
  | clip
  | strip
  | keep
deriving DecidableEq

def chomping? : Char → Option Chomping
  | '+' => some .keep
  | '-' => some .strip
  | _ => none

structure BlockHeader where
  chomping : Chomping
  indent : Option Nat

def readHeader (c : Cursor) : Except Fault (BlockHeader × Cursor) :=
  let sign (c : Cursor) : Chomping × Cursor :=
    match c.peek?.bind chomping? with
    | some chomping => (chomping, c.next)
    | none => (.clip, c)
  let digit (c : Cursor) : Except Fault (Option Nat × Cursor) :=
    match c.peek? with
    | some '0' => fail .zeroIndent .block
    | some x => .ok (if x.isDigit then (some (x.toNat - 48), c.next) else (none, c))
    | none => .ok (none, c)
  if (c.peek?.bind chomping?).isSome then do
    let (chomping, c) := sign c
    let (indent, c) ← digit c
    return (⟨chomping, indent⟩, c)
  else do
    let (indent, c) ← digit c
    match indent with
    | some _ =>
      let (chomping, c) := sign c
      return (⟨chomping, indent⟩, c)
    | none => return (⟨.clip, none⟩, c)

/-- Passes the indentation and the empty lines before a line of a block. Gives the breaks and the
widest indentation met. -/
def passEmptyLines (indent : Option Nat) (widest : Nat) (breaks : List Char) (c : Cursor) :
    (steps : Nat) → Except Fault (List Char × Nat × Cursor)
  | 0 => .error (Problem.alone .endOfText)
  | steps + 1 =>
    let inside (column : Nat) : Bool := indent.all (column < ·)
    if c.sees ' ' && inside c.column then passEmptyLines indent widest breaks c.next steps
    else
      let widest := max widest c.column
      if c.sees '\t' && inside c.column then fail .tabInIndent .block
      else if c.seesBreak then
        let (text, after) := c.passBreak
        passEmptyLines indent widest (breaks ++ text) after steps
      else .ok (breaks, widest, c)

/-- The lines of a block at its indentation. `lead` is the break before the line, `breaks` are those
of the empty lines after that, and `spaced` says that the last line began with a blank. -/
def blockLines (folded : Bool) (indent : Nat) (text lead breaks : List Char) (spaced : Bool)
    (c : Cursor) : (steps : Nat) → Except Fault (List Char × List Char × List Char × Cursor)
  | 0 => .error (Problem.alone .endOfText)
  | steps + 1 =>
    if c.column ≠ indent || c.atEnd then .ok (text, lead, breaks, c)
    else do
      let blank := c.seesBlank
      let joint :=
        if folded && lead == ['\n'] && !spaced && !blank then
          (if breaks = [] then [' '] else breaks)
        else lead ++ breaks
      let (line, after) := c.passWhile fun x => !isBreak x
      let (lead, after) := after.passBreak
      let (breaks, _, after) ← passEmptyLines (some indent) 0 [] after (stepsFor after)
      blockLines folded indent (text ++ joint ++ line) lead breaks blank after steps

def readBlock (folded : Bool) (parent : Option Nat) : ScalarReader := fun c => do
  let (header, c) ← readHeader c.next
  let c := c.skipWhile isBlank
  let c := if c.sees '#' then c.skipLine else c
  if !c.atEnd && !c.seesBreak then fail .noLineEnd .block
  else
    let c := c.passBreak.2
    let least := (parent.map (· + 1)).getD 0
    let given := header.indent.map fun n => (parent.getD 0) + n
    let (breaks, widest, c) ← passEmptyLines given 0 [] c (stepsFor c)
    let indent := given.getD (max (max widest least) 1)
    let (text, lead, breaks, c) ← blockLines folded indent [] [] breaks false c (stepsFor c)
    return (match header.chomping with
      | .strip => text
      | .clip => text ++ lead
      | .keep => text ++ lead ++ breaks, c)

end BlockVolumes.Yaml
