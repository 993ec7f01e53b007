/-!
A place in a YAML text, and the character classes that its grammar is built on.
-/

namespace BlockVolumes.Yaml

structure Cursor where
  rest : List Char
  line : Nat
  column : Nat
  index : Nat

def isBreak (c : Char) : Bool :=
  c == '\n' || c == '\r' || c == '\u0085' || c == '\u2028' || c == '\u2029'

def isBlank (c : Char) : Bool := c == ' ' || c == '\t'

def isWord (c : Char) : Bool := c.isAlphanum || c == '_' || c == '-'

def isAllowed (c : Char) : Bool :=
  let n := c.toNat
  n == 0x9 || n == 0xA || n == 0xD || (0x20 ≤ n && n ≤ 0x7E) || n == 0x85 ||
    (0xA0 ≤ n && n ≤ 0xFFFD && n != 0xFEFF) || 0x10000 ≤ n

/-- A break in folded text: all kinds are written alike but for two. -/
def breakChar (c : Char) : Char := if c == '\u2028' || c == '\u2029' then c else '\n'

namespace Cursor

def start (text : List Char) : Cursor := ⟨text, 0, 0, 0⟩

def peek? (c : Cursor) : Option Char := c.rest.head?

def peekAt? (c : Cursor) (n : Nat) : Option Char := c.rest[n]?

def atEnd (c : Cursor) : Bool := c.rest.isEmpty

def gapAt (c : Cursor) (n : Nat) : Bool :=
  match c.peekAt? n with
  | none => true
  | some x => isBlank x || isBreak x

def sees (c : Cursor) (x : Char) : Bool := c.peek? == some x

def seesBlank (c : Cursor) : Bool := c.peek?.any isBlank

def seesBreak (c : Cursor) : Bool := c.peek?.any isBreak

def next (c : Cursor) : Cursor := ⟨c.rest.tail, c.line, c.column + 1, c.index + 1⟩

def skip (c : Cursor) : (count : Nat) → Cursor
  | 0 => c
  | count + 1 => c.next.skip count

def passBreak (c : Cursor) : List Char × Cursor :=
  match c.rest with
  | '\r' :: '\n' :: rest => (['\n'], ⟨rest, c.line + 1, 0, c.index + 2⟩)
  | x :: rest =>
    if isBreak x then ([breakChar x], ⟨rest, c.line + 1, 0, c.index + 1⟩) else ([], c)
  | [] => ([], c)

def passWhile (c : Cursor) (p : Char → Bool) : List Char × Cursor :=
  let passed := c.rest.takeWhile p
  (passed, ⟨c.rest.drop passed.length, c.line, c.column + passed.length, c.index + passed.length⟩)

def skipWhile (c : Cursor) (p : Char → Bool) : Cursor := (c.passWhile p).2

def skipLine (c : Cursor) : Cursor := c.skipWhile fun x => !isBreak x

def atDocumentMark (c : Cursor) : Bool :=
  c.column == 0 && c.gapAt 3 &&
    (c.rest.take 3 == ['-', '-', '-'] || c.rest.take 3 == ['.', '.', '.'])

end Cursor

end BlockVolumes.Yaml
