import BlockVolumes.Yaml.Plain

/-!
How text is written as a scalar: plain where every reader takes it for that text, and quoted or as
a block of lines otherwise.
-/

namespace BlockVolumes.Yaml

def isPrintable (c : Char) : Bool :=
  let n := c.toNat
  c == '\n' || (0x20 ≤ n && n ≤ 0x7E) ||
    (0xA0 ≤ n && n != 0xFEFF && n != 0xFFFE && n != 0xFFFF)

def readsOtherwise (s : String) : Bool :=
  decide (plainFound s ≠ .text s) || isPadded s.toList

def hasPair (first second : Char → Bool) : List Char → Bool
  | a :: b :: rest => (first a && second b) || hasPair first second (b :: rest)
  | _ => false

def isGap (c : Char) : Bool := isBlank c || isBreak c

def isSpace (c : Char) : Bool := c == ' '

def isOpening (c : Char) : Bool := "#,[]{}&*!|>'\"%@\x60".toList.contains c

def marksDocument (s : List Char) : Bool :=
  ['-', '-', '-'].isPrefixOf s || ['.', '.', '.'].isPrefixOf s

def startsBadly : List Char → Bool
  | [] => false
  | c :: rest => isOpening c || ((c == '?' || c == ':' || c == '-') && rest.head?.all isGap)

def breaksOff (s : List Char) : Bool :=
  hasPair (· == ':') isGap s || s.getLast? == some ':' || hasPair isGap (· == '#') s

def isMultiline (s : List Char) : Bool := s.any isBreak

def needsEscapes (s : List Char) : Bool := s.any (!isPrintable ·) || hasPair isSpace isBreak s

def plainAllowed (s : List Char) : Bool :=
  !(marksDocument s || startsBadly s || breaksOff s || isMultiline s || needsEscapes s ||
    s.head?.any isSpace || s.getLast?.any isSpace)

def singleAllowed (s : List Char) : Bool := !(needsEscapes s || hasPair isBreak isSpace s)

def blockAllowed (s : List Char) : Bool := !(needsEscapes s || s.getLast?.any isSpace)

def singleOrDouble (s : List Char) : Style :=
  if singleAllowed s then .singleQuoted else .doubleQuoted

def valueStyle (s : String) : Style :=
  if '\n' ∈ s.toList then (if blockAllowed s.toList then .literal else .doubleQuoted)
  else if readsOtherwise s then singleOrDouble s.toList
  else if plainAllowed s.toList then .plain
  else singleOrDouble s.toList

def isSimpleKey (s : String) : Bool := !isMultiline s.toList && s.utf8ByteSize ≤ 128

end BlockVolumes.Yaml
