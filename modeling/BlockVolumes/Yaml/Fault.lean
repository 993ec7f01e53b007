/-!
What can be wrong with a YAML text, and what was being read of it when that came up.
-/

namespace BlockVolumes.Yaml

inductive Activity
  | nextToken
  | key
  | directive
  | version
  | shorthand
  | shorthandHandle
  | shorthandMark
  | shorthandLead
  | anchor
  | alias
  | tag
  | tagText
  | block
  | quoted
  | escape
  | plain
  | node
  | blockNode
  | flowNode
  | blockSequence
  | blockMapping
  | flowSequence
  | flowMapping
deriving DecidableEq

def Activity.text : Activity → String
  | .nextToken => "while scanning for the next token"
  | .key => "while scanning a simple key"
  | .directive => "while scanning a directive"
  | .version => "while scanning a %YAML directive"
  | .shorthand => "while scanning a %TAG directive"
  | .shorthandHandle => "while scanning a tag directive"
  | .shorthandMark => "while parsing a tag directive"
  | .shorthandLead => "while parsing a %TAG directive"
  | .anchor => "while scanning an anchor"
  | .alias => "while scanning an alias"
  | .tag => "while scanning a tag"
  | .tagText => "while parsing a tag"
  | .block => "while scanning a block scalar"
  | .quoted => "while scanning a quoted scalar"
  | .escape => "while parsing a quoted scalar"
  | .plain => "while scanning a plain scalar"
  | .node => "while parsing a node"
  | .blockNode => "while parsing a block node"
  | .flowNode => "while parsing a flow node"
  | .blockSequence => "while parsing a block collection"
  | .blockMapping => "while parsing a block mapping"
  | .flowSequence => "while parsing a flow sequence"
  | .flowMapping => "while parsing a flow mapping"

inductive Problem
  /-- Some characters may not be in a text at all; this one comes after so many bytes. -/
  | controlCharacter (offset : Nat)
  | noToken
  | noColon
  | misplacedItem
  | misplacedKey
  | misplacedValue
  | unknownDirective
  | noDirectiveName
  | badDirectiveName
  | noLineEnd
  | noVersionPoint
  | noVersion
  | longVersion
  | noBlank
  | noGap
  | noName
  | noTagMark
  | noTagText
  | noTagEnd
  | noOctet
  | badFirstOctet
  | badNextOctet
  | zeroIndent
  | tabInIndent
  | tabBeforeIndent
  | documentMark
  | unclosed
  | unknownEscape
  | noHexNumber
  | badCharacter
  | badColon
  | noDocumentStart
  | repeatedVersion
  | unknownVersion
  | repeatedShorthand
  | undefinedHandle
  | noContent
  | noItem
  | noKey
  | noListEnd
  | noObjectEnd
  | unknownAnchor
  | moreDocuments
  | endOfText
deriving DecidableEq

def Problem.text : Problem → String
  | .controlCharacter offset => "control characters are not allowed" ++
    (if offset = 0 then "" else " at position " ++ toString offset)
  | .noToken => "found character that cannot start any token"
  | .noColon => "could not find expected ':'"
  | .misplacedItem => "block sequence entries are not allowed in this context"
  | .misplacedKey => "mapping keys are not allowed in this context"
  | .misplacedValue => "mapping values are not allowed in this context"
  | .unknownDirective => "found unknown directive name"
  | .noDirectiveName => "could not find expected directive name"
  | .badDirectiveName => "found unexpected non-alphabetical character"
  | .noLineEnd => "did not find expected comment or line break"
  | .noVersionPoint => "did not find expected digit or '.' character"
  | .noVersion => "did not find expected version number"
  | .longVersion => "found extremely long version number"
  | .noBlank => "did not find expected whitespace"
  | .noGap => "did not find expected whitespace or line break"
  | .noName => "did not find expected alphabetic or numeric character"
  | .noTagMark => "did not find expected '!'"
  | .noTagText => "did not find expected tag URI"
  | .noTagEnd => "did not find the expected '>'"
  | .noOctet => "did not find URI escaped octet"
  | .badFirstOctet => "found an incorrect leading UTF-8 octet"
  | .badNextOctet => "found an incorrect trailing UTF-8 octet"
  | .zeroIndent => "found an indentation indicator equal to 0"
  | .tabInIndent => "found a tab character where an indentation space is expected"
  | .tabBeforeIndent => "found a tab character that violates indentation"
  | .documentMark => "found unexpected document indicator"
  | .unclosed => "found unexpected end of stream"
  | .unknownEscape => "found unknown escape character"
  | .noHexNumber => "did not find expected hexdecimal number"
  | .badCharacter => "found invalid Unicode character escape code"
  | .badColon => "found unexpected ':'"
  | .noDocumentStart => "did not find expected <document start>"
  | .repeatedVersion => "found duplicate %YAML directive"
  | .unknownVersion => "found incompatible YAML document"
  | .repeatedShorthand => "found duplicate %TAG directive"
  | .undefinedHandle => "found undefined tag handle"
  | .noContent => "did not find expected node content"
  | .noItem => "did not find expected '-' indicator"
  | .noKey => "did not find expected key"
  | .noListEnd => "did not find expected ',' or ']'"
  | .noObjectEnd => "did not find expected ',' or '\x7d'"
  | .unknownAnchor => "unknown anchor"
  | .moreDocuments =>
    "deserializing from YAML containing more than one document is not supported"
  | .endOfText => "EOF while parsing a value"

structure Fault where
  problem : Problem
  during : Option Activity
deriving DecidableEq

def Fault.message (f : Fault) : String :=
  match f.during with
  | some activity => f.problem.text ++ ", " ++ activity.text
  | none => f.problem.text

def Problem.alone (problem : Problem) : Fault := ⟨problem, none⟩

def fail {α : Type} (problem : Problem) (activity : Activity) : Except Fault α :=
  .error ⟨problem, some activity⟩

structure Reading (α : Type) where
  items : List α
  fault : Option Fault

end BlockVolumes.Yaml
