import BlockVolumes.Yaml.Event

/-!
The first document of a text, with its aliases resolved to places in it.
-/

namespace BlockVolumes.Yaml

/-- The parts of a document. An alias tells the number of its anchor, and `nothing` stands for a
text without documents. -/
inductive Part
  | nothing
  | alias (anchor : Nat)
  | scalar (scalar : Scalar)
  | sequenceStart (tag : Option String)
  | sequenceEnd
  | mappingStart (tag : Option String)
  | mappingEnd
deriving DecidableEq

/-- `anchors` tells where the node with each anchor is. A document breaks off at a fault, unless
that is only that there are more. -/
structure Document where
  parts : List Part
  anchors : List (Nat × Nat)
  fault : Option Fault

/-- `names` tells the numbers of the anchors by name; the latest of a name counts. -/
structure Draft where
  parts : List Part
  anchors : List (Nat × Nat)
  names : List (String × Nat)

namespace Draft

def empty : Draft := ⟨[], [], []⟩

def push (d : Draft) (part : Part) : Draft := { d with parts := d.parts ++ [part] }

def anchored (d : Draft) : Option String → Draft
  | none => d
  | some name =>
    let number := d.names.length
    let names := (name, number) :: d.names.filter (·.1 ≠ name)
    { d with names, anchors := (number, d.parts.length) :: d.anchors }

def finish (d : Draft) (fault : Option Fault) : Document := ⟨d.parts, d.anchors, fault⟩

/-- Takes the parts of the first document from events, with what is wrong after those. An alias of
an unknown anchor breaks the document off. -/
def take (d : Draft) (breach : Option Fault) : List Event → Document
  | [] => d.finish breach
  | .documentStart :: rest => d.take breach rest
  | .documentEnd :: rest =>
    d.finish (if rest = [.streamEnd] then none else some (Problem.alone .moreDocuments))
  | .streamEnd :: _ => (if d.parts = [] then d.push .nothing else d).finish none
  | .alias name :: rest =>
    match d.names.find? (·.1 = name) with
    | some (_, number) => (d.push (.alias number)).take breach rest
    | none => d.finish (some (Problem.alone .unknownAnchor))
  | .scalar scalar anchor :: rest => ((d.anchored anchor).push (.scalar scalar)).take breach rest
  | .sequenceStart tag anchor :: rest =>
    ((d.anchored anchor).push (.sequenceStart tag)).take breach rest
  | .sequenceEnd :: rest => (d.push .sequenceEnd).take breach rest
  | .mappingStart tag anchor :: rest =>
    ((d.anchored anchor).push (.mappingStart tag)).take breach rest
  | .mappingEnd :: rest => (d.push .mappingEnd).take breach rest

end Draft

def Document.read (text : String) : Document :=
  let events := Event.ofTokens (Token.scan text)
  Draft.empty.take events.fault events.items

def Document.atAnchor (d : Document) (anchor : Nat) : List Part :=
  match d.anchors.find? (·.1 = anchor) with
  | some (_, place) => d.parts.drop place
  | none => []

end BlockVolumes.Yaml
