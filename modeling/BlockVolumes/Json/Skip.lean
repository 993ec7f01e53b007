import BlockVolumes.Json.Lexical

/-!
Passing over a well-formed value of any kind and depth.
-/

namespace BlockVolumes.Json

inductive Frame
  | list
  | object
deriving DecidableEq

def Frame.close : Frame → UInt8
  | .list => closeList
  | .object => closeObject

def Frame.atEnd : Frame → Fault
  | .list => .endInList
  | .object => .endInObject

def Frame.expectedEnd : Frame → Fault
  | .list => .expectedListEnd
  | .object => .expectedObjectEnd

/-- Where the reader stands: before a value, just inside a list or object, or after a value. -/
inductive Stance
  | before
  | inside
  | after

def skipColon (input : Input) : Except Error Input :=
  match skipBlanks input with
  | colon :: rest => .ok rest
  | _ :: _ => fail .expectedColon
  | [] => fail .endInObject

def skipName (input : Input) : Except Error Input :=
  match skipBlanks input with
  | quote :: rest => do skipColon (← skipString rest)
  | _ :: _ => fail .keyNotText
  | [] => fail .endInObject

def Frame.skipLead : Frame → Input → Except Error Input
  | .list, input => .ok input
  | .object, input => skipName input

def skipScalar (b : UInt8) (rest : Input) : Except Error Input :=
  if b = letterN then word nullTail rest
  else if b = letterT then word trueTail rest
  else if b = letterF then word falseTail rest
  else if b = minus then skipUnsigned rest
  else if isDigit b then skipUnsigned (b :: rest)
  else if b = quote then skipString rest
  else fail .expectedValue

/-- Reads on until the frames are closed. Every step but the last takes a byte. -/
def skipFrames : (steps : Nat) → Stance → List Frame → Input → Except Error Input
  | 0, _, _, input => .ok input
  | steps + 1, .before, frames, input =>
    match skipBlanks input with
    | [] => fail .endInValue
    | openList :: rest => skipFrames steps .inside (.list :: frames) rest
    | openObject :: rest => skipFrames steps .inside (.object :: frames) rest
    | b :: rest => do skipFrames steps .after frames (← skipScalar b rest)
  | _ + 1, .after, [], input => .ok input
  | _ + 1, .inside, [], input => .ok input
  | steps + 1, .inside, frame :: frames, input =>
    match skipBlanks input with
    | [] => fail frame.atEnd
    | b :: rest =>
      if b = frame.close then skipFrames steps .after frames rest
      else do skipFrames steps .before (frame :: frames) (← frame.skipLead (b :: rest))
  | steps + 1, .after, frame :: frames, input =>
    match skipBlanks input with
    | [] => fail frame.atEnd
    | b :: rest =>
      if b = comma then do skipFrames steps .before (frame :: frames) (← frame.skipLead rest)
      else if b = frame.close then skipFrames steps .after frames rest
      else fail frame.expectedEnd

/-- Two steps for each byte are enough. -/
def skipValue (input : Input) : Except Error Input :=
  skipFrames (2 * input.length + 2) .before [] input

end BlockVolumes.Json
