import BlockVolumes.Cli.Option
import BlockVolumes.Text.Blank

/-!
Reading one level of a command line: its options, its places, and the name of the level below it.
-/

namespace BlockVolumes.Cli

structure Level where
  name : String
  options : List OptionSpec
  below : List String
  places : List ValueKind

/-- An option that waits for its value, and whether all that follows is for places. -/
structure Reading where
  given : Given
  pending : Option OptionSpec
  placesOnly : Bool

namespace Reading

def start : Reading := ⟨.nothing, none, false⟩

def withGiven (r : Reading) (given : Given) : Reading := { r with given, pending := none }

def await (r : Reading) (o : OptionSpec) : Reading := { r with pending := some o }

end Reading

def looksLikeOption (token : String) : Bool :=
  match token.toList with
  | '-' :: _ :: _ => true
  | _ => false

namespace Level

def findLong (l : Level) (long : String) : Option OptionSpec := l.options.find? (·.long = long)

def findShort (l : Level) (c : Char) : Option OptionSpec := l.options.find? (·.short = some c)

def readLong (l : Level) (r : Reading) (text : List Char) : Except Stop Reading :=
  let (long, attached) : List Char × Option (List Char) := match Text.cut '=' text with
    | some (long, value) => (long, some value)
    | none => (text, none)
  let long := String.ofList long
  match l.findLong long, attached with
  | some o, some value => do return r.withGiven (← r.given.take o (String.ofList value))
  | some o, none =>
    if o.arity = .flag then do return r.withGiven (← r.given.takeFlag o) else .ok (r.await o)
  | none, some _ => .error .usage
  | none, none =>
    if long = "help" then .error (.help [])
    else if long = "version" then .error (.version l.name)
    else .error .usage

def readShort (l : Level) (r : Reading) : List Char → Except Stop Reading
  | [] => .ok r
  | c :: rest =>
    match l.findShort c with
    | some o =>
      if o.arity = .flag then do readShort l (r.withGiven (← r.given.takeFlag o)) rest
      else match rest with
        | [] => .ok (r.await o)
        | '=' :: value => do return r.withGiven (← r.given.take o (String.ofList value))
        | value => do return r.withGiven (← r.given.take o (String.ofList value))
    | none =>
      if c = 'h' then .error (.help [])
      else if c = 'V' then .error (.version l.name)
      else .error .usage

def takePlace (l : Level) (r : Reading) (token : String) : Except Stop Reading := do
  return r.withGiven (← r.given.takePlace l.places token)

def step (l : Level) (r : Reading) (token : String) : Except Stop Reading :=
  match r.pending with
  | some o =>
    if looksLikeOption token then .error .usage
    else do return r.withGiven (← r.given.take o token)
  | none =>
    if r.placesOnly then l.takePlace r token
    else match token.toList with
      | ['-', '-'] => .ok { r with placesOnly := true }
      | '-' :: '-' :: text => l.readLong r text
      | '-' :: c :: text => l.readShort r (c :: text)
      | _ => l.takePlace r token

def leadsBelow (l : Level) (r : Reading) (token : String) : Bool :=
  r.pending.isNone && !r.placesOnly && l.below.contains token

def asksForHelp (l : Level) (r : Reading) (token : String) : Bool :=
  r.pending.isNone && !r.placesOnly && !l.below.isEmpty && token == "help"

def read (l : Level) (r : Reading) :
    List String → Except Stop (Given × Option (String × List String))
  | [] => if r.pending.isSome then .error .usage else .ok (r.given, none)
  | token :: rest =>
    if l.leadsBelow r token then .ok (r.given, some (token, rest))
    else if l.asksForHelp r token then .error (.help rest)
    else do l.read (← l.step r token) rest

end Level

end BlockVolumes.Cli
