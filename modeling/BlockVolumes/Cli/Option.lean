/-!
Options and places of a command line, and what was given for them.
-/

namespace BlockVolumes.Cli

inductive ValueKind
  | text
  | path
  | word
deriving DecidableEq

inductive Arity
  | flag
  | one (kind : ValueKind)
  | many (kind : ValueKind)
deriving DecidableEq

structure OptionSpec where
  long : String
  short : Option Char
  arity : Arity
deriving DecidableEq

/-- Why there is nothing to do: the command line is wrong, or asks for a text only. Help may be
about the levels below. -/
inductive Stop
  | usage
  | help (about : List String)
  | version (name : String)
deriving DecidableEq

structure Given where
  flags : List String
  values : List (String × String)
  places : List String
deriving DecidableEq

def integer? (s : String) : Option Int :=
  let (negative, digits) := match s.toList with
    | '-' :: rest => (true, rest)
    | '+' :: rest => (false, rest)
    | rest => (false, rest)
  if digits = [] ∨ !digits.all Char.isDigit then none
  else
    let n : Nat := digits.foldl (fun n c => 10 * n + (c.toNat - 48)) 0
    some (if negative then -(n : Int) else n)

def word? (s : String) : Option UInt32 :=
  match integer? s with
  | some n => if 0 ≤ n ∧ n < UInt32.size then some (.ofNat n.toNat) else none
  | none => none

def ValueKind.fits : ValueKind → String → Bool
  | text, _ => true
  | path, value => value != ""
  | word, value => (word? value).isSome

namespace Given

def nothing : Given := ⟨[], [], []⟩

def has (g : Given) (flag : String) : Bool := g.flags.contains flag

def all (g : Given) (long : String) : List String :=
  (g.values.filter (·.1 = long)).map (·.2)

def get? (g : Given) (long : String) : Option String := (g.all long).head?

def take (g : Given) (o : OptionSpec) (value : String) : Except Stop Given :=
  let taken : Given := { g with values := g.values ++ [(o.long, value)] }
  match o.arity with
  | .flag => .error .usage
  | .one kind => if (g.get? o.long).isSome || !kind.fits value then .error .usage else .ok taken
  | .many kind => if kind.fits value then .ok taken else .error .usage

def takeFlag (g : Given) (o : OptionSpec) : Except Stop Given :=
  if g.has o.long then .error .usage else .ok { g with flags := g.flags ++ [o.long] }

def takePlace (g : Given) (kinds : List ValueKind) (value : String) : Except Stop Given :=
  match kinds[g.places.length]? with
  | some kind =>
    if kind.fits value then .ok { g with places := g.places ++ [value] } else .error .usage
  | none => .error .usage

end Given

end BlockVolumes.Cli
