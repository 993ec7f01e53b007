import BlockVolumes.Number
import BlockVolumes.Table
import BlockVolumes.Text.Quoted
import BlockVolumes.Time.Text

/-!
Shapes of structured data. A shape says how the values of a type are laid out in a data format:
which fields a record has and under which names, what stands for a field that is left out, which
names a choice has. Every format reads and writes all types through their shapes.
-/

namespace BlockVolumes

/-- What a field is called, and its value where it is not written: `absent` when a keyed record
lacks it, `short` when a record written as a sequence ends before it. -/
structure Key (α : Type) where
  name : String
  absent : Option α
  short : Option α
  hidden : α → Bool

mutual

inductive Shape : Type → Type 1
  | text : Shape String
  | path : Shape String
  | flag : Shape Bool
  | word32 : Shape UInt32
  | word64 : Shape UInt64
  | time : Shape Time
  | table : Shape (Table String)
  | optional {α : Type} (shape : Shape α) : Shape (Option α)
  | list {α : Type} (shape : Shape α) : Shape (List α)
  /-- One of some named values. -/
  | choice {α : Type} (options : List (String × α)) (label : α → String) : Shape α
  | record {α τ : Type} (name : String) (fields : Fields τ) (pack : τ → α) (unpack : α → τ) :
      Shape α
  /-- A type with one part, written as that part. -/
  | wrapped {α β : Type} (shape : Shape α) (wrap : α → β) (unwrap : β → α) : Shape β

inductive Fields : Type → Type 1
  | nil : Fields Unit
  | cons {α β : Type} (key : Key α) (shape : Shape α) (rest : Fields β) : Fields (α × β)

end

namespace Fields

def count : {τ : Type} → Fields τ → Nat
  | _, .nil => 0
  | _, .cons _ _ rest => rest.count + 1

def Draft : {τ : Type} → Fields τ → Type
  | _, .nil => Unit
  | _, @Fields.cons α _ _ _ rest => Option α × rest.Draft

def blank : {τ : Type} → (fields : Fields τ) → fields.Draft
  | _, .nil => ()
  | _, .cons _ _ rest => (none, rest.blank)

end Fields

def required {α β : Type} (name : String) (shape : Shape α) (rest : Fields β) : Fields (α × β) :=
  .cons ⟨name, none, none, fun _ => false⟩ shape rest

def defaulted {α β : Type} (name : String) (value : α) (shape : Shape α) (rest : Fields β) :
    Fields (α × β) :=
  .cons ⟨name, some value, some value, fun _ => false⟩ shape rest

def omitted {α β : Type} (name : String) (shape : Shape α) (rest : Fields β) :
    Fields (Option α × β) :=
  .cons ⟨name, some none, some none, Option.isNone⟩ (.optional shape) rest

inductive Found
  | null
  | flag (value : Bool)
  | number (value : Number)
  | text (value : String)
  | sequence
  | map
deriving DecidableEq

inductive Mismatch
  | wrongType (found : Found) (expected : String)
  | wrongValue (found : Found) (expected : String)
  | wrongLength (length : Nat) (expected : String)
  | unknownVariant (name : String) (allowed : List String)
  | missingField (name : String)
  | duplicateField (name : String)
  | badTime (fault : Time.Fault)
deriving DecidableEq

def marked (name : String) : String := "\x60" ++ name ++ "\x60"

def oneOfNames : List String → String
  | [] => "there are no variants"
  | [a] => "expected " ++ marked a
  | [a, b] => "expected " ++ marked a ++ " or " ++ marked b
  | names => "expected one of " ++ String.intercalate ", " (names.map marked)

def Mismatch.message (describe : Found → String) : Mismatch → String
  | .wrongType found expected => "invalid type: " ++ describe found ++ ", expected " ++ expected
  | .wrongValue found expected => "invalid value: " ++ describe found ++ ", expected " ++ expected
  | .wrongLength length expected =>
    "invalid length " ++ toString length ++ ", expected " ++ expected
  | .unknownVariant name allowed =>
    "unknown variant " ++ marked name ++ ", " ++ oneOfNames allowed
  | .missingField name => "missing field " ++ marked name
  | .duplicateField name => "duplicate field " ++ marked name
  | .badTime fault => fault.message

namespace Shape

def expectation : {α : Type} → Shape α → String
  | _, .text => "a string"
  | _, .path => "path string"
  | _, .flag => "a boolean"
  | _, .word32 => "u32"
  | _, .word64 => "u64"
  | _, .time => "an RFC 3339 formatted date and time string"
  | _, .table => "a map"
  | _, .optional _ => "option"
  | _, .list _ => "a sequence"
  | _, .choice _ _ => "variant identifier"
  | _, .record name _ _ _ => "struct " ++ name
  | _, .wrapped shape _ _ => shape.expectation

def recordName : {α : Type} → Shape α → String
  | _, .record name _ _ _ => name
  | _, _ => ""

end Shape

def sequenceExpectation (name : String) (count : Nat) : String :=
  "struct " ++ name ++ " with " ++ toString count ++ (if count = 1 then " element" else " elements")

def pickOption {α : Type} (options : List (String × α)) (name : String) : Except Mismatch α :=
  match options.find? (·.1 = name) with
  | some (_, value) => .ok value
  | none => .error (.unknownVariant name (options.map (·.1)))

def wordOf {ω : Type} (limit : Nat) (make : Nat → ω) (expected : String) (n : Number) :
    Except Mismatch ω :=
  match n with
  | .integer value =>
    if 0 ≤ value ∧ value < limit then .ok (make value.toNat)
    else .error (.wrongValue (.number n) expected)
  | .real _ => .error (.wrongType (.number n) expected)

def word32Of : Number → Except Mismatch UInt32 := wordOf UInt32.size UInt32.ofNat "u32"

def word64Of : Number → Except Mismatch UInt64 := wordOf UInt64.size UInt64.ofNat "u64"

@[simp] theorem mapError_ok {α ε φ : Type} (f : ε → φ) (value : α) :
    (Except.ok value : Except ε α).mapError f = .ok value := rfl

@[simp] theorem mapError_error {α ε φ : Type} (f : ε → φ) (error : ε) :
    (Except.error error : Except ε α).mapError f = .error (f error) := rfl

def timeOf (s : String) : Except Mismatch Time := (Time.read s).mapError .badTime

namespace Fields

/-- The record from the fields met, in declared order, with what stands for those left out. -/
def finish : {τ : Type} → (fields : Fields τ) → fields.Draft → Except Mismatch τ
  | _, .nil, () => .ok ()
  | _, @Fields.cons α _ key _ rest, draft =>
    let draft : Option α × rest.Draft := draft
    match draft.1.or key.absent with
    | some value => (rest.finish draft.2).map ((value, ·))
    | none => .error (.missingField key.name)

end Fields

end BlockVolumes
