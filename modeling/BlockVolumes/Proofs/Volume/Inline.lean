import BlockVolumes.Proofs.Text.Split
import BlockVolumes.Proofs.Text.Trim
import BlockVolumes.Proofs.Wire.RoundTrip
import BlockVolumes.Volume.Options
import Mathlib.Data.List.Nodup

/-!
Names that carry options. What such a name is read as is settled by its options alone, and not by
the order in which they are written or taken, as long as no two of them are about the same field and
no two of them are at fault.
-/

namespace BlockVolumes

universe u

namespace OptionKind

variable {key : String} {kind other : OptionKind}

def small (key : String) : String := String.ofList (key.toList.map Char.toLower)

def fields : List (String × OptionKind) :=
  [("name", .name), ("size", .size), ("s", .size), ("fs", .filesystem), ("format", .filesystem),
    ("scale", .scale)]

def Names (key : String) : OptionKind → Prop
  | .label => ∀ kind, (small key, kind) ∉ fields
  | kind => (small key, kind) ∈ fields

theorem ofKey_eq_iff : ofKey key = kind ↔ Names key kind := by
  unfold ofKey
  split <;> rename_i same <;> cases kind <;> simp_all [Names, fields, small]

theorem names_unique (named : Names key kind) (also : Names key other) : kind = other :=
  (ofKey_eq_iff.2 named).symm.trans (ofKey_eq_iff.2 also)

end OptionKind

open OptionKind (Names names_unique ofKey_eq_iff)

section Options

variable {α : Type u} {option : String × String} {options others : List (String × String)}
  {named : String → Prop} {reads : String → α → Prop} {before middle after : α}

def Readable (value : String) : OptionKind → Prop
  | .size => ∃ size, readSize value = .ok size
  | .filesystem => ∃ filesystem, Filesystem.read value = .ok filesystem
  | .scale => ∃ scale, readScale? value = some scale
  | .name | .label => True

inductive Fault : String × String → OptionError → Prop
  | size {key value : String} (named : Names key .size) (unread : ¬ Readable value .size) :
    Fault (key, value) (.invalidValue "size" value)
  | filesystem {key value : String} (named : Names key .filesystem)
    (unread : ¬ Readable value .filesystem) :
    Fault (key, value) (.invalidValue key value)
  | scale {key value : String} (named : Names key .scale) (unread : ¬ Readable value .scale) :
    Fault (key, value) (.invalidValue key value)

/-- What a field holds after options: the value of one that names it, or what it held before if
none does. -/
inductive Settled (options : List (String × String)) (named : String → Prop)
    (reads : String → α → Prop) (before : α) : α → Prop
  | kept (unnamed : ∀ option ∈ options, ¬ named option.1) :
    Settled options named reads before before
  | taken {option : String × String} {after : α} (there : option ∈ options)
    (here : named option.1) (read : reads option.2 after) :
    Settled options named reads before after

structure Replaced (options : List (String × String)) (before after : Spec) : Prop where
  size : Settled options (Names · .size) (fun value n => readSize value = .ok n)
    before.size after.size
  filesystem : Settled options (Names · .filesystem)
    (fun value filesystem => Filesystem.read value = .ok filesystem)
    before.filesystem after.filesystem
  scale : Settled options (Names · .scale) (fun value n => readScale? value = some n)
    before.scale after.scale
  labels : after.labels = before.labels

structure Filled (options : List (String × String)) (before after : Spec × Labels) : Prop where
  spec : Replaced options before.1 after.1
  labels : ∀ key, Settled options (fun k => k = key ∧ Names k .label)
    (fun value now => now = some value) (before.2.get? key) (after.2.get? key)

/-- What comes of taking options: the fault of one of them, or all of them where none has one. -/
inductive Taken (options : List (String × String)) (before : Spec × Labels) :
    Except OptionError (Spec × Labels) → Prop
  | refused {option : String × String} {error : OptionError} (there : option ∈ options)
    (fault : Fault option error) : Taken options before (.error error)
  | filled {after : Spec × Labels} (sound : ∀ option ∈ options, ∀ error, ¬ Fault option error)
    (filled : Filled options before after) : Taken options before (.ok after)

namespace Settled

theorem append (first : Settled options named reads before middle)
    (second : Settled others named reads middle after) :
    Settled (options ++ others) named reads before after := by
  cases second with
  | taken there here read => exact .taken (List.mem_append_right _ there) here read
  | kept still =>
    cases first with
    | taken there here read => exact .taken (List.mem_append_left _ there) here read
    | kept unnamed =>
      exact .kept fun option there => (List.mem_append.1 there).elim (unnamed option) (still option)

theorem congr (same : ∀ option, option ∈ options ↔ option ∈ others)
    (settled : Settled options named reads before after) :
    Settled others named reads before after := by
  cases settled with
  | kept unnamed => exact .kept fun option there => unnamed option ((same option).2 there)
  | taken there here read => exact .taken ((same _).1 there) here read

theorem unique {other : α}
    (alone : ∀ first ∈ options, ∀ second ∈ options, named first.1 → named second.1 →
      first = second)
    (functional : ∀ {value a b}, reads value a → reads value b → a = b)
    (settled : Settled options named reads before after)
    (also : Settled options named reads before other) : after = other := by
  cases settled with
  | kept unnamed =>
    cases also with
    | kept => rfl
    | taken there here => exact absurd here (unnamed _ there)
  | taken there here read =>
    cases also with
    | kept unnamed => exact absurd here (unnamed _ there)
    | taken there' here' read' =>
      obtain rfl := alone _ there _ there' here here'
      exact functional read read'

theorem single (unnamed : ¬ named option.1) : Settled [option] named reads before before :=
  .kept fun _ there => List.mem_singleton.1 there ▸ unnamed

variable {key value : String} {kind field : OptionKind}

theorem other (here : Names key kind) (different : kind ≠ field) :
    Settled [(key, value)] (Names · field) reads before before :=
  single fun also => different (names_unique here also)

theorem unlabelled (here : Names key kind) (different : kind ≠ .label) (labels : Labels)
    (query : String) :
    Settled [(key, value)] (fun k => k = query ∧ Names k .label) (fun value now => now = some value)
      (labels.get? query) (labels.get? query) :=
  single fun also => different (names_unique here also.2)

theorem labelled (here : Names key .label) (labels : Labels) (query : String) :
    Settled [(key, value)] (fun k => k = query ∧ Names k .label) (fun value now => now = some value)
      (labels.get? query) ((labels.insert key value).get? query) := by
  rw [Table.get?_insert]
  split
  · rename_i same
    exact .taken List.mem_cons_self ⟨same, here⟩ rfl
  · rename_i different
    exact single fun also => different also.1

end Settled

namespace Filled

variable {start now done : Spec × Labels}

theorem append (first : Filled options start now) (second : Filled others now done) :
    Filled (options ++ others) start done where
  spec :=
    { size := first.spec.size.append second.spec.size
      filesystem := first.spec.filesystem.append second.spec.filesystem
      scale := first.spec.scale.append second.spec.scale
      labels := second.spec.labels.trans first.spec.labels }
  labels := fun key => (first.labels key).append (second.labels key)

theorem congr (same : ∀ option, option ∈ options ↔ option ∈ others)
    (filled : Filled options start done) : Filled others start done where
  spec :=
    { size := filled.spec.size.congr same
      filesystem := filled.spec.filesystem.congr same
      scale := filled.spec.scale.congr same
      labels := filled.spec.labels }
  labels := fun key => (filled.labels key).congr same

theorem nil (before : Spec × Labels) : Filled [] before before :=
  ⟨⟨.kept nofun, .kept nofun, .kept nofun, rfl⟩, fun _ => .kept nofun⟩

end Filled

theorem readSize_error {value : String} {error : OptionError}
    (refused : readSize value = .error error) :
    error = .invalidValue "size" value := by
  unfold readSize at refused
  split at refused <;> cases refused
  rfl

theorem faultless {key value : String} {kind : OptionKind} (named : Names key kind)
    (readable : Readable value kind) (error : OptionError) : ¬ Fault (key, value) error := by
  intro fault
  cases fault with
  | size here unread | filesystem here unread | scale here unread =>
    exact unread (names_unique named here ▸ readable)

theorem Taken.one {before after : Spec × Labels} (sound : ∀ error, ¬ Fault option error)
    (filled : Filled [option] before after) : Taken [option] before (.ok after) :=
  .filled (fun _ there => List.mem_singleton.1 there ▸ sound) filled

theorem takeOption_spec (before : Spec × Labels) (option : String × String) :
    Taken [option] before (takeOption before option) := by
  obtain ⟨spec, labels⟩ := before
  obtain ⟨key, value⟩ := option
  cases kind : OptionKind.ofKey key with
  | name =>
    have named := ofKey_eq_iff.1 kind
    simp only [takeOption, kind]
    exact .one (faultless named trivial)
      ⟨⟨.other named (by decide), .other named (by decide), .other named (by decide), rfl⟩,
        .unlabelled named (by decide) labels⟩
  | size =>
    have named := ofKey_eq_iff.1 kind
    simp only [takeOption, kind]
    cases read : readSize value with
    | error error =>
      rw [readSize_error read]
      exact .refused List.mem_cons_self (.size named (by simp [Readable, read]))
    | ok size =>
      exact .one (faultless named ⟨size, read⟩)
        ⟨⟨.taken List.mem_cons_self named read, .other named (by decide),
            .other named (by decide), rfl⟩,
          .unlabelled named (by decide) labels⟩
  | filesystem =>
    have named := ofKey_eq_iff.1 kind
    simp only [takeOption, kind]
    cases read : Filesystem.read value with
    | error reason =>
      exact .refused List.mem_cons_self (.filesystem named (by simp [Readable, read]))
    | ok filesystem =>
      exact .one (faultless named ⟨filesystem, read⟩)
        ⟨⟨.other named (by decide), .taken List.mem_cons_self named read,
            .other named (by decide), rfl⟩,
          .unlabelled named (by decide) labels⟩
  | scale =>
    have named := ofKey_eq_iff.1 kind
    simp only [takeOption, kind]
    cases read : readScale? value with
    | none => exact .refused List.mem_cons_self (.scale named (by simp [Readable, read]))
    | some scale =>
      exact .one (faultless named ⟨scale, read⟩)
        ⟨⟨.other named (by decide), .other named (by decide),
            .taken List.mem_cons_self named read, rfl⟩,
          .unlabelled named (by decide) labels⟩
  | label =>
    have named := ofKey_eq_iff.1 kind
    simp only [takeOption, kind]
    exact .one (faultless named trivial)
      ⟨⟨.other named (by decide), .other named (by decide), .other named (by decide), rfl⟩,
        .labelled named labels⟩

theorem taken_foldlM (options : List (String × String)) (before : Spec × Labels) :
    Taken options before (options.foldlM takeOption before) := by
  induction options generalizing before with
  | nil => exact .filled nofun (.nil before)
  | cons option options ih =>
    have first := takeOption_spec before option
    rw [List.foldlM_cons]
    cases step : takeOption before option with
    | error error =>
      rw [step] at first
      cases first with
      | refused there fault =>
        exact .refused (List.mem_singleton.1 there ▸ List.mem_cons_self) fault
    | ok middle =>
      rw [step] at first
      obtain - | ⟨sound, here⟩ := first
      have second := ih middle
      show Taken _ _ (options.foldlM takeOption middle)
      cases rest : options.foldlM takeOption middle with
      | error error =>
        rw [rest] at second
        obtain ⟨there, fault⟩ := second
        exact .refused (List.mem_cons_of_mem _ there) fault
      | ok after =>
        rw [rest] at second
        obtain - | ⟨later, there⟩ := second
        refine .filled ?_ (here.append there)
        exact List.forall_mem_cons.2 ⟨sound option List.mem_cons_self, later⟩

theorem Taken.congr {before : Spec × Labels} {result : Except OptionError (Spec × Labels)}
    (same : ∀ option, option ∈ options ↔ option ∈ others) (taken : Taken options before result) :
    Taken others before result := by
  cases taken with
  | refused there fault => exact .refused ((same _).1 there) fault
  | filled sound filled =>
    exact .filled (fun option there => sound option ((same option).2 there)) (filled.congr same)

theorem Fault.unique {error other : OptionError} (fault : Fault option error)
    (also : Fault option other) : error = other := by
  cases fault with
  | size named | filesystem named | scale named =>
    cases also with
    | size named' | filesystem named' | scale named' =>
      first
      | rfl
      | cases names_unique named named'

/-- No two options have different keys for one field, and no two of them are at fault. -/
structure Unmixed (options : List (String × String)) : Prop where
  alone : ∀ kind ∈ [OptionKind.size, .filesystem, .scale], ∀ first ∈ options, ∀ second ∈ options,
    Names first.1 kind → Names second.1 kind → first.1 = second.1
  oneFault : ∀ first ∈ options, ∀ second ∈ options, ∀ error other, Fault first error →
    Fault second other → first.1 = second.1

theorem Unmixed.one {options : Table String} (unmixed : Unmixed options.entries)
    {kind : OptionKind} (field : kind ∈ [OptionKind.size, .filesystem, .scale]) :
    ∀ first ∈ options.entries, ∀ second ∈ options.entries, Names first.1 kind →
      Names second.1 kind → first = second :=
  fun first here second there one two =>
    Table.entry_unique here there (unmixed.alone kind field first here second there one two)

theorem Replaced.unique {options : Table String} {before after other : Spec}
    (unmixed : Unmixed options.entries) (replaced : Replaced options.entries before after)
    (also : Replaced options.entries before other) : after = other := by
  have size := replaced.size.unique (unmixed.one (by decide))
    (fun a b => Except.ok.inj (a.symm.trans b)) also.size
  have filesystem := replaced.filesystem.unique (unmixed.one (by decide))
    (fun a b => Except.ok.inj (a.symm.trans b)) also.filesystem
  have scale := replaced.scale.unique (unmixed.one (by decide))
    (fun a b => Option.some.inj (a.symm.trans b)) also.scale
  cases after
  cases other
  rw [Spec.mk.injEq]
  exact ⟨size, filesystem, scale, replaced.labels.trans also.labels.symm⟩

theorem Filled.unique {options : Table String} {before after other : Spec × Labels}
    (unmixed : Unmixed options.entries) (filled : Filled options.entries before after)
    (also : Filled options.entries before other) : after = other := by
  refine Prod.ext (filled.spec.unique unmixed also.spec) (Table.eq_of_get?_eq fun key => ?_)
  refine (filled.labels key).unique (fun first here second there one two => ?_)
    (fun a b => a.trans b.symm) (also.labels key)
  exact Table.entry_unique here there (one.1.trans two.1.symm)

theorem Taken.unique {options : Table String} {before : Spec × Labels}
    {result other : Except OptionError (Spec × Labels)} (unmixed : Unmixed options.entries)
    (taken : Taken options.entries before result) (also : Taken options.entries before other) :
    result = other := by
  cases taken with
  | refused there fault =>
    cases also with
    | refused there' fault' =>
      have same := unmixed.oneFault _ there _ there' _ _ fault fault'
      obtain rfl := Table.entry_unique there there' same
      exact congrArg Except.error (fault.unique fault')
    | filled sound => exact absurd fault (sound _ there _)
  | filled sound filled =>
    cases also with
    | refused there fault => exact absurd fault (sound _ there _)
    | filled _ filled' => exact congrArg Except.ok (filled.unique unmixed filled')

end Options

namespace GivenName

/-- What stands between the commas of a name with options, without blanks around it, where that is
anything. -/
def parts (raw : String) : List (List Char) :=
  (((Text.trim raw.toList).splitOn ',').map Text.trim).filter (· ≠ [])

theorem pieces_eq (raw : String) : pieces (Text.trim raw.toList) = parts raw := by
  rw [pieces, Text.splitOn_eq, parts]

def keyless? (raw : String) : Option (List Char) := (parts raw).find? ('=' ∉ ·)

def optionOf (piece : List Char) : String × String :=
  (String.ofList (Text.trim (piece.takeWhile (· ≠ '='))),
    String.ofList (Text.trim (piece.dropWhile (· ≠ '=')).tail))

/-- The options of a name. Later pieces win over earlier ones with the same key. -/
def options (raw : String) : Table String := .ofList ((parts raw).map optionOf)

def named? (raw : String) : Option String := ((options raw).get? "name").filter (· ≠ "")

/-- Reads a given name, taking its options in the order that `iterate` has. -/
def readIn (iterate : Table String → List (String × String)) (base : Spec) (raw : String) :
    Except OptionError GivenName :=
  let trimmed := Text.trim raw.toList
  if '=' ∉ trimmed then .ok ⟨String.ofList trimmed, none, .empty⟩
  else do
    let options ← (pieces trimmed).foldlM takePiece .empty
    match (options.get? "name").filter (· ≠ "") with
    | none => .error .missingName
    | some name => do
      let (spec, labels) ← (iterate options).foldlM takeOption (base, .empty)
      .ok ⟨name, some spec, labels⟩

theorem readIn_entries : readIn Table.entries = read := rfl

theorem takePiece_eq (options : Table String) (piece : List Char) : takePiece options piece =
    if '=' ∈ piece then .ok (options.insert (optionOf piece).1 (optionOf piece).2)
    else .error (.malformed (String.ofList piece)) := by
  rw [takePiece, Text.cut_eq]
  split <;> rename_i cut <;> split at cut <;> cases cut <;> simp_all [optionOf]

theorem foldlM_takePiece (options : Table String) (ps : List (List Char)) :
    ps.foldlM takePiece options = match ps.find? ('=' ∉ ·) with
      | some piece => .error (.malformed (String.ofList piece))
      | none =>
        .ok ((ps.map optionOf).foldl (fun t (key, value) => t.insert key value) options) := by
  induction ps generalizing options with
  | nil => rfl
  | cons piece ps ih =>
    rw [List.foldlM_cons, takePiece_eq]
    by_cases keyed : '=' ∈ piece
    · rw [if_pos keyed, List.find?_cons_of_neg (by simpa using keyed)]
      exact ih _
    · rw [if_neg keyed, List.find?_cons_of_pos (by simpa using keyed)]
      rfl

variable {base : Spec} {iterate : Table String → List (String × String)} {raw : String}

theorem readIn_eq (inline : '=' ∈ raw.toList) : readIn iterate base raw = match keyless? raw with
    | some piece => .error (.malformed (String.ofList piece))
    | none => match named? raw with
      | none => .error .missingName
      | some name => ((iterate (options raw)).foldlM takeOption (base, .empty)).map
        fun (spec, labels) => ⟨name, some spec, labels⟩ := by
  have there : '=' ∈ Text.trim raw.toList := (Text.mem_trim (by decide)).2 inline
  have read := foldlM_takePiece .empty (parts raw)
  unfold readIn keyless? named? options Table.ofList
  simp only [there, not_true_eq_false, if_false, pieces_eq, read]
  cases (parts raw).find? ('=' ∉ ·) with
  | some piece => rfl
  | none =>
    simp only [bind, Except.bind]
    split
    · rfl
    · cases List.foldlM takeOption _ _ <;> rfl

theorem labels_of_filled {options : Table String} {spec : Spec} {labels : Labels}
    (filled : Filled options.entries (base, .empty) (spec, labels)) (key value : String) :
    labels.get? key = some value ↔ options.get? key = some value ∧ Names key .label := by
  have settled := filled.labels key
  rw [Table.get?_empty] at settled
  generalize labels.get? key = now at settled
  rw [Table.get?_eq_some_iff]
  cases settled with
  | kept unnamed => simpa using fun there => fun named => unnamed _ there ⟨rfl, named⟩
  | @taken option _ there here read =>
    obtain ⟨k, v⟩ := option
    obtain ⟨rfl, label⟩ := here
    obtain rfl := read
    refine ⟨fun same => ?_, fun also => ?_⟩
    · exact ⟨Option.some.inj same ▸ there, label⟩
    · exact congrArg (some ·.2) (Table.entry_unique there also.1 rfl)

def Distinct (raw : String) : Prop := ((parts raw).map fun piece => (optionOf piece).1).Nodup

instance (raw : String) : Decidable (Distinct raw) := inferInstanceAs (Decidable (List.Nodup _))

theorem options_of_perm {other : String} (distinct : Distinct raw)
    (same : (parts other).Perm (parts raw)) : options other = options raw := by
  apply (same.map optionOf).foldl_eq'
  intro first here second there t
  apply t.insert_comm
  obtain ⟨one, inRaw, rfl⟩ := List.mem_map.1 ((same.map optionOf).mem_iff.1 here)
  obtain ⟨two, also, rfl⟩ := List.mem_map.1 ((same.map optionOf).mem_iff.1 there)
  exact fun equal => congrArg optionOf (List.inj_on_of_nodup_map distinct inRaw also equal)

theorem taken_iterate (order : ∀ t, (iterate t).Perm t.entries) (base : Spec)
    (options : Table String) : Taken options.entries (base, .empty)
      ((iterate options).foldlM takeOption (base, .empty)) :=
  (taken_foldlM _ _).congr fun _ => (order options).mem_iff

theorem readIn_of_options {again : Table String → List (String × String)} {other : String}
    (order : ∀ t, (iterate t).Perm t.entries) (orderAgain : ∀ t, (again t).Perm t.entries)
    (inline : '=' ∈ raw.toList) (inlineOther : '=' ∈ other.toList)
    (unmixed : Unmixed (options raw).entries) (keys : keyless? other = keyless? raw)
    (same : options other = options raw) : readIn again base other = readIn iterate base raw := by
  have agree := (taken_iterate orderAgain base (options raw)).unique unmixed
    (taken_iterate order base (options raw))
  rw [readIn_eq inline, readIn_eq inlineOther, keys, named?, same, agree, named?]

/-- A name with options is refused for its first piece without a key, then for want of a name, and
then for a value that cannot be read. Else it is that name, with the fields replaced that options
name and all other options as labels. It does not matter in which order options are taken, nor, if
no key is given twice, in which order they are written. -/
theorem readIn_spec (order : ∀ t, (iterate t).Perm t.entries) (inline : '=' ∈ raw.toList) :
    (∀ piece, keyless? raw = some piece →
      readIn iterate base raw = .error (.malformed (String.ofList piece))) ∧
    (keyless? raw = none → named? raw = none → readIn iterate base raw = .error .missingName) ∧
    (∀ name, keyless? raw = none → named? raw = some name → Unmixed (options raw).entries →
      (∀ option ∈ (options raw).entries, ∀ error, Fault option error →
        readIn iterate base raw = .error error) ∧
      ((∀ option ∈ (options raw).entries, ∀ error, ¬ Fault option error) → ∃ spec labels,
        readIn iterate base raw = .ok ⟨name, some spec, labels⟩ ∧
        Replaced (options raw).entries base spec ∧
        ∀ key value, labels.get? key = some value ↔
          (options raw).get? key = some value ∧ Names key .label)) ∧
    (Unmixed (options raw).entries → readIn iterate base raw = read base raw ∧
      ∀ again : Table String → List (String × String), (∀ t, (again t).Perm t.entries) →
        ∀ other, '=' ∈ other.toList → (parts other).Perm (parts raw) → Distinct raw →
          keyless? other = keyless? raw → readIn again base other = readIn iterate base raw) := by
  have taken := taken_iterate order base (options raw)
  refine ⟨fun piece keyless => ?_, fun keyed unnamed => ?_, fun name keyed named unmixed => ?_,
    fun unmixed => ⟨?_, fun again orderAgain other inlineOther same distinct keys => ?_⟩⟩
  · rw [readIn_eq inline, keyless]
  · rw [readIn_eq inline, keyed, unnamed]
  · rw [readIn_eq inline, keyed, named]
    refine ⟨fun option there error fault => ?_, fun sound => ?_⟩
    · have refused := taken.unique unmixed (.refused there fault)
      simp only [refused]
      rfl
    · cases result : (iterate (options raw)).foldlM takeOption (base, .empty) with
      | error error =>
        rw [result] at taken
        obtain ⟨there, fault⟩ := taken
        exact absurd fault (sound _ there error)
      | ok after =>
        rw [result] at taken
        obtain - | ⟨-, filled⟩ := taken
        exact ⟨after.1, after.2, rfl, filled.spec, labels_of_filled filled⟩
  · have straight : ∀ t : Table String, t.entries.Perm t.entries := fun t => .refl t.entries
    rw [← readIn_entries]
    exact (readIn_of_options order straight inline inline unmixed rfl rfl).symm
  · exact readIn_of_options order orderAgain inline inlineOther unmixed keys
      (options_of_perm distinct same)

def backwards (t : Table String) : List (String × String) := t.entries.reverse

/-- A name with a size and a label, written and read in two orders. -/
theorem read_backwards :
    (∀ t, (backwards t).Perm t.entries) ∧ '=' ∈ "name=db,size=10G,tier=gold".toList ∧
    Unmixed (options "name=db,size=10G,tier=gold").entries ∧
    readIn backwards .standard "tier=gold, size=10G ,name=db" =
      readIn backwards .standard "name=db,size=10G,tier=gold" ∧
    ∃ spec labels, readIn backwards .standard "name=db,size=10G,tier=gold" =
        .ok ⟨"db", some spec, labels⟩ ∧
      ∀ key value, labels.get? key = some value ↔
        (options "name=db,size=10G,tier=gold").get? key = some value ∧ Names key .label := by
  have order : ∀ t, (backwards t).Perm t.entries := fun t => List.reverse_perm t.entries
  have inline : '=' ∈ "name=db,size=10G,tier=gold".toList := by decide
  have entries : (options "name=db,size=10G,tier=gold").entries =
      [("name", "db"), ("size", "10G"), ("tier", "gold")] := by decide
  have sound : ∀ option ∈ (options "name=db,size=10G,tier=gold").entries, ∀ error,
      ¬ Fault option error := by
    rw [entries]
    simp only [List.forall_mem_cons]
    exact ⟨faultless (ofKey_eq_iff.1 rfl) trivial,
      faultless (ofKey_eq_iff.1 rfl) ⟨10 * 1024 ^ 3, by decide⟩,
      faultless (ofKey_eq_iff.1 rfl) trivial, nofun⟩
  have unmixed : Unmixed (options "name=db,size=10G,tier=gold").entries := by
    have apart : ∀ first ∈ (options "name=db,size=10G,tier=gold").entries,
        ∀ second ∈ (options "name=db,size=10G,tier=gold").entries,
        OptionKind.ofKey first.1 = OptionKind.ofKey second.1 → first.1 = second.1 := by decide
    refine ⟨fun kind _ first here second there one two => ?_, fun first here _ _ _ _ fault => ?_⟩
    · exact apart first here second there ((ofKey_eq_iff.2 one).trans (ofKey_eq_iff.2 two).symm)
    · exact absurd fault (sound first here _)
  obtain ⟨-, -, whole, any⟩ := readIn_spec order inline
  obtain ⟨spec, labels, read, -, exact⟩ := (whole "db" (by decide) (by decide) unmixed).2 sound
  refine ⟨order, inline, unmixed, ?_, spec, labels, read, exact⟩
  exact (any unmixed).2 backwards order _ (by decide) (by decide) (by decide) (by decide)

end GivenName

end BlockVolumes
