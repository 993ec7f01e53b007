import BlockVolumes.Proofs.Table
import BlockVolumes.Proofs.Text.Lead
import BlockVolumes.Proofs.Volume.Inline

/-!
Names that are given again. A name that was read is one piece without blanks around it. Given as it
is, it stands for itself, unless it looks like an option for a name in its turn.
-/

namespace BlockVolumes

namespace GivenName

variable {base : Spec} {raw name inner : String} {given : GivenName} {piece : List Char}

/-- A name without blanks around it, and without a comma should it have options. -/
structure Plain (name : String) : Prop where
  tight : Text.Tight name.toList
  single : '=' ∈ name.toList → ',' ∉ name.toList

theorem comma_not_mem_trim {s : List Char} (free : ',' ∉ s) : ',' ∉ Text.trim s :=
  fun inside => free ((Text.mem_trim (by decide)).1 inside)

theorem comma_not_mem_parts (there : piece ∈ parts raw) : ',' ∉ piece := by
  obtain ⟨inside, -⟩ := List.mem_filter.1 there
  obtain ⟨whole, split, rfl⟩ := List.mem_map.1 inside
  rw [← Text.splitOn_eq] at split
  exact comma_not_mem_trim (Text.not_mem_of_mem_splitOn split)

theorem plain_value (free : ',' ∉ piece) : Plain (optionOf piece).2 := by
  have value : (optionOf piece).2.toList = Text.trim (piece.dropWhile (· ≠ '=')).tail :=
    String.toList_ofList
  constructor
  · rw [value]
    exact (Text.stripped_trim _).1
  · intro _
    rw [value]
    apply comma_not_mem_trim
    intro inside
    exact free ((List.dropWhile_sublist _).mem (List.mem_of_mem_tail inside))

theorem name_of_readIn {iterate : Table String → List (String × String)} (inline : '=' ∈ raw.toList)
    (accepted : readIn iterate base raw = .ok given) : named? raw = some given.name := by
  rw [readIn_eq inline] at accepted
  split at accepted
  · cases accepted
  · split at accepted
    · cases accepted
    · rename_i name named
      cases taken : (iterate (options raw)).foldlM takeOption (base, .empty) with
      | error error =>
        rw [taken] at accepted
        cases accepted
      | ok filled =>
        rw [taken] at accepted
        obtain rfl := Except.ok.inj accepted
        exact named

theorem plain_of_read (accepted : read base raw = .ok given) : Plain given.name := by
  by_cases inline : '=' ∈ raw.toList
  · have named : named? raw = some given.name := name_of_readIn inline accepted
    have found := (Option.filter_eq_some_iff.1 named).1
    obtain ⟨piece, there, option⟩ := List.mem_map.1 (Table.mem_of_get?_ofList found)
    have plain := plain_value (comma_not_mem_parts there)
    rwa [option] at plain
  · have trimmed : '=' ∉ Text.trim raw.toList :=
      fun inside => inline ((Text.mem_trim (by decide)).1 inside)
    rw [read, if_pos trimmed] at accepted
    obtain rfl := Except.ok.inj accepted
    constructor
    · rw [String.toList_ofList]
      exact (Text.stripped_trim _).1
    · intro inside
      rw [String.toList_ofList] at inside
      exact absurd inside trimmed

/-- The name is an option for a name, and this is the value. Without a value it is still taken for
one if the `=` comes right after the key. -/
def Gives (name inner : String) : Prop :=
  ∃ gap rest, name.toList = "name".toList ++ gap ++ '=' :: rest ∧
    (∀ c ∈ gap, Text.isBlank c = true) ∧ inner.toList = Text.trim rest ∧ (gap = [] ∨ inner ≠ "")

section Again

variable {front rest gap : List Char}

theorem optionOf_append (free : '=' ∉ front) (rest : List Char) :
    optionOf (front ++ '=' :: rest) =
      (String.ofList (Text.trim front), String.ofList (Text.trim rest)) := by
  rw [optionOf, Text.takeWhile_append_cons free, Text.tail_dropWhile_append_cons free]

theorem free_of_blank (blank : ∀ c ∈ gap, Text.isBlank c = true) : '=' ∉ "name".toList ++ gap := by
  intro inside
  cases List.mem_append.1 inside with
  | inl key => exact absurd key (by decide)
  | inr there => exact absurd (blank '=' there) (by decide)

theorem trim_name_append (blank : ∀ c ∈ gap, Text.isBlank c = true) :
    Text.trim ("name".toList ++ gap) = "name".toList := by
  have tight : Text.Tight "name".toList := by
    constructor
    · simp [Text.isBlank]
    · simp [Text.isBlank]
  exact Text.Stripped.trim_eq ⟨tight, [], gap, rfl, List.forall_mem_nil _, blank⟩

theorem eq_name_append (plain : Plain name) (whole : name.toList = front ++ '=' :: rest)
    (key : Text.trim front = "name".toList) :
    ∃ gap, front = "name".toList ++ gap ∧ ∀ c ∈ gap, Text.isBlank c = true := by
  obtain ⟨-, before, gap, split, blank, blankAfter⟩ := Text.stripped_trim front
  rw [key] at split
  cases before with
  | nil => exact ⟨gap, split, blankAfter⟩
  | cons c others =>
    have first : c ∈ name.toList.head? := by
      rw [whole, split]
      rfl
    have visible := plain.tight.1 c first
    rw [blank c List.mem_cons_self] at visible
    cases visible

theorem parts_of_plain (plain : Plain name) (inline : '=' ∈ name.toList) :
    parts name = [name.toList] := by
  have given : name.toList ≠ [] := List.ne_nil_of_mem inline
  have split := Text.splitOn_of_not_mem (plain.single inline)
  rw [Text.splitOn_eq] at split
  simp [parts, Text.trim_of_tight plain.tight, split, given]

theorem keyless?_of_plain (plain : Plain name) (inline : '=' ∈ name.toList) :
    keyless? name = none := by
  simp [keyless?, parts_of_plain plain inline, inline]

theorem options_of_plain (plain : Plain name) (inline : '=' ∈ name.toList) :
    options name = .ofList [optionOf name.toList] := by
  rw [options, parts_of_plain plain inline, List.map_singleton]

theorem named?_iff (plain : Plain name) (whole : name.toList = front ++ '=' :: rest)
    (free : '=' ∉ front) : named? name = some inner ↔
      Text.trim front = "name".toList ∧ inner.toList = Text.trim rest ∧ inner ≠ "" := by
  have inline : '=' ∈ name.toList := by simp [whole]
  have key : String.ofList (Text.trim front) = "name" ↔ Text.trim front = "name".toList := by
    rw [← String.toList_inj, String.toList_ofList]
  have value : String.ofList (Text.trim rest) = inner ↔ inner.toList = Text.trim rest := by
    rw [← String.toList_inj, String.toList_ofList, eq_comm]
  have only : (options name).get? "name" = if String.ofList (Text.trim front) = "name" then
      some (String.ofList (Text.trim rest)) else none := by
    rw [options_of_plain plain inline, whole, optionOf_append free]
    exact Table.get?_insert ..
  simp only [named?, only, Option.filter_eq_some_iff, key, Option.ite_none_right_eq_some,
    Option.some.injEq, value, decide_eq_true_eq, and_assoc]

theorem nameOf_of_named (plain : Plain name) (inline : '=' ∈ name.toList)
    (named : named? name = some inner) : nameOf base name = inner := by
  obtain ⟨front, rest, whole, free⟩ := List.eq_append_cons_of_mem inline
  obtain ⟨key, value, -⟩ := (named?_iff plain whole free).1 named
  have only : (options name).entries = [("name", inner)] := by
    rw [options_of_plain plain inline, whole, optionOf_append free, key, ← value,
      String.ofList_toList, String.ofList_toList]
    rfl
  have taken : (options name).entries.foldlM takeOption (base, .empty) = .ok (base, .empty) := by
    rw [only]
    rfl
  have again : read base name = .ok ⟨inner, some base, .empty⟩ := by
    rw [← readIn_entries, readIn_eq inline, keyless?_of_plain plain inline, named, taken]
    rfl
  rw [nameOf, again]

def bare? (name : String) : Option (List Char) := Text.after? ['n', 'a', 'm', 'e', '='] name.toList

theorem bare?_eq_some :
    bare? name = some rest ↔ name.toList = "name".toList ++ [] ++ '=' :: rest :=
  Text.after?_eq_some

theorem nameOf_of_unnamed (plain : Plain name) (inline : '=' ∈ name.toList)
    (unnamed : named? name = none) :
    nameOf base name = String.ofList (Text.trim ((bare? name).getD name.toList)) := by
  have again : read base name = .error .missingName := by
    rw [← readIn_entries, readIn_eq inline, keyless?_of_plain plain inline, unnamed]
  have split := Text.splitOn_of_not_mem (plain.single inline)
  have found : (Text.splitOn ',' name.toList).findSome? (fun piece =>
      Text.after? ['n', 'a', 'm', 'e', '='] (Text.trim piece)) = bare? name := by
    rw [split, List.findSome?_singleton, Text.trim_of_tight plain.tight, bare?]
  simp only [nameOf, again, found]

theorem nameOf_of_gives (plain : Plain name) (gives : Gives name inner) :
    nameOf base name = inner := by
  obtain ⟨gap, rest, whole, blank, value, full⟩ := gives
  have free := free_of_blank blank
  have inline : '=' ∈ name.toList := by simp [whole]
  by_cases empty : inner = ""
  · have unnamed : named? name = none := by
      apply Option.eq_none_iff_forall_ne_some.2
      intro other named
      obtain ⟨-, same, given⟩ := (named?_iff plain whole free).1 named
      exact given ((String.toList_inj.1 (same.trans value.symm)).trans empty)
    obtain rfl : gap = [] := full.resolve_right fun given => given empty
    rw [nameOf_of_unnamed plain inline unnamed, bare?_eq_some.2 whole, Option.getD_some, ← value,
      String.ofList_toList]
  · have named := (named?_iff plain whole free).2 ⟨trim_name_append blank, value, empty⟩
    exact nameOf_of_named plain inline named

theorem nameOf_of_gives_none (plain : Plain name) (none : ∀ inner, ¬ Gives name inner) :
    nameOf base name = name := by
  by_cases inline : '=' ∈ name.toList
  · obtain ⟨front, rest, whole, free⟩ := List.eq_append_cons_of_mem inline
    have unnamed : named? name = .none := by
      apply Option.eq_none_iff_forall_ne_some.2
      intro inner named
      obtain ⟨key, value, given⟩ := (named?_iff plain whole free).1 named
      obtain ⟨gap, rfl, blank⟩ := eq_name_append plain whole key
      exact none inner ⟨gap, rest, whole, blank, value, .inr given⟩
    have bare : bare? name = .none := by
      apply Option.eq_none_iff_forall_ne_some.2
      intro rest follows
      exact none (String.ofList (Text.trim rest))
        ⟨[], rest, bare?_eq_some.1 follows, nofun, String.toList_ofList, .inl rfl⟩
    rw [nameOf_of_unnamed plain inline unnamed, bare, Option.getD_none,
      Text.trim_of_tight plain.tight, String.ofList_toList]
  · have trimmed : Text.trim name.toList = name.toList := Text.trim_of_tight plain.tight
    rw [nameOf, read, trimmed]
    simp only [inline, not_false_eq_true, if_true, String.ofList_toList]

theorem Gives.ne (gives : Gives name inner) : inner ≠ name := by
  obtain ⟨gap, rest, whole, -, value, -⟩ := gives
  rintro rfl
  have shorter := Text.length_trim_le rest
  have lengths := congrArg List.length whole
  rw [value] at lengths
  simp only [List.length_append, List.length_cons] at lengths
  omega

theorem Gives.unique {other : String} (plain : Plain name) (gives : Gives name inner)
    (also : Gives name other) : inner = other :=
  calc
    inner = nameOf .standard name := (nameOf_of_gives plain gives).symm
    _ = other := nameOf_of_gives plain also

theorem nameOf_eq_self_iff (plain : Plain name) :
    nameOf base name = name ↔ ∀ inner, ¬ Gives name inner := by
  constructor
  · intro same inner gives
    exact gives.ne ((nameOf_of_gives plain gives).symm.trans same)
  · exact nameOf_of_gives_none plain

end Again

end GivenName

end BlockVolumes
