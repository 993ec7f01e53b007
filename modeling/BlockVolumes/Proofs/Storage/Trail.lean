import BlockVolumes.Proofs.Text.Split
import BlockVolumes.Storage.Files

/-! Where paths lead. A name below a directory leads to a place of its own. -/

namespace BlockVolumes

namespace Path

def IsName (text : List Char) : Prop :=
  componentOf? text = some (.name text) ∧ separator ∉ text

instance : DecidablePred IsName := fun _ => inferInstanceAs (Decidable (_ ∧ _))

theorem componentOf?_eq_name {piece text : List Char}
    (named : componentOf? piece = some (.name text)) : piece = text := by
  unfold componentOf? at named
  split at named <;> simp_all

theorem IsName.ne_dot {text : List Char} (name : IsName text) : text ≠ ['.'] := by
  rintro rfl
  exact absurd name.1 (by decide)

theorem isName_cons {c : Char} {rest : List Char} (start : c ≠ '.')
    (free : separator ∉ c :: rest) : IsName (c :: rest) := by
  refine ⟨?_, free⟩
  unfold componentOf?
  split <;> simp_all

theorem componentOf?_of_length {text : List Char} (long : 2 < text.length) :
    componentOf? text = some (.name text) := by
  unfold componentOf?
  split <;> simp_all

theorem isName_numbered (c : Char) (rest : List Char) (start : c ≠ '.')
    (free : separator ∉ c :: rest) (n : Nat) : IsName (c :: rest ++ (toString n).toList) := by
  apply isName_cons start
  intro member
  rcases List.mem_append.1 (show separator ∈ (c :: rest) ++ _ from member) with inside | digit
  · exact free inside
  · rw [Nat.toString_eq_repr, Nat.toList_repr] at digit
    exact absurd (Nat.isDigit_of_mem_toDigits (by decide) (by decide) digit) (by decide)

theorem IsName.head_ne {text : List Char} (name : IsName text) :
    text.head? ≠ some separator := fun start => name.2 (List.mem_of_head? start)

theorem IsName.not_absolute {name : String} (plain : IsName name.toList) :
    isAbsolute name = false := by
  simpa [isAbsolute] using plain.head_ne

theorem components_of_pieces {path : String} {lead : List Component} {pieces : List (List Char)}
    (split : Text.splitOn separator path.toList = pieces)
    (start : (if isAbsolute path then [.root]
      else if pieces.head? = some ['.'] then [.here] else []) = lead) :
    components path = lead ++ pieces.filterMap componentOf? := by
  subst split start
  rfl

theorem toList_join {base name : String} (relative : isAbsolute name = false) :
    (join base name).toList = base.toList ++
      (if base = "" ∨ base.toList.getLast? = some separator then name.toList
        else separator :: name.toList) := by
  simp only [join, relative, Bool.false_eq_true, if_false]
  split <;> simp [separator]

theorem isAbsolute_join (base : String) {name : String} (plain : IsName name.toList) :
    isAbsolute (join base name) = isAbsolute base := by
  simp only [isAbsolute, toList_join plain.not_absolute]
  cases chars : base.toList with
  | nil =>
    have empty : base = "" := String.toList_eq_nil_iff.1 chars
    simpa [empty] using plain.head_ne
  | cons c rest => simp

theorem splitOn_join (base : String) {name : String} (plain : IsName name.toList) :
    Text.splitOn separator (join base name).toList =
        Text.splitOn separator base.toList ++ [name.toList] ∨
      ∃ pieces, Text.splitOn separator base.toList = pieces ++ [[]] ∧
        Text.splitOn separator (join base name).toList = pieces ++ [name.toList] := by
  have last := Text.splitOn_of_not_mem plain.2
  rw [toList_join plain.not_absolute]
  split
  · rename_i ended
    right
    rcases ended with rfl | ended
    · exact ⟨[], rfl, by simpa using last⟩
    · obtain ⟨front, whole⟩ := List.getLast?_eq_some_iff.1 ended
      refine ⟨Text.splitOn separator front, ?_, ?_⟩
      · rw [whole, Text.splitOn_append_cons]
        rfl
      · rw [whole, List.append_assoc, List.singleton_append, Text.splitOn_append_cons, last]
  · left
    rw [Text.splitOn_append_cons, last]

theorem components_join {base name : String} (plain : IsName name.toList) :
    components (join base name) = components base ++ [.name name.toList] := by
  have own : [name.toList].filterMap componentOf? = [.name name.toList] := by
    simp [plain.1]
  have absolute := isAbsolute_join base plain
  rcases splitOn_join base plain with split | ⟨pieces, before, after⟩
  · have start : (Text.splitOn separator base.toList ++ [name.toList]).head? =
        (Text.splitOn separator base.toList).head? := by
      cases h : Text.splitOn separator base.toList with
      | nil => exact absurd h (Text.splitOn_ne_nil _ _)
      | cons first others => rfl
    rw [components_of_pieces split rfl, components_of_pieces rfl rfl, absolute, start,
      List.filterMap_append, own, List.append_assoc]
  · have start : ((pieces ++ [name.toList]).head? = some ['.']) ↔
        ((pieces ++ [[]]).head? = some ['.']) := by
      cases pieces with
      | nil => simp [plain.ne_dot]
      | cons first others => rfl
    rw [components_of_pieces after rfl, components_of_pieces before rfl, absolute]
    simp only [start, List.filterMap_append, own]
    simp [componentOf?]

def follow (names : List (List Char)) : Component → List (List Char)
  | .root => []
  | .here => names
  | .parent => names.dropLast
  | .name text => names ++ [text]

theorem trail_eq_foldl (path : String) : trail path = (components path).foldl follow [] := rfl

theorem foldl_follow_names (names before : List (List Char)) :
    (names.map Component.name).foldl follow before = before ++ names := by
  induction names generalizing before with
  | nil => simp
  | cons name names ih => simp [follow, ih]

theorem trail_join {base name : String} (plain : IsName name.toList) :
    trail (join base name) = trail base ++ [name.toList] := by
  simp [trail_eq_foldl, components_join plain, follow]

theorem isName_of_mem_components {path : String} {text : List Char}
    (member : .name text ∈ components path) : IsName text := by
  simp only [components] at member
  rcases List.mem_append.1 member with lead | member
  · split at lead
    · simp at lead
    · split at lead <;> simp at lead
  · obtain ⟨piece, inside, named⟩ := List.mem_filterMap.1 member
    have same := componentOf?_eq_name named
    subst same
    exact ⟨named, Text.not_mem_of_mem_splitOn inside⟩

theorem isName_of_mem_foldl {steps : List Component} {names : List (List Char)} {text : List Char}
    (plain : ∀ t ∈ names, IsName t) (steady : ∀ t, .name t ∈ steps → IsName t)
    (member : text ∈ steps.foldl follow names) : IsName text := by
  induction steps generalizing names with
  | nil => exact plain text member
  | cons step steps ih =>
    refine ih ?_ (fun t inside => steady t (List.mem_cons_of_mem _ inside)) member
    intro t inside
    cases step with
    | root => simp [follow] at inside
    | here => exact plain t inside
    | parent => exact plain t (List.dropLast_subset _ inside)
    | name own =>
      rcases List.mem_append.1 inside with inside | inside
      · exact plain t inside
      · obtain rfl := List.mem_singleton.1 inside
        exact steady _ List.mem_cons_self

theorem isName_of_mem_trail {path : String} {text : List Char} (member : text ∈ trail path) :
    IsName text :=
  isName_of_mem_foldl (by simp) (fun _ => isName_of_mem_components) member

theorem splitOn_ofTrail {names : List (List Char)} (plain : ∀ n ∈ names, IsName n) :
    Text.splitOn separator (ofTrail names).toList = [] :: names := by
  simp only [ofTrail, String.toList_ofList]
  induction names with
  | nil => rfl
  | cons name names ih =>
    have rest := ih fun n member => plain n (List.mem_cons_of_mem _ member)
    have own := Text.splitOn_of_not_mem (plain name List.mem_cons_self).2
    cases names with
    | nil =>
      simp [Text.splitOn, own]
    | cons next others =>
      simp only [List.flatMap_cons, List.cons_append, Text.splitOn, if_true] at rest ⊢
      rw [Text.splitOn_append_cons, own]
      simp_all

theorem filterMap_componentOf? {names : List (List Char)} (plain : ∀ n ∈ names, IsName n) :
    names.filterMap componentOf? = names.map .name := by
  induction names with
  | nil => rfl
  | cons name names ih =>
    have own := (plain name List.mem_cons_self).1
    simp [own, ih fun n member => plain n (List.mem_cons_of_mem _ member)]

theorem trail_ofTrail {names : List (List Char)} (plain : ∀ n ∈ names, IsName n) :
    trail (ofTrail names) = names := by
  have start : ([] :: names).head? ≠ some ['.'] := by simp
  rw [trail_eq_foldl, components_of_pieces (splitOn_ofTrail plain) rfl]
  simp only [start, if_false, List.filterMap_cons, componentOf?, filterMap_componentOf? plain]
  split <;> simp [foldl_follow_names, follow]

theorem trail_resolve (path : String) : trail (resolve path) = trail path :=
  trail_ofTrail fun _ => isName_of_mem_trail

theorem resolve_join_inj {base a b : String} (plainA : IsName a.toList) (plainB : IsName b.toList)
    (same : resolve (join base a) = resolve (join base b)) : a = b := by
  have trails := congrArg trail same
  rw [trail_resolve, trail_resolve, trail_join plainA, trail_join plainB] at trails
  exact String.toList_inj.1 (List.singleton_inj.1 (List.append_cancel_left trails))

end Path

end BlockVolumes
