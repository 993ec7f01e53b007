import BlockVolumes.Proofs.Storage.Trail
import BlockVolumes.Proofs.Text.Split
import Mathlib.Data.List.DropRight

/-! What lies below a directory. A path joined to it may lead elsewhere, and two of them to one
place. -/

namespace BlockVolumes

namespace Path

variable {base path name other : String}

def counts (piece : List Char) : Bool := piece ≠ [] ∧ piece ≠ ['.']

def solid (text : List Char) : List (List Char) := (text.splitOn separator).filter counts

def componentOf (piece : List Char) : Component :=
  if piece = ['.', '.'] then .parent else .name piece

theorem componentOf?_eq (piece : List Char) :
    componentOf? piece = if counts piece then some (componentOf piece) else none := by
  unfold componentOf? componentOf counts
  split <;> simp_all

theorem componentOf_inj {a b : List Char} (same : componentOf a = componentOf b) : a = b := by
  unfold componentOf at same
  split at same <;> split at same <;> simp_all

theorem filterMap_componentOf?_eq (pieces : List (List Char)) :
    pieces.filterMap componentOf? = (pieces.filter counts).map componentOf := by
  induction pieces with
  | nil => rfl
  | cons piece pieces ih => 
    rw [List.filterMap_cons, List.filter_cons, componentOf?_eq, ih]
    cases counts piece <;> rfl

theorem components_of_absolute (absolute : isAbsolute path = true) :
    components path = .root :: (solid path.toList).map componentOf := by
  rw [components, if_pos absolute, filterMap_componentOf?_eq, Text.splitOn_eq, solid]
  rfl

theorem components_eq_iff (absolute : isAbsolute path = true)
    (also : isAbsolute other = true) :
    components path = components other ↔ solid path.toList = solid other.toList := by
  rw [components_of_absolute absolute, components_of_absolute also, List.cons.injEq,
    List.map_inj_right fun _ _ => componentOf_inj]
  exact and_iff_right rfl

theorem solid_append (front rest : List Char) :
    solid (front ++ separator :: rest) = solid front ++ solid rest := by
  rw [solid, ← Text.splitOn_eq, Text.splitOn_append_cons, List.filter_append, Text.splitOn_eq,
    Text.splitOn_eq, solid, solid]

theorem join_of_absolute (absolute : isAbsolute name = true) : join base name = name := by
  rw [join, if_pos absolute]

theorem solid_join (relative : isAbsolute name = false) :
    solid (join base name).toList = solid base.toList ++ solid name.toList := by
  rw [toList_join relative]
  split
  · rename_i ended
    rcases ended with rfl | ended
    · rfl
    · obtain ⟨front, whole⟩ := List.getLast?_eq_some_iff.1 ended
      have last : solid base.toList = solid front := by
        rw [whole, solid_append]
        exact List.append_nil _
      rw [last, whole, List.append_assoc, List.singleton_append, solid_append]
  · exact solid_append _ _

theorem isAbsolute_join_of_absolute (absolute : isAbsolute base = true) (name : String) :
    isAbsolute (join base name) = true := by
  cases own : isAbsolute name with
  | true => rwa [join_of_absolute own]
  | false =>
    obtain ⟨c, rest, whole⟩ : ∃ c rest, base.toList = c :: rest := by
      cases chars : base.toList with
      | nil => simp [isAbsolute, chars] at absolute
      | cons c rest => exact ⟨c, rest, rfl⟩
    simpa [isAbsolute, toList_join own, whole] using absolute

def Alike (base name other : String) : Prop :=
  if isAbsolute name = isAbsolute other then solid name.toList = solid other.toList
  else if isAbsolute name then solid name.toList = solid base.toList ++ solid other.toList
  else solid base.toList ++ solid name.toList = solid other.toList

instance (base name other : String) : Decidable (Alike base name other) :=
  inferInstanceAs (Decidable (ite _ _ _))

theorem same_join_iff (absolute : isAbsolute base = true) (name other : String) :
    same (join base name) (join base other) = true ↔ Alike base name other := by
  rw [same, beq_iff_eq, components_eq_iff (isAbsolute_join_of_absolute absolute name)
    (isAbsolute_join_of_absolute absolute other), Alike]
  cases first : isAbsolute name <;> cases second : isAbsolute other <;>
    simp [solid_join, join_of_absolute, first, second]

/-- One piece further on a way: how far it goes up, and by which names it comes down again. -/
def turn (way : Nat × List (List Char)) (piece : List Char) : Nat × List (List Char) :=
  if piece = ['.', '.'] then
    if way.2 = [] then (way.1 + 1, []) else (way.1, way.2.dropLast)
  else (way.1, way.2 ++ [piece])

def way (path : String) : Nat × List (List Char) := (solid path.toList).foldl turn (0, [])

/-- Where a way leads from a place. At the root it does not go up any further. -/
def goes (place : List (List Char)) (way : Nat × List (List Char)) : List (List Char) :=
  place.rdrop way.1 ++ way.2

theorem follow_goes (place : List (List Char)) (way : Nat × List (List Char)) (piece : List Char) :
    follow (goes place way) (componentOf piece) = goes place (turn way piece) := by
  obtain ⟨up, down⟩ := way
  unfold componentOf turn
  by_cases parent : piece = ['.', '.']
  · simp only [parent, if_true, follow, goes]
    by_cases bare : down = []
    · simp only [bare, if_true, List.append_nil, List.rdrop, List.dropLast_eq_take,
        List.length_take, List.take_take]
      congr 1
      omega
    · rw [if_neg bare, List.dropLast_append_of_ne_nil bare]
  · simp [parent, follow, goes]

theorem foldl_follow_goes (pieces : List (List Char)) (place : List (List Char))
    (way : Nat × List (List Char)) :
    (pieces.map componentOf).foldl follow (goes place way) =
      goes place (pieces.foldl turn way) := by
  induction pieces generalizing way with
  | nil => rfl
  | cons piece pieces ih =>
    rw [List.map_cons, List.foldl_cons, follow_goes, ih, List.foldl_cons]

theorem foldl_follow_base (absolute : isAbsolute path = true) :
    ((solid path.toList).map componentOf).foldl follow [] = trail path := by
  rw [trail_eq_foldl, components_of_absolute absolute]
  rfl

theorem trail_join_of_absolute (absolute : isAbsolute base = true) (name : String) :
    trail (join base name) =
      if isAbsolute name then (way name).2 else goes (trail base) (way name) := by
  rw [← foldl_follow_base (isAbsolute_join_of_absolute absolute name)]
  split
  · rename_i own
    rw [join_of_absolute own]
    simpa [goes, way, List.rdrop] using foldl_follow_goes (solid name.toList) [] (0, [])
  · rename_i relative
    rw [solid_join (by simpa using relative), List.map_append, List.foldl_append,
      foldl_follow_base absolute]
    simpa [goes, way] using foldl_follow_goes (solid name.toList) (trail base) (0, [])

def Below (base path : String) : Prop := ∃ more, more ≠ [] ∧ trail path = trail base ++ more

theorem not_below_root (root : trail path = []) : ¬ Below base path := by
  rintro ⟨more, some, whole⟩
  rw [root] at whole
  exact some (List.append_eq_nil_iff.1 whole.symm).2

/-- A name that leads below a base. An absolute one has to go through all of it. Another one may go
up from it, but has to come down again by the names it went up by, and then further. -/
def Enters (base name : String) : Prop := ∃ more, more ≠ [] ∧ (way name).2 =
  if isAbsolute name then trail base ++ more else (trail base).rtake (way name).1 ++ more

theorem goes_eq_iff {place more : List (List Char)} {way : Nat × List (List Char)} :
    goes place way = place ++ more ↔ way.2 = place.rtake way.1 ++ more := by
  have whole : place.rdrop way.1 ++ place.rtake way.1 = place := List.take_append_drop _ _
  calc
    goes place way = place ++ more ↔
        place.rdrop way.1 ++ way.2 = place.rdrop way.1 ++ place.rtake way.1 ++ more := by
      rw [whole, goes]
    _ ↔ way.2 = place.rtake way.1 ++ more := by
      rw [List.append_assoc, List.append_cancel_left_eq]

theorem below_join_iff (absolute : isAbsolute base = true) (name : String) :
    Below base (join base name) ↔ Enters base name := by
  unfold Below Enters
  simp only [trail_join_of_absolute absolute]
  split
  · rfl
  · simp only [goes_eq_iff]

end Path

end BlockVolumes
