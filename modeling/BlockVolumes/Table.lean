/-!
A finite map from text keys, kept in key order, each key once. Two tables with the same look-ups
are equal.
-/

namespace BlockVolumes

universe u

variable {ν : Type u}

def KeysAscend (entries : List (String × ν)) : Prop :=
  entries.Pairwise fun a b => a.1 < b.1

structure Table (ν : Type u) where
  entries : List (String × ν)
  ascending : KeysAscend entries

namespace Table

theorem eq_of_entries_eq {t u : Table ν} (same : t.entries = u.entries) : t = u := by
  cases t; cases u; simp_all

instance [DecidableEq ν] : DecidableEq (Table ν) := fun t u =>
  if same : t.entries = u.entries then isTrue (eq_of_entries_eq same)
  else isFalse fun equal => same (equal ▸ rfl)

def empty : Table ν := ⟨[], List.Pairwise.nil⟩

instance : Inhabited (Table ν) := ⟨empty⟩

def lookup (key : String) : List (String × ν) → Option ν
  | [] => none
  | (k, v) :: rest => if k = key then some v else lookup key rest

def get? (t : Table ν) (key : String) : Option ν := lookup key t.entries

@[simp] theorem get?_empty (key : String) : (empty : Table ν).get? key = none := rfl

theorem mem_of_lookup {key : String} {value : ν} {entries : List (String × ν)}
    (found : lookup key entries = some value) : (key, value) ∈ entries := by
  induction entries with
  | nil => simp [lookup] at found
  | cons head rest ih =>
    simp only [lookup] at found
    split at found
    · rename_i here
      cases found
      exact here ▸ List.mem_cons_self
    · exact List.mem_cons_of_mem _ (ih found)

theorem lookup_of_mem {key : String} {value : ν} {entries : List (String × ν)}
    (ascending : KeysAscend entries) (member : (key, value) ∈ entries) :
    lookup key entries = some value := by
  induction entries with
  | nil => simp at member
  | cons head rest ih =>
    obtain ⟨below, later⟩ := List.pairwise_cons.1 ascending
    rcases List.mem_cons.1 member with rfl | member
    · simp [lookup]
    · have first : head.1 < key := below (key, value) member
      have different : head.1 ≠ key := fun same => String.lt_irrefl key (same ▸ first)
      simp [lookup, different, ih later member]

theorem get?_eq_some_iff {t : Table ν} {key : String} {value : ν} :
    t.get? key = some value ↔ (key, value) ∈ t.entries :=
  ⟨mem_of_lookup, lookup_of_mem t.ascending⟩

def contains (t : Table ν) (key : String) : Bool := (t.get? key).isSome

def put (key : String) (value : ν) : List (String × ν) → List (String × ν)
  | [] => [(key, value)]
  | (k, v) :: rest =>
    if key < k then (key, value) :: (k, v) :: rest
    else if k < key then (k, v) :: put key value rest
    else (key, value) :: rest

theorem mem_put {key : String} {value : ν} {entries : List (String × ν)} {e : String × ν}
    (member : e ∈ put key value entries) : e = (key, value) ∨ e ∈ entries := by
  induction entries with
  | nil => simpa [put] using member
  | cons head rest ih =>
    obtain ⟨k, v⟩ := head
    simp only [put] at member
    split at member
    · simpa using member
    · split at member
      · rcases List.mem_cons.1 member with here | later
        · exact .inr (here ▸ List.mem_cons_self)
        · exact (ih later).imp_right (List.mem_cons_of_mem _)
      · rcases List.mem_cons.1 member with here | later
        · exact .inl here
        · exact .inr (List.mem_cons_of_mem _ later)

theorem eq_of_not_lt {a b : String} (notBelow : ¬ a < b) (notAbove : ¬ b < a) : a = b :=
  String.le_antisymm (String.not_lt.1 notAbove) (String.not_lt.1 notBelow)

theorem put_ascends (key : String) (value : ν) {entries : List (String × ν)}
    (ascending : KeysAscend entries) : KeysAscend (put key value entries) := by
  induction entries with
  | nil => simp [put, KeysAscend]
  | cons head rest ih =>
    obtain ⟨k, v⟩ := head
    obtain ⟨below, later⟩ := List.pairwise_cons.1 ascending
    simp only [put]
    split
    · rename_i first
      refine List.pairwise_cons.2 ⟨fun e member => ?_, ascending⟩
      rcases List.mem_cons.1 member with rfl | member
      · exact first
      · exact String.lt_trans first (below e member)
    · split
      · rename_i after
        refine List.pairwise_cons.2 ⟨fun e member => ?_, ih later⟩
        rcases mem_put member with rfl | member
        · exact after
        · exact below e member
      · rename_i notBelow notAbove
        have same := eq_of_not_lt notBelow notAbove
        exact List.pairwise_cons.2 ⟨fun e member => same ▸ below e member, later⟩

theorem eq_of_mem_iff {a b : List (String × ν)} (ascendingA : KeysAscend a)
    (ascendingB : KeysAscend b) (same : ∀ e, e ∈ a ↔ e ∈ b) : a = b := by
  induction a generalizing b with
  | nil =>
    cases b with
    | nil => rfl
    | cons e rest => simpa using (same e).2 List.mem_cons_self
  | cons first rest ih =>
    cases b with
    | nil => simpa using (same first).1 List.mem_cons_self
    | cons other others =>
      obtain ⟨belowA, laterA⟩ := List.pairwise_cons.1 ascendingA
      obtain ⟨belowB, laterB⟩ := List.pairwise_cons.1 ascendingB
      have heads : first = other := by
        rcases List.mem_cons.1 ((same first).1 List.mem_cons_self) with equal | inOthers
        · exact equal
        · rcases List.mem_cons.1 ((same other).2 List.mem_cons_self) with equal | inRest
          · exact equal.symm
          · exact absurd (String.lt_trans (belowA other inRest) (belowB first inOthers))
              (String.lt_irrefl first.1)
      subst heads
      congr 1
      refine ih laterA laterB fun e => ⟨fun member => ?_, fun member => ?_⟩
      · rcases List.mem_cons.1 ((same e).1 (List.mem_cons_of_mem _ member)) with rfl | inOthers
        · exact absurd (belowA e member) (String.lt_irrefl e.1)
        · exact inOthers
      · rcases List.mem_cons.1 ((same e).2 (List.mem_cons_of_mem _ member)) with rfl | inRest
        · exact absurd (belowB e member) (String.lt_irrefl e.1)
        · exact inRest

theorem eq_of_get?_eq {t u : Table ν} (same : ∀ key, t.get? key = u.get? key) : t = u :=
  eq_of_entries_eq <| eq_of_mem_iff t.ascending u.ascending fun (key, value) => by
    rw [← get?_eq_some_iff, ← get?_eq_some_iff, same key]

/-- A key that is already there gets the new value. -/
def insert (t : Table ν) (key : String) (value : ν) : Table ν :=
  ⟨put key value t.entries, put_ascends key value t.ascending⟩

theorem lookup_put (key query : String) (value : ν) (entries : List (String × ν)) :
    lookup query (put key value entries) =
      if key = query then some value else lookup query entries := by
  induction entries with
  | nil => simp [put, lookup]
  | cons head rest ih =>
    obtain ⟨k, v⟩ := head
    simp only [put]
    split
    · simp [lookup]
    · split
      · rename_i after
        by_cases same : k = query
        · have different : key ≠ query := by
            rintro rfl
            exact String.lt_irrefl k (same ▸ after)
          simp [lookup, same, different]
        · simp [lookup, same, ih]
      · rename_i notBelow notAbove
        have same := eq_of_not_lt notBelow notAbove
        subst same
        by_cases here : key = query <;> simp [lookup, here]

@[simp] theorem get?_insert (t : Table ν) (key query : String) (value : ν) :
    (t.insert key value).get? query = if key = query then some value else t.get? query :=
  lookup_put key query value t.entries

def erase (t : Table ν) (key : String) : Table ν :=
  ⟨t.entries.filter (·.1 ≠ key), t.ascending.filter _⟩

theorem lookup_filter_ne (key query : String) (entries : List (String × ν)) :
    lookup query (entries.filter (·.1 ≠ key)) =
      if key = query then none else lookup query entries := by
  induction entries with
  | nil => simp [lookup]
  | cons head rest ih =>
    obtain ⟨k, v⟩ := head
    by_cases gone : k = key
    · subst gone
      by_cases here : k = query <;> simp_all [lookup]
    · by_cases here : k = query
      · subst here
        simp [lookup, gone, Ne.symm gone]
      · simp_all [lookup]

@[simp] theorem get?_erase (t : Table ν) (key query : String) :
    (t.erase key).get? query = if key = query then none else t.get? query :=
  lookup_filter_ne key query t.entries

def isEmpty (t : Table ν) : Bool := t.entries.isEmpty

def size (t : Table ν) : Nat := t.entries.length

def keys (t : Table ν) : List String := t.entries.map (·.1)

def values (t : Table ν) : List ν := t.entries.map (·.2)

/-- Later entries win over earlier ones with the same key. -/
def ofList (entries : List (String × ν)) : Table ν :=
  entries.foldl (fun t (key, value) => t.insert key value) empty

end Table

end BlockVolumes
