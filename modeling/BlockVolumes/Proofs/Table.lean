import BlockVolumes.Table

/-! Tables under several changes: an entry put in and taken out again, and values mapped. -/

namespace BlockVolumes.Table

universe u v

variable {ν : Type u} {μ : Type v}

theorem contains_iff {t : Table ν} {key : String} :
    t.contains key = true ↔ ∃ value, t.get? key = some value :=
  Option.isSome_iff_exists

theorem not_contains_iff {t : Table ν} {key : String} :
    t.contains key = false ↔ t.get? key = none :=
  Option.isSome_eq_false_iff.trans Option.isNone_iff_eq_none

theorem size_eq_zero_iff {t : Table ν} : t.size = 0 ↔ ∀ key, t.contains key = false := by
  rw [size, List.length_eq_zero_iff]
  constructor
  · intro none key
    simp [contains, get?, none, lookup]
  · intro absent
    apply List.eq_nil_iff_forall_not_mem.2
    intro e member
    have found := get?_eq_some_iff.2 member
    simpa [contains, found] using absent e.1

theorem erase_insert {t : Table ν} {key : String} (value : ν) (absent : t.get? key = none) :
    (t.insert key value).erase key = t := by
  apply eq_of_get?_eq
  intro query
  by_cases same : key = query
  · subst same
    simp [absent]
  · simp [same]

theorem insert_erase {t : Table ν} {key : String} {value : ν} (present : t.get? key = some value) :
    (t.erase key).insert key value = t := by
  apply eq_of_get?_eq
  intro query
  by_cases same : key = query
  · subst same
    simp [present]
  · simp [same]

theorem get?_insert_self (t : Table ν) (key : String) (value : ν) :
    (t.insert key value).get? key = some value := by
  simp

theorem get?_insert_of_absent {t : Table ν} {key query : String} {value : ν} (other : ν)
    (absent : t.get? key = none) (found : t.get? query = some value) :
    (t.insert key other).get? query = some value := by
  have different : key ≠ query := by
    rintro rfl
    simp [absent] at found
  simpa [different] using found

theorem erase_of_absent {t : Table ν} {key : String} (absent : t.get? key = none) :
    t.erase key = t := by
  apply eq_of_get?_eq
  intro query
  by_cases same : key = query
  · subst same
    simp [absent]
  · simp [same]

@[simp] theorem insert_insert (t : Table ν) (key : String) (first second : ν) :
    (t.insert key first).insert key second = t.insert key second := by
  apply eq_of_get?_eq
  intro query
  by_cases same : key = query <;> simp [same]

theorem mem_keys {t : Table ν} {key : String} :
    key ∈ t.keys ↔ ∃ value, t.get? key = some value := by
  simp [keys, get?_eq_some_iff]

theorem keys_nodup (t : Table ν) : t.keys.Nodup := by
  apply List.pairwise_map.2
  refine t.ascending.imp fun {a b} below same => ?_
  exact absurd (same ▸ below) (String.lt_irrefl _)

theorem entry_unique {t : Table ν} {first second : String × ν} (here : first ∈ t.entries)
    (there : second ∈ t.entries) (same : first.1 = second.1) : first = second := by
  have found := get?_eq_some_iff.2 here
  rw [same, get?_eq_some_iff.2 there] at found
  exact Prod.ext same (Option.some.inj found).symm

theorem mem_values {t : Table ν} {value : ν} :
    value ∈ t.values ↔ ∃ key, t.get? key = some value := by
  simp [values, get?_eq_some_iff]

theorem mapped_ascends (f : ν → μ) {entries : List (String × ν)} (ascending : KeysAscend entries) :
    KeysAscend (entries.map fun e => (e.1, f e.2)) :=
  List.pairwise_map.2 ascending

theorem get?_insert_eq_some {t : Table ν} {key query : String} {value found : ν} :
    (t.insert key value).get? query = some found ↔
      key = query ∧ value = found ∨ key ≠ query ∧ t.get? query = some found := by
  by_cases same : key = query <;> simp [same]

theorem get?_pair {first second query : String} {value other found : ν}
    (there : ((empty.insert first value).insert second other).get? query = some found) :
    query = second ∧ found = other ∨ query = first ∧ found = value := by
  rcases get?_insert_eq_some.1 there with ⟨rfl, rfl⟩ | ⟨-, before⟩
  · exact .inl ⟨rfl, rfl⟩
  · rcases get?_insert_eq_some.1 before with ⟨rfl, rfl⟩ | ⟨-, none⟩
    · exact .inr ⟨rfl, rfl⟩
    · cases none

theorem get?_erase_eq_some {t : Table ν} {key query : String} {found : ν} :
    (t.erase key).get? query = some found ↔ key ≠ query ∧ t.get? query = some found := by
  by_cases same : key = query <;> simp [same]

theorem rel_insert {R : ν → ν → Prop} (refl : ∀ value, R value value) {t : Table ν}
    {key query : String} {before after : ν} (found : t.get? key = some before)
    (related : R before after) :
    Option.Rel R (t.get? query) ((t.insert key after).get? query) := by
  rw [get?_insert]
  split
  · rename_i same
    rw [← same, found]
    exact .some related
  · cases t.get? query with
    | none => exact .none
    | some other => exact .some (refl other)

section Related

variable {R : ν → ν → Prop} {t u : Table ν} {key : String} {value : ν}

theorem before_of_rel (related : Option.Rel R (t.get? key) (u.get? key))
    (found : u.get? key = some value) : ∃ before, t.get? key = some before ∧ R before value := by
  rw [found] at related
  generalize t.get? key = before at related
  cases related with
  | some alike => exact ⟨_, rfl, alike⟩

theorem after_of_rel (related : Option.Rel R (t.get? key) (u.get? key))
    (found : t.get? key = some value) : ∃ after, u.get? key = some after ∧ R value after := by
  rw [found] at related
  generalize u.get? key = after at related
  cases related with
  | some alike => exact ⟨_, rfl, alike⟩

theorem none_of_rel (related : Option.Rel R (t.get? key) (u.get? key))
    (absent : t.get? key = none) : u.get? key = none := by
  rw [absent] at related
  generalize u.get? key = after at related
  cases related
  rfl

end Related

def map (f : ν → μ) (t : Table ν) : Table μ :=
  ⟨t.entries.map fun e => (e.1, f e.2), mapped_ascends f t.ascending⟩

theorem lookup_map (f : ν → μ) (key : String) (entries : List (String × ν)) :
    lookup key (entries.map fun e => (e.1, f e.2)) = (lookup key entries).map f := by
  induction entries with
  | nil => rfl
  | cons head rest ih =>
    obtain ⟨k, v⟩ := head
    by_cases here : k = key <;> simp [lookup, here, ih]

@[simp] theorem get?_map (f : ν → μ) (t : Table ν) (key : String) :
    (t.map f).get? key = (t.get? key).map f :=
  lookup_map f key t.entries

@[simp] theorem contains_map (f : ν → μ) (t : Table ν) (key : String) :
    (t.map f).contains key = t.contains key := by
  simp [contains]

@[simp] theorem values_map (f : ν → μ) (t : Table ν) : (t.map f).values = t.values.map f := by
  simp [values, map]

theorem map_insert (f : ν → μ) (t : Table ν) (key : String) (value : ν) :
    (t.insert key value).map f = (t.map f).insert key (f value) := by
  apply eq_of_get?_eq
  intro query
  by_cases same : key = query <;> simp [same]

theorem map_erase (f : ν → μ) (t : Table ν) (key : String) :
    (t.erase key).map f = (t.map f).erase key := by
  apply eq_of_get?_eq
  intro query
  by_cases same : key = query <;> simp [same]

theorem get?_foldl_insert {entries : List (String × ν)} (ascending : KeysAscend entries)
    (t : Table ν) (query : String) :
    (entries.foldl (fun t (key, value) => t.insert key value) t).get? query =
      (lookup query entries).or (t.get? query) := by
  induction entries generalizing t with
  | nil => rfl
  | cons head rest ih =>
    obtain ⟨below, later⟩ := List.pairwise_cons.1 ascending
    rw [List.foldl_cons, ih later, get?_insert]
    by_cases here : head.1 = query
    · have absent : lookup query rest = none :=
        Option.eq_none_iff_forall_ne_some.2 fun value found =>
          String.lt_irrefl query (here ▸ below (query, value) (mem_of_lookup found) :)
      simp [lookup, here, absent]
    · simp [lookup, here]

theorem ofList_entries (t : Table ν) : ofList t.entries = t :=
  eq_of_get?_eq fun query => by
    rw [ofList, get?_foldl_insert t.ascending, get?_empty, Option.or_none]
    rfl

theorem mem_of_get?_foldl_insert {entries : List (String × ν)} {t : Table ν} {query : String}
    {value : ν}
    (found : (entries.foldl (fun t (key, value) => t.insert key value) t).get? query = some value) :
    (query, value) ∈ entries ∨ t.get? query = some value := by
  induction entries generalizing t with
  | nil => exact .inr found
  | cons head rest ih =>
    cases ih found with
    | inl later => exact .inl (List.mem_cons_of_mem _ later)
    | inr here =>
      cases get?_insert_eq_some.1 here with
      | inl own =>
        obtain ⟨rfl, rfl⟩ := own
        exact .inl List.mem_cons_self
      | inr before => exact .inr before.2

theorem mem_of_get?_ofList {entries : List (String × ν)} {query : String} {value : ν}
    (found : (ofList entries).get? query = some value) : (query, value) ∈ entries :=
  (mem_of_get?_foldl_insert found).resolve_right nofun

end BlockVolumes.Table
