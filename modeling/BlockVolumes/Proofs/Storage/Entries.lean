import BlockVolumes.Proofs.Storage.Trail
import BlockVolumes.Proofs.Table

/-! What the calls on files do to the files, and what stands right below a directory. -/

namespace BlockVolumes.Files

open BlockVolumes.Path (trail resolve ofTrail join IsName)

variable {f g : Files} {path name root : String} {file : SparseFile}

@[simp] theorem put_put (f : Files) (path : String) (first second : SparseFile) :
    (f.put path first).put path second = f.put path second := by
  simp [put]

@[simp] theorem get?_put_self (f : Files) (path : String) (file : SparseFile) :
    (f.put path file).get? path = some file := by
  simp [put, get?]

theorem get?_put_of_ne (f : Files) {path query : String} (file : SparseFile)
    (different : resolve path ≠ resolve query) : (f.put path file).get? query = f.get? query := by
  simp [put, get?, different]

def without (f : Files) (path : String) : Files :=
  { f with files := f.files.erase (resolve path) }

@[simp] theorem get?_without_self (f : Files) (path : String) :
    (f.without path).get? path = none := by
  simp [without, get?]

theorem get?_without_of_ne (f : Files) {path query : String}
    (different : resolve path ≠ resolve query) : (f.without path).get? query = f.get? query := by
  simp [without, get?, different]

theorem without_put (file : SparseFile) (absent : f.get? path = none) :
    (f.put path file).without path = f := by
  have same : (f.files.insert (resolve path) file).erase (resolve path) = f.files :=
    Table.erase_insert file absent
  simp [put, without, same]

def vacant (f : Files) (path : String) : Bool := (f.get? path).isNone && !f.isDirectory path

theorem create_of_vacant (free : f.vacant path = true) :
    f.create path = .ok (f.put path .empty) := by
  simp_all [vacant, create]

theorem create_of_not_vacant (taken : f.vacant path = false) :
    f.create path = .error .alreadyExists := by
  have occupied : ((f.get? path).isSome || f.isDirectory path) = true := by
    cases present : f.get? path <;> simp_all [vacant]
  simp [create, occupied]

theorem get?_of_vacant (free : f.vacant path = true) : f.get? path = none := by
  simp_all [vacant]

theorem resize_put (f : Files) (path : String) {length : Nat} (small : ¬ lengthLimit ≤ length) :
    (f.put path file).resize path length = .ok (f.put path (file.resize length)) := by
  rw [resize, if_neg small]
  simp [lookup, Except.map]

theorem remove_of_present (present : f.get? path = some file) :
    f.remove path = .ok (f.without path) := by
  simp [remove, lookup, present, Except.map, without]

theorem remove_of_absent (absent : f.get? path = none) :
    f.remove path = .error (f.lack "/" path) := by
  simp [remove, lookup, absent, Except.map]

theorem without_of_absent (absent : f.get? path = none) : f.without path = f := by
  have same : f.files.erase (resolve path) = f.files := Table.erase_of_absent absent
  simp [without, same]

theorem copy_of_present {target : String} (present : f.get? path = some file) :
    f.copy path target = .ok (f.put target file) := by
  simp [copy, lookup, present]

theorem copy_of_absent (target : String) (absent : f.get? path = none) :
    ∃ error, f.copy path target = .error error := by
  simp [copy, lookup, absent]

def IsBelow (root : String) (entry : String) : Prop := ∃ name, trail entry = trail root ++ [name]

def nameBelow (lead : List (List Char)) (entry : String) : Option String :=
  if (trail entry).dropLast = lead then (trail entry).getLast?.map String.ofList else none

theorem entries_eq (f : Files) (path : String) : f.entries path =
    (f.files.keys ++ f.directories.keys).filterMap (nameBelow (trail path)) := rfl

theorem nameBelow_eq_some {entry : String} :
    nameBelow (trail root) entry = some name ↔ trail entry = trail root ++ [name.toList] := by
  unfold nameBelow
  constructor
  · intro found
    split at found
    · rename_i lead
      obtain ⟨last, ending, rfl⟩ := Option.map_eq_some_iff.1 found
      obtain ⟨front, whole⟩ := List.getLast?_eq_some_iff.1 ending
      simp_all
    · simp at found
  · intro whole
    simp [whole]

theorem mem_entries : name ∈ f.entries root ↔
    ∃ entry, (entry ∈ f.files.keys ∨ entry ∈ f.directories.keys) ∧
      trail entry = trail root ++ [name.toList] := by
  simp only [entries_eq, List.mem_filterMap, List.mem_append, nameBelow_eq_some]

theorem not_isBelow_of_entries_eq_nil (bare : f.entries root = []) {entry : String}
    (known : entry ∈ f.files.keys ∨ entry ∈ f.directories.keys) : ¬ IsBelow root entry := by
  rintro ⟨name, whole⟩
  have member : String.ofList name ∈ f.entries root :=
    mem_entries.2 ⟨entry, known, by simpa using whole⟩
  simp [bare] at member

theorem makeTrail_ok {made names : List (List Char)} (done : f.makeTrail made names = .ok g) :
    g.files = f.files ∧ ∀ entry ∈ g.directories.keys,
      entry ∈ f.directories.keys ∨ ∃ way, way <+: names ∧ entry = ofTrail (made ++ way) := by
  induction names generalizing f made with
  | nil =>
    cases done
    exact ⟨rfl, fun entry known => .inl known⟩
  | cons name names ih =>
    simp only [makeTrail] at done
    split at done
    · cases done
    · obtain ⟨files, known⟩ := ih done
      refine ⟨files, fun entry member => ?_⟩
      rcases known entry member with before | ⟨way, inside, rfl⟩
      · obtain ⟨value, found⟩ := Table.mem_keys.1 before
        rcases Table.get?_insert_eq_some.1 found with ⟨here, -⟩ | ⟨-, before⟩
        · exact .inr ⟨[name], by simp, here.symm⟩
        · exact .inl (Table.mem_keys.2 ⟨value, before⟩)
      · exact .inr ⟨name :: way, by simpa using inside, by simp⟩

theorem makeDirectories_ok (done : f.makeDirectories path = .ok g) :
    g.files = f.files ∧ ∀ entry ∈ g.directories.keys,
      entry ∈ f.directories.keys ∨ ∃ way, way <+: trail path ∧ entry = ofTrail way := by
  simp only [makeDirectories] at done
  split at done
  · cases done
  · simpa using makeTrail_ok done

theorem vacant_put_of_ne {query : String} (file : SparseFile)
    (different : resolve path ≠ resolve query) :
    (f.put path file).vacant query = f.vacant query := by
  rw [vacant, vacant, get?_put_of_ne f file different]
  rfl

theorem vacant_of_makeDirectories {query : String} (done : f.makeDirectories path = .ok g)
    (free : f.vacant query = true) (off : ¬ trail query <+: trail path) :
    g.vacant query = true := by
  obtain ⟨files, known⟩ := makeDirectories_ok done
  simp only [vacant, get?, isDirectory, files, Bool.and_eq_true, Bool.not_eq_true',
    Table.not_contains_iff] at free ⊢
  refine ⟨free.1, Option.eq_none_iff_forall_ne_some.2 fun value found => ?_⟩
  rcases known _ (Table.mem_keys.2 ⟨value, found⟩) with before | ⟨way, inside, same⟩
  · obtain ⟨value, there⟩ := Table.mem_keys.1 before
    simp [free.2] at there
  · have leads : trail query = way := by
      rw [← Path.trail_resolve, same]
      exact Path.trail_ofTrail fun n member => Path.isName_of_mem_trail (inside.subset member)
    exact off (leads ▸ inside)

theorem not_isBelow_way {way : List (List Char)} (inside : way <+: trail root) :
    ¬ IsBelow root (ofTrail way) := by
  rintro ⟨name, whole⟩
  rw [Path.trail_ofTrail fun n member => Path.isName_of_mem_trail (inside.subset member)] at whole
  have short := inside.length_le
  rw [whole, List.length_append, List.length_singleton] at short
  omega

end BlockVolumes.Files
