import BlockVolumes.Proofs.Store.RoundTrip
import BlockVolumes.Proofs.Table
import BlockVolumes.Store.Basic

/-! Both kinds of store keep a table of records by ID, and answer every call from it. -/

namespace BlockVolumes

inductive StoreKind
  | memory
  | persistent
deriving DecidableEq

namespace Store

/-- A store that keeps these records and refuses no call. -/
def keeping : StoreKind → Table Volume → Store
  | .memory, records => ⟨.memory ⟨records⟩, []⟩
  | .persistent, records => ⟨.persistent ⟨records.map PersistentStore.recordBytes⟩, []⟩

theorem inMemory_eq_keeping : inMemory = keeping .memory .empty := rfl

theorem onDisk_eq_keeping : onDisk = keeping .persistent .empty := rfl

variable (kind : StoreKind) (records : Table Volume)

@[simp] theorem get_keeping (id : VolumeId) :
    (keeping kind records).get id = .ok (records.get? id.text) := by
  cases kind with
  | memory => rfl
  | persistent =>
    cases found : records.get? id.text with
    | none => simp [keeping, get, guarded, PersistentStore.get, found]
    | some v =>
      simp [keeping, get, guarded, PersistentStore.get, found,
        PersistentStore.readRecord_recordBytes, Except.map]

theorem create_keeping (v : Volume) :
    (keeping kind records).create v =
      if records.contains v.id.text then
        (.error (.alreadyExists v.id.text), keeping kind records)
      else (.ok (), keeping kind (records.insert v.id.text v)) := by
  cases kind with
  | memory =>
    cases known : records.contains v.id.text <;>
      simp [keeping, create, changing, MemoryStore.create, known]
  | persistent =>
    cases known : records.contains v.id.text <;>
      simp [keeping, create, changing, PersistentStore.create, known, Table.map_insert]

theorem update_keeping (v : Volume) :
    (keeping kind records).update v =
      if records.contains v.id.text then (.ok (), keeping kind (records.insert v.id.text v))
      else (.error (.notFound v.id.text), keeping kind records) := by
  cases kind with
  | memory =>
    cases known : records.contains v.id.text <;>
      simp [keeping, update, changing, MemoryStore.update, known]
  | persistent =>
    cases known : records.contains v.id.text <;>
      simp [keeping, update, changing, PersistentStore.update, known, Table.map_insert]

theorem delete_keeping (id : VolumeId) :
    (keeping kind records).delete id =
      if records.contains id.text then (.ok (), keeping kind (records.erase id.text))
      else (.error (.notFound id.text), keeping kind records) := by
  cases kind with
  | memory =>
    cases known : records.contains id.text <;>
      simp [keeping, delete, changing, MemoryStore.delete, known]
  | persistent =>
    cases known : records.contains id.text <;>
      simp [keeping, delete, changing, PersistentStore.delete, known, Table.map_erase]

theorem mapM_readRecord (volumes : List Volume) :
    volumes.mapM (PersistentStore.readRecord ∘ PersistentStore.recordBytes) =
      .ok volumes := by
  induction volumes with
  | nil => rfl
  | cons v rest ih =>
    simp [List.mapM_cons, PersistentStore.readRecord_recordBytes, ih, bind, Except.bind, pure,
      Except.pure]

@[simp] theorem list_keeping :
    (keeping kind records).list = .ok (inOrderOfCreation records.values) := by
  cases kind with
  | memory => rfl
  | persistent =>
    simp [keeping, list, guarded, PersistentStore.list, mapM_readRecord, Except.map]

/-- The record that a store has of a volume, whether or not it gives it out. -/
def kept (s : Store) (id : VolumeId) : Option Volume :=
  ({ s with refused := [] }.get id).toOption.join

theorem get_toOption_eq_kept_iff (s : Store) (id : VolumeId) :
    (s.get id).toOption.join = s.kept id ↔ ¬ (.get ∈ s.refused ∧ ∃ v, s.kept id = some v) := by
  by_cases told : StoreCall.get ∈ s.refused
  · have silent : (s.get id).toOption.join = none := by
      rw [get, guarded, if_pos told]
      rfl
    rw [silent]
    cases s.kept id <;> simp [told]
  · have same : s.get id = { s with refused := [] }.get id := by
      simp [get, guarded, told]
    rw [same]
    simp [told, kept]

theorem inspect_one (s : Store) (id : VolumeId) :
    s.inspect [id] = match s.get id with
      | .ok (some v) => .ok [v]
      | .ok none => .error (.notFound id.text)
      | .error error => .error error := by
  unfold inspect
  cases s.get id with
  | error error => rfl
  | ok found => cases found <;> rfl

theorem inspect_keeping_one (id : VolumeId) :
    (keeping kind records).inspect [id] =
      match records.get? id.text with
      | some v => .ok [v]
      | none => .error (.notFound id.text) := by
  rw [inspect_one, get_keeping]
  cases records.get? id.text <;> rfl

@[simp] theorem enumerate_keeping (locator : Locator) (labels : Option Labels) :
    (keeping kind records).enumerate locator labels =
      .ok ((inOrderOfCreation records.values).filter fun v =>
        locator.picks v.locator && carries labels v.spec.labels) := by
  simp [enumerate, Except.map]

theorem perm_insertInOrder (v : Volume) (volumes : List Volume) :
    (v.insertInOrder volumes).Perm (v :: volumes) := by
  induction volumes with
  | nil => exact .refl _
  | cons w rest ih =>
    unfold Volume.insertInOrder
    split
    · exact .refl _
    · exact (ih.cons w).trans (.swap v w rest)

theorem perm_inOrderOfCreation (volumes : List Volume) :
    (inOrderOfCreation volumes).Perm volumes := by
  induction volumes with
  | nil => exact .refl _
  | cons v rest ih => exact (perm_insertInOrder v _).trans (ih.cons v)

theorem mem_inOrderOfCreation {volumes : List Volume} {v : Volume} :
    v ∈ inOrderOfCreation volumes ↔ v ∈ volumes :=
  (perm_inOrderOfCreation volumes).mem_iff

variable {α : Type} {s after : Store} {call : StoreCall} {error : StoreError}
  {inMemory : MemoryStore → Except StoreError Unit × MemoryStore}
  {onDisk : PersistentStore → Except StoreError Unit × PersistentStore}

theorem guarded_ok {outcome : Except StoreError α} {value : α}
    (passed : s.guarded call outcome = .ok value) :
    call ∉ s.refused ∧ outcome = .ok value := by
  unfold guarded at passed
  split at passed
  · cases passed
  · exact ⟨‹_›, passed⟩

theorem changing_ok (passed : s.changing call inMemory onDisk = (.ok (), after)) :
    (∃ store left, s.backend = .memory store ∧ inMemory store = (.ok (), left) ∧
      after = { s with backend := .memory left }) ∨
    ∃ store left, s.backend = .persistent store ∧ onDisk store = (.ok (), left) ∧
      after = { s with backend := .persistent left } := by
  obtain ⟨backend, refused⟩ := s
  unfold changing at passed
  split at passed
  · cases passed
  · cases backend with
    | memory store =>
      obtain ⟨done, rfl⟩ := Prod.mk.inj passed
      exact .inl ⟨store, _, rfl, Prod.ext done rfl, rfl⟩
    | persistent store =>
      obtain ⟨done, rfl⟩ := Prod.mk.inj passed
      exact .inr ⟨store, _, rfl, Prod.ext done rfl, rfl⟩

theorem changing_error
    (memory : ∀ store left, inMemory store = (.error error, left) → left = store)
    (disk : ∀ store left, onDisk store = (.error error, left) → left = store)
    (failed : s.changing call inMemory onDisk = (.error error, after)) : after = s := by
  obtain ⟨backend, refused⟩ := s
  unfold changing at failed
  split at failed
  · cases failed
    rfl
  · cases backend with
    | memory store =>
      obtain ⟨told, rfl⟩ := Prod.mk.inj failed
      have same := memory store _ (Prod.ext told rfl)
      exact congrArg (fun store => Store.mk (.memory store) refused) same
    | persistent store =>
      obtain ⟨told, rfl⟩ := Prod.mk.inj failed
      have same := disk store _ (Prod.ext told rfl)
      exact congrArg (fun store => Store.mk (.persistent store) refused) same

theorem get_of_update {written : Store} {v : Volume} {before : Option Volume}
    (readable : s.get v.id = .ok before) (updated : s.update v = (.ok (), written)) :
    written.get v.id = .ok (some v) := by
  obtain ⟨allowed, -⟩ := guarded_ok readable
  rcases changing_ok updated with ⟨store, left, -, put, rfl⟩ | ⟨store, left, -, put, rfl⟩
  · unfold MemoryStore.update at put
    split at put <;> cases put
    simp [get, guarded, allowed, MemoryStore.get]
  · unfold PersistentStore.update at put
    split at put <;> cases put
    simp [get, guarded, allowed, PersistentStore.get, PersistentStore.readRecord_recordBytes,
      Except.map]

theorem get_of_delete {left : Store} {id : VolumeId} {before : Option Volume}
    (readable : s.get id = .ok before) (deleted : s.delete id = (.ok (), left)) :
    left.get id = .ok none := by
  obtain ⟨allowed, -⟩ := guarded_ok readable
  rcases changing_ok deleted with ⟨store, left, -, cut, rfl⟩ | ⟨store, left, -, cut, rfl⟩
  · unfold MemoryStore.delete at cut
    split at cut <;> cases cut
    simp [get, guarded, allowed, MemoryStore.get]
  · unfold PersistentStore.delete at cut
    split at cut <;> cases cut
    simp [get, guarded, allowed, PersistentStore.get]

theorem update_error {v : Volume} (failed : s.update v = (.error error, after)) : after = s := by
  refine changing_error ?_ ?_ failed
  · intro store left failed
    simp only [MemoryStore.update] at failed
    split at failed <;> cases failed
    rfl
  · intro store left failed
    simp only [PersistentStore.update] at failed
    split at failed <;> cases failed
    rfl

theorem delete_error {id : VolumeId} (failed : s.delete id = (.error error, after)) :
    after = s := by
  refine changing_error ?_ ?_ failed
  · intro store left failed
    simp only [MemoryStore.delete] at failed
    split at failed <;> cases failed
    rfl
  · intro store left failed
    simp only [PersistentStore.delete] at failed
    split at failed <;> cases failed
    rfl

end Store

end BlockVolumes
