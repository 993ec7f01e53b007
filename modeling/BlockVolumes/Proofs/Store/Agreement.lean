import BlockVolumes.Proofs.Store.Contract
import BlockVolumes.Proofs.Time.Order

/-! Requests to a store over whole runs: a store in memory and a store on disk answer them alike, as
one map of records by ID does. -/

namespace BlockVolumes

namespace Volume

def Older (v w : Volume) : Prop :=
  v.created.Before w.created ∨ v.created = w.created ∧ v.id.text < w.id.text

variable {u v w : Volume}

theorem precedes_iff :
    v.precedes w = true ↔
      v.created.Before w.created ∨ v.created = w.created ∧ v.id.text ≤ w.id.text := by
  unfold precedes
  split
  · rename_i same
    simp [same, Time.not_before_self]
  · rename_i different
    simp [different, Time.le_iff_before]

theorem precedes_trans (u v w : Volume) (first : u.precedes v = true)
    (later : v.precedes w = true) : u.precedes w = true := by
  rw [precedes_iff] at *
  rcases first with earlier | ⟨same, least⟩
  · rcases later with earlier' | ⟨same', _⟩
    · exact .inl (earlier.trans earlier')
    · exact .inl (same' ▸ earlier)
  · rcases later with earlier' | ⟨same', least'⟩
    · exact .inl (same ▸ earlier')
    · exact .inr ⟨same.trans same', String.le_trans least least'⟩

theorem precedes_total (v w : Volume) : (v.precedes w || w.precedes v) = true := by
  rw [Bool.or_eq_true, precedes_iff, precedes_iff]
  rcases Time.before_total v.created w.created with before | same | after
  · exact .inl (.inl before)
  · rcases String.le_total v.id.text w.id.text with least | most
    · exact .inl (.inr ⟨same, least⟩)
    · exact .inr (.inr ⟨same.symm, most⟩)
  · exact .inr (.inl after)

theorem pairwise_insertInOrder {volumes : List Volume} (v : Volume)
    (inOrder : volumes.Pairwise (·.precedes · = true)) :
    (v.insertInOrder volumes).Pairwise (·.precedes · = true) := by
  induction inOrder with
  | nil => exact List.pairwise_singleton _ v
  | @cons w rest first inOrder ih =>
    unfold insertInOrder
    split
    · rename_i below
      refine .cons (List.forall_mem_cons.2 ⟨below, fun u later => ?_⟩) (.cons first inOrder)
      exact precedes_trans v w u below (first u later)
    · rename_i notBelow
      refine .cons (fun u member => ?_) ih
      rcases List.mem_cons.1 ((Store.perm_insertInOrder v rest).mem_iff.1 member) with rfl | later
      · simpa [notBelow] using precedes_total w u
      · exact first u later

theorem pairwise_inOrderOfCreation (volumes : List Volume) :
    (inOrderOfCreation volumes).Pairwise (·.precedes · = true) := by
  induction volumes with
  | nil => exact .nil
  | cons v rest ih => exact pairwise_insertInOrder v ih

theorem older_of_precedes (precedes : v.precedes w = true) (different : v.id.text ≠ w.id.text) :
    v.Older w := by
  rcases precedes_iff.1 precedes with before | ⟨same, least⟩
  · exact .inl before
  · refine .inr ⟨same, Decidable.byContradiction fun notLess => ?_⟩
    exact different (Table.eq_of_not_lt notLess (String.not_lt.2 least))

end Volume

def Table.OwnIds (records : Table Volume) : Prop :=
  ∀ key v, records.get? key = some v → v.id.text = key

structure Listing (records : Table Volume) (volumes : List Volume) : Prop where
  complete : ∀ v, v ∈ volumes ↔ ∃ key, records.get? key = some v
  sorted : volumes.Pairwise Volume.Older

structure Selection (records : Table Volume) (such : Volume → Prop) (volumes : List Volume) :
    Prop where
  within : ∃ all, Listing records all ∧ volumes.Sublist all
  complete : ∀ v, v ∈ volumes ↔ (∃ key, records.get? key = some v) ∧ such v

namespace Table

variable {records : Table Volume}

theorem OwnIds.distinct (own : records.OwnIds) :
    records.values.Pairwise fun v w => v.id.text ≠ w.id.text := by
  refine List.pairwise_map.2 (records.ascending.imp_of_mem fun {a b} first second below same => ?_)
  have ownFirst := own a.1 a.2 (get?_eq_some_iff.2 first)
  have ownSecond := own b.1 b.2 (get?_eq_some_iff.2 second)
  exact String.lt_irrefl b.1 (ownFirst.symm.trans (same.trans ownSecond) ▸ below)

theorem OwnIds.listing (own : records.OwnIds) :
    Listing records (inOrderOfCreation records.values) where
  complete v := Store.mem_inOrderOfCreation.trans mem_values
  sorted := by
    have inOrder := Volume.pairwise_inOrderOfCreation records.values
    have distinct : (inOrderOfCreation records.values).Pairwise fun v w => v.id.text ≠ w.id.text :=
      ((Store.perm_inOrderOfCreation _).pairwise_iff Ne.symm).2 own.distinct
    exact (inOrder.and distinct).imp fun both => Volume.older_of_precedes both.1 both.2

theorem OwnIds.selection (own : records.OwnIds) {such : Volume → Prop} {test : Volume → Bool}
    (tests : ∀ v, test v = true ↔ such v) :
    Selection records such ((inOrderOfCreation records.values).filter test) where
  within := ⟨_, own.listing, List.filter_sublist⟩
  complete v := by rw [List.mem_filter, own.listing.complete, tests]

theorem OwnIds.insert (own : records.OwnIds) (v : Volume) :
    (records.insert v.id.text v).OwnIds := by
  intro key w found
  rcases get?_insert_eq_some.1 found with ⟨here, rfl⟩ | ⟨_, before⟩
  · exact here
  · exact own key w before

theorem OwnIds.erase (own : records.OwnIds) (gone : String) : (records.erase gone).OwnIds :=
  fun key w found => own key w (get?_erase_eq_some.1 found).2

end Table

/-- A call on a store, or the closing and opening of a store on disk. -/
inductive StoreRequest
  | create (v : Volume)
  | get (id : VolumeId)
  | update (v : Volume)
  | delete (id : VolumeId)
  | list
  | inspect (ids : List VolumeId)
  | enumerate (locator : Locator) (labels : Option Labels)
  | snapshots (parents : List VolumeId) (labels : Option Labels)
  | reopen

inductive StoreAnswer
  | done
  | record (found : Option Volume)
  | records (volumes : List Volume)
  | failed (error : StoreError)

namespace Store

/-- A store on disk opened again over the cells it left there. -/
def reopened (s : Store) : Store :=
  match s.backend with
  | .memory _ => s
  | .persistent store => ⟨.persistent ⟨store.cells⟩, []⟩

def changed : Except StoreError Unit × Store → StoreAnswer × Store
  | (.ok (), after) => (.done, after)
  | (.error error, after) => (.failed error, after)

def told {α : Type} (s : Store) (answer : α → StoreAnswer) :
    Except StoreError α → StoreAnswer × Store
  | .ok value => (answer value, s)
  | .error error => (.failed error, s)

def answer (s : Store) : StoreRequest → StoreAnswer × Store
  | .create v => changed (s.create v)
  | .get id => s.told .record (s.get id)
  | .update v => changed (s.update v)
  | .delete id => changed (s.delete id)
  | .list => s.told .records s.list
  | .inspect ids => s.told .records (s.inspect ids)
  | .enumerate locator labels => s.told .records (s.enumerate locator labels)
  | .snapshots parents labels => s.told .records (s.snapshots parents labels)
  | .reopen => (.done, s.reopened)

def answers (s : Store) : List StoreRequest → List StoreAnswer × Store
  | [] => ([], s)
  | request :: requests =>
    let (answer, after) := s.answer request
    let (answers, last) := after.answers requests
    (answer :: answers, last)

end Store

def Labels.Within (wanted actual : Labels) : Prop :=
  ∀ key value, wanted.get? key = some value → actual.get? key = some value

def Labels.Met (wanted : Option Labels) (actual : Labels) : Prop :=
  ∀ labels, wanted = some labels → labels.Within actual

structure Volume.Suits (locator : Locator) (labels : Option Labels) (v : Volume) : Prop where
  name : locator.name = "" ∨ locator.name = v.locator.name
  worn : locator.labels.Within v.locator.labels
  configured : Labels.Met labels v.spec.labels

structure Volume.StemsFrom (parents : List VolumeId) (labels : Option Labels) (v : Volume) :
    Prop where
  parent : ∃ parent, v.source.parent = some parent ∧ (parents = [] ∨ parent ∈ parents)
  worn : Labels.Met labels v.locator.labels

section Answers

variable (records : Table Volume)

inductive Refuses : StoreRequest → StoreError → Prop
  | taken {v w : Volume} (known : records.get? v.id.text = some w) :
    Refuses (.create v) (.alreadyExists v.id.text)
  | unknown {v : Volume} (absent : records.get? v.id.text = none) :
    Refuses (.update v) (.notFound v.id.text)
  | gone {id : VolumeId} (absent : records.get? id.text = none) :
    Refuses (.delete id) (.notFound id.text)
  | missing {before after : List VolumeId} {id : VolumeId}
    (present : ∀ earlier ∈ before, ∃ v, records.get? earlier.text = some v)
    (absent : records.get? id.text = none) :
    Refuses (.inspect (before ++ id :: after)) (.notFound id.text)

inductive Grants : StoreRequest → StoreAnswer → Table Volume → Prop
  | created {v : Volume} (free : records.get? v.id.text = none) :
    Grants (.create v) .done (records.insert v.id.text v)
  | got (id : VolumeId) : Grants (.get id) (.record (records.get? id.text)) records
  | updated {v before : Volume} (known : records.get? v.id.text = some before) :
    Grants (.update v) .done (records.insert v.id.text v)
  | deleted {id : VolumeId} {v : Volume} (known : records.get? id.text = some v) :
    Grants (.delete id) .done (records.erase id.text)
  | listed {volumes : List Volume} (listing : Listing records volumes) :
    Grants .list (.records volumes) records
  | inspected {ids : List VolumeId} {volumes : List Volume}
    (found : ids.map (fun id => records.get? id.text) = volumes.map some) :
    Grants (.inspect ids) (.records volumes) records
  | enumerated {locator : Locator} {labels : Option Labels} {volumes : List Volume}
    (selection : Selection records (Volume.Suits locator labels) volumes) :
    Grants (.enumerate locator labels) (.records volumes) records
  | snapshots {parents : List VolumeId} {labels : Option Labels} {volumes : List Volume}
    (selection : Selection records (Volume.StemsFrom parents labels) volumes) :
    Grants (.snapshots parents labels) (.records volumes) records
  | reopened : Grants .reopen .done records

end Answers

/-- Answers to requests one after another; a refusal leaves the records as they were. -/
inductive Follows : Table Volume → List StoreRequest → List StoreAnswer → Table Volume → Prop
  | done (records : Table Volume) : Follows records [] [] records
  | refused {records last : Table Volume} {request : StoreRequest} {error : StoreError}
    {requests : List StoreRequest} {answers : List StoreAnswer}
    (refuses : Refuses records request error) (later : Follows records requests answers last) :
    Follows records (request :: requests) (.failed error :: answers) last
  | granted {records after last : Table Volume} {request : StoreRequest} {answer : StoreAnswer}
    {requests : List StoreRequest} {answers : List StoreAnswer}
    (grants : Grants records request answer after) (later : Follows after requests answers last) :
    Follows records (request :: requests) (answer :: answers) last

theorem labelsWithin_iff {wanted actual : Labels} :
    labelsWithin wanted actual = true ↔ wanted.Within actual := by
  simp only [labelsWithin, List.all_eq_true, Labels.Within, Table.get?_eq_some_iff, Prod.forall,
    beq_iff_eq]

namespace Store

theorem carries_iff {wanted : Option Labels} {actual : Labels} :
    carries wanted actual = true ↔ Labels.Met wanted actual := by
  cases wanted with
  | none => simp [carries, Labels.Met]
  | some labels => simp [carries, Labels.Met, labelsWithin_iff]

theorem suits_iff (locator : Locator) (labels : Option Labels) (v : Volume) :
    (locator.picks v.locator && carries labels v.spec.labels) = true ↔
      v.Suits locator labels := by
  simp only [Locator.picks, Bool.and_eq_true, Bool.or_eq_true, beq_iff_eq, labelsWithin_iff,
    carries_iff]
  exact ⟨fun ⟨⟨name, worn⟩, configured⟩ => ⟨name, worn, configured⟩,
    fun suits => ⟨⟨suits.name, suits.worn⟩, suits.configured⟩⟩

theorem isSnapshotOf_iff {parents : List VolumeId} {v : Volume} :
    isSnapshotOf parents v = true ↔
      ∃ parent, v.source.parent = some parent ∧ (parents = [] ∨ parent ∈ parents) := by
  cases stem : v.source.parent with
  | none => simp [isSnapshotOf, stem]
  | some parent => simp [isSnapshotOf, stem]

theorem stemsFrom_iff (parents : List VolumeId) (labels : Option Labels) (v : Volume) :
    (isSnapshotOf parents v && carries labels v.locator.labels) = true ↔
      v.StemsFrom parents labels := by
  rw [Bool.and_eq_true, isSnapshotOf_iff, carries_iff]
  exact ⟨fun ⟨parent, worn⟩ => ⟨parent, worn⟩, fun stems => ⟨stems.parent, stems.worn⟩⟩

variable (kind : StoreKind) (records : Table Volume)

theorem snapshots_keeping (parents : List VolumeId) (labels : Option Labels) :
    (keeping kind records).snapshots parents labels =
      .ok ((inOrderOfCreation records.values).filter fun v =>
        isSnapshotOf parents v && carries labels v.locator.labels) := by
  simp [snapshots, Except.map]

theorem reopened_keeping : (keeping kind records).reopened = keeping kind records := by
  cases kind <;> rfl

theorem inspect_cases (ids : List VolumeId) :
    (∃ volumes, ids.map (fun id => records.get? id.text) = volumes.map some ∧
      ∀ kind, (keeping kind records).inspect ids = .ok volumes) ∨
    (∃ before id after, ids = before ++ id :: after ∧
      (∀ earlier ∈ before, ∃ v, records.get? earlier.text = some v) ∧
      records.get? id.text = none ∧
      ∀ kind, (keeping kind records).inspect ids = .error (.notFound id.text)) := by
  induction ids with
  | nil => exact .inl ⟨[], rfl, fun _ => rfl⟩
  | cons id ids ih =>
    cases first : records.get? id.text with
    | none =>
      refine .inr ⟨[], id, ids, rfl, by simp, first, fun kind => ?_⟩
      simp [inspect, first, bind, Except.bind]
    | some v =>
      rcases ih with ⟨volumes, found, all⟩ | ⟨before, gone, after, rfl, present, absent, fails⟩
      · refine .inl ⟨v :: volumes, by simp [first, found], fun kind => ?_⟩
        simp [inspect, first, all kind, bind, Except.bind]
      · refine .inr ⟨id :: before, gone, after, rfl, ?_, absent, fun kind => ?_⟩
        · exact List.forall_mem_cons.2 ⟨⟨v, first⟩, present⟩
        · simp [inspect, first, fails kind, bind, Except.bind]

theorem answer_cases {records : Table Volume} (own : records.OwnIds) (request : StoreRequest) :
    (∃ error, Refuses records request error ∧
      ∀ kind, (keeping kind records).answer request = (.failed error, keeping kind records)) ∨
    (∃ answer after, Grants records request answer after ∧ after.OwnIds ∧
      ∀ kind, (keeping kind records).answer request = (answer, keeping kind after)) := by
  cases request with
  | create v =>
    cases known : records.get? v.id.text with
    | none =>
      refine .inr ⟨_, _, .created known, own.insert v, fun kind => ?_⟩
      simp [answer, create_keeping, Table.contains, known, changed]
    | some w =>
      refine .inl ⟨_, .taken known, fun kind => ?_⟩
      simp [answer, create_keeping, Table.contains, known, changed]
  | get id => exact .inr ⟨_, _, .got id, own, fun kind => by simp [answer, told]⟩
  | update v =>
    cases known : records.get? v.id.text with
    | none =>
      refine .inl ⟨_, .unknown known, fun kind => ?_⟩
      simp [answer, update_keeping, Table.contains, known, changed]
    | some before =>
      refine .inr ⟨_, _, .updated known, own.insert v, fun kind => ?_⟩
      simp [answer, update_keeping, Table.contains, known, changed]
  | delete id =>
    cases known : records.get? id.text with
    | none =>
      refine .inl ⟨_, .gone known, fun kind => ?_⟩
      simp [answer, delete_keeping, Table.contains, known, changed]
    | some v =>
      refine .inr ⟨_, _, .deleted known, own.erase _, fun kind => ?_⟩
      simp [answer, delete_keeping, Table.contains, known, changed]
  | list => exact .inr ⟨_, _, .listed own.listing, own, fun kind => by simp [answer, told]⟩
  | inspect ids =>
    rcases inspect_cases records ids with
      ⟨volumes, found, all⟩ | ⟨before, id, after, rfl, present, absent, fails⟩
    · exact .inr ⟨_, _, .inspected found, own, fun kind => by simp [answer, told, all kind]⟩
    · exact .inl ⟨_, .missing present absent, fun kind => by simp [answer, told, fails kind]⟩
  | enumerate locator labels =>
    refine .inr ⟨_, _, .enumerated (own.selection (suits_iff locator labels)), own, fun kind => ?_⟩
    simp [answer, told]
  | snapshots parents labels =>
    refine .inr ⟨_, _, .snapshots (own.selection (stemsFrom_iff parents labels)), own,
      fun kind => ?_⟩
    simp [answer, told, snapshots_keeping]
  | reopen => exact .inr ⟨_, _, .reopened, own, fun kind => by simp [answer, reopened_keeping]⟩

theorem answers_keeping {records : Table Volume} (own : records.OwnIds)
    (requests : List StoreRequest) :
    ∃ answers last, Follows records requests answers last ∧
      ∀ kind, (keeping kind records).answers requests = (answers, keeping kind last) := by
  induction requests generalizing records with
  | nil => exact ⟨[], records, .done records, fun _ => rfl⟩
  | cons request requests ih =>
    rcases answer_cases own request with
      ⟨error, refuses, first⟩ | ⟨answer, after, grants, still, first⟩
    · obtain ⟨answers, last, follows, rest⟩ := ih own
      refine ⟨.failed error :: answers, last, .refused refuses follows, fun kind => ?_⟩
      simp [Store.answers, first kind, rest kind]
    · obtain ⟨answers, last, follows, rest⟩ := ih still
      refine ⟨answer :: answers, last, .granted grants follows, fun kind => ?_⟩
      simp [Store.answers, first kind, rest kind]

/-- A store in memory and a store on disk, closed and opened at any time, give the same answers, and
these are the answers of one map of records by ID. -/
theorem memory_agrees_with_disk (requests : List StoreRequest) :
    ∃ answers records, Follows .empty requests answers records ∧
      inMemory.answers requests = (answers, keeping .memory records) ∧
      onDisk.answers requests = (answers, keeping .persistent records) := by
  have empty : (Table.empty : Table Volume).OwnIds := fun key v found => by simp at found
  obtain ⟨answers, records, follows, both⟩ := answers_keeping empty requests
  rw [inMemory_eq_keeping, onDisk_eq_keeping]
  exact ⟨answers, records, follows, both .memory, both .persistent⟩

end Store

end BlockVolumes
