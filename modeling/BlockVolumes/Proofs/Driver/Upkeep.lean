import BlockVolumes.Proofs.Driver.Provision

/-! What can become of a volume between its creation and its deletion: how mounting, unmounting and
changes of its record end. -/

namespace BlockVolumes

open Operation

def Volume.markedUp (v : Volume) : Volume :=
  if v.status = .none then { v with status := .up } else v

@[simp] theorem Volume.markedUp_id (v : Volume) : v.markedUp.id = v.id := by
  unfold markedUp
  split <;> rfl

@[simp] theorem Volume.markedUp_device (v : Volume) : v.markedUp.device = v.device := by
  unfold markedUp
  split <;> rfl

@[simp] theorem Volume.mountPath?_markedUp (v : Volume) :
    v.markedUp.mountPath? = v.mountPath? := by
  unfold markedUp
  split <;> rfl

theorem Volume.mountPath?_mountedAt (v : Volume) {path : String} (given : path ≠ "")
    (time : Time) : (v.mountedAt path time).mountPath? = some path := by
  simp [mountPath?, mountedAt, given]

@[simp] theorem Volume.markedUp_markedUp (v : Volume) : v.markedUp.markedUp = v.markedUp := by
  by_cases new : v.status = .none <;> simp [markedUp, new]

namespace BlockDriver

variable {d : BlockDriver} {b : Bench} {id : VolumeId}

inductive Mounted (id : VolumeId) (path : String) (b : Bench) :
    List Mishap → Except VolumeError Unit → Bench → Prop
  | missing (absent : b.records.get? id.text = none) :
    Mounted id path b [] (.error (.notFound id.text)) b
  | occupied {v : Volume} {place : String} (found : b.records.get? id.text = some v)
      (mounted : v.mountPath? = some place) :
    Mounted id path b [] (.error (.alreadyMounted id place)) b
  | refused {v : Volume} (reason : String) (found : b.records.get? id.text = some v)
      (free : v.mountPath? = none) :
    Mounted id path b [.mount v.device path] (.error (.mountFailed v.device path reason)) b
  | done {v : Volume} (found : b.records.get? id.text = some v) (free : v.mountPath? = none) :
    Mounted id path b [] (.ok ())
      { b with
        records := b.records.insert id.text (v.mountedAt path (b.times b.clock))
        mounts := b.mounts ++ [⟨path, v.device⟩]
        clock := b.clock + 1 }

theorem leads_updateRecord {v changed : Volume}
    {post : List Mishap → Except VolumeError Unit → Bench → Prop} (own : b.OwnIds)
    (found : b.records.get? id.text = some v) (same : changed.id = v.id)
    (updated : post [] (.ok ()) { b with records := b.records.insert id.text changed }) :
    (attempt (.updateRecord changed) .ofStore).outcome.Leads b post := by
  apply leads_attempt.2
  intro m
  have known : b.records.contains id.text = true := Table.contains_iff.2 ⟨v, found⟩
  simpa [Effect.on, same, own _ _ found, known, Effect.mishaps] using updated

theorem leads_mount {path : String} (own : b.OwnIds) :
    (mount id path).outcome.Leads b (Mounted id path b) := by
  refine leads_underLock (leads_bind.2 (leads_record (fun v found => ?_) .missing))
  cases mounted : v.mountPath? with
  | some place => simpa [andThen, mounted, leads_throw] using Mounted.occupied found mounted
  | none =>
  simp only [andThen, mounted]
  apply leads_bind.2
  apply leads_attempt.2
  intro m
  cases fails : m.faults.mount with
  | true =>
    simpa [Effect.on, fails, Effect.mishaps, Mishap.ifFailed, andThen]
      using Mounted.refused _ found mounted
  | false =>
  simp only [Effect.on, fails, Bool.false_eq_true, if_false, Effect.mishaps, Mishap.ifFailed,
    mapError_ok, andThen]
  apply leads_call.2
  intro m
  refine leads_updateRecord own found rfl ?_
  simpa [Effect.on, Effect.mishaps] using Mounted.done found mounted

inductive Unmounted (id : VolumeId) (b : Bench) :
    List Mishap → Except VolumeError Unit → Bench → Prop
  | missing (absent : b.records.get? id.text = none) :
    Unmounted id b [] (.error (.notFound id.text)) b
  | free {v : Volume} (found : b.records.get? id.text = some v) (free : v.mountPath? = none) :
    Unmounted id b [] (.error (.notMounted id)) b
  | refused {v : Volume} {place : String} (reason : String)
      (found : b.records.get? id.text = some v) (mounted : v.mountPath? = some place)
      (gone : RecordingHost.withoutLast place b.mounts = none) :
    Unmounted id b [] (.error (.unmountFailed place reason)) b
  | done {v : Volume} {place : String} {mounts : List Mount}
      (found : b.records.get? id.text = some v) (mounted : v.mountPath? = some place)
      (left : RecordingHost.withoutLast place b.mounts = some mounts) :
    Unmounted id b [] (.ok ()) { b with records := b.records.insert id.text v.unmounted, mounts }

theorem leads_unmount (own : b.OwnIds) : (unmount id).outcome.Leads b (Unmounted id b) := by
  refine leads_underLock (leads_bind.2 (leads_record (fun v found => ?_) .missing))
  cases mounted : v.mountPath? with
  | none => simpa [andThen, mounted, leads_throw] using Unmounted.free found mounted
  | some place =>
  simp only [andThen, mounted]
  apply leads_bind.2
  apply leads_attempt.2
  intro m
  cases left : RecordingHost.withoutLast place b.mounts with
  | none =>
    simpa [Effect.on, left, Effect.mishaps, andThen]
      using Unmounted.refused _ found mounted left
  | some mounts =>
  simp only [Effect.on, left, Effect.mishaps, mapError_ok, andThen]
  refine leads_updateRecord own found rfl ?_
  simpa using Unmounted.done found mounted left

inductive Changed (id : VolumeId) (locator : Option Locator) (b : Bench) :
    Option Spec → List Mishap → Except VolumeError Unit → Bench → Prop
  | refused (spec : Spec) :
    Changed id locator b (some spec) [] (.error (.notSupported "spec update")) b
  | missing (absent : b.records.get? id.text = none) :
    Changed id locator b none [] (.error (.notFound id.text)) b
  | done {v : Volume} (found : b.records.get? id.text = some v) :
    Changed id locator b none [] (.ok ())
      { b with
        records := b.records.insert id.text { v with locator := locator.getD v.locator } }

theorem leads_set {locator : Option Locator} (spec : Option Spec) (own : b.OwnIds) :
    (set id locator spec).outcome.Leads b (Changed id locator b spec) := by
  cases spec with
  | some spec => exact .refused spec
  | none =>
    refine leads_underLock (leads_bind.2 (leads_record (fun v found => ?_) .missing))
    exact leads_updateRecord own found rfl (.done found)

inductive Attached (d : BlockDriver) (id : VolumeId) (b : Bench) :
    List Mishap → Except VolumeError String → Bench → Prop
  | missing (absent : b.records.get? id.text = none) :
    Attached d id b [] (.error (.notFound id.text)) b
  | mounted {v : Volume} (found : b.records.get? id.text = some v) (mounted : v.isMounted = true) :
    Attached d id b [] (.error (.attachedAtLimit id)) b
  | done {v : Volume} (found : b.records.get? id.text = some v) (free : v.isMounted = false) :
    Attached d id b [] (.ok (d.backingFile id)) b

theorem leads_attach : (d.attach id).outcome.Leads b (Attached d id b) := by
  refine leads_underLock (leads_bind.2 (leads_record (fun v found => ?_) .missing))
  cases mounted : v.isMounted with
  | true => simpa [andThen, mounted, leads_throw] using Attached.mounted found mounted
  | false => simpa [andThen, mounted, leads_pure] using Attached.done found mounted

inductive Detached (id : VolumeId) (b : Bench) :
    List Mishap → Except VolumeError Unit → Bench → Prop
  | missing (absent : b.records.get? id.text = none) :
    Detached id b [] (.error (.notFound id.text)) b
  | done {v : Volume} (found : b.records.get? id.text = some v) : Detached id b [] (.ok ()) b

theorem leads_detach : (detach id).outcome.Leads b (Detached id b) :=
  leads_underLock (leads_bind.2 (leads_record (fun _ found => .done found) .missing))

def MarksUp (volumes : List Volume) (before after : Table Volume) : Prop :=
  ∀ key, after.get? key = if ∃ v ∈ volumes, v.id.text = key
    then (before.get? key).map Volume.markedUp else before.get? key

def Keeps (records : Table Volume) (v : Volume) : Prop :=
  records.get? v.id.text = some v ∨ records.get? v.id.text = some v.markedUp

theorem Keeps.map_markedUp {records : Table Volume} {v : Volume} (keeps : Keeps records v) :
    (records.get? v.id.text).map Volume.markedUp = some v.markedUp := by
  rcases keeps with found | found <;> simp [found]

theorem MarksUp.keeps {before after : Table Volume} {volumes : List Volume} {v : Volume}
    (marks : MarksUp volumes before after) (keeps : Keeps before v) : Keeps after v := by
  have here := marks v.id.text
  split at here
  · exact .inr (here.trans keeps.map_markedUp)
  · exact keeps.imp here.trans here.trans

theorem MarksUp.cons {before middle after : Table Volume} {v : Volume} {rest : List Volume}
    (first : MarksUp [v] before middle) (later : MarksUp rest middle after) :
    MarksUp (v :: rest) before after := by
  intro key
  rw [later key, first key]
  by_cases here : v.id.text = key <;> by_cases there : ∃ w ∈ rest, w.id.text = key <;>
    simp [here, there, Function.comp_def]

theorem marksUp_insert {records : Table Volume} {v : Volume} (keeps : Keeps records v) :
    MarksUp [v] records (records.insert v.id.text v.markedUp) := by
  intro key
  by_cases here : v.id.text = key
  · subst here
    simp [keeps.map_markedUp]
  · simp [here]

theorem leads_markUp {volumes : List Volume} (known : ∀ v ∈ volumes, Keeps b.records v) :
    (markUp volumes).outcome.Leads b fun mishaps result c => mishaps = [] ∧ result = .ok () ∧
      ∃ records, MarksUp volumes b.records records ∧ c = { b with records } := by
  induction volumes generalizing b with
  | nil => exact ⟨rfl, rfl, b.records, fun key => by simp, rfl⟩
  | cons v rest ih =>
    have keeps := known v List.mem_cons_self
    have present : b.records.contains v.id.text = true :=
      Table.contains_iff.2 (keeps.elim (fun found => ⟨_, found⟩) fun found => ⟨_, found⟩)
    have goOn : ∀ records, MarksUp [v] b.records records →
        (markUp rest).outcome.Leads { b with records } fun mishaps result c =>
          mishaps = [] ∧ result = .ok () ∧
            ∃ records, MarksUp (v :: rest) b.records records ∧ c = { b with records } := by
      intro records first
      have still : ∀ w ∈ rest, Keeps records w :=
        fun w member => first.keeps (known w (List.mem_cons_of_mem _ member))
      apply (ih still).mono
      intro mishaps result c
      rintro ⟨calm, done, after, later, rfl⟩
      exact ⟨calm, done, after, first.cons later, rfl⟩
    by_cases new : v.status = .none
    · have marked : v.markedUp = { v with status := .up } := by simp [Volume.markedUp, new]
      simp only [markUp, new, if_true]
      apply leads_bind.2
      apply leads_attempt.2
      intro m
      have first := goOn _ (marksUp_insert keeps)
      simpa [Effect.on, present, Effect.mishaps, andThen, marked] using first
    · have same : v.markedUp = v := by simp [Volume.markedUp, new]
      have already : MarksUp [v] b.records b.records := by
        intro key
        by_cases here : v.id.text = key
        · subst here
          have found : b.records.get? v.id.text = some v := by simpa [Keeps, same] using keeps
          simp [found, same]
        · simp [here]
      simp only [markUp, new, if_false]
      exact goOn _ already

theorem MarksUp.eq_map {before after : Table Volume} {volumes : List Volume}
    (marks : MarksUp volumes before after)
    (all : ∀ key v, before.get? key = some v → ∃ v ∈ volumes, v.id.text = key) :
    after = before.map Volume.markedUp := by
  apply Table.eq_of_get?_eq
  intro key
  rw [marks key, Table.get?_map]
  cases found : before.get? key with
  | none => simp
  | some v => simp only [all key v found, if_true]

inductive Started (d : BlockDriver) (b : Bench) :
    List Mishap → Except VolumeError Unit → Bench → Prop
  | refused {error : IoError} (failed : b.files.makeDirectories d.root = .error error) :
    Started d b [] (.error (.io error)) b
  | done {files : Files} (made : b.files.makeDirectories d.root = .ok files) :
    Started d b [] (.ok ()) { b with records := b.records.map Volume.markedUp, files }

theorem leads_init (own : b.OwnIds) : d.init.outcome.Leads b (Started d b) := by
  apply leads_bind.2
  apply leads_attempt.2
  intro m
  cases made : b.files.makeDirectories d.root with
  | error error =>
    simpa [Effect.on, made, Bench.withFiles, Effect.mishaps, andThen]
      using .refused made
  | ok files =>
  simp only [Effect.on, made, Bench.withFiles, Effect.mishaps, mapError_ok, andThen]
  apply leads_bind.2
  refine leads_consult (Store.list_keeping b.kind b.records) ?_
  have kept : ∀ v, v ∈ inOrderOfCreation b.records.values ↔
      ∃ key, b.records.get? key = some v :=
    fun v => Store.mem_inOrderOfCreation.trans Table.mem_values
  have known : ∀ v ∈ inOrderOfCreation b.records.values, Keeps b.records v := by
    intro v member
    obtain ⟨key, found⟩ := (kept v).1 member
    exact .inl (own key v found ▸ found)
  have all : ∀ key v, b.records.get? key = some v →
      ∃ v ∈ inOrderOfCreation b.records.values, v.id.text = key :=
    fun key v found => ⟨v, (kept v).2 ⟨key, found⟩, own key v found⟩
  apply (leads_markUp (b := { b with files }) known).mono
  intro mishaps result c
  rintro ⟨rfl, rfl, records, marks, rfl⟩
  obtain rfl := marks.eq_map all
  exact .done made

end BlockDriver

end BlockVolumes
