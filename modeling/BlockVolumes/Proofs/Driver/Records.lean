import BlockVolumes.Proofs.Driver.Course

/-! What becomes of the records of volumes: which of their fields a call may change, and in how many
records. -/

namespace BlockVolumes

namespace Volume

structure Same (v w : Volume) : Prop where
  id : w.id = v.id
  source : w.source = v.source
  spec : w.spec = v.spec
  device : w.device = v.device
  created : w.created = v.created

theorem Same.refl (v : Volume) : Same v v := ⟨rfl, rfl, rfl, rfl, rfl⟩

theorem Same.trans {u v w : Volume} (first : Same u v) (later : Same v w) : Same u w :=
  ⟨later.id.trans first.id, later.source.trans first.source, later.spec.trans first.spec,
    later.device.trans first.device, later.created.trans first.created⟩

/-- Mounted nowhere and at no time, or in one place since some time. -/
inductive WellMounted (v : Volume) : Prop
  | free (nowhere : v.mountPaths = []) (never : v.mountTime = none)
  | mounted {path : String} {time : Time} (given : path ≠ "") (there : v.mountPaths = [path])
      (since : v.mountTime = some time)

theorem Newborn.wellMounted {v : Volume} (newborn : v.Newborn) : v.WellMounted :=
  .free newborn.mountPaths newborn.mountTime

/-- The volume later on, without any start of the driver between. Such a locator may have been given
to it. -/
structure Became (such : Locator → Prop) (v w : Volume) : Prop where
  same : v.Same w
  status : w.status = v.status
  locator : w.locator = v.locator ∨ such w.locator
  mounts : v.WellMounted → w.WellMounted

namespace Became

variable {such : Locator → Prop} {u v w : Volume}

theorem refl (v : Volume) : Became such v v := ⟨.refl v, rfl, .inl rfl, fun well => well⟩

theorem trans (first : Became such u v) (later : Became such v w) : Became such u w where
  same := first.same.trans later.same
  status := later.status.trans first.status
  locator := by
    rcases later.locator with kept | given
    · rw [kept]
      exact first.locator
    · exact .inr given
  mounts := later.mounts ∘ first.mounts

theorem mountedAt (v : Volume) {path : String} (given : path ≠ "") (time : Time) :
    Became such v (v.mountedAt path time) :=
  ⟨⟨rfl, rfl, rfl, rfl, rfl⟩, rfl, .inl rfl, fun _ => .mounted given rfl rfl⟩

theorem unmounted (v : Volume) : Became such v v.unmounted :=
  ⟨⟨rfl, rfl, rfl, rfl, rfl⟩, rfl, .inl rfl, fun _ => .free rfl rfl⟩

theorem located (v : Volume) {given : Option Locator}
    (allowed : ∀ locator, given = some locator → such locator) :
    Became such v { v with locator := given.getD v.locator } := by
  refine ⟨⟨rfl, rfl, rfl, rfl, rfl⟩, rfl, ?_, ?_⟩
  · cases given with
    | none => exact .inl rfl
    | some locator => exact .inr (allowed locator rfl)
  · rintro (⟨nowhere, never⟩ | ⟨given, there, since⟩)
    · exact .free nowhere never
    · exact .mounted given there since

end Became

theorem markedUp_cases (v : Volume) :
    v.markedUp = v ∨ v.status = .none ∧ v.markedUp = { v with status := .up } := by
  unfold markedUp
  split
  · rename_i new
    exact .inr ⟨new, rfl⟩
  · exact .inl rfl

theorem same_markedUp (v : Volume) : v.Same v.markedUp := by
  rcases v.markedUp_cases with same | ⟨-, up⟩
  · rw [same]
    exact .refl v
  · rw [up]
    exact ⟨rfl, rfl, rfl, rfl, rfl⟩

theorem locator_markedUp (v : Volume) : v.markedUp.locator = v.locator := by
  rcases v.markedUp_cases with same | ⟨-, up⟩
  · rw [same]
  · rw [up]

theorem WellMounted.markedUp {v : Volume} (well : v.WellMounted) : v.markedUp.WellMounted := by
  rcases v.markedUp_cases with same | ⟨-, up⟩
  · rwa [same]
  · rw [up]
    cases well with
    | free nowhere never => exact .free nowhere never
    | mounted given there since => exact .mounted given there since

end Volume

def Call.Spares (such : Locator → Prop) (key : String) : Call → Prop
  | create _ _ _ | snapshot _ _ _ | attach _ | detach _ => True
  | mount id path => id.text = key ∧ path ≠ ""
  | unmount id _ => id.text = key
  | set id given spec =>
    id.text = key ∧ ∀ locator, given = some locator → spec = none → such locator
  | init | delete _ => False

namespace Bench

variable {d : BlockDriver} {b c e : Bench} {such : Locator → Prop} {key : String}
  {mishaps : List Mishap}

/-- All volumes are still there and only one has changed. Others are new. -/
structure Altered (such : Locator → Prop) (key : String) (b c : Bench) : Prop where
  old : ∀ id v, b.records.get? id = some v →
    ∃ w, c.records.get? id = some w ∧ v.Became such w ∧ (id ≠ key → w = v)
  new : ∀ id w, b.records.get? id = none → c.records.get? id = some w →
    w.status = .none ∧ w.WellMounted

namespace Altered

theorem of_same (same : c.records = b.records) : Altered such key b c where
  old id v found := ⟨v, same ▸ found, .refl v, fun _ => rfl⟩
  new id w absent found := by
    rw [same, absent] at found
    cases found

theorem trans (first : Altered such key b c) (later : Altered such key c e) :
    Altered such key b e where
  old id u found := by
    obtain ⟨v, between, became, kept⟩ := first.old id u found
    obtain ⟨w, after, becameThen, keptThen⟩ := later.old id v between
    refine ⟨w, after, became.trans becameThen, fun other => ?_⟩
    rw [keptThen other, kept other]
  new id w absent found := by
    cases between : c.records.get? id with
    | none => exact later.new id w between found
    | some v =>
      obtain ⟨status, mounts⟩ := first.new id v absent between
      obtain ⟨w', after, became, -⟩ := later.old id v between
      obtain rfl : w = w' := Option.some.inj (found.symm.trans after)
      exact ⟨became.status.trans status, became.mounts mounts⟩

theorem gains {locator : Locator} (gains : Gains locator b c) : Altered such key b c := by
  cases gains with
  | none same => exact .of_same same
  | one absent located newborn added =>
    constructor
    · intro id v found
      exact ⟨v, added ▸ Table.get?_insert_of_absent _ absent found, .refl v, fun _ => rfl⟩
    · intro id w none found
      rw [added, Table.get?_insert_eq_some] at found
      rcases found with ⟨-, rfl⟩ | ⟨-, before⟩
      · exact ⟨newborn.status, newborn.wellMounted⟩
      · rw [none] at before
        cases before

theorem recorded {v w : Volume} (found : b.records.get? key = some v)
    (after : c.records = b.records.insert key w) (became : v.Became such w) :
    Altered such key b c := by
  constructor
  · intro id u there
    rw [after, Table.get?_insert]
    by_cases here : key = id
    · subst here
      obtain rfl : v = u := Option.some.inj (found.symm.trans there)
      exact ⟨w, if_pos rfl, became, fun other => absurd rfl other⟩
    · exact ⟨u, (if_neg here).trans there, .refl u, fun _ => rfl⟩
  · intro id u none there
    rw [after, Table.get?_insert_eq_some] at there
    rcases there with ⟨rfl, -⟩ | ⟨-, before⟩
    · rw [found] at none
      cases none
    · rw [none] at before
      cases before

theorem mounted {id : VolumeId} {path : String} {result : Except VolumeError Unit}
    (here : id.text = key) (given : path ≠ "")
    (mounted : BlockDriver.Mounted id path b mishaps result c) : Altered such key b c := by
  subst here
  cases mounted with
  | missing | occupied | refused => exact .of_same rfl
  | done found => exact .recorded found rfl (.mountedAt _ given _)

theorem unmounted {id : VolumeId} {result : Except VolumeError Unit} (here : id.text = key)
    (unmounted : BlockDriver.Unmounted id b mishaps result c) : Altered such key b c := by
  subst here
  cases unmounted with
  | missing | free | refused => exact .of_same rfl
  | done found => exact .recorded found rfl (.unmounted _)

theorem changed {id : VolumeId} {given : Option Locator} {spec : Option Spec}
    {result : Except VolumeError Unit} (here : id.text = key)
    (allowed : ∀ locator, given = some locator → spec = none → such locator)
    (changed : BlockDriver.Changed id given b spec mishaps result c) : Altered such key b c := by
  subst here
  cases changed with
  | refused | missing => exact .of_same rfl
  | done found =>
    exact .recorded found rfl (.located _ fun locator same => allowed locator same rfl)

theorem copied {id : VolumeId} {locator : Locator} {result : Except VolumeError VolumeId}
    (copied : BlockDriver.Copied d b id locator mishaps result c) : Altered such key b c := by
  cases copied with
  | missing => exact .of_same rfl
  | uncreated _ made | done _ made => exact .gains (made.gains.congr (by rfl) (by rfl))
  | @undone _ _ _ copy _ _ between _ _ made _ deleted =>
    have gained : Altered such key b between := .gains (made.gains.congr (by rfl) (by rfl))
    cases deleted with
    | missing | unregistered | unlinked | kept => exact gained
    | done =>
      obtain ⟨rfl, -, v, same, added⟩ := made.added
      apply of_same
      show between.records.erase _ = b.records
      rw [added.records, ← same]
      exact Table.erase_insert v added.absent

end Altered

theorem altered_of_ends {call : Call} {result : Except VolumeError Unit}
    (spares : call.Spares such key) (ends : call.Ends d b mishaps result c) :
    Altered such key b c := by
  cases call with
  | init | delete => cases spares
  | create =>
    obtain ⟨full, created, -⟩ := ends
    exact .gains created.gains
  | snapshot =>
    obtain ⟨full, copied, -⟩ := ends
    exact .copied copied
  | mount => exact .mounted spares.1 spares.2 ends
  | unmount => exact .unmounted spares ends
  | set => exact .changed spares.1 spares.2 ends
  | attach =>
    obtain ⟨full, attached, -⟩ := ends
    cases attached <;> exact .of_same rfl
  | detach => cases ends <;> exact .of_same rfl

theorem Course.altered {attempts : List Attempt} (course : Course d b attempts c)
    (spares : ∀ a ∈ attempts, a.call.Spares such key) : Altered such key b c := by
  induction course with
  | done => exact .of_same rfl
  | call ends _ ih =>
    obtain ⟨first, rest⟩ := List.forall_mem_cons.1 spares
    exact (altered_of_ends first ends).trans (ih rest)
  | directories path _ ih => exact (Altered.of_same (records_withFiles _)).trans (ih spares)

theorem Called.altered {calls : List Call} (called : Called d b calls c)
    (spares : ∀ call ∈ calls, call.Spares such key) : Altered such key b c := by
  obtain ⟨attempts, course, sublist⟩ := called
  apply course.altered
  intro a member
  exact spares a.call (sublist.subset (List.mem_map.2 ⟨a, member, rfl⟩))

inductive Turned (such : String → Locator → Prop) (b c : Bench) : Prop
  | altered (key : String) (altered : Altered (such key) key b c)
  | removed {key : String} (erased : c.records = b.records.erase key)

namespace Turned

variable {such : String → Locator → Prop} {id : String} {v w : Volume}

theorem idle (same : c.records = b.records) : Turned such b c :=
  .altered "" (.of_same same)

theorem gained {locator : Locator} (gains : Gains locator b c) : Turned such b c :=
  .altered "" (.gains gains)

theorem deleted {id : VolumeId} {result : Except VolumeError Unit}
    (deleted : BlockDriver.Deleted id b mishaps result c) : Turned such b c := by
  cases deleted with
  | missing | unregistered | unlinked | kept => exact .idle rfl
  | done => exact .removed rfl

theorem became (turned : Turned such b c) (before : b.records.get? id = some v)
    (after : c.records.get? id = some w) : v.Became (such id) w := by
  cases turned with
  | altered key altered =>
    obtain ⟨u, found, became, kept⟩ := altered.old id v before
    obtain rfl : w = u := Option.some.inj (after.symm.trans found)
    by_cases here : id = key
    · exact here ▸ became
    · rw [kept here]
      exact .refl v
  | removed erased =>
    rw [erased, Table.get?_erase_eq_some] at after
    obtain rfl : v = w := Option.some.inj (before.symm.trans after.2)
    exact .refl v

theorem newborn (turned : Turned such b c) (before : b.records.get? id = none)
    (after : c.records.get? id = some w) : w.status = .none ∧ w.WellMounted := by
  cases turned with
  | altered key altered => exact altered.new id w before after
  | removed erased =>
    rw [erased, Table.get?_erase_eq_some, before] at after
    cases after.2

theorem single (turned : Turned such b c) : ∃ key, ∀ id v, id ≠ key →
    b.records.get? id = some v → c.records.get? id = some v := by
  cases turned with
  | altered key altered =>
    refine ⟨key, fun id v other before => ?_⟩
    obtain ⟨w, after, -, kept⟩ := altered.old id v before
    rwa [kept other] at after
  | @removed key erased =>
    refine ⟨key, fun id v other before => ?_⟩
    rw [erased, Table.get?_erase_eq_some]
    exact ⟨other.symm, before⟩

end Turned

def WellKept (b : Bench) : Prop := ∀ id v, b.records.get? id = some v → v.WellMounted

theorem Turned.wellKept {such : String → Locator → Prop} (turned : Turned such b c)
    (well : b.WellKept) : c.WellKept := by
  intro id w after
  cases before : b.records.get? id with
  | none => exact (turned.newborn before after).2
  | some v => exact (turned.became before after).mounts (well id v before)

end Bench

end BlockVolumes
