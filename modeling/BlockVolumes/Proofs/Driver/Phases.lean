import BlockVolumes.Proofs.Driver.Refusal

/-! A snapshot in two phases. In the first a volume is made, which is there for everybody from then
on, and in the second its file is overwritten with that of the parent. Between the two only the lock
of the parent is held. -/

namespace BlockVolumes.BlockDriver

open Operation

variable {d : BlockDriver} {b : Bench} {id copy : VolumeId} {locator : Locator}
  {calls : List StoreCall}

def beginSnapshot (d : BlockDriver) (id : VolumeId) (locator : Locator) :
    Routine (Claim × Except VolumeError VolumeId) := do
  let claim ← Routine.perform (.lockVolume id)
  let made ← (record id >>= fun parent =>
    d.createUnchecked locator (some ⟨some id⟩) parent.spec).outcome
  return (claim, made)

abbrev Filling : Type := Except VolumeError VolumeId × Option (Except VolumeError Unit)

def fillCopy (d : BlockDriver) (id copy : VolumeId) : Routine Filling := do
  match ← Routine.perform (.copyFile (d.backingFile id) (d.backingFile copy)) with
  | .ok () => return (.ok copy, none)
  | .error error =>
    let cleared ← (delete copy).outcome
    return (.error (.io error), some cleared)

def endSnapshot (d : BlockDriver) (id : VolumeId) (claim : Claim)
    (made : Except VolumeError VolumeId) : Routine Filling := do
  let filling ← match made with
    | .ok copy => d.fillCopy id copy
    | .error error => pure (.error error, none)
  Routine.perform (.unlockVolume claim)
  return filling

theorem snapshot_eq_phases (d : BlockDriver) (id : VolumeId) (locator : Locator) :
    (d.snapshot id locator).outcome = (do
      let (claim, made) ← d.beginSnapshot id locator
      let (result, _) ← d.endSnapshot id claim made
      return result) := by
  have filled : ∀ copy, (do
      match ← perform (.copyFile (d.backingFile id) (d.backingFile copy)) with
      | .ok () => return copy
      | .error error =>
        let _ ← ExceptT.lift (delete copy).outcome
        throw (.io error) : Operation VolumeId).outcome = Prod.fst <$> d.fillCopy id copy := by
    intro copy
    rw [outcome_bind, fillCopy, map_bind]
    refine congrArg (Routine.perform (.copyFile (d.backingFile id) (d.backingFile copy)) >>= ·)
      (funext fun answer => ?_)
    cases answer with
    | ok _ => rfl
    | error error =>
      refine (outcome_bind (ExceptT.lift (delete copy).outcome) _).trans ?_
      have lifted : outcome (ExceptT.lift (delete copy).outcome) =
        Except.ok <$> (delete copy).outcome := rfl
      rw [lifted, bind_map_left, map_bind]
      rfl
  rw [snapshot, underLock, beginSnapshot]
  simp only [bind_assoc, pure_bind, endSnapshot]
  refine congrArg (Routine.perform (.lockVolume id) >>= ·) (funext fun claim => ?_)
  have making := bind_assoc (record id)
    (fun parent => d.createUnchecked locator (some ⟨some id⟩) parent.spec) (fun copy => do
      match ← perform (.copyFile (d.backingFile id) (d.backingFile copy)) with
      | .ok () => return copy
      | .error error =>
        let _ ← ExceptT.lift (delete copy).outcome
        throw (.io error))
  refine (congrArg (fun work : Operation VolumeId => work.outcome >>= _) making.symm).trans ?_
  rw [outcome_bind, bind_assoc]
  refine congrArg (_ >>= ·) (funext fun made => ?_)
  cases made with
  | error error => rfl
  | ok copy =>
    simp only [filled, bind_assoc, bind_map_left, pure_bind]

inductive Begun (d : BlockDriver) (b : Bench) (id : VolumeId) (locator : Locator) :
    List Mishap → Except VolumeError VolumeId → Bench → Prop
  | missing (absent : b.records.get? id.text = none) :
    Begun d b id locator [] (.error (.notFound id.text)) b
  | made {v : Volume} {mishaps : List Mishap} {result : Except VolumeError VolumeId} {c : Bench}
      (found : b.records.get? id.text = some v)
      (made : Provisioned d { b with drawn := b.drawn + 1 } (b.ids b.drawn) locator
        (some ⟨some id⟩) v.spec mishaps result c) :
    Begun d b id locator mishaps result c

theorem leads_beginSnapshot (unused : b.NamesUnused) :
    (d.beginSnapshot id locator).Leads b fun mishaps begun c =>
      Begun d b id locator mishaps begun.2 c := by
  apply Routine.leads_bind.2
  apply Routine.leads_perform.2
  intro m
  apply Routine.leads_bind.2
  refine leads_bind.2 (leads_record (fun v found => ?_) fun absent => ?_)
  · apply (leads_createUnchecked unused).mono
    intro mishaps result c made
    have begun : Begun d b id locator mishaps result c := .made found made
    simpa [Routine.Leads, pure, Effect.mishaps] using begun
  · exact .missing absent

theorem unfazed_beginSnapshot (d : BlockDriver) (id : VolumeId) (locator : Locator) :
    (d.beginSnapshot id locator).Unfazed := by
  refine .bind ⟨trivial, fun _ => trivial⟩ fun claim => .bind ?_ fun made => trivial
  exact unfazed_bind (unfazed_record id) fun parent => unfazed_createUnchecked d locator _ _

inductive Filled (d : BlockDriver) (id copy : VolumeId) (b : Bench) :
    List Mishap → Filling → Bench → Prop
  | done {kept : SparseFile} (source : b.files.get? (d.backingFile id) = some kept) :
    Filled d id copy b [] (.ok copy, none)
      { b with files := b.files.put (d.backingFile copy) kept }
  | undone {mishaps : List Mishap} {result : Except VolumeError Unit} {c : Bench} (error : IoError)
      (lost : b.files.get? (d.backingFile id) = none)
      (scrapped : Scrapped copy b mishaps result c) :
    Filled d id copy b mishaps (.error (.io error), some result) c

theorem ensures_fillCopy (only : OnlyDeletions calls) :
    (d.fillCopy id copy).Ensures calls b (Filled d id copy b) := by
  have copying : (Routine.perform (.copyFile (d.backingFile id) (d.backingFile copy))).Leads b
      fun mishaps answer c => mishaps = [] ∧
        (answer, c) = b.withFiles (b.files.copy (d.backingFile id) (d.backingFile copy)) :=
    Routine.leads_perform.2 fun _ => ⟨rfl, rfl⟩
  apply (copying.ensures ⟨trivial, fun _ => trivial⟩ only).bind
  rintro _ answer c ⟨rfl, copied⟩
  cases source : b.files.get? (d.backingFile id) with
  | some kept =>
    rw [Files.copy_of_present source] at copied
    cases copied
    exact Routine.ensures_done (.done source)
  | none =>
    obtain ⟨error, failed⟩ := Files.copy_of_absent (d.backingFile copy) source
    rw [failed] at copied
    cases copied
    apply (ensures_delete only).bind
    intro mishaps result c scrapped
    exact Routine.ensures_done (by simpa using .undone error source scrapped)

theorem ensures_endSnapshot (only : OnlyDeletions calls) (claim : Claim) :
    (d.endSnapshot id claim (.ok copy)).Ensures calls b (Filled d id copy b) := by
  apply (ensures_fillCopy only).bind
  intro mishaps filling c filled
  exact Routine.ensures_unlock only (by simpa using filled)

inductive Replicated (d : BlockDriver) (b : Bench) (id : VolumeId) (locator : Locator) :
    List Mishap → Except VolumeError VolumeId → Bench → Prop
  | unmade {mishaps : List Mishap} {error : VolumeError} {c : Bench}
      (begun : Begun d b id locator mishaps (.error error) c) :
    Replicated d b id locator mishaps (.error error) c
  | made {copy : VolumeId} {early late : List Mishap} {filling : Filling} {c e : Bench}
      (begun : Begun d b id locator early (.ok copy) c)
      (filled : Filled d id copy c late filling e) :
    Replicated d b id locator (early ++ late) filling.1 e

theorem ensures_snapshot (unused : b.NamesUnused) (only : OnlyDeletions calls) :
    (d.snapshot id locator).outcome.Ensures calls b (Replicated d b id locator) := by
  rw [snapshot_eq_phases]
  apply ((leads_beginSnapshot unused).ensures (unfazed_beginSnapshot d id locator) only).bind
  rintro early ⟨claim, made⟩ c begun
  cases made with
  | error error =>
    have ending : (do
        let (result, _) ← d.endSnapshot id claim (.error error)
        return result : Routine (Except VolumeError VolumeId)).Leads c fun rest result e =>
          rest = [] ∧ result = .error error ∧ c = e :=
      fun _ => ⟨rfl, rfl, rfl⟩
    apply (ending.ensures ⟨trivial, fun _ => trivial⟩ only).mono
    rintro _ _ _ ⟨rfl, rfl, rfl⟩
    simpa using .unmade begun
  | ok copy =>
    apply (ensures_endSnapshot only claim).bind
    intro late filling e filled
    exact Routine.ensures_done (by simpa using .made begun filled)

end BlockVolumes.BlockDriver
