import BlockVolumes.Proofs.Driver.Lookup

/-! Which volume a name stands for, whatever the store holds. -/

namespace BlockVolumes

/-- The empty name goes for every volume. -/
def Volume.GoesBy (v : Volume) (name : String) : Prop := name = "" ∨ v.locator.name = name

theorem Locator.picks_iff {name : String} {v : Volume} :
    (Locator.named name).picks v.locator = true ↔ v.GoesBy name := by
  by_cases given : name = ""
  · have all : labelsWithin .empty v.locator.labels = true := rfl
    simp [Volume.GoesBy, given, picks, named, all]
  · simp [Volume.GoesBy, given, picks_named given]

namespace Bench

variable {b : Bench} {name : String} {v : Volume}

/-- The volume is kept under the name as its ID. Or none is, and of all that are kept it alone goes
by the name. -/
def Means (b : Bench) (name : String) (v : Volume) : Prop :=
  b.records.get? name = some v ∨
    b.records.get? name = none ∧ ∃ id, b.records.get? id = some v ∧ v.GoesBy name ∧
      ∀ other w, b.records.get? other = some w → w.GoesBy name → other = id

theorem filter_values_eq_singleton {t : Table Volume} :
    (t.values.filter fun w => (Locator.named name).picks w.locator) = [v] ↔
      ∃ id, t.get? id = some v ∧ v.GoesBy name ∧
        ∀ other w, t.get? other = some w → w.GoesBy name → other = id := by
  obtain ⟨fitting, fits⟩ : ∃ fitting, fitting =
      t.entries.filter fun e => (Locator.named name).picks e.2.locator := ⟨_, rfl⟩
  have member : ∀ id w, (id, w) ∈ fitting ↔ t.get? id = some w ∧ w.GoesBy name := by
    intro id w
    rw [fits, List.mem_filter, ← Table.get?_eq_some_iff, Locator.picks_iff]
  have values : (t.values.filter fun w => (Locator.named name).picks w.locator) =
      fitting.map (·.2) := by
    rw [fits, Table.values, List.filter_map]
    rfl
  have distinct : fitting.Nodup := by
    rw [fits]
    exact (List.Pairwise.of_map Prod.fst (fun _ _ => mt (congrArg _)) t.keys_nodup).filter _
  rw [values]
  constructor
  · intro single
    obtain ⟨entry, only, same⟩ := List.map_eq_singleton_iff.1 single
    obtain ⟨id, w⟩ := entry
    obtain rfl : w = v := same
    obtain ⟨found, goes⟩ := (member id w).1 (by simp [only])
    refine ⟨id, found, goes, ?_⟩
    intro other u there alike
    have also := (member other u).2 ⟨there, alike⟩
    rw [only, List.mem_singleton] at also
    exact congrArg Prod.fst also
  · rintro ⟨id, found, goes, alone⟩
    have single : fitting = [(id, v)] := by
      apply eq_singleton_of_nodup distinct ((member id v).2 ⟨found, goes⟩)
      rintro ⟨other, w⟩ there
      obtain ⟨also, alike⟩ := (member other w).1 there
      obtain rfl := alone other w also alike
      rw [found] at also
      cases also
      rfl
    rw [single]
    rfl

theorem only?_eq_some {volumes : List Volume} :
    Plugin.only? (.ok volumes) = some v ↔ volumes = [v] := by
  match volumes with
  | [] => simp [Plugin.only?]
  | [w] => simp [Plugin.only?]
  | _ :: _ :: _ => simp [Plugin.only?]

theorem named_iff : b.named name = some v ↔ b.Means name v := by
  cases found : b.records.get? name with
  | some w => simp [named, Means, found]
  | none =>
    have order := Store.perm_inOrderOfCreation b.records.values
    have single : ((inOrderOfCreation b.records.values).filter fun w =>
        (Locator.named name).picks w.locator) = [v] ↔
        (b.records.values.filter fun w => (Locator.named name).picks w.locator) = [v] := by
      rw [← List.perm_singleton, ← List.perm_singleton]
      exact (order.filter _).congr_left _
    simp only [named, Means, found, only?_eq_some, single, filter_values_eq_singleton]
    simp

theorem Means.found (means : b.Means name v) (own : b.OwnIds) :
    b.records.get? v.id.text = some v := by
  rcases means with found | ⟨-, id, found, -, -⟩
  · rwa [own _ _ found]
  · rwa [own _ _ found]

end Bench

namespace Plugin

def outcomeOf (b : Bench) (name : String) : Except VolumeError Volume :=
  match b.named name with
  | some v => .ok v
  | none => .error (.notFound name)

theorem leads_search (d : BlockDriver) (b : Bench) (name : String) :
    (volumeNamed d.toVolumeDriver name).outcome.Leads b fun mishaps result c =>
      mishaps = [] ∧ result = outcomeOf b name ∧ c = b := by
  apply leads_volumeNamed
  · intro v found
    exact ⟨rfl, by simp [outcomeOf, found], rfl⟩
  · intro missing
    exact ⟨rfl, by simp [outcomeOf, missing], rfl⟩

theorem outcome_volumeNamed (d : BlockDriver) (b : Bench) (m : Moment) (name : String) :
    ((volumeNamed d.toVolumeDriver name).outcome.run (b.world m)).1 = outcomeOf b name := by
  obtain ⟨mishaps, yields⟩ := (volumeNamed d.toVolumeDriver name).outcome.yields_run (b.world m)
  obtain ⟨c, later, -, -, same, -⟩ := (leads_search d b name).sound yields
  exact same

end Plugin

end BlockVolumes
