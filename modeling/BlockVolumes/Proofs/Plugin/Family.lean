import BlockVolumes.Proofs.Driver.Lookup

/-! The volumes behind one name, and what keeps their records in order while volumes are made. -/

namespace BlockVolumes.Plugin

open Operation (andThen)

/-- `since` is how often the clock was read before anything is asked about these volumes. -/
structure Family where
  driver : BlockDriver
  place : String
  name : String
  base : VolumeId
  spec : Spec
  since : Nat

namespace Family

def scale (f : Family) : Nat := f.spec.scale.toNat

def member (f : Family) : Nat → String
  | 0 => f.name
  | i + 1 => replicaName f.name (i + 1)

theorem toList_replicaName (name : String) (i : Nat) :
    (replicaName name i).toList = name.toList ++ '_' :: Nat.toDigits 10 i := by
  simp [replicaName]

theorem replicaName_ne (name : String) (i : Nat) : replicaName name i ≠ name := by
  intro same
  have length := congrArg (List.length ∘ String.toList) same
  simp only [Function.comp_apply, toList_replicaName, List.length_append, List.length_cons]
    at length
  omega

theorem replicaName_inj {name : String} {i j : Nat}
    (same : replicaName name i = replicaName name j) : i = j := by
  have digits : Nat.toDigits 10 i = Nat.toDigits 10 j := by
    simpa [toList_replicaName] using congrArg String.toList same
  simpa using congrArg (Nat.ofDigitChars 10 · 0) digits

variable {f : Family} {b c : Bench} {stack : List Volume}

theorem member_inj {i j : Nat} (same : f.member i = f.member j) : i = j := by
  cases i with
  | zero =>
    cases j with
    | zero => rfl
    | succ j => exact absurd same.symm (replicaName_ne _ _)
  | succ i =>
    cases j with
    | zero => exact absurd same (replicaName_ne _ _)
    | succ j => exact replicaName_inj same

example (d : BlockDriver) (spec : Spec) :
    (List.range 3).map (Family.mk d "/mnt/data" "data" ⟨"first"⟩ spec 0).member =
      ["data", "data_1", "data_2"] := rfl

structure Proper (f : Family) : Prop where
  given : f.name ≠ ""
  placed : f.place ≠ ""
  valid : f.spec.check = .ok ()
  small : f.spec.size.toNat < Files.lengthLimit

theorem Proper.member_ne (proper : f.Proper) (i : Nat) : f.member i ≠ "" := by
  cases i with
  | zero => exact proper.given
  | succ i =>
    intro same
    have length := congrArg (List.length ∘ String.toList) same
    simp [member, toList_replicaName] at length

theorem Proper.scale_pos (proper : f.Proper) : 0 < f.scale := by
  have set := (Spec.check_eq_ok.1 proper.valid).2.2
  exact UInt32.pos_iff_ne_zero.2 set

structure Fresh (f : Family) (b : Bench) (id : VolumeId) : Prop where
  named : Path.IsName id.text.toList
  absent : b.records.get? id.text = none
  vacant : b.files.vacant (f.driver.backingFile id) = true
  offWay : ¬ Path.trail (f.driver.backingFile id) <+: Path.trail f.place
  other : ∀ i < f.scale, id.text ≠ f.member i

structure Settled (f : Family) (b : Bench) : Prop where
  own : b.OwnIds
  unused : b.NamesUnused
  fresh : ∀ n, b.drawn ≤ n → f.Fresh b (b.ids n)
  distinct : ∀ m n, b.drawn ≤ m → b.drawn ≤ n → b.ids m = b.ids n → m = n
  base : ∃ v, b.records.get? f.base.text = some v ∧ v.locator.name = f.name ∧ v.spec = f.spec
  alone : ∀ i < f.scale, ∀ id v other w, b.records.get? id = some v →
    b.records.get? other = some w → v.locator.name = f.member i → w.locator.name = f.member i →
    id = other
  noId : ∀ i < f.scale, ∀ v, b.records.get? (f.member i) = some v →
    i = 0 ∧ f.member i = f.base.text

namespace Settled

theorem named_member (settled : f.Settled b) (proper : f.Proper) {i : Nat} (known : i < f.scale)
    {v : Volume} (found : b.records.get? v.id.text = some v)
    (goes : v.locator.name = f.member i) : b.named (f.member i) = some v := by
  cases noId : b.records.get? (f.member i) with
  | none =>
    apply Bench.named_of_name settled.own (proper.member_ne i) noId found goes
    intro id w there same
    exact settled.alone i known id w v.id.text v there found same goes
  | some w =>
    obtain ⟨rfl, same⟩ := settled.noId i known w noId
    obtain ⟨u, here, name, -⟩ := settled.base
    have one : f.base.text = v.id.text := settled.alone 0 known _ u _ v here found name goes
    rw [same, one, found] at noId
    cases noId
    exact Bench.named_of_id (by rw [same, one, found])

theorem named_absent (settled : f.Settled b) (proper : f.Proper) {i : Nat} (known : i < f.scale)
    (none : ∀ id v, b.records.get? id = some v → v.locator.name ≠ f.member i) :
    b.named (f.member i) = .none := by
  refine Bench.named_of_none (proper.member_ne i) ?_ none
  apply Option.eq_none_iff_forall_ne_some.2
  intro w there
  obtain ⟨rfl, same⟩ := settled.noId i known w there
  obtain ⟨u, here, name, -⟩ := settled.base
  exact none _ u here name

structure Alike (v w : Volume) : Prop where
  id : w.id = v.id
  locator : w.locator = v.locator
  spec : w.spec = v.spec

theorem Alike.refl (v : Volume) : Alike v v := ⟨rfl, rfl, rfl⟩

theorem of_alike (settled : f.Settled b) (unused : c.NamesUnused)
    (records : ∀ id, Option.Rel Alike (b.records.get? id) (c.records.get? id))
    (ids : c.ids = b.ids) (drawn : b.drawn ≤ c.drawn)
    (vacant : ∀ id, f.Fresh b id → c.files.vacant (f.driver.backingFile id) = true) :
    f.Settled c := by
  constructor
  · intro id w found
    obtain ⟨v, before, alike⟩ := Table.before_of_rel (records id) found
    rw [alike.id]
    exact settled.own id v before
  · exact unused
  · intro n later
    have fresh := settled.fresh n (Nat.le_trans drawn later)
    rw [ids]
    have absent := Table.none_of_rel (records _) fresh.absent
    exact ⟨fresh.named, absent, vacant _ fresh, fresh.offWay, fresh.other⟩
  · intro m n laterM laterN same
    rw [ids] at same
    exact settled.distinct m n (Nat.le_trans drawn laterM) (Nat.le_trans drawn laterN) same
  · obtain ⟨v, found, name, spec⟩ := settled.base
    obtain ⟨w, there, alike⟩ := Table.after_of_rel (records _) found
    exact ⟨w, there, alike.locator ▸ name, alike.spec ▸ spec⟩
  · intro i known id v other w found also goesV goesW
    obtain ⟨v', before, alikeV⟩ := Table.before_of_rel (records id) found
    obtain ⟨w', also', alikeW⟩ := Table.before_of_rel (records other) also
    exact settled.alone i known id v' other w' before also' (alikeV.locator ▸ goesV)
      (alikeW.locator ▸ goesW)
  · intro i known v found
    obtain ⟨v', before, -⟩ := Table.before_of_rel (records _) found
    exact settled.noId i known v' before

theorem of_same (settled : f.Settled b) (unused : c.NamesUnused) (records : c.records = b.records)
    (ids : c.ids = b.ids) (drawn : b.drawn ≤ c.drawn)
    (vacant : ∀ id, f.Fresh b id → c.files.vacant (f.driver.backingFile id) = true) :
    f.Settled c := by
  refine settled.of_alike unused (fun id => ?_) ids drawn vacant
  rw [records]
  cases b.records.get? id with
  | none => exact .none
  | some v => exact .some (.refl v)

theorem worn {mishaps : List Mishap} (settled : f.Settled b)
    (worn : BlockDriver.Worn { b with drawn := b.drawn + 1 } mishaps c) : f.Settled c := by
  refine settled.of_same (worn.unused ⟨settled.unused.connected, settled.unused.registered⟩)
    worn.records worn.ids (by rw [worn.drawn]; exact Nat.le_succ _) fun id fresh => ?_
  rw [worn.files]
  exact fresh.vacant

theorem directed {files : Files} (settled : f.Settled b)
    (made : b.files.makeDirectories f.place = .ok files) : f.Settled { b with files } :=
  settled.of_same ⟨settled.unused.connected, settled.unused.registered⟩ rfl rfl (Nat.le_refl _)
    fun _ fresh => Files.vacant_of_makeDirectories made fresh.vacant fresh.offWay

theorem added {v : Volume} {i : Nat} (settled : f.Settled b)
    (drawn : v.id = b.ids b.drawn)
    (none : ∀ id w, b.records.get? id = some w → w.locator.name ≠ f.member i)
    (added : BlockDriver.Added f.driver { b with drawn := b.drawn + 1 } (.named (f.member i))
      f.spec v c) : f.Settled c := by
  have fresh := settled.fresh b.drawn (Nat.le_refl _)
  rw [← drawn] at fresh
  have name : v.locator.name = f.member i := by
    rw [added.located]
    rfl
  have back : ∀ id w, c.records.get? id = some w →
      id = v.id.text ∧ w = v ∨ b.records.get? id = some w := by
    intro id w found
    rw [added.records, Table.get?_insert_eq_some] at found
    rcases found with ⟨rfl, rfl⟩ | ⟨-, before⟩
    · exact .inl ⟨rfl, rfl⟩
    · exact .inr before
  constructor
  · intro id w found
    rcases back id w found with ⟨rfl, rfl⟩ | before
    · rfl
    · exact settled.own id w before
  · exact added.unused ⟨settled.unused.connected, settled.unused.registered⟩
  · intro n later
    replace later : b.drawn + 1 ≤ n := Nat.le_trans (Nat.le_of_eq added.drawn.symm) later
    have next := settled.fresh n (Nat.le_trans (Nat.le_succ _) later)
    have apart : v.id.text ≠ (b.ids n).text := by
      intro same
      have := settled.distinct b.drawn n (Nat.le_refl _) (Nat.le_trans (Nat.le_succ _) later)
        (drawn ▸ VolumeId.ext same)
      omega
    rw [added.ids]
    refine ⟨next.named, ?_, ?_, next.offWay, next.other⟩
    · simp [added.records, apart, next.absent]
    · rw [added.files, Files.vacant_put_of_ne]
      · exact next.vacant
      · intro same
        exact apart (Path.resolve_join_inj fresh.named next.named same)
  · intro m n laterM laterN same
    rw [added.drawn] at laterM laterN
    rw [added.ids] at same
    exact settled.distinct m n (Nat.le_trans (Nat.le_succ _) laterM)
      (Nat.le_trans (Nat.le_succ _) laterN) same
  · obtain ⟨u, found, rest⟩ := settled.base
    exact ⟨u, added.records ▸ Table.get?_insert_of_absent _ added.absent found, rest⟩
  · intro j small id w other u found also goesW goesU
    rcases back id w found with ⟨rfl, rfl⟩ | before <;>
      rcases back other u also with ⟨rfl, rfl⟩ | before'
    · rfl
    · obtain rfl := member_inj (name.symm.trans goesW)
      exact absurd goesU (none other u before')
    · obtain rfl := member_inj (name.symm.trans goesU)
      exact absurd goesW (none id w before)
    · exact settled.alone j small id w other u before before' goesW goesU
  · intro j small w found
    rcases back _ w found with ⟨same, rfl⟩ | before
    · exact absurd same.symm (fresh.other j small)
    · exact settled.noId j small w before

end Settled

end Family

end BlockVolumes.Plugin
