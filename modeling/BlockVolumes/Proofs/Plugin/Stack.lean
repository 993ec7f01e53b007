import BlockVolumes.Proofs.Plugin.Family
import BlockVolumes.Proofs.Time.Order

/-! The volumes of a family that are mounted: they stack up in their place in the order of their
names. -/

namespace BlockVolumes.Plugin.Family

variable {f : Family} {b c : Bench} {stack : List Volume}

def MountedBy (f : Family) (b : Bench) (v : Volume) : Prop :=
  ∃ reading, f.since ≤ reading ∧ reading < b.clock ∧ v.mountTime = some (b.times reading)

def InOrder (f : Family) (b : Bench) (v w : Volume) : Prop :=
  ∃ first second, f.since ≤ first ∧ first < second ∧ second < b.clock ∧
    v.mountTime = some (b.times first) ∧ w.mountTime = some (b.times second)

/-- The volumes that are mounted, in the order of their names. -/
structure Stacked (f : Family) (b : Bench) (stack : List Volume) : Prop where
  each : ∀ i v, stack[i]? = some v → b.records.get? v.id.text = some v ∧
    v.locator.name = f.member i ∧ v.mountPath? = some f.place
  short : stack.length ≤ f.scale
  only : ∀ id v, b.records.get? id = some v → (v.mountPath? = some f.place ∨
    (∃ i < f.scale, v.locator.name = f.member i) ∧ v.isMounted = true) → v ∈ stack
  begun : f.since ≤ b.clock
  past : ∀ v ∈ stack, f.MountedBy b v
  order : stack.Pairwise (f.InOrder b)
  mounts : (b.mounts.filter (Path.same ·.path f.place)).map (·.device) = stack.map (·.device)

namespace Stacked

theorem mem (stacked : f.Stacked b stack) {v : Volume} (member : v ∈ stack) :
    b.records.get? v.id.text = some v ∧ v.mountPath? = some f.place := by
  obtain ⟨i, there⟩ := List.mem_iff_getElem?.1 member
  obtain ⟨found, -, mounted⟩ := stacked.each i v there
  exact ⟨found, mounted⟩

theorem later (times : c.times = b.times) (clock : b.clock ≤ c.clock) {v : Volume}
    (past : f.MountedBy b v) : f.MountedBy c v := by
  obtain ⟨reading, begun, before, time⟩ := past
  exact ⟨reading, begun, Nat.lt_of_lt_of_le before clock, by rw [times, time]⟩

theorem stillInOrder (times : c.times = b.times) (clock : b.clock ≤ c.clock) {v w : Volume}
    (before : f.InOrder b v w) : f.InOrder c v w := by
  obtain ⟨first, second, begun, less, past, timeV, timeW⟩ := before
  exact ⟨first, second, begun, less, Nat.lt_of_lt_of_le past clock, by rw [times, timeV],
    by rw [times, timeW]⟩

theorem kept (stacked : f.Stacked b stack)
    (still : ∀ id v, b.records.get? id = some v → c.records.get? id = some v)
    (new : ∀ id v, c.records.get? id = some v → b.records.get? id = some v ∨ v.mountPath? = none)
    (times : c.times = b.times) (clock : b.clock ≤ c.clock) (mounts : c.mounts = b.mounts) :
    f.Stacked c stack := by
  constructor
  · intro i v there
    obtain ⟨found, rest⟩ := stacked.each i v there
    exact ⟨still _ v found, rest⟩
  · exact stacked.short
  · intro id v found mounted
    rcases new id v found with before | free
    · exact stacked.only id v before mounted
    · simp [free, Volume.isMounted] at mounted
  · exact Nat.le_trans stacked.begun clock
  · intro v member
    exact later times clock (stacked.past v member)
  · exact stacked.order.imp (stillInOrder times clock)
  · rw [mounts]
    exact stacked.mounts

theorem push (stacked : f.Stacked b stack) (placed : f.place ≠ "") {v : Volume}
    (room : stack.length < f.scale) (found : b.records.get? v.id.text = some v)
    (goes : v.locator.name = f.member stack.length) (free : v.mountPath? = none)
    (records : c.records =
      b.records.insert v.id.text (v.mountedAt f.place (b.times b.clock)))
    (mounts : c.mounts = b.mounts ++ [⟨f.place, v.device⟩]) (times : c.times = b.times)
    (clock : c.clock = b.clock + 1) :
    f.Stacked c (stack ++ [v.mountedAt f.place (b.times b.clock)]) := by
  have passed : b.clock ≤ c.clock := by omega
  have other : ∀ w ∈ stack, v.id.text ≠ w.id.text := by
    intro w member same
    obtain ⟨there, mounted⟩ := stacked.mem member
    rw [← same, found] at there
    cases there
    rw [free] at mounted
    cases mounted
  constructor
  · intro i w there
    rw [List.getElem?_append] at there
    split at there
    · obtain ⟨before, rest⟩ := stacked.each i w there
      refine ⟨?_, rest⟩
      rw [records, Table.get?_insert, if_neg (other w (List.mem_of_getElem? there))]
      exact before
    · rename_i past
      have last : i = stack.length := by
        have := (List.getElem?_eq_some_iff.1 there).1
        simp at this
        omega
      subst last
      rw [Nat.sub_self] at there
      cases there
      exact ⟨by rw [records]; exact Table.get?_insert_self .., goes,
        Volume.mountPath?_mountedAt v placed _⟩
  · simpa using Nat.succ_le_of_lt room
  · intro id w there mounted
    rw [records, Table.get?_insert_eq_some] at there
    rcases there with ⟨-, rfl⟩ | ⟨-, before⟩
    · simp
    · exact List.mem_append_left _ (stacked.only id w before mounted)
  · exact Nat.le_trans stacked.begun passed
  · intro w member
    rcases List.mem_append.1 member with before | last
    · exact later times passed (stacked.past w before)
    · rw [List.mem_singleton.1 last]
      exact ⟨b.clock, stacked.begun, by omega, by rw [times]; rfl⟩
  · refine List.pairwise_append.2 ⟨stacked.order.imp (stillInOrder times passed), by simp, ?_⟩
    intro w before u last
    rw [List.mem_singleton.1 last]
    obtain ⟨reading, begun, past, time⟩ := stacked.past w before
    exact ⟨reading, b.clock, begun, past, by omega, by rw [times, time], by rw [times]; rfl⟩
  · have here : Path.same f.place f.place = true := by simp [Path.same]
    simp [mounts, here, stacked.mounts, Volume.mountedAt]

theorem pop {rest : List Volume} {v : Volume} {left : List Mount}
    (stacked : f.Stacked b (rest ++ [v])) (own : b.OwnIds)
    (removed : RecordingHost.withoutLast f.place b.mounts = some left) :
    f.Stacked { b with records := b.records.insert v.id.text v.unmounted, mounts := left }
      rest := by
  have last : (rest ++ [v])[rest.length]? = some v := by simp
  have other : ∀ (i : Nat) (w : Volume), rest[i]? = some w → v.id.text ≠ w.id.text := by
    intro i w there same
    have inside := (List.getElem?_eq_some_iff.1 there).1
    have earlier : (rest ++ [v])[i]? = some w := by rwa [List.getElem?_append_left inside]
    obtain ⟨found, goes, -⟩ := stacked.each i w earlier
    obtain ⟨also, ends, -⟩ := stacked.each _ v last
    rw [same, found] at also
    cases also
    have := member_inj (goes.symm.trans ends)
    omega
  constructor
  · intro i w there
    have inside := (List.getElem?_eq_some_iff.1 there).1
    obtain ⟨found, kept⟩ := stacked.each i w (by rwa [List.getElem?_append_left inside])
    refine ⟨?_, kept⟩
    simp only [Table.get?_insert, other i w there, if_false]
    exact found
  · have := stacked.short
    simp at this
    omega
  · intro id w found mounted
    rcases Table.get?_insert_eq_some.1 found with ⟨-, rfl⟩ | ⟨different, there⟩
    · simp [Volume.mountPath?, Volume.unmounted, Volume.isMounted] at mounted
    · rcases List.mem_append.1 (stacked.only id w there mounted) with before | gone
      · exact before
      · rw [List.mem_singleton.1 gone] at there
        exact absurd (own _ _ there) different
  · exact stacked.begun
  · intro w member
    exact stacked.past w (List.mem_append_left _ member)
  · exact (List.pairwise_append.1 stacked.order).1
  · show (left.filter (Path.same ·.path f.place)).map (·.device) = _
    rw [RecordingHost.filter_withoutLast removed, List.map_dropLast, stacked.mounts]
    simp

theorem lastMountedAt {rest : List Volume} {v : Volume} (stacked : f.Stacked b (rest ++ [v]))
    (forward : Time.Forward b.times f.since b.clock) :
    BlockDriver.lastMountedAt f.place (inOrderOfCreation b.records.values) = some v := by
  obtain ⟨found, mounted⟩ := stacked.mem (List.mem_append_right rest List.mem_cons_self)
  refine BlockDriver.lastMountedAt_eq ?_ mounted ?_
  · exact Store.mem_inOrderOfCreation.2 (Table.mem_values.2 ⟨_, found⟩)
  · intro w member there different
    obtain ⟨id, known⟩ := Table.mem_values.1 (Store.mem_inOrderOfCreation.1 member)
    have before : w ∈ rest := by
      simpa [different] using stacked.only id w known (.inl there)
    obtain ⟨first, second, begun, less, past, timeW, timeV⟩ :=
      (List.pairwise_append.1 stacked.order).2.2 w before v List.mem_cons_self
    have order := (forward first second begun less past).le
    simpa [BlockDriver.mountedNoLater, timeW, timeV] using order

theorem lastMountedAt_nil (stacked : f.Stacked b []) :
    BlockDriver.lastMountedAt f.place (inOrderOfCreation b.records.values) = none := by
  apply BlockDriver.lastMountedAt_eq_none
  intro w member there
  obtain ⟨id, known⟩ := Table.mem_values.1 (Store.mem_inOrderOfCreation.1 member)
  exact absurd (stacked.only id w known (.inl there)) List.not_mem_nil

end Stacked

end BlockVolumes.Plugin.Family
