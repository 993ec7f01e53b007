import BlockVolumes.Proofs.Driver.Undisturbed

/-! Calls on a volume that fail, in any store and on any host. They leave the world as it was, but
for one case: the host has done its part, and the store does not take the change of the record. -/

namespace BlockVolumes

variable {id : VolumeId} {w v : World} {mishaps : List Mishap} {error : VolumeError}

/-- The host has mounted the volume or unmounted it, and its record does not tell. -/
inductive World.Torn (id : VolumeId) (w v : World) : Prop
  | mounted {volume : Volume} {path : String} {u : World} {host : Host} {refusal : StoreError}
      (found : w.store.get id = .ok (some volume)) (free : volume.mountPath? = none)
      (before : w.Undisturbed u)
      (done : u.host.mount volume.device path volume.spec.filesystem = (.ok (), host))
      (refused : (w.store.update (volume.mountedAt path (w.times w.clock))).1 = .error refusal)
      (after : World.Undisturbed { u with host, clock := u.clock + 1 } v)
  | unmounted {volume : Volume} {place : String} {u : World} {host : Host} {refusal : StoreError}
      (found : w.store.get id = .ok (some volume)) (mounted : volume.mountPath? = some place)
      (before : w.Undisturbed u)
      (done : u.host.unmount place = (.ok (), host))
      (refused : (w.store.update volume.unmounted).1 = .error refusal)
      (after : World.Undisturbed { u with host } v)

theorem World.Torn.disturbed (torn : World.Torn id w v) : ¬ w.Undisturbed v := by
  intro same
  cases torn with
  | mounted found free before done refused after =>
    have kept := (after.host.symm.trans same.host).trans before.host.symm
    obtain ⟨error, failed⟩ := (Host.calm_mount done).1 kept
    cases failed
  | unmounted found mounted before done refused after =>
    have kept := (after.host.symm.trans same.host).trans before.host.symm
    obtain ⟨error, failed⟩ := (Host.calm_unmount done).1 kept
    cases failed

theorem World.Torn.trans {u : World} (torn : World.Torn id w u) (same : u.Undisturbed v) :
    World.Torn id w v := by
  cases torn with
  | mounted found free before done refused after =>
    exact .mounted found free before done refused (after.trans same)
  | unmounted found mounted before done refused after =>
    exact .unmounted found mounted before done refused (after.trans same)

namespace BlockDriver

open Operation

theorem failed_updateRecord {volume : Volume}
    (yields : (attempt (.updateRecord volume) .ofStore).outcome.Yields w mishaps
      (.error error) v) :
    w.Undisturbed v ∧ ∃ refusal, (w.store.update volume).1 = .error refusal := by
  obtain ⟨u, answer, same, answered, failed⟩ := yields_attempt yields
  obtain ⟨result, store, updated⟩ : ∃ result store, u.store.update volume = (result, store) :=
    ⟨_, _, rfl⟩
  simp only [Effect.perform, World.answering, updated] at answered
  cases answered
  cases answer with
  | ok _ => cases failed
  | error refusal =>
    obtain rfl := Store.update_error updated
    exact ⟨same, refusal, by rw [← same.store, updated]⟩

theorem failed_set {locator : Option Locator} {spec : Option Spec}
    (yields : (set id locator spec).outcome.Yields w mishaps (.error error) v) :
    w.Undisturbed v := by
  cases spec with
  | some spec =>
    obtain ⟨-, -, rfl⟩ := yields
    exact .refl _
  | none =>
    rcases yields_onRecord yields with ⟨_, -, -, same⟩ | ⟨_, _, _, _, -, before, worked, after⟩
    · exact same
    · exact (before.trans (failed_updateRecord worked).1).trans after

theorem failed_attach {d : BlockDriver}
    (yields : (d.attach id).outcome.Yields w mishaps (.error error) v) : w.Undisturbed v := by
  rcases yields_onRecord yields with ⟨_, -, -, same⟩ | ⟨volume, _, _, _, -, before, worked, after⟩
  · exact same
  · cases mounted : volume.isMounted with
    | true =>
      rw [mounted] at worked
      obtain ⟨-, -, rfl⟩ := worked
      exact before.trans after
    | false =>
      rw [mounted] at worked
      obtain ⟨-, failed, -⟩ := worked
      cases failed

theorem failed_detach (yields : (detach id).outcome.Yields w mishaps (.error error) v) :
    w.Undisturbed v := by
  rcases yields_onRecord yields with ⟨_, -, -, same⟩ | ⟨_, _, _, _, -, -, worked, -⟩
  · exact same
  · obtain ⟨-, failed, -⟩ := worked
    cases failed

theorem answered_host {α : Type} {u v : World} {answer : α} {called : α × Host}
    (answered : World.answering called (fun host => { u with host }) = (answer, v)) :
    ∃ host, called = (answer, host) ∧ v = { u with host } := by
  obtain ⟨rfl, rfl⟩ := Prod.mk.inj answered
  exact ⟨called.2, rfl, rfl⟩

theorem failed_mount {path : String}
    (yields : (mount id path).outcome.Yields w mishaps (.error error) v) :
    w.Undisturbed v ∨ w.Torn id v := by
  rcases yields_onRecord yields with
    ⟨_, -, -, same⟩ | ⟨volume, _, _, _, found, before, worked, after⟩
  · exact .inl same
  · cases free : volume.mountPath? with
    | some mounted =>
      rw [free] at worked
      obtain ⟨-, -, rfl⟩ := worked
      exact .inl (before.trans after)
    | none =>
      simp only [free] at worked
      rw [outcome_bind] at worked
      obtain ⟨_, _, _, _, -, mounting, behind⟩ := worked.of_bind
      obtain ⟨u, answer, same, answered, rfl⟩ := yields_attempt mounting
      obtain ⟨host, done, rfl⟩ := answered_host answered
      cases answer with
      | error refusal =>
        obtain ⟨-, -, rfl⟩ := behind
        have kept := (Host.calm_mount done).2 ⟨refusal, rfl⟩
        exact .inl (((before.trans same).trans (.withHost kept)).trans after)
      | ok _ =>
        -- The host did its part, so what fails from here on leaves the mount behind.
        rw [mapError_ok, outcome_bind] at behind
        obtain ⟨_, _, _, _, -, timing, writing⟩ := behind.of_bind
        obtain ⟨x, now, read, ticked, rfl⟩ := yields_perform timing
        cases ticked
        have same := before.trans same
        obtain ⟨kept, refusal, refused⟩ := failed_updateRecord writing
        -- The record that is refused has the time of that one reading, as told in `w`.
        have store : x.store = w.store := read.store.trans same.store
        have machine : x.toMachine = w.toMachine := read.machine.trans same.machine
        have refused : (x.store.update (volume.mountedAt path (x.times x.clock))).1 =
          .error refusal := refused
        rw [store, machine] at refused
        exact .inr (.mounted found free same done refused ((read.tick.trans kept).trans after))

theorem failed_unmount (yields : (unmount id).outcome.Yields w mishaps (.error error) v) :
    w.Undisturbed v ∨ w.Torn id v := by
  rcases yields_onRecord yields with
    ⟨_, -, -, same⟩ | ⟨volume, _, _, _, found, before, worked, after⟩
  · exact .inl same
  · cases mounted : volume.mountPath? with
    | none =>
      rw [mounted] at worked
      obtain ⟨-, -, rfl⟩ := worked
      exact .inl (before.trans after)
    | some place =>
      simp only [mounted] at worked
      rw [outcome_bind] at worked
      obtain ⟨_, _, _, _, -, unmounting, behind⟩ := worked.of_bind
      obtain ⟨u, answer, same, answered, rfl⟩ := yields_attempt unmounting
      obtain ⟨host, done, rfl⟩ := answered_host answered
      cases answer with
      | error refusal =>
        obtain ⟨-, -, rfl⟩ := behind
        have kept := (Host.calm_unmount done).2 ⟨refusal, rfl⟩
        exact .inl (((before.trans same).trans (.withHost kept)).trans after)
      | ok _ =>
        have same := before.trans same
        obtain ⟨kept, refusal, refused⟩ := failed_updateRecord behind
        have refused : (w.store.update volume.unmounted).1 = .error refusal := by
          rw [← same.store]
          exact refused
        exact .inr (.unmounted found mounted same done refused (kept.trans after))

end BlockDriver

end BlockVolumes
