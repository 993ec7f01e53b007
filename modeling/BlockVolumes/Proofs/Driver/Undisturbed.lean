import BlockVolumes.Proofs.Driver.Lookup
import BlockVolumes.Proofs.Driver.Snapshot

/-! What leaves the world as it was, in any store and on any host: to look something up, to wait for
a lock, to be told what to fail at. -/

namespace BlockVolumes

variable {α : Type}

theorem Host.under_under (h : Host) (first next : Faults) :
    (h.under first).under next = h.under next := by
  cases h <;> rfl

theorem Connector.under_under (c : Connector) (first next : Faults) :
    (c.under first).under next = c.under next := by
  cases c <;> rfl

namespace Host

def calm : Host → Host
  | recording h => recording { h with failFormat := false, failMount := false }
  | kernel h => kernel { h with asked := 0 }

@[simp] theorem calm_under (h : Host) (faults : Faults) : (h.under faults).calm = h.calm := by
  cases h <;> rfl

variable {h after : Host} {result : Except HostError Unit}

theorem calm_ask {k next : KernelHost} {name path : String} {call : SystemCall}
    (asked : k.ask name path call = (result, next)) :
    (kernel next).calm = (kernel k).calm ↔ ∃ error, result = .error error := by
  unfold KernelHost.ask at asked
  split at asked <;> cases asked <;> simp [calm]

theorem of_kernel (called : Except HostError Unit × KernelHost)
    (told : (called.1, kernel called.2) = (result, after)) :
    ∃ next, called = (result, next) ∧ after = kernel next := by
  obtain ⟨rfl, rfl⟩ := Prod.mk.inj told
  exact ⟨_, rfl, rfl⟩

theorem calm_mount {device path : String} {filesystem : Filesystem}
    (called : h.mount device path filesystem = (result, after)) :
    after.calm = h.calm ↔ ∃ error, result = .error error := by
  cases h with
  | recording h =>
    simp only [mount, RecordingHost.mount] at called
    split at called <;> cases called <;> simp [calm]
  | kernel h =>
    obtain ⟨next, asked, rfl⟩ := of_kernel (h.mount device path filesystem) called
    unfold KernelHost.mount at asked
    split at asked
    · cases asked
      simp
    · split at asked
      · cases asked
        simp
      · exact calm_ask asked

theorem calm_unmount {path : String} (called : h.unmount path = (result, after)) :
    after.calm = h.calm ↔ ∃ error, result = .error error := by
  cases h with
  | recording h =>
    simp only [unmount, RecordingHost.unmount] at called
    cases removed : RecordingHost.withoutLast path h.mounts with
    | none =>
      rw [removed] at called
      cases called
      simp
    | some mounts =>
      obtain ⟨before, m, later, split, rfl, -⟩ := RecordingHost.withoutLast_eq_some removed
      rw [removed] at called
      cases called
      simp [calm, split]
  | kernel h =>
    obtain ⟨next, asked, rfl⟩ := of_kernel (h.unmount path) called
    unfold KernelHost.unmount at asked
    split at asked
    · cases asked
      simp
    · exact calm_ask asked

end Host

namespace World

def calm (w : World) : World :=
  { w with connector := w.connector.under .none, host := w.host.calm, volumeLocks := .empty }

/-- The world is as it was, but for the locks of volumes and for what is to fail. -/
def Undisturbed (w v : World) : Prop := v.calm = w.calm

namespace Undisturbed

variable {w u v : World}

theorem refl (w : World) : w.Undisturbed w := rfl

theorem trans (first : w.Undisturbed u) (next : u.Undisturbed v) : w.Undisturbed v :=
  Eq.trans next first

theorem under (w : World) (faults : Faults) : w.Undisturbed (w.under faults) := by
  simp only [Undisturbed, calm, World.under, Host.calm_under, Connector.under_under]

theorem machine (same : w.Undisturbed v) : v.toMachine = w.toMachine := by
  have whole : v.calm.toMachine = w.calm.toMachine := congrArg World.toMachine same
  exact whole

theorem holdings (same : w.Undisturbed v) : v.calm.toHoldings = w.calm.toHoldings :=
  congrArg World.toHoldings same

theorem store (same : w.Undisturbed v) : v.store = w.store := by
  have part : v.calm.store = w.calm.store := congrArg Holdings.store same.holdings
  exact part

theorem devices (same : w.Undisturbed v) : v.devices = w.devices := by
  have part : v.calm.devices = w.calm.devices := congrArg Holdings.devices same.holdings
  exact part

theorem host (same : w.Undisturbed v) : v.host.calm = w.host.calm := by
  have part : v.calm.host = w.calm.host := congrArg Holdings.host same.holdings
  exact part

theorem files (same : w.Undisturbed v) : v.files = w.files := congrArg Machine.files same.machine

theorem withHost {host : Host} (same : host.calm = w.host.calm) :
    w.Undisturbed { w with host } := by
  simp only [Undisturbed, calm, same]

theorem tick (same : w.Undisturbed v) :
    World.Undisturbed { w with clock := w.clock + 1 } { v with clock := v.clock + 1 } := by
  have later : ({ v.calm with clock := v.calm.clock + 1 } : World) =
      { w.calm with clock := w.calm.clock + 1 } := by
    rw [show v.calm = w.calm from same]
  exact later

theorem locks (w : World) (table : LockTable) : w.Undisturbed { w with volumeLocks := table } := rfl

end Undisturbed

end World

abbrev Told : Type := Except StoreError (Option Volume)

namespace BlockDriver

open Operation

variable {w v : World} {mishaps : List Mishap} {id : VolumeId}

def recordOf (id : VolumeId) : Told → Except VolumeError Volume
  | .ok (some v) => .ok v
  | .ok none => .error (.notFound id.text)
  | .error error => .error (.ofStore error)

theorem yields_perform {effect : Effect α} {result : Except VolumeError α}
    (yields : (perform effect).outcome.Yields w mishaps result v) :
    ∃ u answer, w.Undisturbed u ∧ effect.perform u = (answer, v) ∧ result = .ok answer := by
  obtain ⟨faults, answer, after, _, answered, -, -, rfl, rfl⟩ := yields
  exact ⟨_, answer, .under w faults, answered, rfl⟩

theorem yields_attempt {ε : Type} {effect : Effect (Except ε α)} {meaning : ε → VolumeError}
    {result : Except VolumeError α}
    (yields : (attempt effect meaning).outcome.Yields w mishaps result v) :
    ∃ u answer, w.Undisturbed u ∧ effect.perform u = (answer, v) ∧
      result = answer.mapError meaning := by
  rw [outcome_attempt] at yields
  obtain ⟨faults, answer, after, _, answered, -, -, rfl, rfl⟩ := yields
  exact ⟨_, answer, .under w faults, answered, rfl⟩

theorem yields_consult {query : Store → Except StoreError α} {result : Except VolumeError α}
    (yields : (consult query).outcome.Yields w mishaps result v) :
    w.Undisturbed v ∧ result = (query w.store).mapError .ofStore := by
  obtain ⟨u, answer, same, answered, rfl⟩ := yields_attempt yields
  cases answered
  exact ⟨same, by rw [same.store]⟩

theorem yields_record {result : Except VolumeError Volume}
    (yields : (record id).outcome.Yields w mishaps result v) :
    w.Undisturbed v ∧ result = recordOf id (w.store.get id) := by
  rw [record, outcome_bind] at yields
  obtain ⟨_, _, first, u, -, consulted, behind⟩ := yields.of_bind
  obtain ⟨same, rfl⟩ := yields_consult consulted
  cases told : w.store.get id with
  | error error =>
    rw [told] at behind
    obtain ⟨-, rfl, rfl⟩ := behind
    exact ⟨same, rfl⟩
  | ok found =>
    rw [told] at behind
    cases found with
    | none =>
      obtain ⟨-, rfl, rfl⟩ := behind
      exact ⟨same, rfl⟩
    | some volume =>
      obtain ⟨-, rfl, rfl⟩ := behind
      exact ⟨same, rfl⟩

theorem yields_underLock {work : Operation α} {result : Except VolumeError α}
    (yields : (underLock id work).outcome.Yields w mishaps result v) :
    ∃ u inner x, w.Undisturbed u ∧ work.outcome.Yields u inner result x ∧ x.Undisturbed v := by
  obtain ⟨_, _, claim, u, -, locking, working⟩ := yields.of_bind
  obtain ⟨inner, _, found, x, -, worked, unlocking⟩ := working.of_bind
  obtain ⟨faults, _, _, _, locked, -, -, rfl, rfl⟩ := locking
  obtain ⟨others, _, _, _, unlocked, -, -, rfl, rfl⟩ := unlocking
  cases locked
  cases unlocked
  refine ⟨_, inner, x, ?_, worked, ?_⟩
  · exact (World.Undisturbed.under w faults).trans (.locks _ _)
  · exact (World.Undisturbed.under x others).trans (.locks _ _)

theorem yields_onRecord {next : Volume → Operation α} {result : Except VolumeError α}
    (yields : (underLock id do let volume ← record id; next volume).outcome.Yields w mishaps
      result v) :
    (∃ error, recordOf id (w.store.get id) = .error error ∧ result = .error error ∧
      w.Undisturbed v) ∨
    ∃ volume u inner x, w.store.get id = .ok (some volume) ∧ w.Undisturbed u ∧
      (next volume).outcome.Yields u inner result x ∧ x.Undisturbed v := by
  obtain ⟨u, _, x, locked, worked, unlocked⟩ := yields_underLock yields
  rw [outcome_bind] at worked
  obtain ⟨_, inner, found, y, -, recorded, behind⟩ := worked.of_bind
  obtain ⟨looked, rfl⟩ := yields_record recorded
  have same := locked.trans looked
  rw [locked.store] at behind
  cases told : w.store.get id with
  | error error =>
    rw [told] at behind
    obtain ⟨-, rfl, rfl⟩ := behind
    exact .inl ⟨_, rfl, rfl, same.trans unlocked⟩
  | ok found =>
    cases found with
    | none =>
      rw [told] at behind
      obtain ⟨-, rfl, rfl⟩ := behind
      exact .inl ⟨_, rfl, rfl, same.trans unlocked⟩
    | some volume =>
      rw [told] at behind
      exact .inr ⟨volume, y, inner, x, rfl, same, behind, unlocked⟩

end BlockDriver

end BlockVolumes
