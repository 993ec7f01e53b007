import BlockVolumes.Proofs.Driver.Upkeep

/-! The calls that a driver serves, how each of them can end, and the worlds that calls lead to. -/

namespace BlockVolumes

open Operation

inductive Call
  | init
  | create (locator : Locator) (source : Option Source) (spec : Spec)
  | delete (id : VolumeId)
  | mount (id : VolumeId) (path : String)
  | unmount (id : VolumeId) (path : String)
  | snapshot (id : VolumeId) (readonly : Bool) (locator : Locator)
  | set (id : VolumeId) (locator : Option Locator) (spec : Option Spec)
  | attach (id : VolumeId)
  | detach (id : VolumeId)

namespace Call

variable {α : Type} {d : BlockDriver} {b : Bench}

def makes : Call → Bool
  | create _ _ _ => true
  | snapshot _ _ _ => true
  | _ => false

def operation (d : BlockDriver) : Call → Operation Unit
  | init => d.init
  | create locator source spec => do
    let _ ← d.toVolumeDriver.create locator source spec
  | delete id => d.toVolumeDriver.delete id
  | mount id path => d.toVolumeDriver.mount id path
  | unmount id path => d.toVolumeDriver.unmount id path
  | snapshot id readonly locator => do
    let _ ← d.toVolumeDriver.snapshot id readonly locator
  | set id locator spec => d.toVolumeDriver.set id locator spec
  | attach id => do
    let _ ← d.toVolumeDriver.attach id
  | detach id => d.toVolumeDriver.detach id

/-- Whether an operation with a value can end like one without. -/
def Valued (ends : List Mishap → Except VolumeError α → Bench → Prop) (mishaps : List Mishap)
    (result : Except VolumeError Unit) (c : Bench) : Prop :=
  ∃ full, ends mishaps full c ∧ result = full.map fun _ => ()

def Ends (d : BlockDriver) (b : Bench) :
    Call → List Mishap → Except VolumeError Unit → Bench → Prop
  | init => BlockDriver.Started d b
  | create locator source spec => Valued (BlockDriver.Created d b locator source spec)
  | delete id => BlockDriver.Deleted id b
  | mount id path => BlockDriver.Mounted id path b
  | unmount id _ => BlockDriver.Unmounted id b
  | snapshot id _ locator => Valued (BlockDriver.Copied d b id locator)
  | set id locator spec => BlockDriver.Changed id locator b spec
  | attach id => Valued (BlockDriver.Attached d id b)
  | detach id => BlockDriver.Detached id b

theorem leads_valued {operation : Operation α}
    {ends : List Mishap → Except VolumeError α → Bench → Prop}
    (leads : operation.outcome.Leads b ends) :
    (do let _ ← operation : Operation Unit).outcome.Leads b (Valued ends) := by
  apply leads_bind.2
  apply leads.mono
  intro mishaps full c reached
  cases full with
  | ok value => simpa [andThen, leads_pure] using ⟨_, reached, rfl⟩
  | error error => exact ⟨_, reached, rfl⟩

theorem leads (call : Call) (unused : b.NamesUnused) (own : b.OwnIds) :
    (call.operation d).outcome.Leads b (call.Ends d b) := by
  cases call with
  | init => exact BlockDriver.leads_init own
  | create => exact leads_valued (BlockDriver.leads_create unused)
  | delete => exact BlockDriver.leads_delete
  | mount => exact BlockDriver.leads_mount own
  | unmount => exact BlockDriver.leads_unmount own
  | snapshot => exact leads_valued (BlockDriver.leads_snapshot unused)
  | set _ _ spec => exact BlockDriver.leads_set spec own
  | attach => exact leads_valued BlockDriver.leads_attach
  | detach => exact BlockDriver.leads_detach

end Call

structure Attempt where
  call : Call
  mishaps : List Mishap
  result : Except VolumeError Unit

inductive Reaches (d : BlockDriver) (start : World) : List Attempt → World → Prop
  | start : Reaches d start [] start
  | call {history : List Attempt} {attempt : Attempt} {w v : World}
      (reached : Reaches d start history w)
      (yields : (attempt.call.operation d).outcome.Yields w attempt.mishaps attempt.result v) :
    Reaches d start (history ++ [attempt]) v

def Bench.ofRecords (records : Table Volume) : Bench where
  kind := .memory
  records := records
  devices := .empty
  next := 0
  connected := .empty
  formatted := []
  mounts := []
  files := .empty
  ids n := ⟨"volume" ++ toString n⟩
  drawn := 0
  times := Time.ofTicks
  clock := 0

theorem Bench.isName_ofRecords (records : Table Volume) (n : Nat) :
    Path.IsName ((Bench.ofRecords records).ids n).text.toList := by
  have name := Path.isName_numbered 'v' "olume".toList (by decide) (by decide) n
  simpa [Bench.ofRecords] using name

def Moment.calm : Moment := ⟨.none, .empty, .empty⟩

end BlockVolumes
