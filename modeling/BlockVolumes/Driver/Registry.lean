import BlockVolumes.Driver.Basic
import BlockVolumes.Text.Quoted

/-!
Drivers by name.
-/

namespace BlockVolumes

inductive RegistryError
  | notFound (name : String)
  | alreadyRegistered (name : String)
deriving DecidableEq

def RegistryError.kind : RegistryError → String
  | .notFound _ => "NotFound"
  | .alreadyRegistered _ => "AlreadyRegistered"

def RegistryError.message : RegistryError → String
  | .notFound name => "Driver " ++ name ++ " not found"
  | .alreadyRegistered name => "Driver " ++ name ++ " is already registered"

structure DriverRegistry where
  drivers : Table VolumeDriver

namespace DriverRegistry

def empty : DriverRegistry := ⟨.empty⟩

def register (r : DriverRegistry) (driver : VolumeDriver) : Except RegistryError DriverRegistry :=
  if r.drivers.contains driver.name then .error (.alreadyRegistered driver.name)
  else .ok ⟨r.drivers.insert driver.name driver⟩

def get (r : DriverRegistry) (name : String) : Except RegistryError VolumeDriver :=
  match r.drivers.get? name with
  | some driver => .ok driver
  | none => .error (.notFound name)

def names (r : DriverRegistry) : List String := r.drivers.keys

def description (r : DriverRegistry) : String :=
  "DriverRegistry \x7b drivers: [" ++ String.intercalate ", " (r.names.map Text.quoted) ++ "] \x7d"

end DriverRegistry

/-- A machine and the drivers on it, each with its own part under its name. -/
structure Fleet where
  registry : DriverRegistry
  holdings : Table Holdings
  machine : Machine

namespace Fleet

/-- The world as the named driver sees it. -/
def worldOf (f : Fleet) (name : String) : World :=
  .of ((f.holdings.get? name).getD (.fresh .inMemory (.simulated .initial) (.recording .initial)))
    f.machine

def run {α : Type} (f : Fleet) (name : String) (routine : Routine α) : α × Fleet :=
  let (answer, w) := routine.run (f.worldOf name)
  (answer, { f with holdings := f.holdings.insert name w.toHoldings, machine := w.toMachine })

def register (f : Fleet) (driver : VolumeDriver) (holdings : Holdings) :
    Except RegistryError Fleet := do
  let registry ← f.registry.register driver
  return { f with registry, holdings := f.holdings.insert driver.name holdings }

def shutDown (f : Fleet) : List VolumeDriver → Fleet
  | [] => f
  | driver :: rest => (f.run driver.name driver.shutdown).2.shutDown rest

def shutDownAll (f : Fleet) : Fleet :=
  { f with registry := .empty }.shutDown f.registry.drivers.values

end Fleet

end BlockVolumes
