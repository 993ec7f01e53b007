import BlockVolumes.Device.Connector
import BlockVolumes.Device.Registry
import BlockVolumes.Host.Basic
import BlockVolumes.Lock.Table
import BlockVolumes.Storage.Files
import BlockVolumes.Store.Basic

/-!
What a driver acts on: a part of its own, and the machine that it shares with other drivers.
-/

namespace BlockVolumes

/-- A driver's own part. `volumeLocks` are held while a volume is worked on, `nameLocks` while a
volume name is. -/
structure Holdings where
  store : Store
  connector : Connector
  host : Host
  devices : DeviceRegistry
  volumeLocks : LockTable
  nameLocks : LockTable

/-- `ids` are the IDs that new volumes get, of which `drawn` are gone; `times` are what the clock
shows, reading after reading, of which `clock` are gone. -/
structure Machine where
  files : Files
  ids : Nat → VolumeId
  drawn : Nat
  times : Nat → Time
  clock : Nat

structure World extends Holdings, Machine

def Holdings.fresh (store : Store) (connector : Connector) (host : Host) : Holdings :=
  ⟨store, connector, host, .empty, .empty, .empty⟩

def World.of (holdings : Holdings) (machine : Machine) : World := ⟨holdings, machine⟩

end BlockVolumes
