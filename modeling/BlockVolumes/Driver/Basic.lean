import BlockVolumes.Driver.Routine
import BlockVolumes.Driver.Telemetry

/-!
Volume drivers, whatever they keep volumes in.
-/

namespace BlockVolumes

structure VolumeDriver where
  name : String
  kind : DriverKind
  create : Locator → Option Source → Spec → Operation VolumeId
  delete : VolumeId → Operation Unit
  mount : VolumeId → String → Operation Unit
  unmount : VolumeId → String → Operation Unit
  snapshot : VolumeId → Bool → Locator → Operation VolumeId
  /-- Where the data of a volume is. -/
  attach : VolumeId → Operation String
  detach : VolumeId → Operation Unit
  set : VolumeId → Option Locator → Option Spec → Operation Unit
  inspect : List VolumeId → Operation (List Volume)
  enumerate : Locator → Option Labels → Operation (List Volume)
  snapshots : List VolumeId → Option Labels → Operation (List Volume)
  mountedAt : String → Operation (Option VolumeId)
  stats : Option VolumeId → Bool → Operation Stats
  alerts : Option VolumeId → Operation Alerts
  activeRequests : Operation ActiveRequests
  shutdown : Routine Unit

end BlockVolumes
