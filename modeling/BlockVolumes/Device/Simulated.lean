import BlockVolumes.Device.Link
import BlockVolumes.Table

/-!
A connector that hands out device names in order and touches no kernel. It can be told to fail.
-/

namespace BlockVolumes

structure SimulatedConnector where
  next : Nat
  connected : Table String
  failConnect : Bool
  failNextDisconnect : Bool
deriving DecidableEq

namespace SimulatedConnector

def initial : SimulatedConnector := ⟨0, .empty, false, false⟩

def nameOf (index : Nat) : String := "/dev/nbd" ++ toString index

/-- A link that is connected stays as it is; any other gets a name that was never used. -/
def connect (c : SimulatedConnector) (l : Link) :
    (Except DeviceError String × Link) × SimulatedConnector :=
  if c.failConnect then ((.error (.connect l.file "injected failure"), l), c)
  else match l.device with
    | some name => ((.ok name, l), c)
    | none =>
      let name := nameOf c.next
      ((.ok name, { l with device := some name }),
        { c with next := c.next + 1, connected := c.connected.insert name l.file })

def disconnect (c : SimulatedConnector) (l : Link) :
    (Except DeviceError Unit × Link) × SimulatedConnector :=
  match l.device with
  | none => ((.error .notConnected, l), c)
  | some name =>
    if c.failNextDisconnect then
      ((.error (.disconnect name "device busy"), l), { c with failNextDisconnect := false })
    else
      ((.ok (), { l with device := none }), { c with connected := c.connected.erase name })

end SimulatedConnector

end BlockVolumes
