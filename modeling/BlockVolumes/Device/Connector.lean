import BlockVolumes.Device.Kernel
import BlockVolumes.Device.Simulated

/-!
What connects links: a simulation or the kernel.
-/

namespace BlockVolumes

inductive Connector
  | simulated (connector : SimulatedConnector)
  | kernel (connector : KernelConnector)

namespace Connector

/-- Whether or not it fails, a call leaves a link and a connector. -/
def connect : Connector → Link → (Except DeviceError String × Link) × Connector
  | simulated c, l => (c.connect l).map id simulated
  | kernel c, l => (c.connect l).map id kernel

def disconnect : Connector → Link → (Except DeviceError Unit × Link) × Connector
  | simulated c, l => (c.disconnect l).map id simulated
  | kernel c, l => (c.disconnect l).map id kernel

end Connector

end BlockVolumes
