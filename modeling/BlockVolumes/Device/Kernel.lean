import BlockVolumes.Device.Link
import BlockVolumes.Host.Tool
import BlockVolumes.Text.Path

/-!
A connector that has a tool connect the kernel's devices. The kernel numbers its devices from zero;
the first one missing ends the search for a free one.
-/

namespace BlockVolumes

/-- `settle` is what a run of the tool with some arguments makes of the busy devices. -/
structure KernelConnector where
  directory : String
  present : List String
  busy : List String
  tool : Tool
  settle : List String → List String → List String
  calls : List (List String)

namespace KernelConnector

def limit : Nat := 128

def nameOf (index : Nat) : String := "nbd" ++ toString index

/-- Looks at `count` devices from `index` on. -/
def search (c : KernelConnector) (index : Nat) : (count : Nat) → Except DeviceError String
  | 0 => .error .noFreeDevice
  | count + 1 =>
    if nameOf index ∉ c.present then .error .noFreeDevice
    else if nameOf index ∉ c.busy then .ok (Path.join c.directory (nameOf index))
    else c.search (index + 1) count

def freeDevice (c : KernelConnector) : Except DeviceError String := c.search 0 limit

/-- Runs the tool; the error says why it did not do its work. -/
def call (c : KernelConnector) (arguments : List String) : Except String Unit × KernelConnector :=
  match c.tool.run arguments with
  | .error error => (.error ("failed to run " ++ c.tool.path ++ ": " ++ error.message), c)
  | .ok run =>
    let called := { c with calls := c.calls ++ [arguments], busy := c.settle arguments c.busy }
    if run.status = .success then (.ok (), called) else (.error run.reason, called)

def connect (c : KernelConnector) (l : Link) :
    (Except DeviceError String × Link) × KernelConnector :=
  match l.device with
  | some name => ((.ok name, l), c)
  | none =>
    match c.freeDevice with
    | .error error => ((.error error, l), c)
    | .ok name =>
      match c.call ["--connect=" ++ name, "--format=raw", l.file] with
      | (.ok (), called) => ((.ok name, { l with device := some name }), called)
      | (.error reason, called) => ((.error (.connect l.file reason), l), called)

def disconnect (c : KernelConnector) (l : Link) :
    (Except DeviceError Unit × Link) × KernelConnector :=
  match l.device with
  | none => ((.error .notConnected, l), c)
  | some name =>
    match c.call ["--disconnect", name] with
    | (.ok (), called) => ((.ok (), { l with device := none }), called)
    | (.error reason, called) => ((.error (.disconnect name reason), l), called)

end KernelConnector

end BlockVolumes
