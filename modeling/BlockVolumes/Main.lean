import BlockVolumes.Cli.Run
import BlockVolumes.Http.Exchange
import Std.Async.DNS
import Std.Async.TCP

/-!
The command line on a real system. Files, the environment and the network are those of the process.
-/

namespace BlockVolumes

open Std.Async

def errorNumber? : IO.Error → Option UInt32
  | .alreadyExists _ n _ => some n
  | .otherError n _ => some n
  | .resourceBusy n _ => some n
  | .resourceVanished n _ => some n
  | .unsupportedOperation n _ => some n
  | .hardwareFault n _ => some n
  | .unsatisfiedConstraints n _ => some n
  | .illegalOperation n _ => some n
  | .protocolError n _ => some n
  | .timeExpired n _ => some n
  | .interrupted _ n _ => some n
  | .noFileOrDirectory _ n _ => some n
  | .invalidArgument _ n _ => some n
  | .permissionDenied _ n _ => some n
  | .resourceExhausted _ n _ => some n
  | .inappropriateType _ n _ => some n
  | .noSuchThing _ n _ => some n
  | _ => none

def attempt {α : Type} (action : IO α) : IO (Except IoError α) := do
  try
    return .ok (← action)
  catch error =>
    match errorNumber? error with
    | some n => return .error (.os n.toNat)
    | none => return .error (.other (toString error))

def succeeds {α : Type} (action : IO α) : IO Bool := do
  return (← attempt action).toOption.isSome

def readWhole (path : String) : IO (Except IoError String) := do
  match ← attempt (IO.FS.readBinFile path) with
  | .error error => return .error error
  | .ok bytes =>
    match String.fromUTF8? bytes with
    | some text => return .ok text
    | none => return .error (.other "stream did not contain valid UTF-8")

def readEnvironment : IO Config.Environment := do
  let names := ["HOME", "OPENBLOCK_CONFIG_PATH", "OPENBLOCK_API", "OPENBLOCK_DRIVER_NAME",
    "OPENBLOCK_BACKING_ROOT", "OPENBLOCK_API_LISTEN", "OPENBLOCK_PLUGIN_LISTEN"]
  let mut found : List (String × String) := []
  for name in names do
    if let some value ← IO.getEnv name then
      found := (name, value) :: found
  return .ofList found

partial def receive (client : TCP.Socket.Client) (received : ByteArray) : Async ByteArray := do
  match ← client.recv? 65536 with
  | some part => receive client (received ++ part)
  | none => return received

def exchange (address : Std.Net.SocketAddress) (request : ByteArray) : Async ByteArray := do
  let client ← TCP.Socket.Client.mk
  client.connect address
  client.send request
  receive client ByteArray.empty

def socketAddress (port : UInt16) : Std.Net.IPAddr → Std.Net.SocketAddress
  | .v4 address => .v4 ⟨address, port⟩
  | .v6 address => .v6 ⟨address, port⟩

def send (url : Http.Url) (request : Http.Request) : IO (Option Http.Reply) := do
  let port := url.port.getD 80
  let talk : Async ByteArray := do
    match (← DNS.getAddrInfo url.host (toString port))[0]? with
    | some address =>
      let bytes := (request.bytes url.host).toByteArray
      exchange (socketAddress (.ofNat port) address) bytes
    | none => throw (.userError "no address")
  match ← attempt talk.block with
  | .ok bytes => return some (.ofBytes bytes.toList)
  | .error _ => return none

/-- Devices and sockets of the kernel are out of reach here, so a daemon does not get further than
its settings. -/
def runDaemon (settings : Config.Settings) : IO (Except Daemon.Error Unit) := do
  match Daemon.checkMetrics settings.log with
  | .error error => return .error error
  | .ok () => return .error (.driver (.notSupported "devices of the kernel"))

def systemSurroundings (environment : Config.Environment) : Cli.Surroundings IO where
  environment := environment
  isPresent path := succeeds (IO.FS.Handle.mk path .read)
  readText := readWhole
  writeText path text := attempt (IO.FS.writeFile path text)
  send := send
  runDaemon := runDaemon
  print text := IO.print text
  complain text := IO.eprint text

end BlockVolumes

def main (arguments : List String) : IO UInt32 := do
  let environment ← BlockVolumes.readEnvironment
  let status ← BlockVolumes.Cli.run (BlockVolumes.systemSurroundings environment) arguments
  return .ofNat status
