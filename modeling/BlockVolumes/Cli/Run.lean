import BlockVolumes.Cli.Volumes
import BlockVolumes.Yaml.Write

/-!
Running a command line: the commands on configurations and on the daemon, and the exit status.
-/

namespace BlockVolumes.Cli

def addressText : Except ListenError ListenAddress → String
  | .ok address => address.text
  | .error error => error.message

def storeName : Config.StoreKind → String
  | .memory => "Memory"
  | .disk => "Sled"

def settingsLines (s : Config.Settings) : List String :=
  ["Current configuration:", "",
    "Driver:", "  Name: " ++ s.driver.name, "  Backing root: " ++ s.driver.backingRoot,
    "  NBD binary: " ++ s.driver.connectTool, "",
    "Listeners:", "  Plugin: " ++ addressText s.pluginListen, "  API: " ++ addressText s.apiListen,
    "  Mount base: " ++ s.plugin.mountBase, "",
    "Store:", "  Type: " ++ storeName s.store.kind] ++
  (s.store.path.map fun path => "  Path: " ++ path).toList ++
  ["", "Observability:", "  Log level: " ++ s.log.level, "  Log format: " ++ s.log.format,
    "  Metrics: " ++ s.log.metrics.getD "(disabled)"]

def pathLines (environment : Config.Environment) (given : Option String) : List String :=
  ["Configuration discovery paths:", "  1. --config flag: " ++ given.getD "(not set)",
    "  2. OPENBLOCK_CONFIG_PATH: " ++ (environment.get? Config.pathVariable).getD "(not set)",
    "  3. ./openblock-config.yaml", "  4. ~/.openblock/config.yaml",
    "  5. /etc/openblock/config.yaml", ""]

universe u

section

variable {m : Type → Type u} [Monad m]

def load (s : Surroundings m) (path : Option String) : Task m Config.Manifest := do
  orFail .load (← ExceptT.lift (Config.load s.toFileReader s.environment path))

def runConfigCommand (s : Surroundings m) (given : Option String) : ConfigCommand → Task m Unit
  | .show paths => do
    let manifest ← load s given
    if paths then sayLines s (pathLines s.environment given)
    sayLines s (settingsLines manifest.settings)
  | .validate file => do
    sayLine s "Validating configuration..."
    let manifest ← load s (file.or given)
    orFail .check manifest.check
    sayLine s (doneLine "Configuration is valid")
  | .generate output => do
    let text := Config.Manifest.shape.encodeYaml .standard
    orFail (.write output) (← ExceptT.lift (s.writeText output text))
    sayLine s (doneLine ("Configuration generated: " ++ output))

def statusLines (endpoint : String) : Except Api.ClientError (List String) → List String
  | .ok versions =>
    [doneLine "Daemon is running", "  Endpoint: " ++ endpoint,
      "  API versions: " ++ String.intercalate ", " versions]
  | .error error =>
    ["✗ Daemon is not reachable", "  Endpoint: " ++ endpoint, "  Error: " ++ oneLine error.chain]

def runDaemonCommand (s : Surroundings m) (given : Option String) (endpoint : String) :
    DaemonCommand → Task m Unit
  | .run => do
    let manifest ← load s given
    orFail .check manifest.check
    orFail .daemon (← ExceptT.lift (s.runDaemon manifest.settings))
  | .status => do
    sayLines s (statusLines endpoint (← ExceptT.lift (call s endpoint Api.Client.versions)))

def runCommand (s : Surroundings m) (i : Invocation) : Task m Unit :=
  match i.command with
  | .volume command => runVolumeCommand s i.endpoint command
  | .config command => runConfigCommand s i.config command
  | .daemon command => runDaemonCommand s i.config i.endpoint command

def usage : String := "Usage: openblock [OPTIONS] <daemon|volume|config> <COMMAND>\n"

def run (s : Surroundings m) (arguments : List String) : m Nat := do
  match Invocation.read s.environment arguments with
  | .error .usage =>
    s.complain usage
    return 2
  | .error (.help _) =>
    s.print usage
    return 0
  | .error (.version name) =>
    s.print (name ++ " " ++ programVersion ++ "\n")
    return 0
  | .ok invocation =>
    match ← (runCommand s invocation).run with
    | .ok () => return 0
    | .error failure =>
      s.complain (report failure.chain)
      return 1

end

end BlockVolumes.Cli
