import BlockVolumes.Cli.Level
import BlockVolumes.Config.Override

/-!
The commands of the command line. An option that holds at every level counts where it is given
deepest; without it a variable of the environment counts, and then a standard value.
-/

namespace BlockVolumes.Cli

inductive VolumeCommand
  | create (name size filesystem : String) (scale : UInt32) (labels : List String)
  | list (name : Option String) (labels : List String)
  | inspect (id : String)
  | delete (id : String)
  | attach (id : String)
  | detach (id : String)
  | mount (id path : String)
  | unmount (id : String)
  | snapshot (id name : String) (readonly : Bool)
  | snapshots (parent : Option String)
deriving DecidableEq

inductive ConfigCommand
  | show (paths : Bool)
  | validate (file : Option String)
  | generate (output : String)
deriving DecidableEq

inductive DaemonCommand
  | run
  | status
deriving DecidableEq

inductive Command
  | volume (command : VolumeCommand)
  | config (command : ConfigCommand)
  | daemon (command : DaemonCommand)
deriving DecidableEq

structure Invocation where
  config : Option String
  endpoint : String
  command : Command
deriving DecidableEq

structure CommandSpec where
  name : String
  options : List OptionSpec
  places : List ValueKind
  build : Given → Option Command

structure Group where
  name : String
  commands : List CommandSpec

def configOption : OptionSpec := ⟨"config", some 'c', .one .path⟩

def apiOption : OptionSpec := ⟨"api", none, .one .text⟩

def levelOption : OptionSpec := ⟨"log-level", none, .one .text⟩

def globalOptions : List OptionSpec := [configOption, apiOption, levelOption]

def labelOption : OptionSpec := ⟨"label", some 'l', .many .text⟩

def buildCreate (g : Given) : Option Command := do
  let name ← g.places[0]?
  let scale ← word? ((g.get? "scale").getD "1")
  return .volume (.create name ((g.get? "size").getD "1G") ((g.get? "fs").getD "ext4") scale
    (g.all "label"))

def ofId (name : String) (command : String → VolumeCommand) : CommandSpec :=
  ⟨name, [], [.text], fun g => (g.places[0]?).map fun id => .volume (command id)⟩

def volumeGroup : Group := ⟨"volume",
  [⟨"create", [⟨"size", some 's', .one .text⟩, ⟨"fs", none, .one .text⟩,
      ⟨"scale", none, .one .word⟩, labelOption], [.text], buildCreate⟩,
   ⟨"list", [⟨"name", none, .one .text⟩, labelOption], [], fun g =>
      some (.volume (.list (g.get? "name") (g.all "label")))⟩,
   ofId "inspect" .inspect, ofId "delete" .delete, ofId "attach" .attach, ofId "detach" .detach,
   ⟨"mount", [], [.text, .text], fun g => do
      return .volume (.mount (← g.places[0]?) (← g.places[1]?))⟩,
   ofId "unmount" .unmount,
   ⟨"snapshot", [⟨"name", none, .one .text⟩, ⟨"readonly", none, .flag⟩], [.text], fun g => do
      return .volume (.snapshot (← g.places[0]?) (← g.get? "name") (g.has "readonly"))⟩,
   ⟨"snapshots", [⟨"volume", none, .one .text⟩], [], fun g =>
      some (.volume (.snapshots (g.get? "volume")))⟩]⟩

def configGroup : Group := ⟨"config",
  [⟨"show", [⟨"paths", none, .flag⟩], [], fun g => some (.config (.show (g.has "paths")))⟩,
   ⟨"validate", [], [.path], fun g => some (.config (.validate (g.places[0]?)))⟩,
   ⟨"generate", [⟨"output", some 'o', .one .path⟩], [], fun g =>
      some (.config (.generate ((g.get? "output").getD "./openblock-config.yaml")))⟩]⟩

def daemonGroup : Group := ⟨"daemon",
  [⟨"run", [], [], fun _ => some (.daemon .run)⟩,
   ⟨"status", [], [], fun _ => some (.daemon .status)⟩]⟩

def groups : List Group := [daemonGroup, volumeGroup, configGroup]

def programName : String := "openblock"

def programVersion : String := "0.3.0"

def standardEndpoint : String := "http://127.0.0.1:9005"

def topLevel : Level := ⟨programName, globalOptions, groups.map (·.name), []⟩

def Group.level (g : Group) : Level :=
  ⟨programName ++ "-" ++ g.name, globalOptions, g.commands.map (·.name), []⟩

def CommandSpec.level (c : CommandSpec) (g : Group) : Level :=
  ⟨g.level.name ++ "-" ++ c.name, c.options ++ globalOptions, [], c.places⟩

def Group.explains (g : Group) : List String → Bool
  | [] => true
  | [name] => name == "help" || g.commands.any (·.name == name)
  | _ => false

def explains : List String → Bool
  | [] => true
  | ["help"] => true
  | name :: rest => groups.any fun g => g.name == name && g.explains rest

def Stop.checked (known : List String → Bool) : Stop → Stop
  | .help about => if known about then .help about else .usage
  | stop => stop

def Level.lead (l : Level) (known : List String → Bool) (arguments : List String) :
    Except Stop (Given × String × List String) := do
  match ← (l.read .start arguments).mapError (·.checked known) with
  | (given, some (name, rest)) => return (given, name, rest)
  | (_, none) => throw .usage

def deepest (levels : List Given) (o : OptionSpec) : Option String :=
  levels.reverse.findSome? (·.get? o.long)

/-- A path in the environment must not be empty, unless no level looks at it. -/
def checkEnvironment (environment : Config.Environment) (levels : List Given) : Except Stop Unit :=
  if environment.get? "OPENBLOCK_CONFIG_PATH" = some "" ∧
      levels.any (fun g => (g.get? configOption.long).isNone) then .error .usage
  else .ok ()

def orUsage {α : Type} (value : Option α) : Except Stop α :=
  match value with
  | some value => .ok value
  | none => .error .usage

def Invocation.read (environment : Config.Environment) (arguments : List String) :
    Except Stop Invocation := do
  let (top, groupName, rest) ← topLevel.lead explains arguments
  let group ← orUsage (groups.find? (·.name = groupName))
  let (middle, commandName, rest) ← group.level.lead group.explains rest
  let spec ← orUsage (group.commands.find? (·.name = commandName))
  let (bottom, _) ← (spec.level group).read .start rest
  let command ← orUsage (spec.build bottom)
  let levels := [top, middle, bottom]
  checkEnvironment environment levels
  let config := (deepest levels configOption).or (environment.get? "OPENBLOCK_CONFIG_PATH")
  let endpoint := (deepest levels apiOption).or (environment.get? "OPENBLOCK_API")
  return ⟨config, endpoint.getD standardEndpoint, command⟩

end BlockVolumes.Cli
