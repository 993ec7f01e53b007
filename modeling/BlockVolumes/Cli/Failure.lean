import BlockVolumes.Api.Client
import BlockVolumes.Cli.Label
import BlockVolumes.Config.Load
import BlockVolumes.Daemon.Basic
import BlockVolumes.Volume.Options

/-!
How a command fails, and how that is reported: what went wrong, and its causes below it.
-/

namespace BlockVolumes.Cli

inductive Failure
  | load (error : Config.LoadError)
  | check (error : Config.Error)
  | write (path : String) (error : IoError)
  | size (error : OptionError)
  | filesystem (error : VolumeError)
  | label (error : LabelError)
  | client (error : Api.ClientError)
  | daemon (error : Daemon.Error)

def Failure.chain : Failure → List String
  | load error => ["Failed to load configuration", error.message]
  | check error => ["Configuration validation failed", error.message]
  | write path error => ["Failed to write config to " ++ Text.quoted path, error.message]
  | size error => ["Invalid --size", error.message]
  | filesystem error => "Invalid --fs" :: error.chain
  | label error => [error.message]
  | client error => error.chain
  | daemon error => error.chain

def oneLine (chain : List String) : String := String.intercalate ": " chain

def indented (lead : String) (text : String) : String :=
  let gap := String.ofList (List.replicate lead.length ' ')
  lead ++ String.intercalate ("\n" ++ gap)
    ((Text.splitOn '\n' text.toList).map String.ofList)

def causeLines : List String → List String
  | [cause] => [indented "    " cause]
  | causes => causes.zipIdx.map fun (cause, n) =>
    let number := toString n
    indented (String.ofList (List.replicate (5 - number.length) ' ') ++ number ++ ": ") cause

def report : List String → String
  | [] => ""
  | [text] => "Error: " ++ text ++ "\n"
  | text :: causes =>
    "Error: " ++ text ++ "\n\nCaused by:\n" ++ String.intercalate "\n" (causeLines causes) ++ "\n"

end BlockVolumes.Cli
