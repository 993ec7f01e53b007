import BlockVolumes.Text.Blank
import BlockVolumes.Volume.Basic

/-!
Labels as they are given on the command line.
-/

namespace BlockVolumes.Cli

inductive LabelError
  | notAPair (given : String)
  | noKey (given : String)
deriving DecidableEq

def LabelError.message : LabelError → String
  | .notAPair given => "Invalid label '" ++ given ++ "', expected KEY=VALUE"
  | .noKey given => "Invalid label '" ++ given ++ "', empty key"

def trimmed (s : List Char) : String := String.ofList (Text.trim s)

def readLabel (given : String) : Except LabelError (String × String) :=
  match Text.cut '=' given.toList with
  | none => .error (.notAPair given)
  | some (key, value) =>
    if trimmed key = "" then .error (.noKey given) else .ok (trimmed key, trimmed value)

def readLabels (given : List String) : Except LabelError Labels :=
  (given.mapM readLabel).map Table.ofList

end BlockVolumes.Cli
