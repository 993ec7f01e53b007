import BlockVolumes.Text.Blank

/-!
Addresses that servers listen on: the path of a socket, or a host and a port.
-/

namespace BlockVolumes

inductive ListenAddress
  | socket (path : String)
  | network (address : String)
deriving DecidableEq

/-- Both tell the address as it was given, without blanks around it. -/
inductive ListenError
  | relativeSocket (given : String)
  | noPort (given : String)
deriving DecidableEq

def ListenError.message : ListenError → String
  | .relativeSocket given => "Unix socket path must be absolute: '" ++ given ++ "'"
  | .noPort given => "Invalid listen address '" ++ given ++ "', expected host:port"

namespace ListenAddress

def socketLead : String := "unix://"

def networkLead : String := "tcp://"

def text : ListenAddress → String
  | socket path => socketLead ++ path
  | network address => networkLead ++ address

def withoutLead (lead : String) (s : List Char) : List Char := (Text.after? lead.toList s).getD s

def startsAtRoot (s : List Char) : Bool := s.head? == some '/'

/-- An address without a lead is a socket if it starts at the root, and has a port otherwise. -/
def readTrimmed (s : List Char) : Except ListenError ListenAddress :=
  match Text.after? socketLead.toList s with
  | some path =>
    if startsAtRoot path then .ok (socket (String.ofList path))
    else .error (.relativeSocket (String.ofList s))
  | none =>
    let address := withoutLead networkLead s
    if startsAtRoot address then .ok (socket (String.ofList address))
    else if ':' ∈ address then .ok (network (String.ofList address))
    else .error (.noPort (String.ofList s))

def read (s : String) : Except ListenError ListenAddress := readTrimmed (Text.trim s.toList)

end ListenAddress

end BlockVolumes
