import BlockVolumes.Config.Listen
import BlockVolumes.Network.Address
import BlockVolumes.Storage.Access
import BlockVolumes.Text.Quoted

/-!
Listening at an address. A socket replaces whatever file is in its place, and leaves nothing behind.
-/

namespace BlockVolumes

inductive BindFault
  | directory (path : String) (error : IoError)
  | address (error : IoError)

structure BindError where
  server : String
  address : ListenAddress
  fault : BindFault

def BindFault.chain : BindFault → List String
  | directory path error =>
    ["Failed to create socket directory " ++ Text.quoted path, error.message]
  | address error => [error.message]

def BindError.chain (e : BindError) : List String :=
  let place := match e.address with
    | .socket path => Text.quoted path
    | .network address => address
  ("Failed to bind " ++ e.server ++ " server to " ++ place) :: e.fault.chain

namespace ListenAddress

def socketLimit : Nat := 108

def bindSocket (files : Files) (path : String) : Except BindFault Files := do
  let files ← match Path.directory? path with
    | some directory => (files.makeDirectories directory).mapError (.directory directory)
    | none => .ok files
  let files ←
    if files.isPresent "/" path then (files.remove path).mapError .address else .ok files
  if socketLimit ≤ path.utf8ByteSize then
    throw (.address (.other "path must be shorter than SUN_LEN"))
  if Path.endsOpen path then throw (.address .notFound)
  return files.put path .empty

def bind (a : ListenAddress) (server : String) (files : Files) : Except BindError Files :=
  (match a with
    | socket path => bindSocket files path
    | network address =>
      match Network.resolve address with
      | .ok () => .ok files
      | .error error => .error (.address error)).mapError (⟨server, a, ·⟩)

def release (a : ListenAddress) (files : Files) : Files :=
  match a with
  | socket path =>
    match files.remove path with
    | .ok files => files
    | .error _ => files
  | network _ => files

end ListenAddress

end BlockVolumes
