import BlockVolumes.Cli.Invocation
import BlockVolumes.Cli.Surroundings

/-!
The commands that work on volumes over the native API.
-/

namespace BlockVolumes.Cli

def padded (width : Nat) (s : String) : String :=
  s ++ String.ofList (List.replicate (width - s.length) ' ')

def paddedBefore (width : Nat) (s : String) : String :=
  String.ofList (List.replicate (width - s.length) ' ') ++ s

def tableLine (id name size filesystem status path : String) : String :=
  String.intercalate " " [padded 38 id, padded 20 name, paddedBefore 12 size, padded 6 filesystem,
    padded 6 status, path]

def volumeLine (v : Volume) : String :=
  tableLine v.id.text v.locator.name (toString v.spec.size.toNat) v.spec.filesystem.name
    v.status.label (v.mountPath?.getD "-")

def volumeTable : List Volume → List String
  | [] => ["No volumes found"]
  | volumes =>
    tableLine "ID" "NAME" "SIZE" "FS" "STATUS" "MOUNTPATH" :: volumes.map volumeLine

def doneLine (text : String) : String := "✓ " ++ text

def createdLines (what : String) (id : VolumeId) : List String :=
  [doneLine (what ++ " created"), "  ID: " ++ id.text]

universe u

section

variable {m : Type → Type u} [Monad m] {α : Type}

def call (s : Surroundings m) (endpoint : String) (c : Api.Call α) :
    m (Except Api.ClientError α) := do
  let url := Api.baseUrl endpoint ++ c.target
  match Http.Url.read url with
  | .error fault => return .error (.badAddress c.trouble fault)
  | .ok address =>
    match ← s.send address (c.request address.uri) with
    | some reply => return c.interpret reply
    | none => return .error (.unreachable c.trouble url)

def callOrFail (s : Surroundings m) (endpoint : String) (c : Api.Call α) : Task m α := do
  orFail .client (← ExceptT.lift (call s endpoint c))

def switch (s : Surroundings m) (endpoint id : String) (action : Api.Action) : Task m Volume :=
  callOrFail s endpoint (Api.Client.set ⟨id⟩ ⟨none, none, some action⟩)

def optionalLabels : List String → Except LabelError (Option Labels)
  | [] => .ok none
  | given => (readLabels given).map some

def runVolumeCommand (s : Surroundings m) (endpoint : String) : VolumeCommand → Task m Unit
  | .create name size filesystem scale labels => do
    let size ← orFail .size (readSize size)
    let filesystem ← orFail .filesystem (Filesystem.read filesystem)
    let labels ← orFail .label (readLabels labels)
    let id ← callOrFail s endpoint
      (Api.Client.create ⟨name, labels⟩ ⟨size, filesystem, scale, .empty⟩)
    sayLines s (createdLines ("Volume " ++ name) id)
  | .list name labels => do
    let labels ← orFail .label (optionalLabels labels)
    sayLines s (volumeTable (← callOrFail s endpoint (Api.Client.enumerate name labels)))
  | .inspect id => do
    let volume ← callOrFail s endpoint (Api.Client.inspect ⟨id⟩)
    sayLine s (Volume.shape.toJson volume).pretty
  | .delete id => do
    callOrFail s endpoint (Api.Client.delete ⟨id⟩)
    sayLine s (doneLine ("Volume " ++ id ++ " deleted"))
  | .attach id => do
    let volume ← switch s endpoint id ⟨.on, .none, ""⟩
    sayLine s (doneLine ("Volume " ++ volume.id.text ++ " attached"))
  | .detach id => do
    let volume ← switch s endpoint id ⟨.off, .none, ""⟩
    sayLine s (doneLine ("Volume " ++ volume.id.text ++ " detached"))
  | .mount id path => do
    let volume ← switch s endpoint id ⟨.on, .on, path⟩
    sayLine s (doneLine ("Volume " ++ volume.id.text ++ " mounted at " ++ path))
  | .unmount id => do
    let volume ← switch s endpoint id ⟨.none, .off, ""⟩
    sayLine s (doneLine ("Volume " ++ volume.id.text ++ " unmounted"))
  | .snapshot id name readonly => do
    let snapshot ← callOrFail s endpoint (Api.Client.snapshot ⟨id⟩ ⟨name, .empty⟩ readonly)
    sayLines s (createdLines ("Snapshot " ++ name ++ " of " ++ id) snapshot)
  | .snapshots parent => do
    sayLines s (volumeTable (← callOrFail s endpoint
      (Api.Client.snapshots (parent.map VolumeId.mk))))

end

end BlockVolumes.Cli
