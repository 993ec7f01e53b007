import BlockVolumes.Api.Wire
import BlockVolumes.Driver.Telemetry
import BlockVolumes.Plugin.Wire
import BlockVolumes.Proofs.Store.RoundTrip

/-! Everything that is kept or sent reads back from its text, also when the entries of a map come in
another order. -/

namespace BlockVolumes

namespace Api

theorem CreateRequest.shape_faithful : CreateRequest.shape.Faithful :=
  ⟨.defaulted (by decide) Locator.shape_faithful <|
    .omitted (by decide) trivial Source.shape_faithful <|
    .defaulted (by decide) Spec.shape_faithful trivial,
    fun _ => rfl⟩

theorem Outcome.shape_faithful : Outcome.shape.Faithful :=
  ⟨.defaulted (by decide) trivial trivial, fun _ => rfl⟩

theorem CreateReply.shape_faithful : CreateReply.shape.Faithful :=
  ⟨.defaulted (by decide) trivial <| .defaulted (by decide) Outcome.shape_faithful trivial,
    fun _ => rfl⟩

theorem Switch.shape_faithful : Switch.shape.Faithful := by
  intro s
  cases s <;> rfl

theorem Action.shape_faithful : Action.shape.Faithful :=
  ⟨.defaulted (by decide) Switch.shape_faithful <|
    .defaulted (by decide) Switch.shape_faithful <|
    .defaulted (by decide) trivial trivial,
    fun _ => rfl⟩

theorem SetRequest.shape_faithful : SetRequest.shape.Faithful :=
  ⟨.omitted (by decide) trivial Locator.shape_faithful <|
    .omitted (by decide) trivial Spec.shape_faithful <|
    .omitted (by decide) trivial Action.shape_faithful trivial,
    fun _ => rfl⟩

theorem SetReply.shape_faithful : SetReply.shape.Faithful :=
  ⟨.omitted (by decide) trivial Volume.shape_faithful <|
    .defaulted (by decide) Outcome.shape_faithful trivial,
    fun _ => rfl⟩

theorem SnapshotRequest.shape_faithful : SnapshotRequest.shape.Faithful :=
  ⟨.required (by decide) VolumeId.shape_faithful <|
    .defaulted (by decide) trivial <|
    .defaulted (by decide) Locator.shape_faithful trivial,
    fun _ => rfl⟩

end Api

namespace Plugin

theorem VolumeRequest.shape_faithful : VolumeRequest.shape.Faithful :=
  ⟨.defaulted (by decide) trivial <| .defaulted (by decide) ⟨trivial, trivial⟩ trivial,
    fun _ => rfl⟩

theorem MountRequest.shape_faithful : MountRequest.shape.Faithful :=
  ⟨.defaulted (by decide) trivial <| .defaulted (by decide) trivial trivial, fun _ => rfl⟩

theorem Reply.shape_faithful : Reply.shape.Faithful :=
  ⟨.required (by decide) trivial trivial, fun _ => rfl⟩

theorem PathReply.shape_faithful : PathReply.shape.Faithful :=
  ⟨.required (by decide) trivial <| .required (by decide) trivial trivial, fun _ => rfl⟩

theorem VolumeInfo.shape_faithful : VolumeInfo.shape.Faithful :=
  ⟨.required (by decide) trivial <| .required (by decide) trivial trivial, fun _ => rfl⟩

theorem ListReply.shape_faithful : ListReply.shape.Faithful :=
  ⟨.required (by decide) VolumeInfo.shape_faithful trivial, fun _ => rfl⟩

theorem GetReply.shape_faithful : GetReply.shape.Faithful :=
  ⟨.required (by decide) VolumeInfo.shape_faithful trivial, fun _ => rfl⟩

theorem Capabilities.shape_faithful : Capabilities.shape.Faithful :=
  ⟨.required (by decide) trivial trivial, fun _ => rfl⟩

theorem CapabilitiesReply.shape_faithful : CapabilitiesReply.shape.Faithful :=
  ⟨.required (by decide) Capabilities.shape_faithful trivial, fun _ => rfl⟩

theorem Handshake.shape_faithful : Handshake.shape.Faithful :=
  ⟨.required (by decide) trivial trivial, fun _ => rfl⟩

end Plugin

theorem Stats.shape_faithful : Stats.shape.Faithful :=
  ⟨.required (by decide) trivial <|
    .required (by decide) trivial <|
    .required (by decide) trivial <|
    .required (by decide) trivial <|
    .required (by decide) trivial <|
    .required (by decide) trivial <|
    .required (by decide) trivial <|
    .required (by decide) trivial <|
    .required (by decide) trivial <|
    .required (by decide) trivial trivial,
    fun _ => rfl⟩

theorem Severity.shape_faithful : Severity.shape.Faithful := by
  intro s
  cases s <;> rfl

theorem Alert.shape_faithful : Alert.shape.Faithful :=
  ⟨.required (by decide) trivial <|
    .required (by decide) Severity.shape_faithful <|
    .required (by decide) trivial <|
    .required (by decide) trivial <|
    .required (by decide) trivial trivial,
    fun _ => rfl⟩

theorem Alerts.shape_faithful : Alerts.shape.Faithful :=
  ⟨.required (by decide) Alert.shape_faithful trivial, fun _ => rfl⟩

theorem ActiveRequest.shape_faithful : ActiveRequest.shape.Faithful :=
  ⟨.required (by decide) trivial <| .required (by decide) VolumeId.shape_faithful trivial,
    fun _ => rfl⟩

theorem ActiveRequests.shape_faithful : ActiveRequests.shape.Faithful :=
  ⟨.required (by decide) trivial <|
    .required (by decide) ActiveRequest.shape_faithful trivial,
    fun _ => rfl⟩

theorem Table.insert_comm {ν : Type} (t : Table ν) {first second : String × ν}
    (apart : first.1 = second.1 → first = second) :
    (t.insert first.1 first.2).insert second.1 second.2 =
      (t.insert second.1 second.2).insert first.1 first.2 := by
  by_cases here : first.1 = second.1
  · rw [apart here]
  · apply eq_of_get?_eq
    intro query
    simp only [get?_insert]
    by_cases one : first.1 = query
    · have other : second.1 ≠ query := fun same => here (one.trans same.symm)
      simp [one, other]
    · simp [one]

theorem Table.ofList_of_perm {ν : Type} {t : Table ν} {entries : List (String × ν)}
    (order : entries.Perm t.entries) : ofList entries = t := by
  calc
    ofList entries = ofList t.entries := by
      apply order.foldl_eq'
      intro first here second there u
      exact u.insert_comm (entry_unique (order.subset here) (order.subset there))
    _ = t := t.ofList_entries

namespace Json

def mapOf (entries : List (String × String)) : Json :=
  .object (entries.map fun (key, value) => (key, .text value))

theorem read_mapOf {t : Table String} {entries : List (String × String)}
    (order : entries.Perm t.entries) (rest : Input) :
    readTable (Text.utf8 (mapOf entries).chars ++ rest) = .ok (t, rest) := by
  have noBlank : isBlank openObject = false := rfl
  have read := members_of_object (absorbs_entries entries .empty) rest rfl
  have made : entries.foldl (fun t (key, value) => t.insert key value) .empty = t :=
    Table.ofList_of_perm order
  rw [made] at read
  rw [mapOf, utf8_object, readTable, onValue_cons _ noBlank, if_pos rfl, read]
  rfl

theorem read_optional_mapOf {t : Table String} {entries : List (String × String)}
    (order : entries.Perm t.entries) (rest : Input) :
    (Shape.optional .table).read (Text.utf8 (mapOf entries).chars ++ rest) =
      .ok (some t, rest) := by
  have noBlank : isBlank openObject = false := rfl
  have notNull : openObject ≠ letterN := by decide
  have read := read_mapOf order rest
  rw [mapOf, utf8_object] at read ⊢
  simp only [Shape.read, skipBlanks_cons noBlank]
  split
  · rename_i same
    exact absurd (List.cons.inj same).1 notNull
  · rw [read]
    rfl

end Json

namespace Plugin

open Json

def VolumeRequest.ordered (name : String) (options : List (String × String)) : Json :=
  .object [("Name", .text name), ("Opts", mapOf options)]

theorem VolumeRequest.decode_ordered {t : Table String} {options : List (String × String)}
    (order : options.Perm t.entries) (name : String) :
    VolumeRequest.shape.decode (ordered name options).bytes = .ok ⟨name, some t⟩ := by
  have noBlank : isBlank openObject = false := rfl
  let fields : Fields (String × Option (Table String) × Unit) :=
    defaulted "Name" "" .text <| defaulted "Opts" none (.optional .table) .nil
  have absorbs : Absorbs fields.readMember fields.blank
      [("Name", .text name), ("Opts", mapOf options)] (some name, some (some t), ()) := by
    have later : Absorbs fields.readMember (some name, none, ()) [("Opts", mapOf options)]
        (some name, some (some t), ()) := by
      refine .one (fun rest _ => ?_) .none
      have read := read_optional_mapOf order rest
      simp [fields, defaulted, Fields.readMember, skipColon_cons, read, bind, Except.bind]
    refine .one (fun rest _ => ?_) later
    have read : Shape.text.read (Text.utf8 (Json.text name).chars ++ rest) = .ok (name, rest) :=
      readText_textChars "a string" name rest
    simp [fields, defaulted, Fields.readMember, skipColon_cons, read, bind, Except.bind]
    rfl
  have read := members_of_object absorbs [] rfl
  have shape : VolumeRequest.shape.read (Text.utf8 (ordered name options).chars) =
      .ok (⟨name, some t⟩, []) := by
    rw [← List.append_nil (Text.utf8 _), ordered, utf8_object, VolumeRequest.shape, Shape.read,
      onValue_cons _ noBlank, if_pos rfl, read]
    rfl
  rw [Json.bytes, compact, Text.toUTF8_ofList, Shape.decode, shape]
  rfl

end Plugin

def documents : List ((α : Type) × Shape α) :=
  [⟨_, VolumeId.shape⟩, ⟨_, Locator.shape⟩, ⟨_, Filesystem.shape⟩, ⟨_, Spec.shape⟩,
    ⟨_, Source.shape⟩, ⟨_, Status.shape⟩, ⟨_, Volume.shape⟩,
    ⟨_, Api.CreateRequest.shape⟩, ⟨_, Api.Outcome.shape⟩, ⟨_, Api.CreateReply.shape⟩,
    ⟨_, Api.Switch.shape⟩, ⟨_, Api.Action.shape⟩, ⟨_, Api.SetRequest.shape⟩,
    ⟨_, Api.SetReply.shape⟩, ⟨_, Api.SnapshotRequest.shape⟩,
    ⟨_, Plugin.VolumeRequest.shape⟩, ⟨_, Plugin.MountRequest.shape⟩, ⟨_, Plugin.Reply.shape⟩,
    ⟨_, Plugin.PathReply.shape⟩, ⟨_, Plugin.VolumeInfo.shape⟩, ⟨_, Plugin.ListReply.shape⟩,
    ⟨_, Plugin.GetReply.shape⟩, ⟨_, Plugin.Capabilities.shape⟩,
    ⟨_, Plugin.CapabilitiesReply.shape⟩, ⟨_, Plugin.Handshake.shape⟩,
    ⟨_, Stats.shape⟩, ⟨_, Severity.shape⟩, ⟨_, Alert.shape⟩, ⟨_, Alerts.shape⟩,
    ⟨_, ActiveRequest.shape⟩, ⟨_, ActiveRequests.shape⟩]

theorem faithful_documents : ∀ document ∈ documents, document.2.Faithful := by
  simp only [documents, List.forall_mem_cons]
  exact ⟨VolumeId.shape_faithful, Locator.shape_faithful, Filesystem.shape_faithful,
    Spec.shape_faithful, Source.shape_faithful, Status.shape_faithful, Volume.shape_faithful,
    Api.CreateRequest.shape_faithful, Api.Outcome.shape_faithful, Api.CreateReply.shape_faithful,
    Api.Switch.shape_faithful, Api.Action.shape_faithful, Api.SetRequest.shape_faithful,
    Api.SetReply.shape_faithful, Api.SnapshotRequest.shape_faithful,
    Plugin.VolumeRequest.shape_faithful, Plugin.MountRequest.shape_faithful,
    Plugin.Reply.shape_faithful, Plugin.PathReply.shape_faithful,
    Plugin.VolumeInfo.shape_faithful, Plugin.ListReply.shape_faithful,
    Plugin.GetReply.shape_faithful, Plugin.Capabilities.shape_faithful,
    Plugin.CapabilitiesReply.shape_faithful, Plugin.Handshake.shape_faithful,
    Stats.shape_faithful, Severity.shape_faithful, Alert.shape_faithful, Alerts.shape_faithful,
    ActiveRequest.shape_faithful, ActiveRequests.shape_faithful, List.forall_mem_nil _⟩

/-- A value is read back from its text, and so is the value of any text that can be read once it is
written again. A request reads back in whatever order its options are written. -/
theorem reads_back {document : (α : Type) × Shape α} (known : document ∈ documents) :
    (∀ value, document.2.decode (document.2.toJson value).bytes = .ok value) ∧
    (∀ text value, document.2.decode text = .ok value →
      document.2.decode (document.2.toJson value).bytes = .ok value) ∧
    ∀ name t (options : List (String × String)), options.Perm t.entries →
      Plugin.VolumeRequest.shape.decode (Plugin.VolumeRequest.ordered name options).bytes =
        .ok ⟨name, some t⟩ := by
  have written (value) : document.2.decode (document.2.toJson value).bytes = .ok value :=
    Shape.decode_bytes (faithful_documents document known) value
  refine ⟨written, ?_, ?_⟩
  · intro text value _
    exact written value
  · intro name t options order
    exact Plugin.VolumeRequest.decode_ordered order name

def wornSnapshot : Volume where
  id := ⟨"copy"⟩
  locator := ⟨"\"größe\"\n\t\x01", Table.empty.insert "" "\\"⟩
  source := ⟨some ⟨"first"⟩⟩
  spec := ⟨18446744073709551615, .xfs, 4294967295, .empty⟩
  status := .up
  device := "/dev/nbd7"
  mountPaths := ["/mnt/data"]
  mountTime := some (.ofTicks 1700000000000000001)
  created := .ofTicks 1

theorem reads_back_snapshot :
    (⟨Volume, Volume.shape⟩ : (α : Type) × Shape α) ∈ documents ∧
      Volume.shape.decode (Volume.shape.toJson wornSnapshot).bytes = .ok wornSnapshot := by
  have known : (⟨Volume, Volume.shape⟩ : (α : Type) × Shape α) ∈ documents := by
    simp [documents]
  exact ⟨known, (reads_back known).1 wornSnapshot⟩

end BlockVolumes
