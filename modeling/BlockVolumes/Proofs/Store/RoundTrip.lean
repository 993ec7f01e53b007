import BlockVolumes.Proofs.Json.RoundTrip
import BlockVolumes.Store.Persistent

/-! Records read back from the bytes that are kept of them. -/

namespace BlockVolumes

theorem VolumeId.shape_faithful : VolumeId.shape.Faithful := ⟨trivial, fun _ => rfl⟩

theorem Filesystem.shape_faithful : Filesystem.shape.Faithful := by
  intro f
  cases f <;> rfl

theorem Status.shape_faithful : Status.shape.Faithful := by
  intro s
  cases s <;> rfl

theorem Locator.shape_faithful : Locator.shape.Faithful :=
  ⟨.defaulted (by decide) trivial <| .defaulted (by decide) trivial trivial,
    fun _ => rfl⟩

theorem Spec.shape_faithful : Spec.shape.Faithful :=
  ⟨.defaulted (by decide) trivial <|
    .defaulted (by decide) Filesystem.shape_faithful <|
    .defaulted (by decide) trivial <|
    .defaulted (by decide) trivial trivial,
    fun _ => rfl⟩

theorem Source.shape_faithful : Source.shape.Faithful :=
  ⟨.omitted (by decide) trivial VolumeId.shape_faithful trivial, fun _ => rfl⟩

theorem Volume.shape_faithful : Volume.shape.Faithful :=
  ⟨.required (by decide) VolumeId.shape_faithful <|
    .required (by decide) Locator.shape_faithful <|
    .defaulted (by decide) Source.shape_faithful <|
    .required (by decide) Spec.shape_faithful <|
    .defaulted (by decide) Status.shape_faithful <|
    .defaulted (by decide) trivial <|
    .defaulted (by decide) trivial <|
    .omitted (by decide) trivial trivial <|
    .required (by decide) trivial trivial,
    fun _ => rfl⟩

namespace PersistentStore

theorem readRecord_recordBytes (v : Volume) : readRecord (recordBytes v) = .ok v := by
  rw [readRecord, recordBytes, Shape.decode_bytes Volume.shape_faithful]
  rfl

end PersistentStore

end BlockVolumes
