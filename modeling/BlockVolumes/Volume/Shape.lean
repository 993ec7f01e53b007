import BlockVolumes.Volume.Basic

/-!
The shapes of volumes and their parts, as they are stored and sent.
-/

namespace BlockVolumes

def VolumeId.shape : Shape VolumeId := .wrapped .text VolumeId.mk VolumeId.text

def Locator.shape : Shape Locator :=
  .record "VolumeLocator"
    (defaulted "Name" "" .text <|
     defaulted "VolumeLabels" .empty .table .nil)
    (fun (name, labels, ()) => ⟨name, labels⟩)
    (fun l => (l.name, l.labels, ()))

def Filesystem.label : Filesystem → String
  | none => "NONE"
  | ext3 => "EXT3"
  | ext4 => "EXT4"
  | xfs => "XFS"
  | btrfs => "BTRFS"

def Filesystem.shape : Shape Filesystem :=
  .choice (Filesystem.all.map fun f => (f.label, f)) Filesystem.label

def Spec.shape : Shape Spec :=
  .record "VolumeSpec"
    (defaulted "Size" 0 .word64 <|
     defaulted "Format" .none Filesystem.shape <|
     defaulted "Scale" 1 .word32 <|
     defaulted "ConfigLabels" .empty .table .nil)
    (fun (size, filesystem, scale, labels, ()) => ⟨size, filesystem, scale, labels⟩)
    (fun s => (s.size, s.filesystem, s.scale, s.labels, ()))

def Source.shape : Shape Source :=
  .record "Source" (omitted "Parent" VolumeId.shape .nil)
    (fun (parent, ()) => ⟨parent⟩)
    (fun s => (s.parent, ()))

def Status.label : Status → String
  | none => "NONE"
  | up => "UP"
  | down => "DOWN"

def Status.shape : Shape Status :=
  .choice ([Status.none, .up, .down].map fun s => (s.label, s)) Status.label

def Volume.shape : Shape Volume :=
  .record "Volume"
    (required "Id" VolumeId.shape <|
     required "Locator" Locator.shape <|
     defaulted "Source" .unknown Source.shape <|
     required "Spec" Spec.shape <|
     defaulted "Status" .none Status.shape <|
     defaulted "DevicePath" "" .text <|
     defaulted "AttachPath" [] (.list .text) <|
     omitted "AttachTime" .time <|
     required "Ctime" .time .nil)
    (fun (id, locator, source, spec, status, device, paths, time, created, ()) =>
      ⟨id, locator, source, spec, status, device, paths, time, created⟩)
    (fun v => (v.id, v.locator, v.source, v.spec, v.status, v.device, v.mountPaths, v.mountTime,
      v.created, ()))

end BlockVolumes
