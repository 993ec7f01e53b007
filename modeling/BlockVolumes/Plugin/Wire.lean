import BlockVolumes.Volume.Shape

/-!
What is said over the volume plugin protocol.
-/

namespace BlockVolumes.Plugin

structure VolumeRequest where
  name : String
  options : Option (Table String)
deriving DecidableEq

structure MountRequest where
  name : String
  id : String
deriving DecidableEq

/-- The outcome of a request; no error text means success. -/
structure Reply where
  error : String
deriving DecidableEq

structure PathReply where
  mountpoint : String
  error : String
deriving DecidableEq

structure VolumeInfo where
  name : String
  mountpoint : String
deriving DecidableEq

structure ListReply where
  volumes : List VolumeInfo
deriving DecidableEq

structure GetReply where
  volume : VolumeInfo
deriving DecidableEq

structure Capabilities where
  scope : String
deriving DecidableEq

structure CapabilitiesReply where
  capabilities : Capabilities
deriving DecidableEq

structure Handshake where
  implemented : List String
deriving DecidableEq

def VolumeRequest.shape : Shape VolumeRequest :=
  .record "PluginVolumeRequest"
    (defaulted "Name" "" .text <|
     defaulted "Opts" none (.optional .table) .nil)
    (fun (name, options, ()) => ⟨name, options⟩)
    (fun r => (r.name, r.options, ()))

def MountRequest.shape : Shape MountRequest :=
  .record "PluginMountRequest"
    (defaulted "Name" "" .text <|
     defaulted "ID" "" .text .nil)
    (fun (name, id, ()) => ⟨name, id⟩)
    (fun r => (r.name, r.id, ()))

def Reply.shape : Shape Reply :=
  .record "PluginResponse" (required "Err" .text .nil)
    (fun (error, ()) => ⟨error⟩)
    (fun r => (r.error, ()))

def PathReply.shape : Shape PathReply :=
  .record "PluginPathResponse"
    (required "Mountpoint" .text <|
     required "Err" .text .nil)
    (fun (mountpoint, error, ()) => ⟨mountpoint, error⟩)
    (fun r => (r.mountpoint, r.error, ()))

def VolumeInfo.shape : Shape VolumeInfo :=
  .record "PluginVolumeInfo"
    (required "Name" .text <|
     required "Mountpoint" .text .nil)
    (fun (name, mountpoint, ()) => ⟨name, mountpoint⟩)
    (fun i => (i.name, i.mountpoint, ()))

def ListReply.shape : Shape ListReply :=
  .record "PluginListResponse" (required "Volumes" (.list VolumeInfo.shape) .nil)
    (fun (volumes, ()) => ⟨volumes⟩)
    (fun r => (r.volumes, ()))

def GetReply.shape : Shape GetReply :=
  .record "PluginGetResponse" (required "Volume" VolumeInfo.shape .nil)
    (fun (volume, ()) => ⟨volume⟩)
    (fun r => (r.volume, ()))

def Capabilities.shape : Shape Capabilities :=
  .record "PluginCapabilities" (required "Scope" .text .nil)
    (fun (scope, ()) => ⟨scope⟩)
    (fun c => (c.scope, ()))

def CapabilitiesReply.shape : Shape CapabilitiesReply :=
  .record "PluginCapabilitiesResponse" (required "Capabilities" Capabilities.shape .nil)
    (fun (capabilities, ()) => ⟨capabilities⟩)
    (fun r => (r.capabilities, ()))

def Handshake.shape : Shape Handshake :=
  .record "HandshakeResponse" (required "Implements" (.list .text) .nil)
    (fun (implemented, ()) => ⟨implemented⟩)
    (fun h => (h.implemented, ()))

end BlockVolumes.Plugin
