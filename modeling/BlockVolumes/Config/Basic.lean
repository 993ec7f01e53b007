import BlockVolumes.Shape.Basic

/-!
The configuration of the daemon: a versioned manifest with the settings of each of its parts. Every
setting has a standard value.
-/

namespace BlockVolumes.Config

structure DriverSettings where
  name : String
  backingRoot : String
  /-- The program that connects backing files to devices. -/
  connectTool : String
deriving DecidableEq

/-- Without an address of its own, the plugin listens at a socket named for the driver. -/
structure PluginSettings where
  listen : Option String
  mountBase : String
deriving DecidableEq

structure ApiSettings where
  listen : String
deriving DecidableEq

inductive StoreKind
  | memory
  | disk
deriving DecidableEq

structure StoreSettings where
  kind : StoreKind
  path : Option String
deriving DecidableEq

structure LogSettings where
  level : String
  format : String
  metrics : Option String
deriving DecidableEq

structure Settings where
  driver : DriverSettings
  plugin : PluginSettings
  api : ApiSettings
  store : StoreSettings
  log : LogSettings
deriving DecidableEq

structure Metadata where
  name : String
  labels : Option (Table String)
deriving DecidableEq

structure Manifest where
  version : String
  kind : String
  metadata : Metadata
  settings : Settings
deriving DecidableEq

def DriverSettings.standard : DriverSettings := ⟨"nbd", "/var/lib/openblock/nbd", "qemu-nbd"⟩

def PluginSettings.standard : PluginSettings := ⟨none, "/var/lib/openblock/mounts"⟩

def ApiSettings.standard : ApiSettings := ⟨"tcp://127.0.0.1:9005"⟩

def StoreSettings.standard : StoreSettings := ⟨.memory, none⟩

def LogSettings.standard : LogSettings := ⟨"info", "compact", none⟩

def Settings.standard : Settings := ⟨.standard, .standard, .standard, .standard, .standard⟩

namespace Manifest

def knownVersion : String := "openblock.io/v1"

def knownKind : String := "DaemonConfig"

def standard : Manifest := ⟨knownVersion, knownKind, ⟨"openblock", none⟩, .standard⟩

end Manifest

def DriverSettings.shape : Shape DriverSettings :=
  .record "DriverConfig"
    (defaulted "name" standard.name .text <|
     defaulted "backing_root" standard.backingRoot .path <|
     defaulted "nbd_binary" standard.connectTool .text .nil)
    (fun (name, root, tool, ()) => ⟨name, root, tool⟩)
    (fun s => (s.name, s.backingRoot, s.connectTool, ()))

def PluginSettings.shape : Shape PluginSettings :=
  .record "PluginConfig"
    (omitted "listen" .text <|
     defaulted "mount_base" standard.mountBase .path .nil)
    (fun (listen, base, ()) => ⟨listen, base⟩)
    (fun s => (s.listen, s.mountBase, ()))

def ApiSettings.shape : Shape ApiSettings :=
  .record "ApiConfig" (defaulted "listen" standard.listen .text .nil)
    (fun (listen, ()) => ⟨listen⟩)
    (fun s => (s.listen, ()))

def StoreKind.label : StoreKind → String
  | memory => "memory"
  | disk => "sled"

def StoreKind.shape : Shape StoreKind :=
  .choice ([StoreKind.memory, .disk].map fun k => (k.label, k)) StoreKind.label

def StoreSettings.shape : Shape StoreSettings :=
  .record "StoreConfig"
    (defaulted "type" standard.kind StoreKind.shape <|
     omitted "path" .path .nil)
    (fun (kind, path, ()) => ⟨kind, path⟩)
    (fun s => (s.kind, s.path, ()))

def LogSettings.shape : Shape LogSettings :=
  .record "ObservabilityConfig"
    (defaulted "log_level" standard.level .text <|
     defaulted "log_format" standard.format .text <|
     omitted "metrics_listen" .text .nil)
    (fun (level, format, metrics, ()) => ⟨level, format, metrics⟩)
    (fun s => (s.level, s.format, s.metrics, ()))

def Settings.shape : Shape Settings :=
  .record "DaemonConfigSpec"
    (defaulted "driver" .standard DriverSettings.shape <|
     defaulted "plugin" .standard PluginSettings.shape <|
     defaulted "api" .standard ApiSettings.shape <|
     defaulted "store" .standard StoreSettings.shape <|
     defaulted "observability" .standard LogSettings.shape .nil)
    (fun (driver, plugin, api, store, log, ()) => ⟨driver, plugin, api, store, log⟩)
    (fun s => (s.driver, s.plugin, s.api, s.store, s.log, ()))

/-- The labels of a manifest may be left out where it has keys, but not where it is a sequence. -/
def Metadata.shape : Shape Metadata :=
  .record "ManifestMetadata"
    (required "name" .text <|
     .cons ⟨"labels", some none, none, Option.isNone⟩ (.optional .table) .nil)
    (fun (name, labels, ()) => ⟨name, labels⟩)
    (fun m => (m.name, m.labels, ()))

def Manifest.shape : Shape Manifest :=
  .record "DaemonConfigManifest"
    (required "apiVersion" .text <|
     required "kind" .text <|
     required "metadata" Metadata.shape <|
     defaulted "spec" .standard Settings.shape .nil)
    (fun (version, kind, metadata, settings, ()) => ⟨version, kind, metadata, settings⟩)
    (fun m => (m.version, m.kind, m.metadata, m.settings, ()))

end BlockVolumes.Config
