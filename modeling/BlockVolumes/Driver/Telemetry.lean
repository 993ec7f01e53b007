import BlockVolumes.Volume.Shape

/-!
What drivers report about themselves: their kind, statistics, alerts and running requests.
-/

namespace BlockVolumes

inductive DriverKind
  | block
  | file
deriving DecidableEq

structure Stats where
  reads : UInt64
  readMs : UInt64
  readBytes : UInt64
  writes : UInt64
  writeMs : UInt64
  writeBytes : UInt64
  inProgress : UInt64
  ioMs : UInt64
  bytesUsed : UInt64
  intervalMs : UInt64
deriving DecidableEq

inductive Severity
  | notify
  | warning
  | alarm
deriving DecidableEq

structure Alert where
  id : UInt64
  severity : Severity
  resource : String
  text : String
  time : Time
deriving DecidableEq

structure Alerts where
  alerts : List Alert
deriving DecidableEq

structure ActiveRequest where
  operation : String
  volume : VolumeId
deriving DecidableEq

structure ActiveRequests where
  count : UInt64
  requests : List ActiveRequest
deriving DecidableEq

def DriverKind.label : DriverKind → String
  | block => "BLOCK"
  | file => "FILE"

def DriverKind.shape : Shape DriverKind :=
  .choice ([DriverKind.block, .file].map fun k => (k.label, k)) DriverKind.label

def Stats.shape : Shape Stats :=
  .record "Stats"
    (required "Reads" .word64 <|
     required "ReadMs" .word64 <|
     required "ReadBytes" .word64 <|
     required "Writes" .word64 <|
     required "WriteMs" .word64 <|
     required "WriteBytes" .word64 <|
     required "IoProgress" .word64 <|
     required "IoMs" .word64 <|
     required "BytesUsed" .word64 <|
     required "IntervalMs" .word64 .nil)
    (fun (reads, readMs, readBytes, writes, writeMs, writeBytes, inProgress, ioMs, bytesUsed,
        intervalMs, ()) =>
      ⟨reads, readMs, readBytes, writes, writeMs, writeBytes, inProgress, ioMs, bytesUsed,
        intervalMs⟩)
    (fun s => (s.reads, s.readMs, s.readBytes, s.writes, s.writeMs, s.writeBytes, s.inProgress,
      s.ioMs, s.bytesUsed, s.intervalMs, ()))

def Severity.label : Severity → String
  | notify => "NOTIFY"
  | warning => "WARNING"
  | alarm => "ALARM"

def Severity.shape : Shape Severity :=
  .choice ([Severity.notify, .warning, .alarm].map fun s => (s.label, s)) Severity.label

def Alert.shape : Shape Alert :=
  .record "Alert"
    (required "Id" .word64 <|
     required "Severity" Severity.shape <|
     required "ResourceId" .text <|
     required "Message" .text <|
     required "Timestamp" .time .nil)
    (fun (id, severity, resource, text, time, ()) => ⟨id, severity, resource, text, time⟩)
    (fun a => (a.id, a.severity, a.resource, a.text, a.time, ()))

def Alerts.shape : Shape Alerts :=
  .record "Alerts" (required "Alerts" (.list Alert.shape) .nil)
    (fun (alerts, ()) => ⟨alerts⟩)
    (fun a => (a.alerts, ()))

def ActiveRequest.shape : Shape ActiveRequest :=
  .record "ActiveRequest"
    (required "Operation" .text <|
     required "VolumeId" VolumeId.shape .nil)
    (fun (operation, volume, ()) => ⟨operation, volume⟩)
    (fun r => (r.operation, r.volume, ()))

def ActiveRequests.shape : Shape ActiveRequests :=
  .record "ActiveRequests"
    (required "RequestCount" .word64 <|
     required "ActiveRequests" (.list ActiveRequest.shape) .nil)
    (fun (count, requests, ()) => ⟨count, requests⟩)
    (fun r => (r.count, r.requests, ()))

end BlockVolumes
