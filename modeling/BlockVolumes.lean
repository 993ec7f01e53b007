import BlockVolumes.Cli.Sandbox
import BlockVolumes.Json.Tree
import BlockVolumes.Main
import BlockVolumes.Proofs.Storage.Entries
import BlockVolumes.Proofs.Store.Contract
import BlockVolumes.Proofs.Driver.Bench
import BlockVolumes.Proofs.Driver.Call
import BlockVolumes.Proofs.Driver.Consistency
import BlockVolumes.Proofs.Driver.Lookup
import BlockVolumes.Proofs.Driver.Ownership
import BlockVolumes.Proofs.Plugin.Family
import BlockVolumes.Proofs.Plugin.Requests
import BlockVolumes.Proofs.Plugin.Service
import BlockVolumes.Proofs.Lock.Slots
import BlockVolumes.Proofs.Daemon.Mounts
import BlockVolumes.Proofs.Store.Agreement
import BlockVolumes.Proofs.Plugin.Unambiguous
import BlockVolumes.Proofs.Daemon.CreateAgain
import BlockVolumes.Proofs.Daemon.Records
import BlockVolumes.Proofs.Daemon.Unmounts
import BlockVolumes.Proofs.Http.Target
import BlockVolumes.Proofs.Api.Agreement
import BlockVolumes.Proofs.Driver.Linearized
import BlockVolumes.Proofs.Driver.Snapshot
import BlockVolumes.Proofs.Plugin.Status
import BlockVolumes.Proofs.Api.Change
import BlockVolumes.Proofs.Daemon.Replicas
import BlockVolumes.Proofs.Text.Trim
import BlockVolumes.Proofs.Volume.Size
import BlockVolumes.Proofs.Volume.Inline
import BlockVolumes.Proofs.Storage.Below
import BlockVolumes.Proofs.Daemon.Places
import BlockVolumes.Proofs.Driver.Phases
import BlockVolumes.Proofs.Driver.Window
import BlockVolumes.Proofs.Config.Listen
import BlockVolumes.Proofs.Plugin.Readback
import BlockVolumes.Proofs.Device.Exclusive
import BlockVolumes.Proofs.Driver.Shutdown
