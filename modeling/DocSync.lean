import DocSync.Client.Action
import DocSync.Client.Basic
import DocSync.Client.Observation
import DocSync.Config.Routing
import DocSync.Diagnostics.Action
import DocSync.Diagnostics.Snapshot
import DocSync.Document.Editing
import DocSync.Json.Printer
import DocSync.Json.Reader
import DocSync.Manager.Action
import DocSync.Proofs.Client.Claims
import DocSync.Proofs.Client.Closing
import DocSync.Proofs.Client.Debounce
import DocSync.Proofs.Client.Delivery
import DocSync.Proofs.Client.Dispatch
import DocSync.Proofs.Client.Effects
import DocSync.Proofs.Client.Farewell
import DocSync.Proofs.Client.Interference
import DocSync.Proofs.Client.Lifecycle
import DocSync.Proofs.Client.Lockstep
import DocSync.Proofs.Client.Opening
import DocSync.Proofs.Client.Parallel
import DocSync.Proofs.Client.PulledText
import DocSync.Proofs.Client.Reception
import DocSync.Proofs.Client.Recital
import DocSync.Proofs.Client.Recovery
import DocSync.Proofs.Client.Refresh
import DocSync.Proofs.Client.Refusal
import DocSync.Proofs.Client.Unfailing
import DocSync.Proofs.Client.Versions
import DocSync.Proofs.Client.View
import DocSync.Proofs.Client.WireOrder
import DocSync.Proofs.Client.Work
import DocSync.Proofs.Config.Loading
import DocSync.Proofs.Data.ByteOrder
import DocSync.Proofs.Data.Split
import DocSync.Proofs.Data.Table
import DocSync.Proofs.Diagnostics.Acceptance
import DocSync.Proofs.Diagnostics.Announcement
import DocSync.Proofs.Diagnostics.Display
import DocSync.Proofs.Diagnostics.Registry
import DocSync.Proofs.Diagnostics.Report
import DocSync.Proofs.Diagnostics.Snapshot
import DocSync.Proofs.Document.Debounce
import DocSync.Proofs.Document.Delivery
import DocSync.Proofs.Document.Handshake
import DocSync.Proofs.Document.Lifecycle
import DocSync.Proofs.Document.Pull
import DocSync.Proofs.Document.Recovery
import DocSync.Proofs.Document.Refusal
import DocSync.Proofs.Document.Registration
import DocSync.Proofs.Document.Transport
import DocSync.Proofs.Json.Reading
import DocSync.Proofs.Manager.Announcement
import DocSync.Proofs.Manager.Interference
import DocSync.Proofs.Manager.Opening
import DocSync.Proofs.Manager.Provenance
import DocSync.Proofs.Manager.Publication
import DocSync.Proofs.Manager.Refresh
import DocSync.Proofs.Manager.Shutdown
import DocSync.Proofs.Manager.Succession
import DocSync.Proofs.Server.Policy
import DocSync.Proofs.Text.Agreement
import DocSync.Proofs.Text.Flush
import DocSync.Proofs.Text.Lines
import DocSync.Proofs.Text.Offset
import DocSync.Proofs.Text.Order
import DocSync.Proofs.Text.Scan
import DocSync.Proofs.Toml.Distinct
import DocSync.Proofs.Uri.Containment
import DocSync.Proofs.Uri.Extension
import DocSync.Proofs.Uri.FilePath
import DocSync.Proofs.Uri.Normalization
import DocSync.Proofs.Uri.Percent
import DocSync.Proofs.Wire.Change
import DocSync.Proofs.Wire.Publication
import DocSync.Proofs.Wire.Report
import DocSync.Server.Feature
import DocSync.Server.Link
import DocSync.Server.Policy
import DocSync.Text.PendingChanges
import DocSync.Toml.Reader
import DocSync.Uri.Resolver
import DocSync.Wire.Notification
import DocSync.Wire.Report
import DocSync.Wire.Text
