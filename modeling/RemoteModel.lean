import RemoteModel.Cli.Run
import RemoteModel.Client.Calls
import RemoteModel.Config.Source
import RemoteModel.Diagnostic.Merge
import RemoteModel.Guards
import RemoteModel.Main
import RemoteModel.Network.Frames
import RemoteModel.Patch.Build
import RemoteModel.Proofs.Notification.Executions
import RemoteModel.Proofs.Patch.Agreement
import RemoteModel.Proofs.Patch.Move
import RemoteModel.Proofs.Subscription.Considerate
import RemoteModel.Proofs.Subscription.Standing
import RemoteModel.Proofs.Subscription.Uninterrupted
import RemoteModel.Subscription.Registry
import RemoteModel.Subscription.Socket
import RemoteModel.Subscription.Traffic
import RemoteModel.Proofs.Patch.Copying
import RemoteModel.Proofs.Patch.Standard
import RemoteModel.Proofs.Patch.Conformance
import RemoteModel.Proofs.Client.Readings
import RemoteModel.Proofs.Json.QuotedText
import RemoteModel.Proofs.Json.WrittenNumber
import RemoteModel.Proofs.Json.WrittenValue
import RemoteModel.Proofs.Envelope
import RemoteModel.Proofs.Format
import RemoteModel.Proofs.UpdateResult
import RemoteModel.Proofs.Command.Fields
import RemoteModel.Proofs.Command.RoundTrip
import RemoteModel.Proofs.Diagnostic.Trees
import RemoteModel.Proofs.Diagnostic.Pools
import RemoteModel.Proofs.Diagnostic.Merging
import RemoteModel.Proofs.Subscription.Failing
import RemoteModel.Proofs.Subscription.Lifetime
import RemoteModel.Proofs.Subscription.Isolation
import RemoteModel.Proofs.Subscription.Address
import RemoteModel.Proofs.Patch.Applicable
import RemoteModel.Proofs.Config.Loading
import RemoteModel.Proofs.Cli.Rendering
import RemoteModel.Proofs.Subscription.Sending
import RemoteModel.Proofs.Patch.Containment
import RemoteModel.Proofs.Patch.Deletion
import RemoteModel.Proofs.Patch.Undoing
import RemoteModel.Proofs.Patch.Additions
import RemoteModel.Proofs.Patch.Withdrawal
import RemoteModel.Proofs.Diagnostic.Summing
import RemoteModel.Proofs.Diagnostic.Labels
import RemoteModel.Proofs.Diagnostic.Identifiers
import RemoteModel.Proofs.Command.Building
import RemoteModel.Proofs.Client.Edits
import RemoteModel.Proofs.Client.Editing
import RemoteModel.Proofs.Patch.Search
import RemoteModel.Proofs.Subscription.Closing
import RemoteModel.Proofs.Client.Operations
