import ShowScout.Main
import ShowScout.Proofs.Poll.Ticks
import ShowScout.Proofs.Poll.Bound
import ShowScout.Proofs.Poll.Offer
import ShowScout.Proofs.Poll.Instant
import ShowScout.Proofs.Poll.Attempts
import ShowScout.Proofs.Poll.CancelAt
import ShowScout.Proofs.Poll.Cancel
import ShowScout.Proofs.Poll.Interval
import ShowScout.Proofs.Server.Resolve
import ShowScout.Proofs.Rule.FirstMatch
import ShowScout.Proofs.Settings.Reachable
import ShowScout.Proofs.Settings.Takeover
import ShowScout.Proofs.Command.Persistence
import ShowScout.Proofs.Server.Ping
import ShowScout.Proofs.Rule.Inert
import ShowScout.Proofs.Poll.Calls
import ShowScout.Proofs.Command.Polling
import ShowScout.Proofs.Settings.Restore
import ShowScout.Proofs.Settings.Shared
import ShowScout.Proofs.Poll.Counter
import ShowScout.Proofs.Poll.Seen
import ShowScout.Proofs.Poll.Latency
import ShowScout.Proofs.Rule.Storing
import ShowScout.Proofs.Rule.Complete
import ShowScout.Proofs.Command.Switching
import ShowScout.Proofs.Settings.Selected
import ShowScout.Proofs.Server.Pages
import ShowScout.Proofs.Server.NamedScheme
import ShowScout.Proofs.Page.Title
import ShowScout.Proofs.Server.Secrecy
import ShowScout.Proofs.Rule.Editing
import ShowScout.Proofs.Settings.BackupName
import ShowScout.Proofs.CommandLine.Scan
import ShowScout.Proofs.CommandLine.GlobalOptions
import ShowScout.Proofs.CommandLine.Front
import ShowScout.Proofs.CommandLine.Moves
