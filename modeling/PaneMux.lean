import PaneMux.Agent.Marker
import PaneMux.Agent.Status
import PaneMux.Agent.Tracker
import PaneMux.Cli.Arguments
import PaneMux.Cli.Client
import PaneMux.Cli.Invocation
import PaneMux.Config.Basic
import PaneMux.Config.Settings
import PaneMux.Daemon.Command
import PaneMux.Daemon.Server
import PaneMux.Daemon.Service
import PaneMux.Daemon.Site
import PaneMux.Daemon.Socket
import PaneMux.Error
import PaneMux.Host.Basic
import PaneMux.Host.Files
import PaneMux.Host.Hosted
import PaneMux.Host.Launch
import PaneMux.Host.Machine
import PaneMux.Host.Process.Basic
import PaneMux.Host.Process.Builtins
import PaneMux.Host.Process.Programs
import PaneMux.Host.Process.Run
import PaneMux.Host.Script.Basic
import PaneMux.Host.Script.Expansion
import PaneMux.Host.Script.Matching
import PaneMux.Host.Script.Printing
import PaneMux.Host.Script.Reader
import PaneMux.Host.Tty
import PaneMux.Json.Decode
import PaneMux.Json.Form
import PaneMux.Json.Number
import PaneMux.Json.Printer
import PaneMux.Json.Reader
import PaneMux.Json.Token
import PaneMux.Json.Value
import PaneMux.Main
import PaneMux.Metrics.Sample
import PaneMux.Metrics.Sampler
import PaneMux.Number.Binary64
import PaneMux.Pane.Basic
import PaneMux.Pane.Table
import PaneMux.Pattern.Basic
import PaneMux.Pattern.Reader
import PaneMux.Proofs.Agent.Changes
import PaneMux.Proofs.Agent.Listing
import PaneMux.Proofs.Agent.Occurrences
import PaneMux.Proofs.Agent.Scanning
import PaneMux.Proofs.Daemon.Refusal
import PaneMux.Proofs.Entries
import PaneMux.Proofs.History.Belonging
import PaneMux.Proofs.History.Exits
import PaneMux.Proofs.History.Lives
import PaneMux.Proofs.History.Mirror
import PaneMux.Proofs.History.Renames
import PaneMux.Proofs.History.Rows
import PaneMux.Proofs.History.Windows
import PaneMux.Proofs.Json.Canonical
import PaneMux.Proofs.Json.Decoding
import PaneMux.Proofs.Json.Lexing
import PaneMux.Proofs.Json.Reading
import PaneMux.Proofs.Json.Yields
import PaneMux.Proofs.Keyed
import PaneMux.Proofs.Metrics.Panes
import PaneMux.Proofs.Metrics.Rounds
import PaneMux.Proofs.Pane.Creations
import PaneMux.Proofs.Pane.Frame
import PaneMux.Proofs.Pane.Lifecycle
import PaneMux.Proofs.Registry.Action
import PaneMux.Proofs.Registry.Aftermath
import PaneMux.Proofs.Registry.Cascade
import PaneMux.Proofs.Registry.Chronology
import PaneMux.Proofs.Registry.Effects
import PaneMux.Proofs.Registry.Ownership
import PaneMux.Proofs.Registry.Racing
import PaneMux.Proofs.Registry.Replay
import PaneMux.Proofs.Resize.Debounce
import PaneMux.Proofs.Resize.Timeline
import PaneMux.Proofs.Scrollback.Account
import PaneMux.Proofs.Scrollback.Conservation
import PaneMux.Proofs.Scrollback.Retention
import PaneMux.Proofs.Scrollback.Search
import PaneMux.Proofs.Scrollback.Tail
import PaneMux.Proofs.Settings.Overrides
import PaneMux.Proofs.Settings.Restart
import PaneMux.Proofs.Settings.RoundTrip
import PaneMux.Proofs.Settings.Values
import PaneMux.Proofs.Sorted
import PaneMux.Proofs.Store.SetUp
import PaneMux.Proofs.Stream.Accounting
import PaneMux.Proofs.Stream.Answers
import PaneMux.Proofs.Stream.Ending
import PaneMux.Proofs.Stream.Isolation
import PaneMux.Proofs.Stream.Ledger
import PaneMux.Proofs.Stream.Losses
import PaneMux.Proofs.Stream.Opening
import PaneMux.Proofs.Stream.Sequence
import PaneMux.Proofs.Text.Digits
import PaneMux.Proofs.Text.Paths
import PaneMux.Proofs.Text.Utf8
import PaneMux.Proofs.Time.Calendar
import PaneMux.Proofs.Time.Rfc3339
import PaneMux.Proofs.Time.Stamps
import PaneMux.Proofs.Wire.Framing
import PaneMux.Proofs.Wire.PumpMoves
import PaneMux.Proofs.Wire.PumpOrder
import PaneMux.Proofs.Wire.Requests
import PaneMux.Proofs.Wire.RoundTrip
import PaneMux.Proofs.Wire.Stopping
import PaneMux.Proofs.Wire.Traffic
import PaneMux.Session.Basic
import PaneMux.Session.Registry
import PaneMux.Store.Basic
import PaneMux.Store.History
import PaneMux.Store.Recorder
import PaneMux.Store.Settings
import PaneMux.Terminal.Event
import PaneMux.Terminal.Geometry
import PaneMux.Terminal.Process
import PaneMux.Terminal.Resize
import PaneMux.Terminal.Scrollback
import PaneMux.Terminal.Stream
import PaneMux.Terminal.Transcript
import PaneMux.Text.Blank
import PaneMux.Text.Decimal
import PaneMux.Text.Hex
import PaneMux.Text.Path
import PaneMux.Text.Printable
import PaneMux.Text.Quoted
import PaneMux.Text.Utf8
import PaneMux.Time.Calendar
import PaneMux.Time.Instant
import PaneMux.Time.Rfc3339
import PaneMux.Time.Wait
import PaneMux.Wire.Connection
import PaneMux.Wire.Forms
import PaneMux.Wire.Inbox
import PaneMux.Wire.Message
import PaneMux.Wire.Pump
import PaneMux.Wire.Request
