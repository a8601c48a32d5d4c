import AsmDiagnostics.Agenda
import AsmDiagnostics.Build.Command
import AsmDiagnostics.Build.Result
import AsmDiagnostics.Build.Waiting
import AsmDiagnostics.Config
import AsmDiagnostics.Cost
import AsmDiagnostics.Debouncer
import AsmDiagnostics.Diagnostic
import AsmDiagnostics.Documents
import AsmDiagnostics.Frame
import AsmDiagnostics.Json.Basic
import AsmDiagnostics.Json.Decode
import AsmDiagnostics.Json.Printer
import AsmDiagnostics.Json.Reader
import AsmDiagnostics.Keyed
import AsmDiagnostics.Machine.Arithmetic
import AsmDiagnostics.Machine.Clock
import AsmDiagnostics.Machine.Condition
import AsmDiagnostics.Machine.Files
import AsmDiagnostics.Machine.Mode
import AsmDiagnostics.Machine.Numeral
import AsmDiagnostics.Machine.Printing
import AsmDiagnostics.Machine.Process
import AsmDiagnostics.Machine.Regex.Basic
import AsmDiagnostics.Machine.Regex.Reader
import AsmDiagnostics.Machine.Script
import AsmDiagnostics.Machine.Script.Reader
import AsmDiagnostics.Machine.Script.Source
import AsmDiagnostics.Machine.Shell.Basic
import AsmDiagnostics.Machine.Shell.Expansion
import AsmDiagnostics.Machine.Shell.Lookup
import AsmDiagnostics.Machine.Shell.Own.Basic
import AsmDiagnostics.Machine.Shell.Own.Signals
import AsmDiagnostics.Machine.Shell.Own.Table
import AsmDiagnostics.Machine.Shell.Own.Variables
import AsmDiagnostics.Machine.Shell.Redirect
import AsmDiagnostics.Machine.Shell.Run
import AsmDiagnostics.Machine.Signal
import AsmDiagnostics.Machine.Tool.Basic
import AsmDiagnostics.Machine.Tool.Columns
import AsmDiagnostics.Machine.Tool.Copying
import AsmDiagnostics.Machine.Tool.Counting
import AsmDiagnostics.Machine.Tool.Edit
import AsmDiagnostics.Machine.Tool.Edit.Script
import AsmDiagnostics.Machine.Tool.Expression
import AsmDiagnostics.Machine.Tool.Options
import AsmDiagnostics.Machine.Tool.Ordering
import AsmDiagnostics.Machine.Tool.Search
import AsmDiagnostics.Machine.Tool.Table
import AsmDiagnostics.Machine.Tool.Transfer
import AsmDiagnostics.Machine.Tool.Tree
import AsmDiagnostics.Mailbox
import AsmDiagnostics.Main
import AsmDiagnostics.Message.Fault
import AsmDiagnostics.Message.Incoming
import AsmDiagnostics.Message.Outgoing
import AsmDiagnostics.Message.Params
import AsmDiagnostics.Number.Amount
import AsmDiagnostics.Number.Binary64
import AsmDiagnostics.Number.Duration
import AsmDiagnostics.Number.Shortest
import AsmDiagnostics.Path.Basic
import AsmDiagnostics.Path.Fold
import AsmDiagnostics.Pipeline.Basic
import AsmDiagnostics.Pipeline.Clock
import AsmDiagnostics.Pipeline.InFlight
import AsmDiagnostics.Pipeline.Legs
import AsmDiagnostics.Program
import AsmDiagnostics.Program.Basic
import AsmDiagnostics.Proofs.Agenda
import AsmDiagnostics.Proofs.Agenda.View
import AsmDiagnostics.Proofs.Build.Sequence
import AsmDiagnostics.Proofs.Build.Waiting
import AsmDiagnostics.Proofs.Debouncer
import AsmDiagnostics.Proofs.Debouncer.Firing
import AsmDiagnostics.Proofs.Debouncer.Held
import AsmDiagnostics.Proofs.Debouncer.Late
import AsmDiagnostics.Proofs.Documents.Entries
import AsmDiagnostics.Proofs.Documents.InStep
import AsmDiagnostics.Proofs.Documents.LineEnds
import AsmDiagnostics.Proofs.Documents.Positions
import AsmDiagnostics.Proofs.Documents.Splices
import AsmDiagnostics.Proofs.Frame.Grammar
import AsmDiagnostics.Proofs.Frame.Growing
import AsmDiagnostics.Proofs.Frame.Reading
import AsmDiagnostics.Proofs.Frame.RoundTrip
import AsmDiagnostics.Proofs.Frame.Truncation
import AsmDiagnostics.Proofs.Frame.Written
import AsmDiagnostics.Proofs.Message.Answers
import AsmDiagnostics.Proofs.Path.Components
import AsmDiagnostics.Proofs.Path.Folding
import AsmDiagnostics.Proofs.Path.Joining
import AsmDiagnostics.Proofs.Path.Reported
import AsmDiagnostics.Proofs.Path.Spelling
import AsmDiagnostics.Proofs.Pipeline.Alone
import AsmDiagnostics.Proofs.Pipeline.Apart
import AsmDiagnostics.Proofs.Pipeline.Bookkeeping
import AsmDiagnostics.Proofs.Pipeline.Flights
import AsmDiagnostics.Proofs.Pipeline.Freshness
import AsmDiagnostics.Proofs.Pipeline.Journey
import AsmDiagnostics.Proofs.Pipeline.Journeys
import AsmDiagnostics.Proofs.Pipeline.LastTrigger
import AsmDiagnostics.Proofs.Pipeline.Legs
import AsmDiagnostics.Proofs.Pipeline.LocalLegs
import AsmDiagnostics.Proofs.Pipeline.Outcome
import AsmDiagnostics.Proofs.Pipeline.Passing
import AsmDiagnostics.Proofs.Pipeline.Questions
import AsmDiagnostics.Proofs.Pipeline.Resting
import AsmDiagnostics.Proofs.Pipeline.Settling
import AsmDiagnostics.Proofs.Pipeline.Share
import AsmDiagnostics.Proofs.Pipeline.Standing
import AsmDiagnostics.Proofs.Pipeline.Story
import AsmDiagnostics.Proofs.Pipeline.Tidy
import AsmDiagnostics.Proofs.Pipeline.Timely
import AsmDiagnostics.Proofs.Program
import AsmDiagnostics.Proofs.Report.Composing
import AsmDiagnostics.Proofs.Report.Due
import AsmDiagnostics.Proofs.Report.Layout
import AsmDiagnostics.Proofs.Report.Pattern
import AsmDiagnostics.Proofs.Report.Reading
import AsmDiagnostics.Proofs.Report.RoundTrip
import AsmDiagnostics.Proofs.Report.Stitching
import AsmDiagnostics.Proofs.Report.Trailing
import AsmDiagnostics.Proofs.Server.Account
import AsmDiagnostics.Proofs.Server.Answered
import AsmDiagnostics.Proofs.Server.Background
import AsmDiagnostics.Proofs.Server.Ending
import AsmDiagnostics.Proofs.Server.Grounded
import AsmDiagnostics.Proofs.Server.LifeCycle
import AsmDiagnostics.Proofs.Server.Loads
import AsmDiagnostics.Proofs.Server.Mail
import AsmDiagnostics.Proofs.Server.OpenDocuments
import AsmDiagnostics.Proofs.Server.Outgoing
import AsmDiagnostics.Proofs.Server.Places
import AsmDiagnostics.Proofs.Server.Punctual
import AsmDiagnostics.Proofs.Server.Quiet
import AsmDiagnostics.Proofs.Server.Reading
import AsmDiagnostics.Proofs.Server.Refused
import AsmDiagnostics.Proofs.Server.Replies
import AsmDiagnostics.Proofs.Server.Schedule
import AsmDiagnostics.Proofs.Server.Steps
import AsmDiagnostics.Proofs.Server.Story
import AsmDiagnostics.Proofs.Server.Tally
import AsmDiagnostics.Proofs.Server.Unread
import AsmDiagnostics.Proofs.Session.Dismissal
import AsmDiagnostics.Proofs.Session.Notices
import AsmDiagnostics.Proofs.Session.Phase
import AsmDiagnostics.Proofs.Session.Refused
import AsmDiagnostics.Proofs.Session.Taking
import AsmDiagnostics.Proofs.Session.Timers
import AsmDiagnostics.Proofs.Text.Blank
import AsmDiagnostics.Proofs.Text.Boundary
import AsmDiagnostics.Proofs.Text.Decoding
import AsmDiagnostics.Proofs.Text.Digit
import AsmDiagnostics.Proofs.Text.Line
import AsmDiagnostics.Proofs.Text.Utf8
import AsmDiagnostics.Proofs.Workspace
import AsmDiagnostics.Proofs.Workspace.Echo
import AsmDiagnostics.Proofs.Workspace.Named
import AsmDiagnostics.Proofs.Workspace.Relative
import AsmDiagnostics.Report
import AsmDiagnostics.Server.Basic
import AsmDiagnostics.Server.Clock
import AsmDiagnostics.Server.Effort
import AsmDiagnostics.Session
import AsmDiagnostics.Settings
import AsmDiagnostics.Text.Blank
import AsmDiagnostics.Text.CodeTable
import AsmDiagnostics.Text.Composed
import AsmDiagnostics.Text.Composite
import AsmDiagnostics.Text.Digit
import AsmDiagnostics.Text.Line
import AsmDiagnostics.Text.Mark
import AsmDiagnostics.Text.Octet
import AsmDiagnostics.Text.Printable
import AsmDiagnostics.Text.Quoted
import AsmDiagnostics.Text.Utf8
import AsmDiagnostics.Toml.Quoted
import AsmDiagnostics.Toml.Reader
import AsmDiagnostics.Toml.Scalar
import AsmDiagnostics.Toml.Table
import AsmDiagnostics.Uri.Address
import AsmDiagnostics.Uri.Basic
import AsmDiagnostics.Uri.Domain
import AsmDiagnostics.Uri.Domain.Direction
import AsmDiagnostics.Uri.Domain.Joiner
import AsmDiagnostics.Uri.Domain.Plain
import AsmDiagnostics.Uri.Host
import AsmDiagnostics.Uri.Pathname
import AsmDiagnostics.Uri.Percent
import AsmDiagnostics.Uri.Punycode
import AsmDiagnostics.Workspace
