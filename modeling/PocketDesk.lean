import PocketDesk.CommandLine.EchoHost
import PocketDesk.CommandLine.Options
import PocketDesk.CommandLine.Run
import PocketDesk.Content.BuiltIn
import PocketDesk.Content.DocPage
import PocketDesk.Content.Product
import PocketDesk.Decimal.FloatText
import PocketDesk.Decimal.Shortest
import PocketDesk.Desktop.Effects
import PocketDesk.Desktop.Host
import PocketDesk.Desktop.Icon
import PocketDesk.Desktop.Manager
import PocketDesk.Desktop.Notice
import PocketDesk.Desktop.Recorder
import PocketDesk.Desktop.Snapshot.Basic
import PocketDesk.Desktop.Snapshot.Printer
import PocketDesk.Desktop.Snapshot.Reader
import PocketDesk.Desktop.Startup
import PocketDesk.Desktop.Storage
import PocketDesk.Desktop.Window
import PocketDesk.Desktop.WindowId
import PocketDesk.Desktop.WindowOp
import PocketDesk.Json.Fault
import PocketDesk.Json.Leaf
import PocketDesk.Json.Number
import PocketDesk.Json.Printer
import PocketDesk.Json.Record
import PocketDesk.Json.Skip
import PocketDesk.Main
import PocketDesk.Manifest.Basic
import PocketDesk.Manifest.Building
import PocketDesk.Manifest.Printer
import PocketDesk.Manifest.Reader
import PocketDesk.Markup.Entity
import PocketDesk.Markup.PlainText
import PocketDesk.Page.Basic
import PocketDesk.Page.Chance
import PocketDesk.Page.Console
import PocketDesk.Page.ConsoleView
import PocketDesk.Page.Deed
import PocketDesk.Page.DesktopView
import PocketDesk.Page.Picture
import PocketDesk.Page.ProgramView
import PocketDesk.Page.Rain
import PocketDesk.Page.Report
import PocketDesk.Page.View
import PocketDesk.Page.Visit
import PocketDesk.Proofs.CommandLine.Printed
import PocketDesk.Proofs.Desktop.Focus
import PocketDesk.Proofs.Desktop.Reached
import PocketDesk.Proofs.Desktop.Recency
import PocketDesk.Proofs.Desktop.Registered
import PocketDesk.Proofs.Desktop.Restore
import PocketDesk.Proofs.Desktop.Resumption
import PocketDesk.Proofs.Desktop.Run
import PocketDesk.Proofs.Desktop.Startup
import PocketDesk.Proofs.Desktop.Storage
import PocketDesk.Proofs.Desktop.Unsaved
import PocketDesk.Proofs.Json.Entries
import PocketDesk.Proofs.Json.Extent
import PocketDesk.Proofs.Json.Leaf
import PocketDesk.Proofs.Json.Passing
import PocketDesk.Proofs.Json.Record
import PocketDesk.Proofs.Json.Refusal
import PocketDesk.Proofs.Manifest.Copy
import PocketDesk.Proofs.Manifest.Nesting
import PocketDesk.Proofs.Manifest.Role
import PocketDesk.Proofs.Manifest.Violations
import PocketDesk.Proofs.Markup.Entity
import PocketDesk.Proofs.Markup.Escape
import PocketDesk.Proofs.Markup.OnePass
import PocketDesk.Proofs.Markup.Tag
import PocketDesk.Proofs.Page.Boot
import PocketDesk.Proofs.Page.Browsing
import PocketDesk.Proofs.Page.Suggestions
import PocketDesk.Proofs.Session.Independence
import PocketDesk.Proofs.Session.Opening
import PocketDesk.Proofs.Terminal.Complaint
import PocketDesk.Proofs.Terminal.Completed
import PocketDesk.Proofs.Terminal.Completion
import PocketDesk.Proofs.Terminal.Going
import PocketDesk.Proofs.Terminal.History
import PocketDesk.Proofs.Terminal.Hosts
import PocketDesk.Proofs.Terminal.Listed
import PocketDesk.Proofs.Terminal.Log
import PocketDesk.Proofs.Terminal.Markup
import PocketDesk.Proofs.Terminal.Outcome
import PocketDesk.Proofs.Terminal.Prompt
import PocketDesk.Proofs.Terminal.Recorded
import PocketDesk.Proofs.Terminal.Replay
import PocketDesk.Proofs.Terminal.Shown
import PocketDesk.Proofs.Terminal.Standing
import PocketDesk.Proofs.Terminal.Status
import PocketDesk.Proofs.Terminal.Submission
import PocketDesk.Proofs.Terminal.Transcript
import PocketDesk.Proofs.Terminal.Typed
import PocketDesk.Proofs.Text.Ending
import PocketDesk.Proofs.Text.LowerCase
import PocketDesk.Proofs.Text.Words
import PocketDesk.Proofs.Tree.Address
import PocketDesk.Proofs.Tree.Insertion
import PocketDesk.Proofs.Tree.Lookup
import PocketDesk.Proofs.Tree.Path
import PocketDesk.Proofs.Tree.Reduction
import PocketDesk.Proofs.Tree.WellFormed
import PocketDesk.Session
import PocketDesk.Terminal.Command
import PocketDesk.Terminal.CommandError
import PocketDesk.Terminal.Completion
import PocketDesk.Terminal.Execution
import PocketDesk.Terminal.History
import PocketDesk.Terminal.InputLine
import PocketDesk.Terminal.Line
import PocketDesk.Terminal.Log
import PocketDesk.Terminal.Shell
import PocketDesk.Text.Blank
import PocketDesk.Text.Cased
import PocketDesk.Text.CharRange
import PocketDesk.Text.LowerCase
import PocketDesk.Text.LowerCaseTable
import PocketDesk.Text.Quoted
import PocketDesk.Text.Split
import PocketDesk.Text.Visible
import PocketDesk.Tree.Basic
import PocketDesk.Tree.Listing
import PocketDesk.Tree.Location
import PocketDesk.Tree.Node
import PocketDesk.Tree.Path
