import Wallboard.Board.Basic
import Wallboard.Board.File
import Wallboard.Board.Panel
import Wallboard.Command.Config
import Wallboard.Command.Invocation
import Wallboard.Command.Option
import Wallboard.Command.Plan
import Wallboard.Command.Preview
import Wallboard.Command.Run
import Wallboard.Disk
import Wallboard.Display.Currency
import Wallboard.Display.Element
import Wallboard.Display.Padding
import Wallboard.Display.Template
import Wallboard.Json.Basic
import Wallboard.Json.Encoding
import Wallboard.Json.Reader
import Wallboard.Json.Writer
import Wallboard.Keyed
import Wallboard.Log.Console
import Wallboard.Log.Context
import Wallboard.Log.Level
import Wallboard.Log.Pattern
import Wallboard.Log.Pattern.Fault
import Wallboard.Log.Pattern.Style
import Wallboard.Log.Pattern.Value
import Wallboard.Log.Record
import Wallboard.Main
import Wallboard.Markup.Element
import Wallboard.Markup.Error
import Wallboard.Markup.Tag
import Wallboard.Markup.Template
import Wallboard.Markup.Token
import Wallboard.Notice
import Wallboard.Number.Binary64
import Wallboard.Number.Integer
import Wallboard.Number.Places
import Wallboard.Number.Reading
import Wallboard.Number.Rounding
import Wallboard.Number.Shortest
import Wallboard.Registry
import Wallboard.Schema.Issue
import Wallboard.Schema.Number
import Wallboard.Schema.Snapshot
import Wallboard.Service.Handler
import Wallboard.Service.Message
import Wallboard.Service.Route
import Wallboard.Settings
import Wallboard.Snapshot
import Wallboard.Station
import Wallboard.Text.Basic
import Wallboard.Text.Blank
import Wallboard.Text.Case
import Wallboard.Text.Hex
import Wallboard.Text.Lines
import Wallboard.Text.Plain
import Wallboard.Text.Printable
import Wallboard.Text.Quoted
import Wallboard.Text.Utf8
import Wallboard.Web.Host
import Wallboard.Web.Percent
import Wallboard.Web.Url
import Wallboard.Proofs.Attempt
import Wallboard.Proofs.Keyed
import Wallboard.Proofs.Text.Split
import Wallboard.Proofs.Text.Order
import Wallboard.Proofs.Number.Decimal
import Wallboard.Proofs.Number.Written
import Wallboard.Proofs.Number.Nearest
import Wallboard.Proofs.Number.Shortest
import Wallboard.Proofs.Number.Truncation
import Wallboard.Proofs.Json.Escape
import Wallboard.Proofs.Json.Limit
import Wallboard.Proofs.Json.Number
import Wallboard.Proofs.Json.Document
import Wallboard.Proofs.Text.Utf8
import Wallboard.Proofs.Web.Percent
import Wallboard.Proofs.Web.Url
import Wallboard.Proofs.Disk
import Wallboard.Proofs.Markup.Piece
import Wallboard.Proofs.Markup.Scan
import Wallboard.Proofs.Markup.Tag
import Wallboard.Proofs.Markup.Compile
import Wallboard.Proofs.Markup.Build
import Wallboard.Proofs.Markup.Canonical
import Wallboard.Proofs.Markup.RoundTrip
import Wallboard.Proofs.Markup.Rejection
import Wallboard.Proofs.Markup.Append
import Wallboard.Proofs.Markup.Arguments
import Wallboard.Proofs.Markup.Schema
import Wallboard.Proofs.Display.Substitution
import Wallboard.Proofs.Registry.Coherence
import Wallboard.Proofs.Registry.Sync
import Wallboard.Proofs.Registry.Reference
import Wallboard.Proofs.Registry.Faults
import Wallboard.Proofs.Registry.Steady
import Wallboard.Proofs.Registry.Compilation
import Wallboard.Proofs.Board.Texts
import Wallboard.Proofs.Board.Order
import Wallboard.Proofs.Board.Loading
import Wallboard.Proofs.Board.Stored
import Wallboard.Proofs.Board.Sessions
import Wallboard.Proofs.Station.Cycle
import Wallboard.Proofs.Station.Refresh
import Wallboard.Proofs.Station.Isolation
import Wallboard.Proofs.Station.Saving
import Wallboard.Proofs.Service.Step
import Wallboard.Proofs.Service.Binding
import Wallboard.Proofs.Service.History
import Wallboard.Proofs.Command.Agreement
import Wallboard.Proofs.Command.Addressee
import Wallboard.Proofs.Command.Storing
import Wallboard.Proofs.Display.Precision
import Wallboard.Proofs.Display.Obstacle
import Wallboard.Proofs.Display.Amount
import Wallboard.Proofs.Board.Damage
import Wallboard.Proofs.Board.Failure
import Wallboard.Proofs.Service.Restart
import Wallboard.Proofs.Display.Scaled
import Wallboard.Proofs.Display.Columns
import Wallboard.Proofs.Registry.Account
import Wallboard.Proofs.Station.Account
import Wallboard.Proofs.Text.Quoted
import Wallboard.Proofs.Markup.Message
import Wallboard.Proofs.Display.Level
import Wallboard.Proofs.Display.Quotient
import Wallboard.Proofs.Board.Identity
import Wallboard.Proofs.Number.Nearest
import Wallboard.Proofs.Schema.Snapshot
import Wallboard.Proofs.Command.Transfer
