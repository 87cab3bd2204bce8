import TableIntake.Calendar
import TableIntake.Cell
import TableIntake.Column.Declared
import TableIntake.Column.Fault
import TableIntake.Column.Schema
import TableIntake.Column.Stored
import TableIntake.Command.Arguments
import TableIntake.Command.Describe
import TableIntake.Command.Help
import TableIntake.Command.Load
import TableIntake.Command.Log
import TableIntake.Command.Outcome
import TableIntake.Command.Report
import TableIntake.Command.Run
import TableIntake.Command.Table
import TableIntake.Document.Basic
import TableIntake.Document.FieldType
import TableIntake.Document.Parsing
import TableIntake.Document.Shown
import TableIntake.Exchange
import TableIntake.Fault
import TableIntake.Handoff.Session
import TableIntake.Handoff.State
import TableIntake.Json
import TableIntake.Main
import TableIntake.Numeral.Binary
import TableIntake.Numeral.Layout
import TableIntake.Numeral.Nearest
import TableIntake.Numeral.Shortest
import TableIntake.Numeral.Unsigned
import TableIntake.Proofs.Cell.BigEndian
import TableIntake.Proofs.Column.Extents
import TableIntake.Proofs.Column.Lengths
import TableIntake.Proofs.Column.Recasing
import TableIntake.Proofs.Column.Redeclaration
import TableIntake.Proofs.Command.Drawing
import TableIntake.Proofs.Command.Limiting
import TableIntake.Proofs.Command.Showing
import TableIntake.Proofs.Document.Calls
import TableIntake.Proofs.Document.Conversion
import TableIntake.Proofs.Document.Loading
import TableIntake.Proofs.Document.Telling
import TableIntake.Proofs.Document.Transposition
import TableIntake.Proofs.Document.Undeclared
import TableIntake.Proofs.Exchange.Restoring
import TableIntake.Proofs.Handoff.Announcement
import TableIntake.Proofs.Handoff.Cancellation
import TableIntake.Proofs.Handoff.Delivery
import TableIntake.Proofs.Handoff.History
import TableIntake.Proofs.Json.Slots
import TableIntake.Proofs.Numeral.Unsigned
import TableIntake.Proofs.Reader.Alike
import TableIntake.Proofs.Reader.Columns
import TableIntake.Proofs.Reader.Ending
import TableIntake.Proofs.Reader.Keeping
import TableIntake.Proofs.Reader.Limits
import TableIntake.Proofs.Reader.Reading
import TableIntake.Proofs.Reader.Reasons
import TableIntake.Proofs.Reader.Serving
import TableIntake.Proofs.Reader.Steps
import TableIntake.Proofs.Reader.Taking
import TableIntake.Proofs.Reader.Waiting
import TableIntake.Proofs.Registry.Registrations
import TableIntake.Proofs.Store.Filling
import TableIntake.Proofs.Store.Refusing
import TableIntake.Proofs.Store.Tables
import TableIntake.Proofs.Stream.Account
import TableIntake.Proofs.Stream.Breaking
import TableIntake.Proofs.Stream.Course
import TableIntake.Proofs.Stream.Dealing
import TableIntake.Proofs.Stream.Meeting
import TableIntake.Proofs.Stream.Remaining
import TableIntake.Proofs.Stream.Steps
import TableIntake.Proofs.Stream.Succession
import TableIntake.Proofs.Text.Bytes
import TableIntake.Proofs.Text.Recasing
import TableIntake.Proofs.Text.Trimming
import TableIntake.Proofs.Upload.Breaking
import TableIntake.Proofs.Upload.Labels
import TableIntake.Proofs.Upload.Naming
import TableIntake.Proofs.Upload.Outcome
import TableIntake.Proofs.Upload.Recording
import TableIntake.Proofs.Upload.Refusing
import TableIntake.Proofs.Upload.Registration
import TableIntake.Quota
import TableIntake.Reader.Basic
import TableIntake.Reader.Calls
import TableIntake.Reader.Limited
import TableIntake.Reader.Memory
import TableIntake.Reader.Streaming
import TableIntake.Registry
import TableIntake.Store
import TableIntake.Stream.Basic
import TableIntake.Stream.Producer
import TableIntake.Text.Blank
import TableIntake.Text.Columns
import TableIntake.Text.Emoji
import TableIntake.Text.Extenders
import TableIntake.Text.Hex
import TableIntake.Text.Letters
import TableIntake.Text.Lines
import TableIntake.Text.Quoted
import TableIntake.Text.Ranges
import TableIntake.Text.Unseen
import TableIntake.Upload.Argument
import TableIntake.Upload.Catalogue
import TableIntake.Upload.Files
import TableIntake.Upload.Loader
import TableIntake.Upload.Settings
import TableIntake.Yaml.Fault
import TableIntake.Yaml.Form
import TableIntake.Yaml.Node
import TableIntake.Yaml.Place
import TableIntake.Yaml.Scalar
import TableIntake.Yaml.Settings
import TableIntake.Yaml.SyntaxFault
import TableIntake.Yaml.Token
import TableIntake.Yaml.Tokens
