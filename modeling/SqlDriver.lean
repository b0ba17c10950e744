import SqlDriver.Call.Basic
import SqlDriver.Call.Connection
import SqlDriver.Call.Cursor
import SqlDriver.Call.Environment
import SqlDriver.Call.Registry
import SqlDriver.Call.Value
import SqlDriver.CommandLine.Options
import SqlDriver.CommandLine.Run
import SqlDriver.Config
import SqlDriver.Config.Decode
import SqlDriver.Decimal.Binary64
import SqlDriver.Decimal.Extended
import SqlDriver.Decimal.Reader
import SqlDriver.Decimal.Shortest
import SqlDriver.Disk
import SqlDriver.Driver.Basic
import SqlDriver.Driver.Connection
import SqlDriver.Driver.Cursor
import SqlDriver.Driver.Show
import SqlDriver.Engine.Affinity
import SqlDriver.Engine.Binding.Change
import SqlDriver.Engine.Binding.Declaration
import SqlDriver.Engine.Binding.Function
import SqlDriver.Engine.Binding.Order
import SqlDriver.Engine.Binding.Query
import SqlDriver.Engine.Binding.Scope
import SqlDriver.Engine.Catalog
import SqlDriver.Engine.Change
import SqlDriver.Engine.Datum
import SqlDriver.Engine.Evaluate
import SqlDriver.Engine.Grammar.Basic
import SqlDriver.Engine.Grammar.Query
import SqlDriver.Engine.Grammar.Statement
import SqlDriver.Engine.Location
import SqlDriver.Engine.Numeral
import SqlDriver.Engine.Operation
import SqlDriver.Engine.Plan
import SqlDriver.Engine.Program
import SqlDriver.Engine.Rows
import SqlDriver.Engine.Session
import SqlDriver.Engine.Statement
import SqlDriver.Engine.Step
import SqlDriver.Engine.Token
import SqlDriver.Error
import SqlDriver.Event
import SqlDriver.Exception
import SqlDriver.Heap.Array
import SqlDriver.Heap.Basic
import SqlDriver.Literal
import SqlDriver.Main
import SqlDriver.Pool
import SqlDriver.Proofs.Call.Channel
import SqlDriver.Proofs.Call.Escape
import SqlDriver.Proofs.Call.Failure
import SqlDriver.Proofs.Call.Frame
import SqlDriver.Proofs.Call.FreshHandle
import SqlDriver.Proofs.Call.HandleNumber
import SqlDriver.Proofs.Call.Invocation
import SqlDriver.Proofs.Call.Lifetime
import SqlDriver.Proofs.Call.Likeness
import SqlDriver.Proofs.Call.Message
import SqlDriver.Proofs.Call.ModeSwitch
import SqlDriver.Proofs.Call.Prefix
import SqlDriver.Proofs.Call.Receiving
import SqlDriver.Proofs.Call.Release
import SqlDriver.Proofs.Call.Views
import SqlDriver.Proofs.CommandLine.Output
import SqlDriver.Proofs.CommandLine.Printing
import SqlDriver.Proofs.CommandLine.Refusal
import SqlDriver.Proofs.CommandLine.Transaction
import SqlDriver.Proofs.Config.Decoding
import SqlDriver.Proofs.Config.Writing
import SqlDriver.Proofs.Decimal.Integer
import SqlDriver.Proofs.Driver.Balance
import SqlDriver.Proofs.Driver.Closing
import SqlDriver.Proofs.Driver.Command
import SqlDriver.Proofs.Driver.Failure
import SqlDriver.Proofs.Driver.Fetching
import SqlDriver.Proofs.Driver.InTransaction
import SqlDriver.Proofs.Driver.Ledger
import SqlDriver.Proofs.Driver.Lifetime
import SqlDriver.Proofs.Driver.Lift
import SqlDriver.Proofs.Driver.Likeness
import SqlDriver.Proofs.Driver.Listing
import SqlDriver.Proofs.Driver.LookAhead
import SqlDriver.Proofs.Driver.ManualTransaction
import SqlDriver.Proofs.Driver.Mild
import SqlDriver.Proofs.Driver.Moves
import SqlDriver.Proofs.Driver.OpenCursors
import SqlDriver.Proofs.Driver.Reading
import SqlDriver.Proofs.Driver.Timeout
import SqlDriver.Proofs.Driver.TwoCopies
import SqlDriver.Proofs.Effect
import SqlDriver.Proofs.Engine.AddedColumn
import SqlDriver.Proofs.Engine.Blind
import SqlDriver.Proofs.Engine.Copies
import SqlDriver.Proofs.Engine.Execution
import SqlDriver.Proofs.Engine.Genuine
import SqlDriver.Proofs.Engine.Ground
import SqlDriver.Proofs.Engine.Move
import SqlDriver.Proofs.Engine.Patience
import SqlDriver.Proofs.Engine.Prepared
import SqlDriver.Proofs.Engine.Publication
import SqlDriver.Proofs.Engine.Query
import SqlDriver.Proofs.Engine.Rest
import SqlDriver.Proofs.Engine.Standing
import SqlDriver.Proofs.Engine.Transaction
import SqlDriver.Proofs.Engine.Wordless
import SqlDriver.Proofs.Engine.Writing
import SqlDriver.Proofs.Heap.Array
import SqlDriver.Proofs.Heap.Balance
import SqlDriver.Proofs.Heap.Growth
import SqlDriver.Proofs.Row
import SqlDriver.Proofs.Script.Division
import SqlDriver.Proofs.Script.OnePass
import SqlDriver.Proofs.Script.Opacity
import SqlDriver.Proofs.Script.Reading
import SqlDriver.Proofs.Script.Speaking
import SqlDriver.Proofs.Script.Whole
import SqlDriver.Proofs.Text.Literal
import SqlDriver.Proofs.Text.Utf8
import SqlDriver.Proofs.Toml.Framing
import SqlDriver.Proofs.Toml.Number
import SqlDriver.Proofs.Toml.Pairs
import SqlDriver.Proofs.Toml.Spelling
import SqlDriver.Proofs.Toml.Table
import SqlDriver.Proofs.Toml.Text
import SqlDriver.ReadFailure
import SqlDriver.Row
import SqlDriver.Runner
import SqlDriver.Script.Complete
import SqlDriver.Script.Split
import SqlDriver.Text.Blank
import SqlDriver.Text.Escaped
import SqlDriver.Text.Quoted
import SqlDriver.Text.Utf8
import SqlDriver.Toml.Document
import SqlDriver.Toml.Issue
import SqlDriver.Toml.Node
import SqlDriver.Toml.Number
import SqlDriver.Toml.Text
import SqlDriver.Value
