import ColumnStore.Text.Blank
import ColumnStore.Text.Cut
import ColumnStore.Text.Numeral
import ColumnStore.Binary.Literal
import ColumnStore.Binary.Shortest
import ColumnStore.Binary.Fixed
import ColumnStore.Calendar.Timestamp
import ColumnStore.DataType
import ColumnStore.Text.Dictionary
import ColumnStore.Value.Order
import ColumnStore.Schema.Text
import ColumnStore.Archive.Writer
import ColumnStore.Memory.Backend
import ColumnStore.Client.Reader
import ColumnStore.Client.Writer
import ColumnStore.Client.SchemaReader
import ColumnStore.Console.Basic
import ColumnStore.Main
import ColumnStore.Scenario.Benchmark
import ColumnStore.Scenario.Import
import ColumnStore.Proofs.Memory.Objects
import ColumnStore.Proofs.Memory.Effect
import ColumnStore.Proofs.Client.Run
import ColumnStore.Proofs.Memory.Call
import ColumnStore.Proofs.Reader.Position
import ColumnStore.Proofs.Reader.Snapshot
import ColumnStore.Proofs.Traversal
import ColumnStore.Proofs.Memory.Client
import ColumnStore.Proofs.Writer.Building
import ColumnStore.Proofs.Writer.Writing
import ColumnStore.Proofs.Writer.Ledger
import ColumnStore.Proofs.Writer.Delivery
import ColumnStore.Proofs.Value.Typing
import ColumnStore.Proofs.Store.Folder
import ColumnStore.Proofs.Store.Origin
import ColumnStore.Proofs.Store.Consistency
import ColumnStore.Proofs.Json.Denoting
import ColumnStore.Proofs.Schema.RoundTrip
import ColumnStore.Proofs.Text.Pieces
import ColumnStore.Proofs.Value.Survival
import ColumnStore.Proofs.Memory.Looking
import ColumnStore.Proofs.Reader.Getters
import ColumnStore.Proofs.Reader.Fields
import ColumnStore.Proofs.Store.RoundTrip
import ColumnStore.Proofs.Reader.Telling
import ColumnStore.Proofs.Memory.Failure
import ColumnStore.Proofs.Text.Numeral
import ColumnStore.Proofs.Value.Codec
import ColumnStore.Proofs.Text.Dictionary
import ColumnStore.Proofs.Memory.Exchange
import ColumnStore.Proofs.Client.Trade
import ColumnStore.Proofs.Client.Calls
import ColumnStore.Proofs.Client.Ownership
import ColumnStore.Proofs.Client.Looking
import ColumnStore.Proofs.Console.Workbench
import ColumnStore.Proofs.Console.Tasks
import ColumnStore.Proofs.Console.Leaks
import ColumnStore.Proofs.Console.Rows
import ColumnStore.Proofs.Schema.Exactness
import ColumnStore.Proofs.Store.Files
import ColumnStore.Proofs.Reader.Alike
import ColumnStore.Proofs.Reader.Projection
import ColumnStore.Proofs.Memory.Lending
import ColumnStore.Proofs.Client.Lifecycle
import ColumnStore.Proofs.Client.Closing
import ColumnStore.Proofs.Reader.Retrying
import ColumnStore.Proofs.Writer.Retrying
import ColumnStore.Proofs.Client.Protocol
import ColumnStore.Proofs.Schema.Sources
import ColumnStore.Proofs.Memory.Settings
import ColumnStore.Proofs.Options.LastWins
import ColumnStore.Proofs.Reader.Handover
import ColumnStore.Proofs.Memory.Indexed
import ColumnStore.Proofs.Value.Sorting
import ColumnStore.Proofs.Memory.Safety
import ColumnStore.Proofs.Client.Account
import ColumnStore.Proofs.Client.Uses
import ColumnStore.Proofs.Client.Errors
import ColumnStore.Proofs.Schema.Strict
import ColumnStore.Proofs.Client.Fixing
import ColumnStore.Proofs.Scenario.Run
import ColumnStore.Proofs.Scenario.Import
import ColumnStore.Proofs.Reader.Opening
import ColumnStore.Proofs.Scenario.Loading
import ColumnStore.Proofs.Client.Echoes
import ColumnStore.Proofs.Secrets.Redaction
import ColumnStore.Proofs.Secrets.Backend
import ColumnStore.Proofs.Secrets.Client
import ColumnStore.Proofs.Secrets.Log
import ColumnStore.Proofs.Value.Comparison
import ColumnStore.Proofs.Value.Precedence
import ColumnStore.Proofs.Writer.Sorting
import ColumnStore.Proofs.Binary.Nearest
import ColumnStore.Proofs.Binary.Decimal
import ColumnStore.Proofs.Value.Decimals
import ColumnStore.Proofs.Value.Settling
import ColumnStore.Proofs.Value.Retelling
import ColumnStore.Proofs.Store.Copying
import ColumnStore.Proofs.Text.Trimming
import ColumnStore.Proofs.Schema.Columns
import ColumnStore.Proofs.Schema.Items
import ColumnStore.Proofs.Json.Refusing
import ColumnStore.Proofs.Schema.Bare
import ColumnStore.Proofs.Schema.Acceptance
import ColumnStore.Proofs.Reader.Choices
import ColumnStore.Proofs.Tool.Overriding
import ColumnStore.Proofs.Reader.Iterating
import ColumnStore.Proofs.Reader.Rows
import ColumnStore.Proofs.Scenario.Printing
import ColumnStore.Proofs.Scenario.Benchmarks
import ColumnStore.Proofs.Options.OrderedMap
import ColumnStore.Proofs.Schema.Folders
import ColumnStore.Proofs.Text.Digits
import ColumnStore.Proofs.Value.Numbers
import ColumnStore.Proofs.Calendar.Counting
import ColumnStore.Proofs.Calendar.Reading
