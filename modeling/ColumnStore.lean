import ColumnStore.Connection.Queries
import ColumnStore.Connection.Tables
import ColumnStore.Main
import ColumnStore.Proofs.Sql.Containment
import ColumnStore.Proofs.Sql.Sealing
import ColumnStore.Proofs.Sql.Recovery
import ColumnStore.Proofs.Query.Names
import ColumnStore.Proofs.Query.Weaving
import ColumnStore.Proofs.Query.Containment
import ColumnStore.Proofs.Query.Recovery
import ColumnStore.Proofs.Query.Reading
import ColumnStore.Proofs.Query.Insertion
import ColumnStore.Proofs.Record.Columns
import ColumnStore.Proofs.Row.Chunking
import ColumnStore.Proofs.Row.Answers
import ColumnStore.Proofs.Json.Texts
import ColumnStore.Proofs.Json.Decimal
import ColumnStore.Proofs.Text.Trimming
import ColumnStore.Proofs.Text.Utf8
import ColumnStore.Proofs.Client.Sending
import ColumnStore.Proofs.Queue.Delivery
import ColumnStore.Proofs.Queue.Faithfulness
import ColumnStore.Proofs.Queue.Sequential
import ColumnStore.Proofs.Concurrent.Identity
import ColumnStore.Proofs.Concurrent.Isolation
import ColumnStore.Proofs.Concurrent.Sequential
import ColumnStore.Proofs.Connection.Direct
import ColumnStore.Proofs.Connection.Answered
import ColumnStore.Proofs.Connection.Inserting
import ColumnStore.Proofs.Connection.Numbering
import ColumnStore.Proofs.Numbering.Batches
import ColumnStore.Proofs.Numbering.DayRange
import ColumnStore.Proofs.Connection.Identifying
import ColumnStore.Proofs.Json.Compact
import ColumnStore.Proofs.Sql.Binding
import ColumnStore.Proofs.Row.Agreement
import ColumnStore.Proofs.Connection.Failing
import ColumnStore.Proofs.Connection.Halting
import ColumnStore.Proofs.Connection.Operations
import ColumnStore.Proofs.Identifier.Restoring
import ColumnStore.Proofs.Connection.Dropping
import ColumnStore.Proofs.Connection.Queueing
import ColumnStore.Proofs.Client.Holding
import ColumnStore.Proofs.Toml.Strings
import ColumnStore.Proofs.Toml.Documents
import ColumnStore.Proofs.Config.Saving
import ColumnStore.Proofs.Sql.Nesting
import ColumnStore.Proofs.Schema.Creating
import ColumnStore.Proofs.Escaping.Unquoting
import ColumnStore.Proofs.Sql.Quotations
import ColumnStore.Proofs.Identifier.Places
import ColumnStore.Proofs.Schema.Introspecting
import ColumnStore.Proofs.Connection.Introspecting
import ColumnStore.Proofs.Escaping.Distinct
import ColumnStore.Proofs.Sql.Lexemes
import ColumnStore.Proofs.Sql.Filling
import ColumnStore.Proofs.Sql.Segments
import ColumnStore.Proofs.Query.Outcome
import ColumnStore.Proofs.Query.Rows
import ColumnStore.Proofs.Query.Mutating
import ColumnStore.Proofs.Sql.Items
import ColumnStore.Proofs.Schema.Declaring
import ColumnStore.Proofs.Identifier.Spelling
import ColumnStore.Proofs.Identifier.Closing
import ColumnStore.Proofs.Identifier.Distinct
import ColumnStore.Proofs.Query.Qualifying
import ColumnStore.Proofs.Record.Editing
import ColumnStore.Proofs.Cli.Binding
import ColumnStore.Proofs.Identifier.Cutting
import ColumnStore.Proofs.Connection.Counting
import ColumnStore.Proofs.Config.Rooting
