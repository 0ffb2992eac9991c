import QueryChain.CommandLine.Arguments
import QueryChain.CommandLine.Listing
import QueryChain.CommandLine.Run
import QueryChain.CommandLine.Style
import QueryChain.Config.Basic
import QueryChain.Config.FileTree
import QueryChain.Config.Files
import QueryChain.Config.Toml.Document
import QueryChain.Config.Toml.Reader
import QueryChain.Config.Toml.Value
import QueryChain.Dialect
import QueryChain.Error
import QueryChain.Execution.Async
import QueryChain.Execution.Backend
import QueryChain.Execution.Context
import QueryChain.Execution.RowStream
import QueryChain.Execution.Script
import QueryChain.Filter.Basic
import QueryChain.Filter.Reader
import QueryChain.Json.Basic
import QueryChain.Json.Reader
import QueryChain.Main
import QueryChain.Number.Decimal
import QueryChain.Number.Double
import QueryChain.Number.Layout
import QueryChain.Number.Numeral
import QueryChain.Number.Shortest
import QueryChain.Predicate.Basic
import QueryChain.Predicate.Build
import QueryChain.Proofs.Condition.Grammar
import QueryChain.Proofs.Condition.Reader
import QueryChain.Proofs.Condition.Surface
import QueryChain.Proofs.Condition.Truth
import QueryChain.Proofs.Condition.Wording
import QueryChain.Query.Basic
import QueryChain.Query.Operator
import QueryChain.Query.OrderKeys
import QueryChain.Query.Page
import QueryChain.Row.Basic
import QueryChain.Statement.Change
import QueryChain.Statement.Condition
import QueryChain.Statement.Draft
import QueryChain.Statement.Procedure
import QueryChain.Statement.Select
import QueryChain.Statement.Template
import QueryChain.Text.Blank
import QueryChain.Text.Bytes
import QueryChain.Text.CaseFold
import QueryChain.Text.Hexadecimal
import QueryChain.Text.Letters
import QueryChain.Text.Reader
import QueryChain.Value.Basic
import QueryChain.Value.DateTime
import QueryChain.Value.Guid
import QueryChain.Value.Json
import QueryChain.Proofs.Condition.Meaning
import QueryChain.Proofs.Condition.Narrowing
import QueryChain.Proofs.Statement.Alike
import QueryChain.Proofs.Statement.Binding
import QueryChain.Proofs.Statement.References
import QueryChain.Proofs.Statement.Layout
import QueryChain.Proofs.Predicate.Built
import QueryChain.Proofs.Statement.Filtering
import QueryChain.Proofs.Condition.Drafting
import QueryChain.Proofs.Statement.Drafting
import QueryChain.Proofs.Statement.Validation
import QueryChain.Proofs.Query.Page
import QueryChain.Proofs.Query.Concerns
import QueryChain.Proofs.Query.Extension
import QueryChain.Proofs.Query.Tally
import QueryChain.Proofs.Query.Routes
import QueryChain.Proofs.Execution.Operation
import QueryChain.Proofs.Execution.Usage
import QueryChain.Proofs.Filter.Lexeme
import QueryChain.Proofs.Filter.Printing
import QueryChain.Proofs.Filter.Tests
import QueryChain.Proofs.Filter.Reading
import QueryChain.Proofs.Filter.Range
import QueryChain.Proofs.Statement.Limits
import QueryChain.Proofs.Execution.Paging
import QueryChain.Proofs.Execution.Session
import QueryChain.Proofs.Execution.Protocol
import QueryChain.Proofs.Execution.Agreement
import QueryChain.Proofs.Execution.Cursors
import QueryChain.Proofs.Execution.Cancellation
import QueryChain.Proofs.Statement.Clauses
import QueryChain.Proofs.Statement.Dialects
import QueryChain.Proofs.Predicate.Leaves
import QueryChain.Proofs.Predicate.Matching
import QueryChain.Proofs.Predicate.Membership
import QueryChain.Proofs.Query.Pipeline
import QueryChain.Proofs.Statement.Procedure
import QueryChain.Proofs.Row.Columns
import QueryChain.Proofs.Statement.Uniqueness
import QueryChain.Proofs.Execution.OneRow
import QueryChain.Proofs.Execution.Fused
import QueryChain.Proofs.Row.Export
import QueryChain.Proofs.Value.Exchange
import QueryChain.Proofs.Predicate.Blame
import QueryChain.Proofs.Filter.Position
import QueryChain.Proofs.Execution.Spared
import QueryChain.Proofs.CommandLine.Closing
import QueryChain.Proofs.CommandLine.Alignment
import QueryChain.Proofs.Filter.Quotation
import QueryChain.Proofs.Filter.Pieces
import QueryChain.Proofs.Filter.Integers
