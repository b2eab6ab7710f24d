import QueryCriteria.Config.Basic
import QueryCriteria.Config.Load
import QueryCriteria.Config.Setting
import QueryCriteria.Config.Word
import QueryCriteria.Criteria.Error
import QueryCriteria.Criteria.Field
import QueryCriteria.Criteria.Filter
import QueryCriteria.Criteria.Operator
import QueryCriteria.Criteria.Order
import QueryCriteria.Criteria.Request
import QueryCriteria.Criteria.Tree
import QueryCriteria.Criteria.Value
import QueryCriteria.Decimal.Binary64
import QueryCriteria.Decimal.Layout
import QueryCriteria.Decimal.Numeral
import QueryCriteria.Decimal.Shortest
import QueryCriteria.Dynamo.Attribute
import QueryCriteria.Dynamo.Commands
import QueryCriteria.Dynamo.Expression
import QueryCriteria.Dynamo.Inspect
import QueryCriteria.Dynamo.Query
import QueryCriteria.Dynamo.Source
import QueryCriteria.Dynamo.Wire
import QueryCriteria.Effect.Call
import QueryCriteria.Effect.Duration
import QueryCriteria.Entries
import QueryCriteria.Json.Approximate
import QueryCriteria.Json.Basic
import QueryCriteria.Json.Lookup
import QueryCriteria.Json.Parser
import QueryCriteria.Json.Printer
import QueryCriteria.Json.Reader
import QueryCriteria.KeyValue.Commands
import QueryCriteria.KeyValue.Inspect
import QueryCriteria.KeyValue.Memory
import QueryCriteria.Logging.Filter
import QueryCriteria.Logging.Subscriber
import QueryCriteria.Matching.Compare
import QueryCriteria.Matching.Evaluate
import QueryCriteria.Matching.Residual
import QueryCriteria.Pattern.Basic
import QueryCriteria.Pattern.Like
import QueryCriteria.Pattern.Wildcard
import QueryCriteria.Proofs.Criteria.Allowed
import QueryCriteria.Proofs.Criteria.Create
import QueryCriteria.Proofs.Criteria.Modifiers
import QueryCriteria.Proofs.Criteria.Operand
import QueryCriteria.Proofs.Criteria.Removal
import QueryCriteria.Proofs.Criteria.Renaming
import QueryCriteria.Proofs.Criteria.Written
import QueryCriteria.Proofs.Decimal.Digits
import QueryCriteria.Proofs.Decimal.Numeral
import QueryCriteria.Proofs.Dynamo.Definitions
import QueryCriteria.Proofs.Dynamo.Filter
import QueryCriteria.Proofs.Dynamo.Keys
import QueryCriteria.Proofs.Dynamo.Mentions
import QueryCriteria.Proofs.Dynamo.Placeholder
import QueryCriteria.Proofs.Dynamo.Predicate
import QueryCriteria.Proofs.Dynamo.Reads
import QueryCriteria.Proofs.Dynamo.Refusals
import QueryCriteria.Proofs.Dynamo.RoundTrip
import QueryCriteria.Proofs.Dynamo.Scan
import QueryCriteria.Proofs.Dynamo.Writing
import QueryCriteria.Proofs.Effect.Returns
import QueryCriteria.Proofs.Effect.Task
import QueryCriteria.Proofs.Json.Numbers
import QueryCriteria.Proofs.KeyValue.Agreement
import QueryCriteria.Proofs.KeyValue.History
import QueryCriteria.Proofs.KeyValue.Range
import QueryCriteria.Proofs.KeyValue.Stored
import QueryCriteria.Proofs.Matching.Alternatives
import QueryCriteria.Proofs.Matching.Integers
import QueryCriteria.Proofs.Matching.Missing
import QueryCriteria.Proofs.Matching.Page
import QueryCriteria.Proofs.Matching.Preorder
import QueryCriteria.Proofs.Matching.Sort
import QueryCriteria.Proofs.Matching.Tree
import QueryCriteria.Proofs.Pattern.Accepts
import QueryCriteria.Proofs.Pattern.Escape
import QueryCriteria.Proofs.Pattern.Like
import QueryCriteria.Proofs.Redis.Batches
import QueryCriteria.Proofs.Redis.Calls
import QueryCriteria.Proofs.Redis.Glob
import QueryCriteria.Proofs.Redis.Keys
import QueryCriteria.Proofs.Redis.Refinement
import QueryCriteria.Proofs.Redis.Scan
import QueryCriteria.Proofs.Redis.Schedule
import QueryCriteria.Proofs.Redis.Server
import QueryCriteria.Proofs.Search.Evaluate
import QueryCriteria.Proofs.Search.Meaning
import QueryCriteria.Proofs.Search.Window
import QueryCriteria.Proofs.Sql.Alike
import QueryCriteria.Proofs.Sql.Legible
import QueryCriteria.Proofs.Sql.Names
import QueryCriteria.Proofs.Sql.Numbering
import QueryCriteria.Proofs.Sql.Order
import QueryCriteria.Proofs.Sql.Password
import QueryCriteria.Proofs.Sql.Predicate
import QueryCriteria.Proofs.Sql.Relation
import QueryCriteria.Proofs.Sql.Upsert
import QueryCriteria.Proofs.Sql.Where
import QueryCriteria.Proofs.Sql.Writing
import QueryCriteria.Proofs.Store.Backend
import QueryCriteria.Proofs.Store.Backoff
import QueryCriteria.Proofs.Store.Callers
import QueryCriteria.Proofs.Store.Dialogue
import QueryCriteria.Proofs.Store.Interleaving
import QueryCriteria.Proofs.Store.Session
import QueryCriteria.Proofs.Text.Blank
import QueryCriteria.Proofs.Text.Formula
import QueryCriteria.Proofs.Text.Lexeme
import QueryCriteria.Proofs.Text.Utf8
import QueryCriteria.Redis.Address
import QueryCriteria.Redis.Key
import QueryCriteria.Redis.Request
import QueryCriteria.Redis.Source
import QueryCriteria.Scripted.Dynamo
import QueryCriteria.Scripted.Exchange
import QueryCriteria.Scripted.Postgres
import QueryCriteria.Scripted.Redis
import QueryCriteria.Scripted.Source
import QueryCriteria.Search.Commands
import QueryCriteria.Search.Inspect
import QueryCriteria.Search.Query
import QueryCriteria.Search.Source
import QueryCriteria.Sql.Commands
import QueryCriteria.Sql.Condition
import QueryCriteria.Sql.Destination
import QueryCriteria.Sql.Fault
import QueryCriteria.Sql.Row
import QueryCriteria.Sql.Source
import QueryCriteria.Sql.Token
import QueryCriteria.Sql.Url
import QueryCriteria.Store.Command
import QueryCriteria.Store.Connection
import QueryCriteria.Store.Error
import QueryCriteria.Store.Guard
import QueryCriteria.Store.Inspect
import QueryCriteria.Store.Link
import QueryCriteria.Store.Mapper
import QueryCriteria.Store.Repository
import QueryCriteria.Store.Retry
import QueryCriteria.Store.Source
import QueryCriteria.Text.Address
import QueryCriteria.Text.Alphanumeric
import QueryCriteria.Text.Blank
import QueryCriteria.Text.Bytes
import QueryCriteria.Text.Hidden
import QueryCriteria.Text.Host
import QueryCriteria.Text.Inspect
import QueryCriteria.Text.Percent
import QueryCriteria.Text.Quoted
import QueryCriteria.Text.Regular
import QueryCriteria.Text.Scanner
import QueryCriteria.Text.Split
import QueryCriteria.Toml.Document
import QueryCriteria.Toml.Lines
import QueryCriteria.Toml.Moment
import QueryCriteria.Toml.Parser
import QueryCriteria.Toml.Scalar
import QueryCriteria.Wire.Commands
import QueryCriteria.Wire.Criteria
import QueryCriteria.Wire.Errors
import QueryCriteria.Wire.Wording
import QueryCriteria.Proofs.Store.Polls
import QueryCriteria.Proofs.Store.Timeline
import QueryCriteria.Proofs.Store.Cancelled
import QueryCriteria.Proofs.Criteria.Shape
import QueryCriteria.Proofs.Criteria.Stopgap
import QueryCriteria.Proofs.KeyValue.Prefix
import QueryCriteria.Proofs.Pattern.Wildcard
import QueryCriteria.Proofs.Sql.Containment
import QueryCriteria.Proofs.Redis.KeySpaces
