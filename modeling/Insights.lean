import Insights.Dataset.Basic
import Insights.Decode.Checked
import Insights.Decode.Scalar
import Insights.Engine.Connection
import Insights.Engine.Copies
import Insights.Engine.RowSet
import Insights.Engine.Scripted
import Insights.Fault
import Insights.Insight.Basic
import Insights.Insight.Compile
import Insights.Insight.DisplayName
import Insights.Insight.JoinLayout
import Insights.Insight.Table
import Insights.Json.Basic
import Insights.Json.Reader
import Insights.Json.Token
import Insights.Loading.Gathering
import Insights.Loading.Load
import Insights.Loading.Loader
import Insights.Number.Binary64
import Insights.Number.Decimal
import Insights.Number.Layout
import Insights.Number.Shortest
import Insights.Number.Whole
import Insights.Pipeline.Operation
import Insights.Pipeline.Plan
import Insights.Proofs.Dataset.Creation
import Insights.Proofs.Dataset.TableName
import Insights.Proofs.Decode.Checked
import Insights.Proofs.Decode.Respelling
import Insights.Proofs.Engine.ColumnType
import Insights.Proofs.Engine.Result
import Insights.Proofs.Engine.RowSet
import Insights.Proofs.Insight.Compiled
import Insights.Proofs.Insight.DisplayName
import Insights.Proofs.Insight.Document
import Insights.Proofs.Insight.Draft
import Insights.Proofs.Insight.InnerSelection
import Insights.Proofs.Insight.Obstacles
import Insights.Proofs.Insight.OutputNames
import Insights.Proofs.Insight.Reload
import Insights.Proofs.Insight.Renaming
import Insights.Proofs.Insight.Respelling
import Insights.Proofs.Insight.RoundTrip
import Insights.Proofs.Insight.Sharing
import Insights.Proofs.Insight.ShownFields
import Insights.Proofs.Insight.Slot
import Insights.Proofs.Insight.Template
import Insights.Proofs.Insight.Update
import Insights.Proofs.Json.Lexing
import Insights.Proofs.Json.Number
import Insights.Proofs.Json.Reading
import Insights.Proofs.Loading.Freshness
import Insights.Proofs.Loading.Gathering
import Insights.Proofs.Loading.History
import Insights.Proofs.Loading.Isolation
import Insights.Proofs.Loading.Loaded
import Insights.Proofs.Loading.Protocol
import Insights.Proofs.Loading.Renewal
import Insights.Proofs.Loading.Sharing
import Insights.Proofs.Loading.SingleFlight
import Insights.Proofs.Loading.Step
import Insights.Proofs.Loading.Survival
import Insights.Proofs.Loading.World
import Insights.Proofs.Number.Rounding
import Insights.Proofs.Number.Shortest
import Insights.Proofs.Outcome
import Insights.Proofs.Pipeline.Enclosing
import Insights.Proofs.Pipeline.Plan
import Insights.Proofs.Pipeline.Template
import Insights.Proofs.Session.Agreement
import Insights.Proofs.Session.Batch
import Insights.Proofs.Session.Branches
import Insights.Proofs.Session.Builder
import Insights.Proofs.Session.Calls
import Insights.Proofs.Session.Counting
import Insights.Proofs.Session.Description
import Insights.Proofs.Session.Execution
import Insights.Proofs.Session.Invalidation
import Insights.Proofs.Session.Loading
import Insights.Proofs.Session.Pursuit
import Insights.Proofs.Session.Quoting
import Insights.Proofs.Session.Reprobing
import Insights.Proofs.Session.Scoping
import Insights.Proofs.Session.Statement
import Insights.Proofs.Session.Stored
import Insights.Proofs.Session.Transcript
import Insights.Proofs.Settings
import Insights.Proofs.Sql.Clauses
import Insights.Proofs.Sql.Constants
import Insights.Proofs.Sql.Lexing
import Insights.Proofs.Sql.Numeral
import Insights.Proofs.Sql.Rendering
import Insights.Proofs.Sql.Template
import Insights.Proofs.Sql.Token
import Insights.Proofs.Store.Contents
import Insights.Proofs.Store.Directory
import Insights.Proofs.Text.LetterCase
import Insights.Proofs.Text.Quoted
import Insights.Proofs.Time.Calendar
import Insights.Proofs.Time.Order
import Insights.Proofs.Value.Fields
import Insights.Proofs.Value.Literal
import Insights.Proofs.Value.Reread
import Insights.Query.Aggregation
import Insights.Query.Predicate
import Insights.Query.Vocabulary
import Insights.Session.Basic
import Insights.Session.Batch
import Insights.Session.Builder
import Insights.Session.Execution
import Insights.Session.Loading
import Insights.Settings.Basic
import Insights.Sql.Literal
import Insights.Sql.Statement
import Insights.Store.Basic
import Insights.Store.Directory
import Insights.Store.Sha1
import Insights.Text.Bytes
import Insights.Text.Character
import Insights.Text.Quoted
import Insights.Time.Calendar
import Insights.Time.Timestamp
import Insights.Value.Basic
import Insights.Value.Cell
import Insights.Value.Document
import Insights.Value.Shown
