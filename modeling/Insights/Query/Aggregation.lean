import Insights.Decode.Checked
import Insights.Decode.Scalar
import Insights.Sql.Statement
import Insights.Value.Document

/-!
Orders and aggregations: what a query asks for beside its filters.
-/

namespace Insights

/-! ### Orders

Orders of rows: a column and a direction, ascending unless it is given. -/

structure SortOrder where
  column : String
  direction : Direction
deriving DecidableEq, Repr

namespace SortOrder

def columnKey : FieldKey := ⟨"columnName", "column_name"⟩
def directionKey : FieldKey := .same "direction"

def ofFields (fields : Fields Value) : Checked SortOrder :=
  mk <$> fields.required columnKey Check.text
    <*> fields.withDefault directionKey .ascending Direction.check

/-- Checks a document of an order. -/
def check : Value → Checked SortOrder :=
  Check.object ofFields

def ordering (order : SortOrder) : Sql.Ordering :=
  ⟨order.column, order.direction⟩

def toJson (order : SortOrder) : Json :=
  .object [(columnKey.outer, .text order.column), (directionKey.outer, .text order.direction.word)]

end SortOrder

/-! ### Aggregations

Aggregations of a pipeline: a column, a function, and perhaps a name for the result. An empty name is
no name. -/

structure Aggregation where
  column : String
  function : Aggregate
  label : Option String
deriving DecidableEq, Repr

namespace Aggregation

def columnKey : FieldKey := ⟨"columnName", "column_name"⟩
def functionKey : FieldKey := .same "function"
def labelKey : FieldKey := .same "alias"

def ofFields (fields : Fields Value) : Checked Aggregation :=
  mk <$> fields.required columnKey Check.text
    <*> fields.required functionKey Aggregate.check
    <*> fields.withDefault labelKey none (Check.optional Check.text)

/-- Checks a document of an aggregation. -/
def check : Value → Checked Aggregation :=
  Check.object ofFields

/-- The name of the result, if it has one. -/
def output (aggregation : Aggregation) : Option String :=
  aggregation.label.filter (· ≠ "")

def item (aggregation : Aggregation) : Sql.Item :=
  .aggregate aggregation.function (some aggregation.column) aggregation.output

def toJson (aggregation : Aggregation) : Json :=
  .object <|
    [(columnKey.outer, .text aggregation.column), (functionKey.outer, .text aggregation.function.word)]
      ++ (aggregation.label.map fun label => (labelKey.outer, Json.text label)).toList

end Aggregation
end Insights
