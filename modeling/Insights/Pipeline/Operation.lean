import Insights.Dataset.Basic
import Insights.Query.Aggregation
import Insights.Query.Predicate

/-!
The operations of a pipeline over a dataset. Filters, orders and aggregations are checked when an
operation is made; columns and counts are kept as they were given until a statement is made of them.
-/

namespace Insights

/-- A dataset joined to the first one, on the equality of a column of each. -/
structure DatasetJoin where
  right : Dataset
  leftColumn : Value
  rightColumn : Value
  kind : JoinKind
deriving DecidableEq

/-- Columns to group by, and what is computed of each group if that was said. -/
structure Grouping where
  columns : List Value
  aggregations : Option (List Aggregation)
deriving DecidableEq

inductive Operation where
  | filter (predicates : List Predicate)
  | sort (orders : List SortOrder)
  | group (grouping : Grouping)
  | join (join : DatasetJoin)
  | limit (count : Value)
  | offset (count : Value)
  | select (columns : List Value)
deriving DecidableEq

namespace Operation

/-- Checks the items of a value one after the other; the first one that is refused decides. -/
def checkEach {α : Type} (check : Value → Checked α) (value : Value) : Except Fault (List α) := do
  (← value.items).mapM fun item => (check item).outcome

def ofFilters (predicates : Value) : Except Fault Operation :=
  (checkEach Predicate.check predicates).map .filter

def ofOrders (orders : Value) : Except Fault Operation :=
  (checkEach SortOrder.check orders).map .sort

/-- A grouping; null stands for aggregations that were not given. These are checked before the columns
are looked at. -/
def ofGrouping (columns aggregations : Value) : Except Fault Operation := do
  let checked ← match aggregations with
    | .null => pure none
    | value => some <$> checkEach Aggregation.check value
  return .group ⟨← columns.items, checked⟩

def ofColumns (columns : Value) : Except Fault Operation :=
  columns.items.map .select

/-- Whether the operation only pages, orders or shapes the rows. Such operations leave the number of
rows alone, or are set aside when rows are counted. -/
def isShaping : Operation → Bool
  | .limit _ | .offset _ | .sort _ | .select _ => true
  | _ => false

end Operation
end Insights
