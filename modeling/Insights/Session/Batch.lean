import Insights.Session.Basic
import Insights.Value.Cell

/-!
Batches of queries in one statement. Each query is given its position as an additional column, all are
put together, and the rows are dealt out again by that column.
-/

namespace Insights.Batch

/-- The column that tells to which query a row belongs. -/
def positionColumn : String := "batchIndex"

/-- A query with its position as a column of the result. -/
def tagged (query : Value) (position : Nat) : String :=
  "SELECT " ++ String.ofList (digitsOf position) ++ " AS " ++ Sql.quoteName positionColumn ++
    ", * FROM (" ++ String.ofList query.plain ++ ")"

/-- The statement of several queries. -/
def statement (queries : List Value) : String :=
  " UNION ALL ".intercalate ((queries.zipIdx).map fun (query, position) => tagged query position)

/-- A position among `count` parts; negative positions count from the end. -/
def part? (count : Nat) (position : Int) : Option Nat :=
  if 0 ≤ position ∧ position < count then some position.toNat
  else if position < 0 ∧ -position ≤ count then some (count + position).toNat
  else none

/-- A row without the column that tells to which query it belongs. -/
def untagged (row : Row) : Row :=
  row.filter fun cell => cell.1 != positionColumn

/-- Puts a row at the end of the part that it belongs to. -/
def deal (parts : List (List Row)) (row : Row) : Except Fault (List (List Row)) := do
  let cell ← orFault (.missingKey (.text positionColumn)) (row.lookup positionColumn)
  let part ← orFault .noSuchPosition (part? parts.length (← cell.wholeNumber))
  return parts.modify part (· ++ [untagged row])

/-- The rows of each of `count` queries. -/
def dealAll (count : Nat) (rows : List Row) : Except Fault (List (List Row)) :=
  rows.foldlM deal (List.replicate count [])

/-- Sends queries, which are the items of a value, by way of whatever answers a statement with rows. No
queries need no call, and a single query is sent as it is. -/
def through {m : Type → Type} [Monad m] [MonadLiftT (Except Fault) m] (query : String → m (List Row))
    (queries : Value) : m (List (List Row)) := do
  if queries.isEmpty then return []
  match ← liftM queries.items with
  | [_] =>
    let sql ← liftM (queries.item 0 >>= Value.asText)
    return [← query sql]
  | items =>
    let rows ← query (statement items)
    liftM (dealAll items.length rows)

/-- Sends queries to the engine of the session. -/
def run {σ : Type} (queries : Value) : Action σ (List (List Row)) :=
  through Action.query queries

end Insights.Batch
