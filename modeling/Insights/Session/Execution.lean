import Insights.Insight.Compile
import Insights.Session.Loading

/-!
Insights against loaded data: running the statement of an insight once all its tables are loaded, and
describing a loaded dataset as a table that insights can be made over.
-/

namespace Insights

/-- The dataset of a table among those that are known by id. -/
def Table.datasetIn (datasets : Fields Dataset) (joined : Bool) (table : Table) :
    Except Fault Dataset :=
  orFault (.missingDataset table.name joined) (table.loaded?.bind fun id => datasets.lookup id)

/-- The datasets of the base table and of the joined tables, in order. -/
def Insight.datasetsIn (insight : Insight) (datasets : Fields Dataset) :
    Except Fault (List Dataset) := do
  let base ← insight.base.datasetIn datasets false
  return base :: (← insight.joins.mapM fun join => join.table.datasetIn datasets true)

/-- What an insight is run with: its statement, and the datasets to be loaded for it. -/
def InsightObject.prepared (object : InsightObject) (datasets : Fields Dataset) :
    Except Fault (String × List Dataset) := do
  let sql ← object.sql
  return (sql, ← object.insight.datasetsIn datasets)

/-- How far the run of an insight has come: it waits for its tables, its statement was sent, or a table
could not be loaded. -/
inductive Execution where
  | waiting (sql : String) (awaited : List Awaited)
  | sent (sql : String)
  | failed (fault : Fault)

namespace Execution

/-- The run of a statement when the tables of datasets are asked for. -/
def start (sql : String) (needed : List Dataset) (loader : Loader) : Execution :=
  .waiting sql (loader.awaited needed)

/-- The run after it has looked at what its callers have come to. -/
def look (execution : Execution) (loader : Loader) : Execution :=
  match execution with
  | .waiting sql awaited =>
    match loader.verdict? awaited with
    | some (.ok _) => .sent sql
    | some (.error fault) => .failed fault
    | none => .waiting sql awaited
  | done => done

end Execution

namespace Action

variable {σ : Type}

/-- What a run comes to when all loads have gone as far as they go. One that still waits then has given
up. -/
def conclude : Execution → Action σ (List Row)
  | .sent sql => query sql
  | .failed fault => throw fault
  | .waiting _ _ => throw .cancelled

/-- Runs an insight. Its statement is made and its datasets are found before anything is loaded, and it
is sent when all of them are loaded. -/
def execute [ByteStore σ] (loader : Nat) (object : InsightObject) (datasets : Fields Dataset) :
    Action σ (List Row) := do
  let (sql, needed) ← liftM (object.prepared datasets)
  let execution := Execution.start sql needed ((← get).loaders loader)
  modify fun session => (session.applyAll loader (needed.map .ensure)).settle loader
  conclude (execution.look ((← get).loaders loader))

/-- The value of a column's description under a name. -/
def described (column : Value) (name : String) : Except Fault Value :=
  match column with
  | .object fields => orFault (.missingKey (.text name)) (fields.lookup name)
  | _ => .error .wrongKind

/-- The field for a described column, which is named after the column. -/
def describedField (newId : String) (column : Value) : Except Fault TableField := do
  let name ← described column "name"
  let type ← described column "type"
  (TableField.check (.object
    [(TableField.idKey.inner, .text newId), (TableField.nameKey.inner, name),
      (TableField.columnKey.inner, name), (TableField.typeKey.inner, type)])).outcome

/-- The table of described columns. -/
def describedTable (newId : String) (name : Value) (dataset : String) (fields : List TableField) :
    Except Fault Table := do
  let table ← (Table.check (.object
    [(Table.idKey.inner, .text newId), (Table.nameKey.inner, name),
      (Table.datasetKey.inner, .text dataset)])).outcome
  return { table with fields }

/-- Loads a dataset and describes it as a table. New ids come from a numbered supply: the first for the
table, the following ones for its fields. -/
def tableInfo [ByteStore σ] (newId : Nat → String) (loader : Nat) (dataset : Dataset) (name : Value) :
    Action σ Table := do
  let table ← ensureLoaded loader dataset
  let columns ← describe table
  let fields ← liftM (columns.zipIdx.mapM fun (column, position) =>
    describedField (newId (position + 1)) column)
  liftM (describedTable (newId 0) name dataset.id fields)

end Action
end Insights
