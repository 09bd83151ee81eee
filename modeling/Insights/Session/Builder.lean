import Insights.Dataset.Basic
import Insights.Pipeline.Plan
import Insights.Session.Loading
import Insights.Settings.Basic

/-!
Builders: a dataset with the operations that were asked of it so far. Asking for a further operation
makes a new builder and leaves the old one as it is, so builders may branch. Nothing is loaded or sent
before rows, a count or a statement is asked for; from the first time on the builder remembers into
which table its dataset was loaded.
-/

namespace Insights

structure Builder where
  dataset : Dataset
  /-- The number of the loader that loads the datasets. -/
  loader : Nat
  operations : List Operation
  /-- The table of the dataset as far as it is known: a name that was found or a value that was given.
  An empty value is none. -/
  table : Value
deriving DecidableEq

namespace Builder

/-- A builder over a dataset without operations. -/
def ofDataset (loader : Nat) (dataset : Dataset) : Builder :=
  ⟨dataset, loader, [], .null⟩

/-- The builder with one more operation. -/
def add (builder : Builder) (operation : Operation) : Builder :=
  { builder with operations := builder.operations ++ [operation] }

def plan (builder : Builder) : Plan :=
  Plan.ofOperations builder.operations

/-- The builder with the limit of a preview: the number that is given, or else that of the settings. -/
def previewed (settings : Settings) (limit : Value) (builder : Builder) : Builder :=
  builder.add <| .limit <|
    match limit with
    | .null => .integer settings.previewRows
    | limit => limit

end Builder

/-- Something asked of a builder within a session. -/
abbrev BuilderAction (σ : Type) := ExceptT Fault (StateT Builder (StateM (Session σ)))

namespace BuilderAction

variable {σ : Type}

/-- An action of the session that leaves the builder alone. -/
def ofAction {α : Type} (action : Action σ α) : BuilderAction σ α :=
  ExceptT.mk (StateT.lift action.run)

/-- An action of a builder that is made from this one for the occasion. -/
def aside {α : Type} (change : Builder → Builder) (action : BuilderAction σ α) : BuilderAction σ α :=
  ExceptT.mk fun builder => do
    let (result, _) ← action.run (change builder)
    return (result, builder)

variable [ByteStore σ]

/-- The table of the dataset, which is loaded unless the builder knows its table. -/
def ensureLoaded : BuilderAction σ Value := do
  let builder ← get
  if builder.table.isEmpty then
    let table ← ofAction (Action.ensureLoaded builder.loader builder.dataset)
    modify fun builder => { builder with table := .text table }
    return .text table
  else return builder.table

/-- The text of the statement of some operations. -/
def sqlOf (operations : List Operation) : BuilderAction σ String := do
  let base ← ensureLoaded
  let builder ← get
  let statement ← (Plan.ofOperations operations).statement base fun dataset =>
    ofAction (Action.ensureLoaded builder.loader dataset)
  return statement.render

/-- The text of the statement of all operations. -/
def sql : BuilderAction σ String := do
  sqlOf (← get).operations

def rows : BuilderAction σ (List Row) := do
  ofAction (Action.query (← sql))

/-- The rows of the same builder with a limit. -/
def preview (settings : Settings) (limit : Value) : BuilderAction σ (List Row) :=
  aside (Builder.previewed settings limit) rows

/-- The number that a result of one row has in its column `count`; no row counts as zero. -/
def countOf : List Row → Except Fault Int
  | [] => .ok 0
  | row :: _ => do (← orFault (.missingKey (.text "count")) (row.lookup "count")).wholeNumber

/-- The number of rows of the operations that do not only page, order or shape them. -/
def count : BuilderAction σ Int := do
  let sql ← sqlOf ((← get).operations.filter fun operation => !operation.isShaping)
  let rows ← ofAction (Action.query (countStatement sql))
  liftM (countOf rows)

/-- Stores the rows as a new dataset of local storage, without field ids. -/
def save (now : Int) (id : String) : BuilderAction σ Dataset := do
  let data ← ofAction (Action.exportRows (← sql))
  ofAction (Action.create now id ⟨data, .list [], .text StorageKind.local.word, .null⟩)

end BuilderAction
end Insights
