import Insights.Pipeline.Operation

/-!
What a list of operations comes to: a plan, and the statement of the plan.
-/

namespace Insights

/-! ### Plans

The plan of a pipeline: its operations folded in the order of the calls. Filters and joins add up; a
sort, a grouping, a selection, a limit and an offset each replace what was there before. -/

structure Plan where
  filters : List Predicate
  orders : List SortOrder
  joins : List DatasetJoin
  grouping : Option Grouping
  selection : Option (List Value)
  limit : Option Value
  offset : Option Value
deriving DecidableEq

namespace Plan

def empty : Plan := ⟨[], [], [], none, none, none, none⟩

/-- A count that was given; null stands for none. -/
def count? : Value → Option Value
  | .null => none
  | value => some value

def add (plan : Plan) : Operation → Plan
  | .filter predicates => { plan with filters := plan.filters ++ predicates }
  | .sort orders => { plan with orders }
  | .group grouping => { plan with grouping := some grouping }
  | .join join => { plan with joins := plan.joins ++ [join] }
  | .limit count => { plan with limit := count? count }
  | .offset count => { plan with offset := count? count }
  | .select columns => { plan with selection := some columns }

def ofOperations (operations : List Operation) : Plan :=
  operations.foldl add empty

/-- Something given as a step of a pipeline. -/
inductive Candidate where
  | operation (operation : Operation)
  | other (value : Value)

def addCandidate (plan : Plan) : Candidate → Except Fault Plan
  | .operation operation => .ok (plan.add operation)
  | .other value => .error (.unknownOperation value)

/-- The plan of steps that may be no operations; the first such step decides the fault. -/
def ofCandidates (candidates : List Candidate) : Except Fault Plan :=
  candidates.foldlM addCandidate empty

/-- The columns to group by. -/
def groupColumns (plan : Plan) : List Value :=
  (plan.grouping.map Grouping.columns).getD []

/-- The aggregations of the grouping, none when they were not given. -/
def aggregations (plan : Plan) : List Aggregation :=
  (plan.grouping.bind Grouping.aggregations).getD []

/-- The items that the plan selects: the columns of a selection that is not empty, or else aggregations
and columns of a grouping that is not empty, or else every column. -/
def items (plan : Plan) : Except Fault (List Sql.Item) :=
  match plan.selection.getD [], plan.groupColumns with
  | [], [] => .ok []
  | [], groups => do
    return plan.aggregations.map Aggregation.item ++ (← groups.mapM Value.name).map .column
  | columns, _ => do
    return (← columns.mapM Value.name).map .column

end Plan

/-! ### Statements

The statement of a plan. Each dataset that takes part is loaded when the statement comes to it, so a
statement is made inside whatever monad loads datasets: first the selected items are settled, then the
joined datasets are loaded one after the other, and then come the filters, the groups and the numbers of
rows. -/

/-- The clause of a join with a dataset that is loaded into the given table. -/
def DatasetJoin.clause (join : DatasetJoin) (table : String) : Except Fault Sql.JoinClause := do
  return ⟨join.kind, ⟨table, none⟩, ← join.leftColumn.name, ← join.rightColumn.name⟩

namespace Plan

variable {m : Type → Type} [Monad m] [MonadLiftT (Except Fault) m]

/-- Loads the joined datasets in order, and makes the clause of each before the next one is loaded. -/
def joinClauses (plan : Plan) (load : Dataset → m String) : m (List Sql.JoinClause) :=
  plan.joins.mapM fun join => do
    let table ← load join.right
    liftM (join.clause table)

/-- The statement of a plan over a base table, whose name is given as a value. -/
def statement (plan : Plan) (base : Value) (load : Dataset → m String) : m Sql.Statement := do
  let items ← liftM plan.items
  let base ← liftM base.name
  let joins ← plan.joinClauses load
  let filters ← liftM (conditions plan.filters)
  let groups ← liftM (plan.groupColumns.mapM Value.name)
  let limit ← liftM (plan.limit.mapM Value.written)
  let offset ← liftM (plan.offset.mapM Value.written)
  return {
    items
    source := .tables ⟨⟨base, none⟩, joins⟩
    conditions := filters
    groups
    orderings := plan.orders.map SortOrder.ordering
    limit
    offset }

end Plan

/-- The statement that counts the rows of another one. -/
def countStatement (sql : String) : String :=
  "SELECT COUNT(*) AS count FROM (" ++ sql ++ ")"

end Insights
