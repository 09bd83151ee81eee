import Insights.Dataset.Basic
import Insights.Insight.Basic
import Insights.Insight.DisplayName

/-!
The layout of an insight with joins: which tables take part, under which aliases, and under which name
each of their columns leaves the inner selection. A column whose name is visible in several tables is
renamed after its table; only the base table's side of a join keeps its bare name.
-/

namespace Insights

/-- The alias of the base table. -/
def baseAlias : String := "base"

/-- The alias of the inner selection. -/
def joinedAlias : String := "joined"

/-- The alias of the joined table at a position. -/
def joinAlias (position : Int) : String :=
  if position = 0 then "j" else "j" ++ String.ofList (integerDigits (position + 1))

/-- The value of the position after the one that a value gives. Numbers and flags have one. -/
def nextPosition (position : Value) : Except Fault Value :=
  match position.native with
  | .integer n => (writable (n + 1)).map .integer
  | .boolean b => .ok (.integer (if b then 2 else 1))
  | .float x => .ok (.float x.succ)
  | .decimal d =>
    match d.succ with
    | .ok next => .ok (.decimal next)
    | .error trouble => .error (.decimal trouble)
  | _ => .error .wrongKind

/-- The alias of the joined table at a position that is given as a value: zero of any kind of number is
the first position, and to any other one is added. -/
def joinAliasOf (position : Value) : Except Fault String := do
  let next ← nextPosition position
  return if position.isEmpty then joinAlias 0 else "j" ++ String.ofList next.plain

/-- A table that takes part in a join. -/
structure Participant where
  table : Table
  shortName : String
  /-- Whether it is the base table itself, which may be joined once more. -/
  isBase : Bool
deriving DecidableEq, Repr

structure JoinLayout where
  base : Participant
  joined : List Participant
  /-- The clauses that join the tables, in the same order. -/
  clauses : List Sql.JoinClause
deriving DecidableEq, Repr

namespace JoinLayout

/-- The participant and the clause of the join at a position. The data of its table must be known, and
both key fields must be fields of their tables. -/
def participant (base : Table) (join : Join) (isBase : Bool) (position : Nat) :
    Except Fault (Participant × Sql.JoinClause) := do
  let table := join.table
  let dataset ← orFault (.missingDataset table.name true) table.loaded?
  let unresolved :=
    Fault.joinKeyNotFound base.name join.keys.baseField table.name join.keys.joinedField
  let baseField ← orFault unresolved (base.field? join.keys.baseField)
  let joinedField ← orFault unresolved (table.field? join.keys.joinedField)
  let shortName := joinAlias position
  return (⟨table, shortName, isBase⟩,
    ⟨join.kind, ⟨tableName dataset, some shortName⟩, baseField.column, joinedField.column⟩)

def participantsFrom (base : Table) (isBase : Nat → Bool) (position : Nat) :
    List Join → Except Fault (List (Participant × Sql.JoinClause))
  | [] => .ok []
  | join :: rest => do
    let first ← participant base join (isBase position) position
    return first :: (← participantsFrom base isBase (position + 1) rest)

def ofObject (object : InsightObject) : Except Fault JoinLayout := do
  let base := object.insight.base
  let joined ← participantsFrom base object.joinsBase 0 object.insight.joins
  return ⟨⟨base, baseAlias, true⟩, joined.map Prod.fst, joined.map Prod.snd⟩

/-- All tables that take part, the base table first. -/
def participants (layout : JoinLayout) : List Participant :=
  layout.base :: layout.joined

/-- The number of tables in which a column of the given name is visible. -/
def occurrences (layout : JoinLayout) (column : String) : Nat :=
  layout.participants.countP fun p => p.table.visible.any (·.column == column)

/-- Whether a column is the base table's side of some join. -/
def isBaseKey (layout : JoinLayout) (column : String) : Bool :=
  layout.clauses.any (·.baseColumn == column)

/-- The name under which a column of a table leaves the inner selection. Where the base table is joined
once more, its side of a join keeps its bare name there too. -/
def outputName (layout : JoinLayout) (p : Participant) (column : String) : String :=
  if 1 < layout.occurrences column && !(p.isBase && layout.isBaseKey column) then
    displayName p.table.name ++ "." ++ column
  else column

/-- The table with the given id: the first one that takes part, or else the base table. -/
def source (layout : JoinLayout) (id : String) : Participant :=
  (layout.participants.find? (·.table.id == id)).getD layout.base

/-- The item of the inner selection for a column of a table. -/
def item (layout : JoinLayout) (p : Participant) (column : String) : Sql.Item :=
  let output := layout.outputName p column
  .qualified p.shortName column (if output = column then none else some output)

/-- The items of the inner selection: every visible field of every table. -/
def items (layout : JoinLayout) : List Sql.Item :=
  layout.participants.flatMap fun p => p.table.visible.map fun field => layout.item p field.column

/-- The tables of the inner selection, the base table under the given name of its data. -/
def tables (layout : JoinLayout) (baseName : String) : Sql.Joined :=
  ⟨⟨baseName, some baseAlias⟩, layout.clauses⟩

end JoinLayout
end Insights
