import Insights.Insight.Compile
import Insights.Proofs.Sql.Template

/-!
The tokens that an insight asks for, written down from the insight alone. Every column, metric and table
is one name and every value one constant, whatever characters they contain. A number counts as a constant
however its class has it written.
-/

namespace Insights

open Sql (Token)

/-- The one token of a value that a filter compares with. A moment that leaves the calendar has no
literal, and no insight with it has a statement. -/
def Value.token (value : Value) : Token :=
  match value.native with
  | .null => .word "NULL"
  | .boolean b => .word (if b then "TRUE" else "FALSE")
  | .integer _ | .float _ | .decimal _ => .number (String.ofList value.plain)
  | .timestamp t => .text (String.ofList (t.literal?.getD []))
  | .date d => .text (String.ofList d.iso)
  | _ => .text (String.ofList value.plain)

/-- Whether a value is a number. A flag is none. -/
def Value.isNumber (value : Value) : Bool :=
  match value.native with
  | .integer _ | .float _ | .decimal _ => true
  | _ => false

/-- A number that has the text of a number. Numbers of other classes may have any text. -/
def Value.IsSpelt (value : Value) : Prop :=
  value.isNumber = true → Sql.IsNumeral value.plain

/-- The values that the operator of a filter looks at. -/
def Predicate.operands (predicate : Predicate) : List Value :=
  match predicate.operator with
  | .isNull _ => []
  | .member _ => predicate.values.getD []
  | .compare _ => [predicate.value]

/-- The numbers that the filter compares with have the texts of numbers. -/
def Predicate.IsSpelt (predicate : Predicate) : Prop :=
  ∀ value ∈ predicate.operands, value.IsSpelt

def Predicate.tokens (predicate : Predicate) : List Token :=
  .name predicate.column :: match predicate.operator with
    | .compare comparison => [.symbol comparison.symbol, predicate.value.token]
    | .member negated =>
      Sql.notTokens negated ++ [.word "IN", .symbol "("] ++
        Sql.commas ((predicate.values.getD []).map ([·.token])) ++ [.symbol ")"]
    | .isNull negated => [.word "IS"] ++ Sql.notTokens negated ++ [.word "NULL"]

def SortOrder.tokens (order : SortOrder) : List Token :=
  [.name order.column, .word order.direction.keyword]

/-- A count is one of rows, whether or not it names a column. -/
def Metric.tokens (metric : Metric) (column : Option String) : List Token :=
  Sql.aggregateTokens metric.aggregation (if metric.aggregation = .count then none else column) ++
    [.word "AS", .name metric.name]

/-- The name of the engine table that holds a table's data. -/
def Table.stored (table : Table) : String :=
  tableName (table.loaded?.getD "")

/-- The column of the field with the given id. -/
def Table.columnOf (table : Table) (id : String) : String :=
  ((table.field? id).map (·.column)).getD ""

namespace Insight

/-- The clause of the join at a position. -/
def joinClause (insight : Insight) (position : Nat) (join : Join) : Sql.JoinClause where
  kind := join.kind
  table := ⟨join.table.stored, some (joinAlias position)⟩
  baseColumn := insight.base.columnOf join.keys.baseField
  column := join.table.columnOf join.keys.joinedField

def joinTokens (insight : Insight) (position : Nat) (join : Join) : List Token :=
  (Sql.joinWords join.kind).map .word ++
    [.name join.table.stored, .word "AS", .word (joinAlias position), .word "ON",
      .word baseAlias, .symbol ".", .name (insight.base.columnOf join.keys.baseField), .symbol "=",
      .word (joinAlias position), .symbol ".", .name (join.table.columnOf join.keys.joinedField)]

def limitTokens (insight : Insight) : List Token :=
  match insight.limit.filter (0 < ·) with
  | none => []
  | some limit => [.word "LIMIT", .number (String.ofList (integerDigits limit))]

end Insight

namespace InsightObject

/-- The insight with other filters over the same tables. -/
def withFilters (object : InsightObject) (filters : List Predicate) : InsightObject where
  insight := { object.insight with filters }
  joinsBase := object.joinsBase
  table_eq := object.table_eq

/-- The layout of the tables of an insight. -/
def layout (object : InsightObject) : JoinLayout where
  base := ⟨object.insight.base, baseAlias, true⟩
  joined := object.insight.joins.mapIdx fun position join =>
    ⟨join.table, joinAlias position, object.joinsBase position⟩
  clauses := object.insight.joins.mapIdx object.insight.joinClause

/-- The name by which the outer selection knows the column of a metric. -/
def metricColumn (object : InsightObject) (metric : Metric) : Option String :=
  if object.insight.joins.isEmpty then metric.column?
  else metric.column?.map (object.layout.outputName (object.layout.source metric.sourceTable))

def outerItems (object : InsightObject) : List (List Token) :=
  let insight := object.insight
  if insight.isAggregated then
    insight.groupBy.map ([.name ·]) ++
      insight.metrics.map fun metric => metric.tokens (object.metricColumn metric)
  else if insight.joins.isEmpty then insight.shownFields.map fun field => [.name field.column]
  else []

/-- A column of the inner selection, which is given a new name where its own is taken. -/
def innerItem (object : InsightObject) (p : Participant) (column : String) : List Token :=
  let output := object.layout.outputName p column
  [.word p.shortName, .symbol ".", .name column] ++
    (if output = column then [] else [.word "AS", .name output])

def innerItems (object : InsightObject) : List (List Token) :=
  object.layout.participants.flatMap fun p =>
    p.table.visible.map fun field => object.innerItem p field.column

def fromTokens (object : InsightObject) : List Token :=
  let insight := object.insight
  if insight.joins.isEmpty then [.name insight.base.stored]
  else
    [.symbol "(", .word "SELECT"] ++ Sql.listTokens object.innerItems ++
      [.word "FROM", .name insight.base.stored, .word "AS", .word baseAlias] ++
      (insight.joins.mapIdx insight.joinTokens).flatten ++ [.symbol ")", .word "AS", .word joinedAlias]

/-- The template of an insight's statement. -/
def tokens (object : InsightObject) : List Token :=
  let insight := object.insight
  [.word "SELECT"] ++ Sql.listTokens object.outerItems ++ [.word "FROM"] ++ object.fromTokens ++
    Sql.clauseTokens ["WHERE"] (.word "AND") (insight.filters.map Predicate.tokens) ++
    Sql.clauseTokens ["GROUP", "BY"] (.symbol ",") (insight.groupBy.map ([.name ·])) ++
    Sql.clauseTokens ["ORDER", "BY"] (.symbol ",") (insight.orderBy.map SortOrder.tokens) ++
    insight.limitTokens

end InsightObject

end Insights
