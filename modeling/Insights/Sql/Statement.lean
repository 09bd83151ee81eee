import Insights.Query.Vocabulary
import Insights.Sql.Literal

/-!
Statements as data, and their text. A statement selects items from tables that are joined one after the
other, or from such a selection taken as one table, and may filter, group, order and cut off its rows.
-/

namespace Insights.Sql

/-- Joins texts with a separator between them. -/
def separated (separator : String) (texts : List String) : String :=
  separator.intercalate texts

/-- What a condition asks of its column. -/
inductive Test where
  | compare (comparison : Comparison) (operand : Literal)
  | member (negated : Bool) (operands : List Literal)
  | isNull (negated : Bool)
deriving DecidableEq, Repr

/-- The text of a test behind the text of its column. -/
def Test.render (column : String) : Test → String
  | .compare comparison operand => column ++ " " ++ comparison.symbol ++ " " ++ operand.render
  | .member negated operands =>
    column ++ " " ++ (Operator.member negated).keyword ++ " (" ++
      separated ", " (operands.map Literal.render) ++ ")"
  | .isNull negated => column ++ " " ++ (Operator.isNull negated).keyword

structure Condition where
  column : String
  test : Test
deriving DecidableEq, Repr

def Condition.render (condition : Condition) : String :=
  condition.test.render (quoteName condition.column)

def renderConditions (conditions : List Condition) : String :=
  separated " AND " (conditions.map Condition.render)

structure Ordering where
  column : String
  direction : Direction
deriving DecidableEq, Repr

def Ordering.render (ordering : Ordering) : String :=
  quoteName ordering.column ++ " " ++ ordering.direction.keyword

def renderOrderings (orderings : List Ordering) : String :=
  separated ", " (orderings.map Ordering.render)

/-- The call of an aggregate function on a column. Without a column it counts rows or takes them all;
counting distinct values has no such form, and spells the missing column out. -/
def renderAggregate (function : Aggregate) (column : Option String) : String :=
  match function, column with
  | .countDistinct, column => "COUNT(DISTINCT " ++ column.getD "None" ++ ")"
  | function, none => function.keyword ++ "(*)"
  | function, some column => function.keyword ++ "(" ++ column ++ ")"

/-- A name given to an item of a selection. -/
def renderAs : Option String → String
  | none => ""
  | some output => " AS " ++ quoteName output

/-- An item of a selection. -/
inductive Item where
  | column (name : String)
  /-- A column of one of several tables, which is told by its alias. -/
  | qualified (table name : String) (output : Option String)
  | aggregate (function : Aggregate) (column : Option String) (output : Option String)
deriving DecidableEq, Repr

def Item.render : Item → String
  | .column name => quoteName name
  | .qualified table name output => table ++ "." ++ quoteName name ++ renderAs output
  | .aggregate function argument output =>
    renderAggregate function (argument.map quoteName) ++ renderAs output

/-- All items of a selection; none at all stands for every column. -/
def renderItems (items : List Item) : String :=
  match items with
  | [] => "*"
  | items => separated ", " (items.map Item.render)

/-- A table with the alias under which the rest of the statement knows it, if it has one. -/
structure TableRef where
  name : String
  shortName : Option String
deriving DecidableEq, Repr

def TableRef.render (table : TableRef) : String :=
  match table.shortName with
  | none => quoteName table.name
  | some shortName => quoteName table.name ++ " AS " ++ shortName

/-- The table in front of a column: its alias, or else its name. -/
def TableRef.qualifier (table : TableRef) : String :=
  table.shortName.getD (quoteName table.name)

/-- A table joined to the first one, on the equality of a column of each. -/
structure JoinClause where
  kind : JoinKind
  table : TableRef
  baseColumn : String
  column : String
deriving DecidableEq, Repr

def JoinClause.render (base : TableRef) (join : JoinClause) : String :=
  join.kind.keyword ++ " " ++ join.table.render ++ " ON " ++ base.qualifier ++ "." ++
    quoteName join.baseColumn ++ " = " ++ join.table.qualifier ++ "." ++ quoteName join.column

/-- A table and the tables joined to it. -/
structure Joined where
  base : TableRef
  joins : List JoinClause
deriving DecidableEq, Repr

def Joined.render (tables : Joined) : String :=
  separated " " (tables.base.render :: tables.joins.map (·.render tables.base))

/-- Where a statement takes its rows from. -/
inductive Source where
  | tables (tables : Joined)
  /-- The result of an inner selection under an alias. -/
  | derived (items : List Item) (tables : Joined) (shortName : String)
deriving DecidableEq, Repr

def Source.render : Source → String
  | .tables joined => joined.render
  | .derived items joined shortName =>
    "(SELECT " ++ renderItems items ++ " FROM " ++ joined.render ++ ") AS " ++ shortName

/-- A whole statement. The numbers of rows are kept as they were given. -/
structure Statement where
  items : List Item
  source : Source
  conditions : List Condition
  groups : List String
  orderings : List Ordering
  limit : Option Value
  offset : Option Value

/-- A clause with its keyword, or nothing when there is nothing to put into it. -/
def renderClause {α : Type} (keyword : String) (render : List α → String) (parts : List α) : String :=
  match parts with
  | [] => ""
  | parts => " " ++ keyword ++ " " ++ render parts

def renderCount (keyword : String) : Option Value → String
  | none => ""
  | some count => " " ++ keyword ++ " " ++ String.ofList count.plain

def Statement.render (s : Statement) : String :=
  "SELECT " ++ renderItems s.items ++ " FROM " ++ s.source.render ++
    renderClause "WHERE" renderConditions s.conditions ++
    renderClause "GROUP BY" (fun names => separated ", " (names.map quoteName)) s.groups ++
    renderClause "ORDER BY" renderOrderings s.orderings ++
    renderCount "LIMIT" s.limit ++ renderCount "OFFSET" s.offset

end Insights.Sql
