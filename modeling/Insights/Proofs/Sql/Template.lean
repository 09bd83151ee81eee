import Insights.Proofs.Sql.Numeral

/-!
The tokens of a statement, by its parts: the template that its text follows. Names and texts are tokens
of their own whatever they contain; what is written without quotes must be well spelt.
-/

namespace Insights.Sql

def commas (parts : List (List Token)) : List Token :=
  [.symbol ","].intercalate parts

def Literal.token : Literal → Token
  | .null => .word "NULL"
  | .boolean true => .word "TRUE"
  | .boolean false => .word "FALSE"
  | .number spelling => .number spelling
  | .text s => .text s

def notTokens (negated : Bool) : List Token :=
  if negated then [.word "NOT"] else []

def Test.tokens : Test → List Token
  | .compare comparison operand => [.symbol comparison.symbol, operand.token]
  | .member negated operands =>
    notTokens negated ++ [.word "IN", .symbol "("] ++ commas (operands.map ([·.token])) ++ [.symbol ")"]
  | .isNull negated => [.word "IS"] ++ notTokens negated ++ [.word "NULL"]

def Condition.tokens (condition : Condition) : List Token :=
  [.name condition.column] ++ condition.test.tokens

def Ordering.tokens (ordering : Ordering) : List Token :=
  [.name ordering.column, .word ordering.direction.keyword]

def aggregateTokens (function : Aggregate) (column : Option String) : List Token :=
  match function, column with
  | .countDistinct, column =>
    [.word "COUNT", .symbol "(", .word "DISTINCT", (column.map Token.name).getD (.word "None"), .symbol ")"]
  | function, none => [.word function.keyword, .symbol "(", .symbol "*", .symbol ")"]
  | function, some column => [.word function.keyword, .symbol "(", .name column, .symbol ")"]

def asTokens : Option String → List Token
  | none => []
  | some output => [.word "AS", .name output]

def Item.tokens : Item → List Token
  | .column name => [.name name]
  | .qualified table name output => [.word table, .symbol ".", .name name] ++ asTokens output
  | .aggregate function argument output => aggregateTokens function argument ++ asTokens output

/-- The parts of a selection, or a star when there are none. -/
def listTokens (parts : List (List Token)) : List Token :=
  if parts.isEmpty then [.symbol "*"] else commas parts

def TableRef.tokens (table : TableRef) : List Token :=
  match table.shortName with
  | none => [.name table.name]
  | some shortName => [.name table.name, .word "AS", .word shortName]

def TableRef.qualifierToken (table : TableRef) : Token :=
  (table.shortName.map Token.word).getD (.name table.name)

def joinWords : JoinKind → List String
  | .inner => ["INNER", "JOIN"]
  | .left => ["LEFT", "JOIN"]
  | .right => ["RIGHT", "JOIN"]
  | .outer => ["FULL", "OUTER", "JOIN"]

def JoinClause.tokens (base : TableRef) (join : JoinClause) : List Token :=
  (joinWords join.kind).map .word ++ join.table.tokens ++ [.word "ON"] ++
    [base.qualifierToken, .symbol ".", .name join.baseColumn] ++ [.symbol "="] ++
    [join.table.qualifierToken, .symbol ".", .name join.column]

def Joined.tokens (tables : Joined) : List Token :=
  tables.base.tokens ++ tables.joins.flatMap (·.tokens tables.base)

def Source.tokens : Source → List Token
  | .tables joined => joined.tokens
  | .derived items joined shortName =>
    [.symbol "(", .word "SELECT"] ++ listTokens (items.map Item.tokens) ++ [.word "FROM"] ++ joined.tokens ++
      [.symbol ")", .word "AS", .word shortName]

/-- A clause, unless there is nothing to put into it. -/
def clauseTokens (keywords : List String) (between : Token) (parts : List (List Token)) : List Token :=
  if parts.isEmpty then [] else keywords.map .word ++ [between].intercalate parts

def countTokens (keyword : String) : Option Value → List Token
  | none => []
  | some count => [.word keyword, .number (String.ofList count.plain)]

/-- The template: the clauses in their order, each one there only when there is something to put into it. -/
def Statement.tokens (s : Statement) : List Token :=
  [.word "SELECT"] ++ listTokens (s.items.map Item.tokens) ++ [.word "FROM"] ++ s.source.tokens ++
    clauseTokens ["WHERE"] (.word "AND") (s.conditions.map Condition.tokens) ++
    clauseTokens ["GROUP", "BY"] (.symbol ",") (s.groups.map ([.name ·])) ++
    clauseTokens ["ORDER", "BY"] (.symbol ",") (s.orderings.map Ordering.tokens) ++
    countTokens "LIMIT" s.limit ++ countTokens "OFFSET" s.offset

/-! ### What is written without quotes -/

/-- A number must be spelt as one. -/
def Literal.WellSpelt : Literal → Prop
  | .number spelling => IsNumeral spelling.toList
  | _ => True

def Test.WellSpelt : Test → Prop
  | .compare _ operand => operand.WellSpelt
  | .member _ operands => ∀ operand ∈ operands, operand.WellSpelt
  | .isNull _ => True

/-- The words that begin a clause behind the tables. -/
def clauseWords : List String :=
  ["WHERE", "GROUP", "ORDER", "LIMIT", "OFFSET"]

/-- An alias is a bare word, and none that begins a clause. -/
structure IsAlias (s : String) : Prop where
  isWord : isWord s = true
  notMem : s ∉ clauseWords

def Item.WellSpelt : Item → Prop
  | .qualified table _ _ => IsAlias table
  | _ => True

def TableRef.WellSpelt (table : TableRef) : Prop :=
  ∀ shortName ∈ table.shortName, IsAlias shortName

structure Joined.WellSpelt (tables : Joined) : Prop where
  base : tables.base.WellSpelt
  joins : ∀ join ∈ tables.joins, join.table.WellSpelt

def Source.WellSpelt : Source → Prop
  | .tables joined => joined.WellSpelt
  | .derived items joined shortName =>
    (∀ item ∈ items, item.WellSpelt) ∧ joined.WellSpelt ∧ IsAlias shortName

def CountWellSpelt (count : Option Value) : Prop :=
  ∀ value ∈ count, IsNumeral value.plain

/-- The aliases in a statement are well spelt. -/
structure Statement.Aliased (s : Statement) : Prop where
  items : ∀ item ∈ s.items, item.WellSpelt
  source : s.source.WellSpelt

/-- The aliases in a statement are well spelt, and so are its numbers. -/
structure Statement.WellSpelt (s : Statement) : Prop extends s.Aliased where
  conditions : ∀ condition ∈ s.conditions, condition.test.WellSpelt
  limit : CountWellSpelt s.limit
  offset : CountWellSpelt s.offset

end Insights.Sql
