import Insights.Decode.Checked
import Insights.Decode.Scalar
import Insights.Sql.Statement
import Insights.Value.Document

/-!
Filters: a column, an operator, and the value or the values that it compares with. A filter keeps both,
and its operator decides which of them counts.
-/

namespace Insights

structure Predicate where
  column : String
  operator : Operator
  value : Value
  values : Option (List Value)
deriving DecidableEq

namespace Predicate

def columnKey : FieldKey := ⟨"columnName", "column_name"⟩
def operatorKey : FieldKey := .same "operator"
def valueKey : FieldKey := .same "value"
def valuesKey : FieldKey := .same "values"

def ofFields (fields : Fields Value) : Checked Predicate :=
  mk <$> fields.required columnKey Check.text
    <*> fields.required operatorKey Operator.check
    <*> fields.withDefault valueKey .null .accepted
    <*> fields.withDefault valuesKey none (Check.optional (Check.list .accepted))

/-- Checks a document of a filter. -/
def check : Value → Checked Predicate :=
  Check.object ofFields

/-- The condition of a statement that the filter stands for. Only the values that the operator uses are
looked at. -/
def test (predicate : Predicate) : Except Fault Sql.Test :=
  match predicate.operator with
  | .isNull negated => .ok (.isNull negated)
  | .member negated => do
    return .member negated (← (predicate.values.getD []).mapM Sql.Literal.ofValue)
  | .compare comparison => do
    return .compare comparison (← Sql.Literal.ofValue predicate.value)

def condition (predicate : Predicate) : Except Fault Sql.Condition := do
  return ⟨predicate.column, ← predicate.test⟩

/-- The text of the filter on a column that is given as text, or else on its own column. -/
def render (predicate : Predicate) (column : Option String) : Except Fault String := do
  return (← predicate.test).render (column.getD (Sql.quoteName predicate.column))

/-- The document of the filter that keeps the kinds of the values compared with. -/
def toValue (predicate : Predicate) : Value :=
  .object <|
    [(columnKey.outer, .text predicate.column), (operatorKey.outer, .text predicate.operator.keyword)]
      ++ (match predicate.value with
        | .null => []
        | value => [(valueKey.outer, value.documented)])
      ++ (predicate.values.map fun values => (valuesKey.outer, (Value.list values).documented)).toList

/-- The document of the value or the values of a filter: each value on its own, and so are the items of
a list. There is none for a value that is too deep. -/
def operandJson? (operand : Value) : Option Json :=
  if depthLimit < operand.depth then none
  else match operand with
    | .list items => (items.mapM Value.operandJson?).map .list
    | value => value.operandJson?

def toJson (predicate : Predicate) : Except Fault Json :=
  orFault (.unwritable none) do
    let value ← match predicate.value with
      | .null => some []
      | value => (operandJson? value).map fun document => [(valueKey.outer, document)]
    let values ← match predicate.values with
      | none => some []
      | some values => (operandJson? (.list values)).map fun document => [(valuesKey.outer, document)]
    return .object <|
      [(columnKey.outer, .text predicate.column),
        (operatorKey.outer, .text predicate.operator.keyword)] ++ value ++ values

end Predicate

/-- The conditions of a list of filters, in order; the first filter that has none decides the fault. -/
def conditions (predicates : List Predicate) : Except Fault (List Sql.Condition) :=
  predicates.mapM Predicate.condition

end Insights
