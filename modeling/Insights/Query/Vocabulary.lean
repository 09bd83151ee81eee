import Insights.Decode.Scalar

/-!
The fixed words of a query: how a column is compared, in which direction rows are ordered, what is
aggregated, and how tables are joined. Each family is normalized in its own way before it is looked up.
-/

namespace Insights

inductive Comparison where
  | eq
  | ne
  | gt
  | ge
  | lt
  | le
deriving DecidableEq, Repr

/-- What a filter asks of a column: a comparison with one value, membership in a list, or being null. -/
inductive Operator where
  | compare (comparison : Comparison)
  | member (negated : Bool)
  | isNull (negated : Bool)
deriving DecidableEq, Repr

def Comparison.symbol : Comparison → String
  | .eq => "="
  | .ne => "!="
  | .gt => ">"
  | .ge => ">="
  | .lt => "<"
  | .le => "<="

def Operator.keyword : Operator → String
  | .compare comparison => comparison.symbol
  | .member false => "IN"
  | .member true => "NOT IN"
  | .isNull false => "IS NULL"
  | .isNull true => "IS NOT NULL"

instance : Choice Operator where
  all := [.compare .eq, .compare .ne, .compare .gt, .compare .ge, .compare .lt, .compare .le,
    .member false, .member true, .isNull false, .isNull true]
  name := Operator.keyword

/-- A text with its blanks reduced to single spaces, in upper case. -/
def upperWords (s : String) : String :=
  String.ofList (Text.upper (Text.squeeze s.toList))

/-- A text without blanks at its ends, in lower case. -/
def lowerName (s : String) : String :=
  String.ofList (Text.lowerLatin (Text.trim s.toList))

/-- A value with a text normalized and everything else as it is. -/
def Value.normalize (normal : String → String) : Value → Value
  | .text s => .text (normal s)
  | value => value

def Operator.check (value : Value) : Checked Operator :=
  Choice.check (value.normalize upperWords)

inductive Direction where
  | ascending
  | descending
deriving DecidableEq, Repr

def Direction.word : Direction → String
  | .ascending => "asc"
  | .descending => "desc"

def Direction.keyword : Direction → String
  | .ascending => "ASC"
  | .descending => "DESC"

instance : Choice Direction where
  all := [.ascending, .descending]
  name := Direction.word

def Direction.check (value : Value) : Checked Direction :=
  Choice.check (value.normalize lowerName)

inductive Aggregate where
  | sum
  | avg
  | count
  | min
  | max
  | countDistinct
deriving DecidableEq, Repr

def Aggregate.word : Aggregate → String
  | .sum => "sum"
  | .avg => "avg"
  | .count => "count"
  | .min => "min"
  | .max => "max"
  | .countDistinct => "count_distinct"

/-- The name of the aggregate function in a statement. -/
def Aggregate.keyword : Aggregate → String
  | .sum => "SUM"
  | .avg => "AVG"
  | .count => "COUNT"
  | .min => "MIN"
  | .max => "MAX"
  | .countDistinct => "COUNT"

instance : Choice Aggregate where
  all := [.sum, .avg, .count, .min, .max, .countDistinct]
  name := Aggregate.word

def Aggregate.check (value : Value) : Checked Aggregate :=
  Choice.check (value.normalize lowerName)

inductive JoinKind where
  | inner
  | left
  | right
  | outer
deriving DecidableEq, Repr

def JoinKind.word : JoinKind → String
  | .inner => "inner"
  | .left => "left"
  | .right => "right"
  | .outer => "outer"

def JoinKind.keyword : JoinKind → String
  | .inner => "INNER JOIN"
  | .left => "LEFT JOIN"
  | .right => "RIGHT JOIN"
  | .outer => "FULL OUTER JOIN"

instance : Choice JoinKind where
  all := [.inner, .left, .right, .outer]
  name := JoinKind.word

/-- The join that a value names. -/
def JoinKind.named (value : Value) : Except Fault JoinKind :=
  Choice.named "JoinType" value

def Aggregate.named (value : Value) : Except Fault Aggregate :=
  Choice.named "AggregationFunction" value

end Insights
