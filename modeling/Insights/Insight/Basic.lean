import Insights.Insight.Table
import Insights.Query.Aggregation
import Insights.Query.Predicate
import Insights.Value.Document

/-!
Insights and their documents.
-/

namespace Insights

/-! ### Insights

Insights: declarative queries over a base table and the tables joined to it. An insight is made from
named parts, each of which is a document or already what the document would be checked into, and is
never changed: an update makes a new one from the parts of the old one with some replaced. -/

structure Insight where
  id : String
  name : String
  base : Table
  selectedFields : List String
  metrics : List Metric
  filters : List Predicate
  groupBy : List String
  orderBy : List SortOrder
  limit : Option Int
  joins : List Join
deriving DecidableEq

namespace Insight

/-- What a part of an insight is made from. -/
inductive Part where
  | value (v : Value)
  | list (items : List Part)
  | table (t : Table)
  | metric (m : Metric)
  | predicate (p : Predicate)
  | order (o : SortOrder)
  | join (j : Join)

def Part.text : Part → Checked String
  | .value v => Check.text v
  | _ => .refuse .notText

def Part.limit : Part → Checked (Option Int)
  | .value v => Check.optional Check.integer v
  | _ => .refuse .notInteger

def Part.tableOf : Part → Checked Table
  | .table t => .accepted t
  | .value v => Table.check v
  | _ => .refuse .notObject

def Part.metricOf (newId : String) : Part → Checked Metric
  | .metric m => .accepted m
  | .value v => Metric.check newId v
  | _ => .refuse .notObject

def Part.predicateOf : Part → Checked Predicate
  | .predicate p => .accepted p
  | .value v => Predicate.check v
  | _ => .refuse .notObject

def Part.orderOf : Part → Checked SortOrder
  | .order o => .accepted o
  | .value v => SortOrder.check v
  | _ => .refuse .notObject

def Part.joinOf : Part → Checked Join
  | .join j => .accepted j
  | .value v => Join.check v
  | _ => .refuse .notObject

/-- The items of a part that is a list; null stands for the empty one. -/
def Part.itemsOf : Part → Checked (List Part)
  | .value .null => .accepted []
  | .value (.list items) => .accepted (items.map .value)
  | .list items => .accepted items
  | _ => .refuse .notList

def Part.listOf {α : Type} (check : Part → Checked α) (part : Part) : Checked (List α) :=
  part.itemsOf.andThen (Checked.items check)

def idKey : FieldKey := .same "id"
def nameKey : FieldKey := .same "name"
def baseKey : FieldKey := ⟨"baseTable", "base_table"⟩
def selectedFieldsKey : FieldKey := ⟨"selectedFields", "selected_fields"⟩
def metricsKey : FieldKey := .same "metrics"
def filtersKey : FieldKey := .same "filters"
def groupByKey : FieldKey := ⟨"groupBy", "group_by"⟩
def orderByKey : FieldKey := ⟨"orderBy", "order_by"⟩
def limitKey : FieldKey := .same "limit"
def joinsKey : FieldKey := .same "joins"

/-- The metrics of an insight; the metric at each position has a new id in reserve. -/
def checkMetrics (newId : Nat → String) (part : Part) : Checked (List Metric) :=
  part.itemsOf.andThen fun items =>
    Checked.items (fun (position, item) => Part.metricOf (newId (position + 1)) item)
      ((List.range items.length).zip items)

/-- Checks the parts of an insight. New ids come from a numbered supply: the first for the insight, the
following ones for its metrics. -/
def check (newId : Nat → String) (parts : Fields Part) : Checked Insight :=
  mk <$> parts.withDefault idKey (newId 0) Part.text
    <*> parts.required nameKey Part.text
    <*> parts.required baseKey Part.tableOf
    <*> parts.withDefault selectedFieldsKey [] (Part.listOf Part.text)
    <*> parts.withDefault metricsKey [] (checkMetrics newId)
    <*> parts.withDefault filtersKey [] (Part.listOf Part.predicateOf)
    <*> parts.withDefault groupByKey [] (Part.listOf Part.text)
    <*> parts.withDefault orderByKey [] (Part.listOf Part.orderOf)
    <*> parts.withDefault limitKey none Part.limit
    <*> parts.withDefault joinsKey [] (Part.listOf Part.joinOf)

/-- Whether a part is a text that is not blank. -/
def Part.isProperName : Part → Bool
  | .value (.text s) => !(Text.trim s.toList).isEmpty
  | _ => false

def Part.isNull : Part → Bool
  | .value .null => true
  | _ => false

/-- The part that is looked at for a base table before anything is checked: here the inner spelling
counts when both are there. -/
def basePart? (parts : Fields Part) : Option Part :=
  (parts.lookup baseKey.inner <|> parts.lookup baseKey.outer).filter (!·.isNull)

/-- The name that no part may have. -/
def reservedName : String := "self"

/-- Makes an insight. A proper name and a base table are asked for before all else. -/
def ofParts (newId : Nat → String) (parts : Fields Part) : Except Fault Insight :=
  if (parts.lookup reservedName).isSome then .error .wrongKind
  else if !((parts.lookup nameKey.outer).any Part.isProperName) then .error .unnamedInsight
  else if (basePart? parts).isNone then .error .tablelessInsight
  else (check newId parts).outcome

/-- Makes an insight from a document. -/
def ofValue (newId : Nat → String) : Value → Except Fault Insight
  | .object fields => ofParts newId (fields.map fun (name, value) => (name, .value value))
  | _ => .error .wrongKind

/-- The parts that make the insight again, under their inner names. -/
def parts (insight : Insight) : Fields Part :=
  [(idKey.inner, .value (.text insight.id)),
    (nameKey.inner, .value (.text insight.name)),
    (baseKey.inner, .table insight.base),
    (selectedFieldsKey.inner, .list (insight.selectedFields.map fun id => .value (.text id))),
    (metricsKey.inner, .list (insight.metrics.map .metric)),
    (filtersKey.inner, .list (insight.filters.map .predicate)),
    (groupByKey.inner, .list (insight.groupBy.map fun column => .value (.text column))),
    (orderByKey.inner, .list (insight.orderBy.map .order)),
    (limitKey.inner, .value ((insight.limit.map Value.integer).getD .null)),
    (joinsKey.inner, .list (insight.joins.map .join))]

/-- The names of the parts that are updated as a whole. -/
def wholeParts : List String :=
  [nameKey.inner, limitKey.inner]

/-- The names of the parts that are updated item by item. -/
def listParts : List String :=
  [selectedFieldsKey.inner, metricsKey.inner, filtersKey.inner, groupByKey.inner, orderByKey.inner,
    joinsKey.inner]

/-- The change that updates one part, which must be named. -/
def change (name : String) (value : Value) : Except Fault (Fields Part) :=
  if name.isEmpty then .error .wrongKind
  else if wholeParts.contains name then .ok [(name, .value value)]
  else if listParts.contains name then do return [(name, .list ((← value.items).map .value))]
  else .error (.unknownUpdate name)

/-- The change that updates the parts named by an object. -/
def changes : Value → Except Fault (Fields Part)
  | .object fields => .ok (fields.map fun (name, value) => (name, .value value))
  | _ => .error .wrongKind

/-- The insight with some parts replaced; all others carry over. -/
def updated (newId : Nat → String) (insight : Insight) (changes : Fields Part) :
    Except Fault Insight :=
  ofParts newId (insight.parts.overlay changes)

/-! ### What an insight asks for -/

def hasAnalytics (insight : Insight) : Bool :=
  !insight.metrics.isEmpty || !insight.groupBy.isEmpty || !insight.filters.isEmpty

def isReady (insight : Insight) : Bool :=
  !insight.selectedFields.isEmpty || insight.hasAnalytics

/-- Whether rows are combined: there is a metric or a column to group by. -/
def isAggregated (insight : Insight) : Bool :=
  !insight.metrics.isEmpty || !insight.groupBy.isEmpty

/-- A phrase about something that may be absent. -/
def phrase (present : Bool) (text : String) : List String :=
  if present then [text] else []

def numeral (n : Int) : String :=
  String.ofList (integerDigits n)

/-- What the insight shows, in words. A limit that is too long to be written cannot be put into words. -/
def description (insight : Insight) : Except Fault String := do
  let limit ← writable (insight.limit.getD 0)
  let phrases :=
    phrase (!insight.selectedFields.isEmpty)
        ("show " ++ numeral insight.selectedFields.length ++ " fields")
      ++ phrase (!insight.groupBy.isEmpty) ("grouped by " ++ ", ".intercalate insight.groupBy)
      ++ phrase (!insight.metrics.isEmpty)
        ("with metrics: " ++ ", ".intercalate (insight.metrics.map (·.name)))
      ++ phrase (!insight.filters.isEmpty)
        ("filtered by " ++ numeral insight.filters.length ++ " conditions")
      ++ phrase (limit ≠ 0) ("limited to " ++ numeral limit ++ " rows")
  return if phrases.isEmpty then "show all data" else "; ".intercalate phrases

/-! ### Documents

The documents of an insight: one with the values of its filters as they are, and one as JSON. -/

/-- The fields of the document before the filters. -/
def leadingFields (insight : Insight) : Fields Json :=
  [(idKey.outer, .text insight.id), (nameKey.outer, .text insight.name),
    (baseKey.outer, insight.base.toJson),
    (selectedFieldsKey.outer, .list (insight.selectedFields.map Json.text)),
    (metricsKey.outer, .list (insight.metrics.map Metric.toJson))]

/-- The fields of the document after the filters. -/
def trailingFields (insight : Insight) : Fields Json :=
  [(groupByKey.outer, .list (insight.groupBy.map Json.text)),
    (orderByKey.outer, .list (insight.orderBy.map SortOrder.toJson))]
    ++ (insight.limit.map fun limit => (limitKey.outer, Json.integer limit)).toList
    ++ [(joinsKey.outer, .list (insight.joins.map Join.toJson))]

def toValue (insight : Insight) : Value :=
  .object <| Json.toFields insight.leadingFields
    ++ [(filtersKey.outer, .list (insight.filters.map Predicate.toValue))]
    ++ Json.toFields insight.trailingFields

def toJson (insight : Insight) : Except Fault Json := do
  let filters ← insight.filters.mapM Predicate.toJson
  return .object <| insight.leadingFields ++ [(filtersKey.outer, .list filters)] ++ insight.trailingFields

end Insight

/-! ### Objects

The tables of an insight are objects, and two of them that are equal may be one. All that depends on it is
whether the table of a join is the very object that is the base table. What is made from a document has
objects of its own throughout. -/

/-- An insight together with which of its joins have the base table itself as their table. -/
structure InsightObject where
  insight : Insight
  /-- Whether the table of the join at a position is the base table. -/
  joinsBase : Nat → Bool
  table_eq : ∀ position join, insight.joins[position]? = some join → joinsBase position = true →
    join.table = insight.base

/-- The insight with tables that are all objects of their own. -/
def Insight.apart (insight : Insight) : InsightObject where
  insight
  joinsBase _ := false
  table_eq := nofun

end Insights
