import Insights.Insight.JoinLayout

/-!
The statement of an insight. Without joins it selects from the base table; with joins it selects from
an inner selection over all tables, and refers to the columns by the names that they have there.
-/

namespace Insights
namespace Insight

/-- The item for a metric on the column with the given name. A count takes no column; every other
metric needs one. -/
def metricItem (metric : Metric) (column : Option String) : Except Fault Sql.Item :=
  match metric.aggregation, column with
  | .count, _ => .ok (.aggregate .count none (some metric.name))
  | function, some column => .ok (.aggregate function (some column) (some metric.name))
  | function, none => .error (.columnlessMetric metric.name function.word)

/-- The items of an insight that combines rows: the columns to group by, then the metrics. `columnOf`
tells under which name a metric's column is known. -/
def aggregatedItems (insight : Insight) (columnOf : Metric → Option String) :
    Except Fault (List Sql.Item) := do
  let metrics ← insight.metrics.mapM fun metric => metricItem metric (columnOf metric)
  return insight.groupBy.map Sql.Item.column ++ metrics

/-- The number of rows that the insight stops at. Zero and negative limits are none, and one that is too
long to be written cannot be part of a statement. -/
def rowLimit (insight : Insight) : Except Fault (Option Value) :=
  (insight.limit.filter (0 < ·)).mapM fun limit => (writable limit).map .integer

/-- The statement with the insight's filters, orders and limit around a selection. -/
def assemble (insight : Insight) (items : List Sql.Item) (source : Sql.Source) (groups : List String) :
    Except Fault Sql.Statement := do
  return {
    items
    source
    conditions := ← conditions insight.filters
    groups
    orderings := insight.orderBy.map SortOrder.ordering
    limit := ← insight.rowLimit
    offset := none }

/-- The visible fields that are selected: all of them unless the insight selects some by id. -/
def shownFields (insight : Insight) : List TableField :=
  if insight.selectedFields.isEmpty then insight.base.visible
  else insight.base.visible.filter fun field => insight.selectedFields.contains field.id

def simpleStatement (insight : Insight) (dataset : String) : Except Fault Sql.Statement := do
  let source := Sql.Source.tables ⟨⟨tableName dataset, none⟩, []⟩
  if insight.isAggregated then
    let items ← insight.aggregatedItems Metric.column?
    insight.assemble items source insight.groupBy
  else
    insight.assemble (insight.shownFields.map fun field => .column field.column) source []

/-- The name under which the inner selection exports the column of a metric. -/
def joinedColumn (layout : JoinLayout) (metric : Metric) : Option String :=
  metric.column?.map (layout.outputName (layout.source metric.sourceTable))

end Insight

namespace InsightObject

def joinedStatement (object : InsightObject) (dataset : String) : Except Fault Sql.Statement := do
  let insight := object.insight
  let layout ← JoinLayout.ofObject object
  let source := Sql.Source.derived layout.items (layout.tables (tableName dataset)) joinedAlias
  if insight.isAggregated then
    let items ← insight.aggregatedItems (Insight.joinedColumn layout)
    insight.assemble items source insight.groupBy
  else insight.assemble [] source []

/-- The statement of an insight. -/
def statement (object : InsightObject) : Except Fault Sql.Statement := do
  let insight := object.insight
  let dataset ← orFault (.missingDataset insight.base.name false) insight.base.loaded?
  if insight.joins.isEmpty then insight.simpleStatement dataset
  else object.joinedStatement dataset

/-- The text of the statement of an insight. -/
def sql (object : InsightObject) : Except Fault String :=
  object.statement.map Sql.Statement.render

end InsightObject

namespace Insight

/-- The statement of an insight whose tables are objects of their own. -/
def statement (insight : Insight) : Except Fault Sql.Statement :=
  insight.apart.statement

/-- The text of the statement of an insight whose tables are objects of their own. -/
def sql (insight : Insight) : Except Fault String :=
  insight.apart.sql

end Insight
end Insights
