import Insights.Proofs.Insight.Compiled
import Insights.Proofs.Insight.Document
import Insights.Proofs.Session.Builder

/-!
Insights asked of builders. The rows of an insight without joins can also be asked for with the operations
that its parts stand for, over a builder of the dataset of its base table. Both ways lead to statements
that are alike from their source on. The items are the same ones as well, though not always in one order;
only a total over all rows, for which no column is grouped by, is selected by the insight alone.
-/

namespace Insights

namespace Sql

/-- The texts of the items of a selection. No items at all stand for every column. -/
def itemTexts : List Item → List String
  | [] => ["*"]
  | items => items.map Item.render

theorem itemTexts_of_ne_nil {items : List Item} (h : items ≠ []) :
    itemTexts items = items.map Item.render := by
  cases items with
  | nil => exact absurd rfl h
  | cons item rest => rfl

theorem renderItems_eq (items : List Item) : renderItems items = separated ", " (itemTexts items) := by
  cases items with
  | nil => rfl
  | cons item rest => rfl

/-- The text of a statement behind its items, beginning with its source. -/
def Statement.behindItems (s : Statement) : String :=
  s.source.render ++ renderClause "WHERE" renderConditions s.conditions ++
    renderClause "GROUP BY" (fun names => separated ", " (names.map quoteName)) s.groups ++
    renderClause "ORDER BY" renderOrderings s.orderings ++
    renderCount "LIMIT" s.limit ++ renderCount "OFFSET" s.offset

theorem Statement.render_eq (s : Statement) :
    s.render = "SELECT " ++ separated ", " (itemTexts s.items) ++ " FROM " ++ s.behindItems := by
  delta render behindItems
  simp only [renderItems_eq, String.append_assoc]

/-- The text of an aggregate with an argument is never the one that stands for every column. -/
theorem Item.render_aggregate_ne (function : Aggregate) (column : String) (output : Option String) :
    (Item.aggregate function (some column) output).render ≠ "*" := by
  intro h
  have hopen : '(' ∈ (Item.aggregate function (some column) output).render.toList := by
    rw [render, String.toList_append]
    apply List.mem_append_left
    cases function with
    | countDistinct =>
      change '(' ∈ ("COUNT(DISTINCT " ++ quoteName column ++ ")").toList
      simp
    | sum | avg | count | min | max =>
      change '(' ∈ (_ ++ "(" ++ quoteName column ++ ")").toList
      simp
  rw [h] at hopen
  exact absurd hopen (by decide)

end Sql

/-! ### The operations for an insight -/

/-- Names that are given as texts are the names themselves. -/
theorem Value.mapM_name_texts (names : List String) : (names.map Value.text).mapM Value.name = .ok names := by
  induction names with
  | nil => rfl
  | cons name rest ih =>
    rw [List.map_cons, List.mapM_cons, ih]
    rfl

/-- Items that are accepted one by one are accepted as a list. -/
theorem Operation.checkEach_map {α β : Type} {check : Value → Checked β} {document : α → Value} {read : α → β}
    (h : ∀ a, check (document a) = .accepted (read a)) (items : List α) :
    checkEach check (.list (items.map document)) = .ok (items.map read) := by
  change (items.map document).mapM (fun item => (check item).outcome) = _
  rw [List.mapM_map]
  apply mapM_eq_map
  intro a _
  rw [Function.comp_apply, h]
  rfl

namespace Plan

theorem items_select (columns : List String) :
    (empty.add (.select (columns.map Value.text))).items = .ok (columns.map Sql.Item.column) := by
  cases columns with
  | nil => rfl
  | cons column rest =>
    change (do return (← ((column :: rest).map Value.text).mapM Value.name).map Sql.Item.column) = _
    rw [Value.mapM_name_texts]
    rfl

/-- A grouping without columns selects nothing of its own, whatever it is to compute. -/
theorem items_group (columns : List String) (aggregations : Option (List Aggregation)) :
    (empty.add (.group ⟨columns.map Value.text, aggregations⟩)).items =
      .ok (if columns = [] then []
        else (aggregations.getD []).map Aggregation.item ++ columns.map Sql.Item.column) := by
  cases columns with
  | nil => rfl
  | cons column rest =>
    change (do
      return (aggregations.getD []).map Aggregation.item ++
        (← ((column :: rest).map Value.text).mapM Value.name).map Sql.Item.column) = _
    rw [Value.mapM_name_texts, if_neg (List.cons_ne_nil column rest)]
    rfl

end Plan

/-- The aggregation that a metric asks of a builder. -/
def Metric.aggregated (metric : Metric) : Aggregation :=
  ⟨metric.column.getD "", metric.aggregation, some metric.name⟩

/-- The document of that aggregation. -/
def Metric.aggregationDocument (metric : Metric) : Value :=
  .object [(Aggregation.columnKey.outer, .text (metric.column.getD "")),
    (Aggregation.functionKey.outer, .text metric.aggregation.word),
    (Aggregation.labelKey.outer, .text metric.name)]

theorem Metric.check_aggregationDocument (metric : Metric) :
    Aggregation.check metric.aggregationDocument = .accepted metric.aggregated := by
  refine Checked.seq_eq (Checked.seq_eq (Checked.map_eq ?_) ?_) ?_
  · exact Fields.required_eq rfl rfl
  · exact Fields.required_eq rfl metric.aggregation.check_word
  · exact Fields.withDefault_eq rfl rfl

/-- A metric with a column and a name has one item, whether an insight or a builder selects it. -/
theorem Metric.item_aggregated {metric : Metric} (hcount : metric.aggregation ≠ .count)
    (hname : metric.name ≠ "") {item : Sql.Item}
    (h : Insight.metricItem metric metric.column? = .ok item) : metric.aggregated.item = item := by
  cases hcolumn : metric.column? with
  | none =>
    rw [hcolumn] at h
    exact absurd h (Insight.metricItem_none hcount)
  | some column =>
    rw [hcolumn, Insight.metricItem_some hcount, Except.ok.injEq] at h
    have hgiven : metric.column = some column := (Option.filter_eq_some_iff.mp hcolumn).1
    simp [← h, aggregated, Aggregation.item, Aggregation.output, hgiven, hname]

namespace Insight

/-- The operations for the parts of an insight without joins, behind the one that gives the rows their
shape. A limit that is not positive is none. -/
def pipeline (insight : Insight) (shape : Operation) : List Operation :=
  [shape, .filter insight.filters, .sort insight.orderBy] ++
    ((insight.limit.filter (0 < ·)).map fun limit => Operation.limit (.integer limit)).toList

/-- The names of the columns that an insight shows when it does not combine rows: those of the visible
fields, narrowed to the selected ones when some are selected. -/
def shownColumns (insight : Insight) : List String :=
  let shown := insight.base.visible.filter fun field =>
    insight.selectedFields = [] ∨ field.id ∈ insight.selectedFields
  shown.map TableField.column

/-- The shape of an insight without metrics: its groups, or else the columns that it shows. -/
def plainShape (insight : Insight) : Operation :=
  if insight.groupBy ≠ [] then .group ⟨insight.groupBy.map .text, none⟩
  else .select (insight.shownColumns.map .text)

/-- The shape of an insight with metrics: its groups, and what is computed of each. -/
def totalShape (insight : Insight) : Operation :=
  .group ⟨insight.groupBy.map .text, some (insight.metrics.map Metric.aggregated)⟩

/-- The documents of the aggregations give the operation with these aggregations. -/
theorem ofGrouping_documents (insight : Insight) :
    Operation.ofGrouping (.list (insight.groupBy.map .text))
      (.list (insight.metrics.map Metric.aggregationDocument)) = .ok insight.totalShape := by
  have hchecked := Operation.checkEach_map Metric.check_aggregationDocument insight.metrics
  rw [Operation.ofGrouping, hchecked]
  · rfl
  · exact nofun

/-- The operation settles which items are selected and in which groups. -/
def IsShape (shape : Operation) : Prop :=
  (∃ grouping, shape = .group grouping) ∨ ∃ columns, shape = .select columns

/-- Behind any shape the operations of an insight lead to the same plan. -/
theorem ofOperations_pipeline (insight : Insight) {shape : Operation} (h : IsShape shape) :
    Plan.ofOperations (insight.pipeline shape) =
      { Plan.empty.add shape with
        filters := insight.filters
        orders := insight.orderBy
        joins := []
        limit := (insight.limit.filter (0 < ·)).map .integer
        offset := none } := by
  unfold pipeline
  obtain ⟨grouping, rfl⟩ | ⟨columns, rfl⟩ := h
  · cases insight.limit.filter (0 < ·) <;> rfl
  · cases insight.limit.filter (0 < ·) <;> rfl

theorem nodup_kinds_pipeline (insight : Insight) {shape : Operation} (h : IsShape shape) :
    ((insight.pipeline shape).map Operation.kind).Nodup := by
  unfold pipeline
  obtain ⟨grouping, rfl⟩ | ⟨columns, rfl⟩ := h
  · cases insight.limit.filter (0 < ·) <;> simp [Operation.kind]
  · cases insight.limit.filter (0 < ·) <;> simp [Operation.kind]

/-! ### Items -/

/-- The texts of the items of an insight with metrics: its groups, then its metrics. -/
def totalItems (insight : Insight) : List String :=
  insight.groupBy.map Sql.quoteName ++ insight.metrics.map fun metric => metric.aggregated.item.render

/-- The texts of the items that a builder selects for it. Without groups it selects every column. -/
def builtItems (insight : Insight) : List String :=
  if insight.groupBy = [] then ["*"]
  else insight.metrics.map (fun metric => metric.aggregated.item.render) ++ insight.groupBy.map Sql.quoteName

theorem itemTexts_total (insight : Insight) (hmetrics : insight.metrics ≠ []) :
    Sql.itemTexts (insight.groupBy.map Sql.Item.column ++
      insight.metrics.map fun metric => metric.aggregated.item) = insight.totalItems := by
  rw [Sql.itemTexts_of_ne_nil (by simp [hmetrics]), List.map_append, List.map_map, List.map_map]
  rfl

theorem itemTexts_built (insight : Insight) (hmetrics : insight.metrics ≠ []) :
    Sql.itemTexts (if insight.groupBy = [] then []
      else (insight.metrics.map Metric.aggregated).map Aggregation.item ++
        insight.groupBy.map Sql.Item.column) = insight.builtItems := by
  unfold builtItems
  split
  · rfl
  · rw [Sql.itemTexts_of_ne_nil (by simp [hmetrics]), List.map_append, List.map_map, List.map_map,
      List.map_map]
    rfl

theorem builtItems_perm_iff {insight : Insight} (hmetrics : insight.metrics ≠ []) :
    insight.builtItems.Perm insight.totalItems ↔ insight.groupBy ≠ [] := by
  unfold builtItems totalItems
  by_cases hgroups : insight.groupBy = []
  · obtain ⟨metric, rest, hmetric⟩ := List.exists_cons_of_ne_nil hmetrics
    simp only [hgroups, hmetric, List.map_cons, List.map_nil, List.nil_append, ne_eq, not_true_eq_false,
      iff_false, if_true]
    intro hperm
    have hmem := hperm.mem_iff.mpr List.mem_cons_self
    exact Sql.Item.render_aggregate_ne _ _ _ (List.mem_singleton.mp hmem)
  · rw [if_neg hgroups]
    exact iff_of_true List.perm_append_comm hgroups

theorem mem_builtItems_iff {insight : Insight} {metric : Metric} (h : metric ∈ insight.metrics) :
    metric.aggregated.item.render ∈ insight.builtItems ↔ insight.groupBy ≠ [] := by
  unfold builtItems
  split
  · next hgroups =>
    refine iff_of_false ?_ (not_not_intro hgroups)
    intro hmem
    exact Sql.Item.render_aggregate_ne _ _ _ (List.mem_singleton.mp hmem)
  · next hgroups =>
    exact iff_of_true (List.mem_append_left _ (List.mem_map_of_mem h)) hgroups

variable {insight : Insight} {items items' : List Sql.Item} {groups : List String} {s : Sql.Statement}

theorem map_shownFields (insight : Insight) :
    (insight.shownFields.map fun field => Sql.Item.column field.column) =
      insight.shownColumns.map Sql.Item.column := by
  unfold shownFields shownColumns
  by_cases h : insight.selectedFields = [] <;> simp [h]

theorem items_assemble {source : Sql.Source} (h : insight.assemble items source groups = .ok s) :
    s.items = items := by
  simp only [assemble, bind_eq_ok, pure_eq_ok] at h
  obtain ⟨found, -, limit, -, rfl⟩ := h
  rfl

theorem aggregatedItems_eq (hcounts : ∀ metric ∈ insight.metrics, metric.aggregation ≠ .count)
    (hnames : ∀ metric ∈ insight.metrics, metric.name ≠ "")
    (h : insight.aggregatedItems Metric.column? = .ok items) :
    items = insight.groupBy.map Sql.Item.column ++
      insight.metrics.map fun metric => metric.aggregated.item := by
  simp only [aggregatedItems, bind_eq_ok, pure_eq_ok] at h
  obtain ⟨found, hfound, rfl⟩ := h
  have hall : ∀ metric ∈ insight.metrics, metricItem metric metric.column? = .ok metric.aggregated.item := by
    intro metric hmem
    obtain ⟨item, hitem⟩ := exists_mapM_iff.mp ⟨found, hfound⟩ metric hmem
    rw [Metric.item_aggregated (hcounts metric hmem) (hnames metric hmem) hitem]
    exact hitem
  rw [mapM_eq_map hall, Except.ok.injEq] at hfound
  rw [hfound]

/-! ### Statements -/

/-- Without joins the statement of an insight is made over the table of its dataset. -/
theorem simpleStatement_of_sql {id text : String} (hjoins : insight.joins = [])
    (hdataset : insight.base.dataset = some id) (h : insight.sql = .ok text) :
    ∃ s, insight.simpleStatement id = .ok s ∧ s.render = text := by
  obtain ⟨s, hs, hrender⟩ := map_eq_ok.mp h
  rw [insight.apart.statement_of_no_joins hjoins] at hs
  obtain ⟨found, hfound, hs⟩ := bind_eq_ok.mp hs
  rw [orFault_eq_ok] at hfound
  rw [Insight.apart, Table.loaded?, hdataset, Option.filter_eq_some_iff, Option.some.injEq] at hfound
  rw [hfound.1]
  exact ⟨s, hs, hrender⟩

/-- A limit that a statement has can be written. -/
theorem mapM_written_rowLimit {limit : Option Value} (h : insight.rowLimit = .ok limit) :
    limit.mapM Value.written = .ok limit := by
  unfold rowLimit at h
  cases hlimit : insight.limit.filter (0 < ·) with
  | none =>
    rw [hlimit] at h
    cases h
    rfl
  | some n =>
    rw [hlimit, Option.mapM_some, writable] at h
    have hprintable : (Value.integer n).isPrintable = fitsDigitLimit n := by
      simp only [Value.isPrintable, Value.everywhere]
    split at h
    next hfits =>
      cases h
      rw [Option.mapM_some, Value.written, hprintable, if_pos hfits]
      rfl
    next => cases h

/-- With any shape that groups by the same columns, the plan of an insight makes the statement of the
insight up to the selected items. -/
theorem statement_pipeline {shape : Operation} {table : String} (hshape : IsShape shape)
    (h : insight.assemble items (.tables ⟨⟨table, none⟩, []⟩) groups = .ok s)
    (hitems : (Plan.empty.add shape).items = .ok items')
    (hgroups : (Plan.empty.add shape).groupColumns.mapM Value.name = .ok groups) :
    (Plan.ofOperations (insight.pipeline shape)).statement (.text table) Dataset.loaded =
      .ok { s with items := items' } := by
  simp only [assemble, bind_eq_ok, pure_eq_ok] at h
  obtain ⟨found, hfound, limit, hlimit, rfl⟩ := h
  have hwritten := mapM_written_rowLimit hlimit
  obtain rfl := rowLimit_eq hlimit
  -- The plan gets a name, or else all of its fields are spelt out wherever the statement looks at one.
  generalize hplan : Plan.ofOperations (insight.pipeline shape) = plan
  rw [ofOperations_pipeline insight hshape] at hplan
  have hitems' : plan.items = .ok items' := by
    rw [← hplan]
    exact hitems
  have hgroups' : plan.groupColumns.mapM Value.name = .ok groups := by
    rw [← hplan]
    exact hgroups
  have hname : (Value.text table).name = .ok table := rfl
  have hclauses : plan.joinClauses Dataset.loaded = .ok [] := by
    rw [← hplan]
    rfl
  have hfound' : conditions plan.filters = .ok found := by
    rw [← hplan]
    exact hfound
  have hlimit' : plan.limit.mapM Value.written = .ok ((insight.limit.filter (0 < ·)).map .integer) := by
    rw [← hplan]
    exact hwritten
  simp only [Plan.statement, hitems', hname, hclauses, hfound', hgroups', hlimit']
  rw [← hplan]
  rfl

end Insight

namespace BuilderAction

open Operation

/-! ### Builders -/

variable {σ : Type} [ByteStore σ]

/-- A fresh builder over a dataset that loads, with the operations of an insight in any order, has the
statement of the insight up to the selected items. -/
theorem sql_of_pipeline {insight : Insight} {loader : Nat} {dataset : Dataset} {session : Session σ}
    {operations : List Operation} {shape : Operation} {items items' : List Sql.Item} {groups : List String}
    {s : Sql.Statement} (hshape : Insight.IsShape shape)
    (h : insight.assemble items (.tables ⟨⟨dataset.table, none⟩, []⟩) groups = .ok s)
    (hitems : (Plan.empty.add shape).items = .ok items')
    (hgroups : (Plan.empty.add shape).groupColumns.mapM Value.name = .ok groups)
    (hoperations : operations.Perm (insight.pipeline shape)) (hreached : session.Reached)
    (hloads : ∃ name, ((Action.ensureLoaded loader dataset).run.run session).1 = .ok name) :
    ((sql.run.run ((Builder.ofDataset loader dataset).chain operations)).run session).1.1 =
      .ok { s with items := items' }.render := by
  have halike := alike_of_perm hoperations.symm (insight.nodup_kinds_pipeline hshape)
  have hplan : Plan.ofOperations operations = Plan.ofOperations (insight.pipeline shape) :=
    (Plan.ofOperations_congr halike).symm
  have hjoins : allJoins operations = [] := by
    have hplanned := insight.ofOperations_pipeline hshape
    rw [Plan.ofOperations_eq] at hplanned
    rw [← halike.joins]
    exact congrArg Plan.joins hplanned
  -- Nothing is joined, so the dataset of the builder is the only one that has to load.
  have hneeded : Action.LoadsEach loader ([dataset] ++ (allJoins operations).map (·.right)) session := by
    rw [hjoins]
    exact ⟨hloads, trivial⟩
  rw [Builder.chain_eq]
  refine (sql_of_loads hreached hneeded).trans ?_
  change ((Plan.ofOperations operations).statement (.text dataset.table) Dataset.loaded).map _ = _
  rw [hplan, Insight.statement_pipeline hshape h hitems hgroups]
  rfl

/-- Without joins and metrics an insight and a builder give one text. The builder is a fresh one over the
dataset of the base table, which has to load, and is asked for the operations of the insight in any
order. -/
theorem sql_agrees_without_metrics {insight : Insight} {loader : Nat} {dataset : Dataset}
    {session : Session σ} {operations : List Operation} {text : String} (hjoins : insight.joins = [])
    (hmetrics : insight.metrics = []) (hdataset : insight.base.dataset = some dataset.id)
    (hsql : insight.sql = .ok text) (hoperations : operations.Perm (insight.pipeline insight.plainShape))
    (hreached : session.Reached)
    (hloads : ∃ name, ((Action.ensureLoaded loader dataset).run.run session).1 = .ok name) :
    ((sql.run.run ((Builder.ofDataset loader dataset).chain operations)).run session).1.1 = .ok text := by
  obtain ⟨s, hs, rfl⟩ := Insight.simpleStatement_of_sql hjoins hdataset hsql
  unfold Insight.simpleStatement at hs
  by_cases hgroups : insight.groupBy = []
  · have hplain : ¬ insight.isAggregated = true := by simp [Insight.isAggregated, hmetrics, hgroups]
    rw [if_neg hplain, Insight.map_shownFields] at hs
    rw [Insight.plainShape, if_neg (not_not_intro hgroups)] at hoperations
    have hitems := Plan.items_select insight.shownColumns
    rw [← Insight.items_assemble hs] at hitems
    exact sql_of_pipeline (.inr ⟨_, rfl⟩) hs hitems rfl hoperations hreached hloads
  · have hcombined : insight.isAggregated = true := by simp [Insight.isAggregated, hgroups]
    rw [if_pos hcombined, Insight.aggregatedItems, hmetrics, List.mapM_nil] at hs
    rw [Insight.plainShape, if_pos hgroups] at hoperations
    have hitems := Plan.items_group insight.groupBy none
    have hselected : s.items = [] ++ insight.groupBy.map Sql.Item.column :=
      (Insight.items_assemble hs).trans (List.append_nil _)
    rw [if_neg hgroups, Option.getD_none, List.map_nil, ← hselected] at hitems
    exact sql_of_pipeline (.inl ⟨_, rfl⟩) hs hitems (Value.mapM_name_texts insight.groupBy) hoperations
      hreached hloads

/-- The table of sales as an insight sees it. -/
def salesTable : Table :=
  ⟨"s", "sales", some "a", [⟨"s1", "Region", "region", "string", none, none⟩,
    ⟨"s2", "Value", "value", "number", none, none⟩, ⟨"s3", "Row", "_row", "string", none, none⟩]⟩

/-- The three largest values above ten. -/
def largeSales : Insight where
  id := "i"
  name := "large sales"
  base := salesTable
  selectedFields := ["s3", "s2"]
  metrics := []
  filters := [⟨"value", .compare .gt, .integer 10, none⟩]
  groupBy := []
  orderBy := [⟨"value", .descending⟩]
  limit := some 3
  joins := []

def salesDataset : Dataset :=
  ⟨"a", ⟨.local, "k"⟩, [], none, 0⟩

/-- A session in which nothing was asked for yet, over an engine that has the table of the sales. -/
def salesSession : Session MemoryStore :=
  { Session.start .empty with engine := { ScriptedEngine.empty with tables := [("df_a", [])] } }

theorem reached_salesSession : salesSession.Reached :=
  (Session.reached_start MemoryStore.empty).of_loaders rfl

theorem salesDataset_loads :
    ((Action.ensureLoaded 0 salesDataset).run.run salesSession).1 = .ok "df_a" := by
  decide +kernel

theorem sql_agrees_without_metrics_largeSales :
    ∃ text, largeSales.sql = .ok text ∧
      ((sql.run.run ((Builder.ofDataset 0 salesDataset).chain
        [.limit (.integer 3), .sort largeSales.orderBy, .select [.text "value"],
          .filter largeSales.filters])).run salesSession).1.1 = .ok text := by
  have hsql : largeSales.sql =
      .ok "SELECT \"value\" FROM \"df_a\" WHERE \"value\" > 10 ORDER BY \"value\" DESC LIMIT 3" := by
    decide +kernel
  refine ⟨_, hsql, ?_⟩
  exact sql_agrees_without_metrics rfl rfl rfl hsql (by decide +kernel) reached_salesSession
    ⟨"df_a", salesDataset_loads⟩

/-- An insight without joins computes its metrics of each group, and so does a builder that is asked for
the groups with the aggregations of the metrics, for the filters, the orders and the limit. From the source
on both texts are the same, and in front of it they have the same items, though the builder has them in
another order. Without groups the builder leaves out all aggregations, and selects every column. -/
theorem sql_agrees_on_items_iff {insight : Insight} {loader : Nat} {dataset : Dataset}
    {session : Session σ} {operations : List Operation} {text : String} (hjoins : insight.joins = [])
    (hmetrics : insight.metrics ≠ []) (hcounts : ∀ metric ∈ insight.metrics, metric.aggregation ≠ .count)
    (hnames : ∀ metric ∈ insight.metrics, metric.name ≠ "")
    (hdataset : insight.base.dataset = some dataset.id) (hsql : insight.sql = .ok text)
    (hoperations : operations.Perm (insight.pipeline insight.totalShape)) (hreached : session.Reached)
    (hloads : ∃ name, ((Action.ensureLoaded loader dataset).run.run session).1 = .ok name) :
    Operation.ofGrouping (.list (insight.groupBy.map .text))
        (.list (insight.metrics.map Metric.aggregationDocument)) = .ok insight.totalShape ∧
      (∃ rest, text = "SELECT " ++ Sql.separated ", " insight.totalItems ++ " FROM " ++ rest ∧
        ((sql.run.run ((Builder.ofDataset loader dataset).chain operations)).run session).1.1 =
          .ok ("SELECT " ++ Sql.separated ", " insight.builtItems ++ " FROM " ++ rest)) ∧
      (insight.builtItems.Perm insight.totalItems ↔ insight.groupBy ≠ []) ∧
      ∀ metric ∈ insight.metrics, metric.aggregated.item.render ∈ insight.totalItems ∧
        (metric.aggregated.item.render ∈ insight.builtItems ↔ insight.groupBy ≠ []) := by
  refine ⟨insight.ofGrouping_documents, ?_, Insight.builtItems_perm_iff hmetrics, ?_⟩
  · obtain ⟨s, hs, rfl⟩ := Insight.simpleStatement_of_sql hjoins hdataset hsql
    have hcombined : insight.isAggregated = true := by simp [Insight.isAggregated, hmetrics]
    rw [Insight.simpleStatement, if_pos hcombined] at hs
    obtain ⟨items, hitems, hs⟩ := bind_eq_ok.mp hs
    rw [Insight.aggregatedItems_eq hcounts hnames hitems] at hs
    have hbuilt := Plan.items_group insight.groupBy (some (insight.metrics.map Metric.aggregated))
    have hanswer := sql_of_pipeline (.inl ⟨_, rfl⟩) hs hbuilt (Value.mapM_name_texts insight.groupBy)
      hoperations hreached hloads
    refine ⟨s.behindItems, ?_, ?_⟩
    · rw [Sql.Statement.render_eq, Insight.items_assemble hs, insight.itemTexts_total hmetrics]
    · rw [hanswer, Sql.Statement.render_eq, Option.getD_some, insight.itemTexts_built hmetrics]
      rfl
  · intro metric hmem
    exact ⟨List.mem_append_right _ (List.mem_map_of_mem hmem), Insight.mem_builtItems_iff hmem⟩

/-- The average of all values, or of those in each group. -/
def averageSales (groupBy : List String) : Insight where
  id := "i"
  name := "average sales"
  base := salesTable
  selectedFields := []
  metrics := [⟨"m", "average", "s", .avg, some "value"⟩]
  filters := []
  groupBy
  orderBy := []
  limit := none
  joins := []

theorem sql_agrees_on_items_iff_averageSales :
    ∃ text rest, (averageSales ["region"]).sql = .ok text ∧
      text = "SELECT " ++ Sql.separated ", " (averageSales ["region"]).totalItems ++ " FROM " ++ rest ∧
      ((sql.run.run ((Builder.ofDataset 0 salesDataset).chain
          ((averageSales ["region"]).pipeline (averageSales ["region"]).totalShape))).run salesSession).1.1 =
        .ok ("SELECT " ++ Sql.separated ", " (averageSales ["region"]).builtItems ++ " FROM " ++ rest) ∧
      (averageSales ["region"]).builtItems.Perm (averageSales ["region"]).totalItems := by
  have hsql : (averageSales ["region"]).sql =
      .ok "SELECT \"region\", AVG(\"value\") AS \"average\" FROM \"df_a\" GROUP BY \"region\"" := by
    decide +kernel
  obtain ⟨-, ⟨rest, htext, hanswer⟩, hperm, -⟩ := sql_agrees_on_items_iff rfl (by decide) (by decide)
    (by decide) rfl hsql (List.Perm.refl _) reached_salesSession ⟨"df_a", salesDataset_loads⟩
  exact ⟨_, rest, hsql, htext, hanswer, hperm.mpr (by decide)⟩

/-- An average of all values is left out of the statement of the builder. -/
theorem ungrouped_average_dropped :
    (averageSales []).sql = .ok "SELECT AVG(\"value\") AS \"average\" FROM \"df_a\"" ∧
      ((sql.run.run ((Builder.ofDataset 0 salesDataset).chain
        ((averageSales []).pipeline (averageSales []).totalShape))).run salesSession).1.1 =
          .ok "SELECT * FROM \"df_a\"" ∧
      "AVG(\"value\") AS \"average\"" ∈ (averageSales []).totalItems ∧
      "AVG(\"value\") AS \"average\"" ∉ (averageSales []).builtItems := by
  refine ⟨?_, ?_, ?_, ?_⟩ <;> decide +kernel

end BuilderAction
end Insights
