import Mathlib.Data.List.Nodup
import Insights.Proofs.Insight.Compiled

/-!
The selection that the statement of an insight with joins takes its rows from. It lists every visible
column of every table in order, under the column's own name or, where other tables show a column of that
name, behind the name of its table. The rule is written down from the insight alone: how many tables show
a column, and whether it is the base table's side of a join. Where a join has the base table itself as its
table, the columns that it brings in count as the base table's own.
-/

namespace Insights

/-- The name of a column behind the name of its table. -/
def Participant.label (p : Participant) (column : String) : String :=
  displayName p.table.name ++ "." ++ column

/-- Whether a visible field of the table has the column. -/
def Table.Shows (table : Table) (column : String) : Prop :=
  ∃ field ∈ table.visible, field.column = column

instance (table : Table) (column : String) : Decidable (table.Shows column) :=
  inferInstanceAs (Decidable (∃ field ∈ table.visible, field.column = column))

theorem Participant.label_ne (p : Participant) (column : String) : p.label column ≠ column := by
  intro h
  have hlength := congrArg String.length h
  simp only [label, String.length_append] at hlength
  have hpoint : ".".length = 1 := rfl
  omega

namespace Insight

variable {insight : Insight}

def baseParticipant (insight : Insight) : Participant :=
  ⟨insight.base, baseAlias, true⟩

/-- Whether the column is the base table's side of some join. -/
def IsBaseKey (insight : Insight) (column : String) : Prop :=
  ∃ join ∈ insight.joins, (insight.base.field? join.keys.baseField).map (·.column) = some column

instance (column : String) : Decidable (insight.IsBaseKey column) :=
  inferInstanceAs (Decidable (∃ join ∈ insight.joins, _))

/-- The join finds its data and both of its key fields. -/
def Resolves (insight : Insight) (join : Join) : Prop :=
  ∃ dataset baseField joinedField, join.table.loaded? = some dataset ∧
    insight.base.field? join.keys.baseField = some baseField ∧
    join.table.field? join.keys.joinedField = some joinedField

/-- The clause of the join at a position: it equates the columns of the two key fields, the one under the
alias of the base table and the other under the join's own alias. -/
def IsClauseOf (insight : Insight) (position : Nat) (join : Join) (clause : Sql.JoinClause) : Prop :=
  ∃ dataset baseField joinedField, join.table.loaded? = some dataset ∧
    insight.base.field? join.keys.baseField = some baseField ∧
    join.table.field? join.keys.joinedField = some joinedField ∧
    clause.render ⟨insight.base.stored, some baseAlias⟩ =
      join.kind.keyword ++ " " ++ Sql.quoteName (tableName dataset) ++ " AS " ++ joinAlias position ++
        " ON " ++ baseAlias ++ "." ++ Sql.quoteName baseField.column ++
        " = " ++ joinAlias position ++ "." ++ Sql.quoteName joinedField.column

theorem isClauseOf_joinClause (hresolves : ∀ join ∈ insight.joins, insight.Resolves join)
    {position : Nat} (hlt : position < insight.joins.length) :
    insight.IsClauseOf position insight.joins[position]
      (insight.joinClause position insight.joins[position]) := by
  obtain ⟨dataset, baseField, joinedField, hdataset, hbase, hjoined⟩ :=
    hresolves _ (List.getElem_mem hlt)
  refine ⟨dataset, baseField, joinedField, hdataset, hbase, hjoined, ?_⟩
  simp [joinClause, Table.stored, Table.columnOf, hdataset, hbase, hjoined, Sql.JoinClause.render,
    Sql.TableRef.render, Sql.TableRef.qualifier, String.append_assoc]

/-- How the tables are joined: the base table under its alias, and one clause for each join. -/
structure JoinsTables (insight : Insight) (joined : Sql.Joined) : Prop where
  base : joined.base = ⟨insight.base.stored, some baseAlias⟩
  length : joined.joins.length = insight.joins.length
  clauses : ∀ position join clause, insight.joins[position]? = some join →
    joined.joins[position]? = some clause → insight.IsClauseOf position join clause

theorem resolves_of_participantsFrom {isBase : Nat → Bool} {joins : List Join} {position : Nat}
    {pairs : List (Participant × Sql.JoinClause)}
    (h : JoinLayout.participantsFrom insight.base isBase position joins = .ok pairs) :
    ∀ join ∈ joins, insight.Resolves join := by
  induction joins generalizing position pairs with
  | nil => simp
  | cons first rest ih =>
    simp only [JoinLayout.participantsFrom, bind_eq_ok] at h
    obtain ⟨pair, hfirst, others, hothers, -⟩ := h
    simp only [JoinLayout.participant, bind_eq_ok, orFault_eq_ok] at hfirst
    obtain ⟨dataset, hdataset, baseField, hbase, joinedField, hjoined, -⟩ := hfirst
    intro join hmem
    rcases List.mem_cons.mp hmem with rfl | hmem
    · exact ⟨dataset, baseField, joinedField, hdataset, hbase, hjoined⟩
    · exact ih hothers join hmem

theorem joinAlias_injective {i j : Nat} (h : joinAlias i = joinAlias j) : i = j := by
  -- the suffix of a later table is never empty
  have hsuffix : ∀ n : Nat, n ≠ 0 → (joinAlias n).toList = 'j' :: Nat.toDigits 10 (n + 1) := by
    intro n hn
    have hpos : ¬ ((n : Int) + 1 < 0) := by omega
    have habs : ((n : Int) + 1).natAbs = n + 1 := by omega
    simp [joinAlias, hn, integerDigits, digitsOf, hpos, habs]
  have hfirst : (joinAlias (0 : Nat)).toList = ['j'] := by decide
  have hdigits : ∀ n : Nat, Nat.toDigits 10 n ≠ [] := fun n => Nat.toDigits_ne_nil
  have hlists := congrArg String.toList h
  by_cases hi : i = 0 <;> by_cases hj : j = 0
  · rw [hi, hj]
  · subst hi
    rw [hfirst, hsuffix j hj] at hlists
    simp [hdigits] at hlists
  · subst hj
    rw [hfirst, hsuffix i hi] at hlists
    simp [hdigits] at hlists
  · rw [hsuffix i hi, hsuffix j hj, List.cons.injEq] at hlists
    have hvalue := congrArg (Nat.ofDigitChars 10 · 0) hlists.2
    simp only [Nat.ofDigitChars_ten_toDigits] at hvalue
    omega

theorem joinAlias_ne_baseAlias (position : Nat) : joinAlias position ≠ baseAlias := by
  intro h
  have hhead : (joinAlias position).toList.head? = some 'j' := by
    unfold joinAlias
    split <;> simp
  rw [h] at hhead
  exact absurd hhead (by decide)

end Insight

namespace InsightObject

variable {object : InsightObject}

/-- The tables that take part with their aliases, the base table first and the others in the order of
their joins. -/
def participants (object : InsightObject) : List Participant :=
  object.insight.baseParticipant ::
    object.insight.joins.mapIdx fun position join =>
      ⟨join.table, joinAlias position, object.joinsBase position⟩

/-- Whether at least two of the tables show the column. -/
def IsShared (object : InsightObject) (column : String) : Prop :=
  2 ≤ object.participants.countP fun p => p.table.Shows column

def IsRenamed (object : InsightObject) (p : Participant) (column : String) : Prop :=
  object.IsShared column ∧ ¬ (p.isBase = true ∧ object.insight.IsBaseKey column)

instance (column : String) : Decidable (object.IsShared column) :=
  inferInstanceAs (Decidable (2 ≤ _))

instance (p : Participant) (column : String) : Decidable (object.IsRenamed p column) :=
  inferInstanceAs (Decidable (_ ∧ _))

/-- The new name of a column, where it gets one. -/
def newName (object : InsightObject) (p : Participant) (column : String) : Option String :=
  if object.IsRenamed p column then some (p.label column) else none

def innerColumns (object : InsightObject) : List Sql.Item :=
  object.participants.flatMap fun p =>
    p.table.visible.map fun field =>
      .qualified p.shortName field.column (object.newName p field.column)

/-- The table that a metric is about: the first one with its id, and else the base table. -/
def sourceOf (object : InsightObject) (metric : Metric) : Participant :=
  (object.participants.find? (·.table.id = metric.sourceTable)).getD object.insight.baseParticipant

/-! ### What a statement over joined tables is made of -/

/-- The parts of the statement of an insight with joins. -/
structure Joins (object : InsightObject) (s : Sql.Statement) : Prop where
  resolves : ∀ join ∈ object.insight.joins, object.insight.Resolves join
  source : s.source =
    .derived object.layout.items (object.layout.tables object.insight.base.stored) joinedAlias
  items : object.insight.isAggregated = true → object.insight.aggregatedItems (Insight.joinedColumn object.layout) = .ok s.items
  conditions : conditions object.insight.filters = .ok s.conditions
  groups : s.groups = object.insight.groupBy
  orderings : s.orderings = object.insight.orderBy.map SortOrder.ordering

theorem joins_of_joinedStatement {dataset : String} {s : Sql.Statement}
    (hdataset : object.insight.base.loaded? = some dataset) (h : object.joinedStatement dataset = .ok s) :
    object.Joins s := by
  have hstored : tableName dataset = object.insight.base.stored := by
    simp [Table.stored, hdataset]
  simp only [joinedStatement, bind_eq_ok] at h
  obtain ⟨found, hfound, h⟩ := h
  have hlayout := ofObject_ok hfound
  subst hlayout
  simp only [JoinLayout.ofObject, bind_eq_ok] at hfound
  obtain ⟨pairs, hpairs, -⟩ := hfound
  have hresolves := Insight.resolves_of_participantsFrom hpairs
  rw [hstored] at h
  split at h
  · next haggregated =>
    obtain ⟨items, hitems, h⟩ := bind_eq_ok.mp h
    simp only [Insight.assemble, bind_eq_ok, pure_eq_ok] at h
    obtain ⟨found, hfound, limit, -, rfl⟩ := h
    exact ⟨hresolves, rfl, fun _ => hitems, hfound, rfl, rfl⟩
  · next haggregated =>
    simp only [Insight.assemble, bind_eq_ok, pure_eq_ok] at h
    obtain ⟨found, hfound, limit, -, rfl⟩ := h
    exact ⟨hresolves, rfl, fun h => absurd h haggregated, hfound,
      (Insight.groupBy_of_not_isAggregated haggregated).symm, rfl⟩

theorem joins_of_sql {text : String} (hjoins : object.insight.joins ≠ []) (h : object.sql = .ok text) :
    ∃ s, object.statement = .ok s ∧ text = s.render ∧ object.Joins s := by
  obtain ⟨s, hs, rfl⟩ := map_eq_ok.mp h
  refine ⟨s, hs, rfl, ?_⟩
  simp only [statement, bind_eq_ok, orFault_eq_ok] at hs
  obtain ⟨dataset, hdataset, hs⟩ := hs
  rw [if_neg (by simpa using hjoins)] at hs
  exact joins_of_joinedStatement hdataset hs

/-! ### The names of the columns -/

theorem participants_layout (object : InsightObject) : object.layout.participants = object.participants :=
  rfl

theorem occurrences_layout (object : InsightObject) (column : String) :
    object.layout.occurrences column = object.participants.countP fun p => p.table.Shows column := by
  rw [JoinLayout.occurrences, participants_layout]
  apply List.countP_congr
  intro p _
  rw [decide_eq_true_iff]
  simp [Table.Shows]

theorem isBaseKey_layout (hresolves : ∀ join ∈ object.insight.joins, object.insight.Resolves join) (column : String) :
    object.layout.isBaseKey column = true ↔ object.insight.IsBaseKey column := by
  have hcolumn : ∀ join ∈ object.insight.joins,
      (object.insight.base.columnOf join.keys.baseField = column ↔
        (object.insight.base.field? join.keys.baseField).map (·.column) = some column) := by
    intro join hmem
    obtain ⟨-, field, -, -, hfield, -⟩ := hresolves join hmem
    simp [Table.columnOf, hfield]
  constructor
  · intro h
    obtain ⟨clause, hclause, hsame⟩ := List.any_eq_true.mp h
    obtain ⟨position, hlt, rfl⟩ := List.mem_mapIdx.mp hclause
    have hmem := List.getElem_mem hlt
    exact ⟨_, hmem, (hcolumn _ hmem).mp (by simpa [Insight.joinClause] using hsame)⟩
  · rintro ⟨join, hmem, hsame⟩
    obtain ⟨position, hlt, rfl⟩ := List.mem_iff_getElem.mp hmem
    refine List.any_eq_true.mpr ⟨object.insight.joinClause position object.insight.joins[position],
      List.mem_mapIdx.mpr ⟨position, hlt, rfl⟩, ?_⟩
    simpa [Insight.joinClause] using (hcolumn _ hmem).mpr hsame

theorem outputName_layout (hresolves : ∀ join ∈ object.insight.joins, object.insight.Resolves join) (p : Participant)
    (column : String) :
    object.layout.outputName p column = (object.newName p column).getD column := by
  have hkey := isBaseKey_layout hresolves column
  have hrenamed : (1 < object.layout.occurrences column &&
      !(p.isBase && object.layout.isBaseKey column)) = true ↔ object.IsRenamed p column := by
    rw [Bool.and_eq_true, decide_eq_true_iff, Bool.not_eq_true', Bool.and_eq_false_iff, occurrences_layout,
      IsRenamed, not_and_or, ← hkey, Bool.not_eq_true, Bool.not_eq_true]
    rfl
  unfold JoinLayout.outputName newName
  by_cases h : object.IsRenamed p column
  · rw [if_pos (hrenamed.mpr h), if_pos h]
    rfl
  · rw [if_neg (mt hrenamed.mp h), if_neg h]
    rfl

theorem item_layout (hresolves : ∀ join ∈ object.insight.joins, object.insight.Resolves join) (p : Participant)
    (column : String) :
    object.layout.item p column = .qualified p.shortName column (object.newName p column) := by
  simp only [JoinLayout.item, outputName_layout hresolves]
  congr 1
  unfold newName
  split
  · exact if_neg (p.label_ne column)
  · exact if_pos rfl

theorem items_layout (hresolves : ∀ join ∈ object.insight.joins, object.insight.Resolves join) :
    object.layout.items = object.innerColumns := by
  simp only [JoinLayout.items, innerColumns, participants_layout, item_layout hresolves]

/-! ### Aliases -/

theorem nodup_aliases (object : InsightObject) : (object.participants.map (·.shortName)).Nodup := by
  simp only [participants, List.map_cons, List.nodup_cons]
  constructor
  · intro hmem
    obtain ⟨p, hp, hsame⟩ := List.mem_map.mp hmem
    obtain ⟨position, hlt, rfl⟩ := List.mem_mapIdx.mp hp
    exact Insight.joinAlias_ne_baseAlias position hsame
  · rw [List.nodup_iff_injective_getElem]
    intro i j h
    simp only [List.getElem_map, List.getElem_mapIdx] at h
    exact Fin.ext (Insight.joinAlias_injective h)

/-- No two tables have one alias, so an alias tells its table. -/
theorem eq_of_shortName {p q : Participant} (hp : p ∈ object.participants)
    (hq : q ∈ object.participants) (h : p.shortName = q.shortName) : p = q :=
  List.inj_on_of_nodup_map object.nodup_aliases hp hq h

/-! ### The selection -/

theorem joinsTables_layout (hresolves : ∀ join ∈ object.insight.joins, object.insight.Resolves join) :
    object.insight.JoinsTables (object.layout.tables object.insight.base.stored) := by
  refine ⟨rfl, List.length_mapIdx, ?_⟩
  intro position join clause hjoin hclause
  obtain ⟨hlt, rfl⟩ := List.getElem?_eq_some_iff.mp hjoin
  have hsame : (object.insight.joins.mapIdx object.insight.joinClause)[position]? = some clause := hclause
  rw [List.getElem?_mapIdx, hjoin, Option.map_some, Option.some.injEq] at hsame
  subst hsame
  exact Insight.isClauseOf_joinClause hresolves hlt

theorem mem_innerColumns {p : Participant} (hp : p ∈ object.participants) {column : String}
    (hshows : p.table.Shows column) :
    .qualified p.shortName column (object.newName p column) ∈ object.innerColumns := by
  obtain ⟨field, hfield, rfl⟩ := hshows
  exact List.mem_flatMap.mpr ⟨p, hp, List.mem_map.mpr ⟨field, hfield, rfl⟩⟩

theorem of_mem_innerColumns {item : Sql.Item} (h : item ∈ object.innerColumns) :
    ∃ p ∈ object.participants, ∃ column, p.table.Shows column ∧
      item = .qualified p.shortName column (object.newName p column) := by
  obtain ⟨p, hp, h⟩ := List.mem_flatMap.mp h
  obtain ⟨field, hfield, rfl⟩ := List.mem_map.mp h
  exact ⟨p, hp, field.column, ⟨field, hfield, rfl⟩, rfl⟩

theorem sourceOf_mem (object : InsightObject) (metric : Metric) :
    object.sourceOf metric ∈ object.participants := by
  unfold sourceOf
  cases hfound : object.participants.find? (·.table.id = metric.sourceTable) with
  | none => exact List.mem_cons_self
  | some p => exact List.mem_of_find?_eq_some hfound

theorem source_layout (object : InsightObject) (metric : Metric) :
    object.layout.source metric.sourceTable = object.sourceOf metric := by
  have hpredicate : (fun p : Participant => p.table.id == metric.sourceTable) =
      fun p => decide (p.table.id = metric.sourceTable) := by
    funext p
    exact beq_eq_decide _ _
  rw [JoinLayout.source, sourceOf, participants_layout, hpredicate]
  rfl

/-- A metric other than a count is computed from the column under its name in the inner selection. -/
theorem metric_item {s : Sql.Statement} (hs : object.Joins s) {position : Nat} {metric : Metric}
    (hmetric : object.insight.metrics[position]? = some metric) (hcount : metric.aggregation ≠ .count)
    {column : String} (hcolumn : metric.column = some column) :
    s.items[object.insight.groupBy.length + position]? = some (.aggregate metric.aggregation
      (some ((object.newName (object.sourceOf metric) column).getD column)) (some metric.name)) := by
  have hmem := List.mem_of_getElem? hmetric
  have haggregated : object.insight.isAggregated = true := by
    cases hmetrics : object.insight.metrics with
    | nil => simp [hmetrics] at hmem
    | cons first rest => simp [Insight.isAggregated, hmetrics]
  have hitems := hs.items haggregated
  simp only [Insight.aggregatedItems, bind_eq_ok, pure_eq_ok] at hitems
  obtain ⟨found, hfound, hitems⟩ := hitems
  obtain ⟨item, hitem, hmade⟩ := getElem?_of_mapM hfound hmetric
  -- without a column that has a name there would be no item
  have hnamed : metric.column? = some column := by
    by_cases hempty : column = ""
    · have hnone : metric.column? = none := by simp [Metric.column?, hcolumn, hempty]
      rw [Insight.joinedColumn, hnone, Option.map_none] at hmade
      exact absurd hmade (Insight.metricItem_none hcount)
    · simp [Metric.column?, hcolumn, hempty]
  rw [Insight.joinedColumn, hnamed, Option.map_some, Insight.metricItem_some hcount, source_layout,
    outputName_layout hs.resolves, Except.ok.injEq] at hmade
  rw [← hitems, List.getElem?_append_right (by simp), List.length_map, Nat.add_sub_cancel_left, hitem, hmade]

/-- The text of the columns of the inner selection, or a star when no table shows one. -/
def columnsText (object : InsightObject) : String :=
  if object.innerColumns = [] then "*"
  else ", ".intercalate <| object.participants.flatMap fun p => p.table.visible.map fun field =>
    p.shortName ++ "." ++ Sql.quoteName field.column ++
      if object.IsRenamed p field.column then " AS " ++ Sql.quoteName (p.label field.column) else ""

theorem renderItems_innerColumns (object : InsightObject) :
    Sql.renderItems object.innerColumns = object.columnsText := by
  have hitem : ∀ p column, (Sql.Item.qualified p.shortName column (object.newName p column)).render =
      p.shortName ++ "." ++ Sql.quoteName column ++
        if object.IsRenamed p column then " AS " ++ Sql.quoteName (p.label column) else "" := by
    intro p column
    unfold newName
    split <;> rfl
  have hitems : object.innerColumns.map Sql.Item.render =
      object.participants.flatMap fun p => p.table.visible.map fun field =>
        p.shortName ++ "." ++ Sql.quoteName field.column ++
          if object.IsRenamed p field.column then " AS " ++ Sql.quoteName (p.label field.column) else "" := by
    simp only [innerColumns, List.map_flatMap, List.map_map, Function.comp_def, hitem]
  rw [columnsText, ← hitems]
  cases object.innerColumns with
  | nil => rfl
  | cons first rest => rfl

/-- The inner selection has one column for each table and visible field, in order; a column gets a new
name exactly when several tables show it and it is not the base table's side of a join. No two tables have
one alias, each join equates the columns of its key fields, and a metric is computed from the name under
which its table's column leaves the selection. -/
theorem inner_selection_exact (object : InsightObject) (text : String) (hjoins : object.insight.joins ≠ [])
    (h : object.sql = .ok text) :
    ∃ s joined, object.statement = .ok s ∧ text = s.render ∧
      s.source = .derived object.innerColumns joined joinedAlias ∧
      s.source.render =
        "(SELECT " ++ object.columnsText ++ " FROM " ++ joined.render ++ ") AS " ++ joinedAlias ∧
      object.insight.JoinsTables joined ∧ (object.participants.map (·.shortName)).Nodup ∧
      ∀ position metric column, object.insight.metrics[position]? = some metric →
        metric.aggregation ≠ .count → metric.column = some column →
        (object.sourceOf metric).table.Shows column →
        ∃ output, Sql.Item.qualified (object.sourceOf metric).shortName column output ∈
            object.innerColumns ∧
          (∀ other, Sql.Item.qualified (object.sourceOf metric).shortName column other ∈
            object.innerColumns → other = output) ∧
          s.items[object.insight.groupBy.length + position]? =
            some (.aggregate metric.aggregation (some (output.getD column)) (some metric.name)) := by
  obtain ⟨s, hstatement, htext, hs⟩ := joins_of_sql hjoins h
  have hsource := hs.source
  rw [items_layout hs.resolves] at hsource
  refine ⟨s, _, hstatement, htext, hsource, ?_, joinsTables_layout hs.resolves,
    object.nodup_aliases, ?_⟩
  · rw [hsource, Sql.Source.render, renderItems_innerColumns]
  · intro position metric column hmetric hcount hcolumn hshows
    have hp := object.sourceOf_mem metric
    refine ⟨_, mem_innerColumns hp hshows, ?_, metric_item hs hmetric hcount hcolumn⟩
    intro other hother
    obtain ⟨q, hq, found, -, hsame⟩ := of_mem_innerColumns hother
    injection hsame with halias hname houtput
    subst hname
    rw [houtput, eq_of_shortName hp hq halias]

/-- Sales with their targets, and the targets once more: three tables of which all show a column `id` and
two have one name. -/
def salesAndTargets : Insight where
  id := "i"
  name := "average target"
  base := ⟨"s", "sales", some "a", [⟨"s1", "Id", "id", "string", none, none⟩,
    ⟨"s2", "Value", "value", "string", none, none⟩, ⟨"s3", "Row", "_row", "string", none, none⟩]⟩
  selectedFields := []
  metrics := [⟨"m", "average", "t", .avg, some "value"⟩]
  filters := []
  groupBy := ["id"]
  orderBy := []
  limit := none
  joins :=
    let targets : List TableField := [⟨"t1", "Id", "id", "string", none, none⟩,
      ⟨"t2", "Value", "value", "string", none, none⟩, ⟨"t3", "Sale", "sales_id", "string", none, none⟩]
    [⟨⟨"t", "targets", some "b", targets⟩, [], ⟨"s1", "t3"⟩, .inner⟩,
      ⟨⟨"u", "targets_12345678-1234-1234-1234-123456789012", some "c", targets⟩, [], ⟨"s1", "t1"⟩, .left⟩]

theorem inner_selection_exact_salesAndTargets :
    ∃ text s, salesAndTargets.apart.sql = .ok text ∧ salesAndTargets.apart.insight.joins ≠ [] ∧
      salesAndTargets.apart.statement = .ok s ∧
      s.items[1]? = some (.aggregate .avg (some "targets.value") (some "average")) := by
  have hsome : salesAndTargets.apart.sql.toOption.isSome = true := by decide +kernel
  cases hsql : salesAndTargets.apart.sql with
  | error fault => simp [hsql, Except.toOption] at hsome
  | ok text =>
    have hjoins : salesAndTargets.apart.insight.joins ≠ [] := by decide
    obtain ⟨s, joined, hs, -, -, -, -, -, hmetric⟩ := inner_selection_exact _ text hjoins hsql
    obtain ⟨output, -, honly, hitem⟩ :=
      hmetric 0 _ "value" rfl (by decide) rfl (by decide +kernel)
    have houtput := honly (some "targets.value") (by decide +kernel)
    subst houtput
    exact ⟨text, s, rfl, hjoins, hs, hitem⟩

end InsightObject
end Insights
