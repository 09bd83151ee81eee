import Mathlib.Logic.Equiv.Basic
import Insights.Proofs.Insight.Obstacles

/-!
Insights under other ids. The ids of fields and tables serve only to look these up, so an insight whose ids
are exchanged for others, equal ones for equal ones and different ones for different ones, has the same
statement. If it has none, it has the same fault; the fault of a join without key fields names them, and then
names them by their new ids. Ids of insights and metrics, and how fields are called and typed, count for
nothing at all.
-/

namespace Insights

/-- New ids for old ones, of fields and of tables. -/
structure Renaming where
  field : String → String
  table : String → String

/-- Different ids stay different. -/
structure Renaming.IsInjective (r : Renaming) : Prop where
  field : Function.Injective r.field
  table : Function.Injective r.table

/-- The fault with the new ids of the fields that it names. -/
def Fault.renamed (r : Renaming) : Fault → Fault
  | .joinKeyNotFound baseTable baseField joinedTable joinedField =>
    .joinKeyNotFound baseTable (r.field baseField) joinedTable (r.field joinedField)
  | fault => fault

/-! ### What is renamed -/

/-- The second field is the first one under its new id. All that is kept of a field is its column. -/
structure TableField.Renamed (r : Renaming) (field other : TableField) : Prop where
  id : other.id = r.field field.id
  column : other.column = field.column

structure Table.Renamed (r : Renaming) (table other : Table) : Prop where
  id : other.id = r.table table.id
  name : other.name = table.name
  dataset : other.dataset = table.dataset
  fields : List.Forall₂ (TableField.Renamed r) table.fields other.fields

structure Metric.Renamed (r : Renaming) (metric other : Metric) : Prop where
  name : other.name = metric.name
  sourceTable : other.sourceTable = r.table metric.sourceTable
  aggregation : other.aggregation = metric.aggregation
  column : other.column = metric.column

/-- The fields that a join selects may be any. -/
structure Join.Renamed (r : Renaming) (join other : Join) : Prop where
  table : Table.Renamed r join.table other.table
  baseField : other.keys.baseField = r.field join.keys.baseField
  joinedField : other.keys.joinedField = r.field join.keys.joinedField
  kind : other.kind = join.kind

/-- The second insight is the first one under new ids of fields and tables, with any id and name of its own. -/
structure Insight.Renamed (r : Renaming) (insight other : Insight) : Prop where
  base : Table.Renamed r insight.base other.base
  selectedFields : other.selectedFields = insight.selectedFields.map r.field
  metrics : List.Forall₂ (Metric.Renamed r) insight.metrics other.metrics
  filters : other.filters = insight.filters
  groupBy : other.groupBy = insight.groupBy
  orderBy : other.orderBy = insight.orderBy
  limit : other.limit = insight.limit
  joins : List.Forall₂ (Join.Renamed r) insight.joins other.joins

/-! ### Computations that end alike -/

section EndsAlike

variable {r : Renaming} {α α' β β' : Type} {R : α → α' → Prop} {S : β → β' → Prop}

/-- Two computations succeed with related results, or fail with one fault up to new ids. -/
inductive EndsAlike (r : Renaming) (R : α → α' → Prop) : Except Fault α → Except Fault α' → Prop
  | ok {a : α} {a' : α'} (h : R a a') : EndsAlike r R (.ok a) (.ok a')
  | error (fault : Fault) : EndsAlike r R (.error fault) (.error (fault.renamed r))

theorem EndsAlike.bind {x : Except Fault α} {x' : Except Fault α'} {f : α → Except Fault β}
    {f' : α' → Except Fault β'} (hx : EndsAlike r R x x') (hf : ∀ a a', R a a' → EndsAlike r S (f a) (f' a')) :
    EndsAlike r S (x >>= f) (x' >>= f') := by
  cases hx with
  | ok h => exact hf _ _ h
  | error fault => exact .error fault

/-- A computation whose obstacles name no fields ends like itself. -/
theorem StopsAt.endsAlike {obstacles : List Fault} {x : Except Fault α} (h : StopsAt obstacles x)
    (hkept : ∀ fault ∈ obstacles, fault.renamed r = fault) : EndsAlike r Eq x x := by
  cases obstacles with
  | nil =>
    obtain ⟨a, rfl⟩ := h
    exact .ok rfl
  | cons fault rest =>
    obtain rfl : x = .error fault := h
    have hsame := EndsAlike.error (r := r) (R := @Eq α) fault
    rwa [hkept fault List.mem_cons_self] at hsame

theorem EndsAlike.eq_mapError {x x' : Except Fault α} (h : EndsAlike r Eq x x') :
    x' = x.mapError (Fault.renamed r) := by
  cases h with
  | ok h =>
    subst h
    rfl
  | error fault => rfl

theorem endsAlike_orFault {fault : Fault} {x : Option α} {x' : Option α'} (h : Option.Rel R x x') :
    EndsAlike r R (orFault fault x) (orFault (fault.renamed r) x') := by
  cases h with
  | some h => exact .ok h
  | none => exact .error fault

theorem endsAlike_orFault_self {fault : Fault} (x : Option α) :
    EndsAlike r Eq (orFault fault x) (orFault (fault.renamed r) x) := by
  cases x with
  | some a => exact .ok rfl
  | none => exact .error fault

end EndsAlike

variable {r : Renaming}

/-! ### Looking things up -/

theorem isEmpty_eq_of_forall₂ {α β : Type} {R : α → β → Prop} {items : List α} {items' : List β}
    (h : List.Forall₂ R items items') : items'.isEmpty = items.isEmpty := by
  cases h <;> rfl

/-- The first item with a key is found at the same place under the new key. -/
theorem find?_renamed {α : Type} {R : α → α → Prop} {key : α → String} {rename : String → String}
    (hinjective : Function.Injective rename) (hkey : ∀ a a', R a a' → key a' = rename (key a))
    {items items' : List α} (h : List.Forall₂ R items items') (name : String) :
    Option.Rel R (items.find? (key · == name)) (items'.find? (key · == rename name)) := by
  induction h with
  | nil => exact .none
  | @cons a a' rest rest' hfirst _ ih =>
    have hsame : (key a' == rename name) = (key a == name) := by
      rw [hkey a a' hfirst, Bool.eq_iff_iff, beq_iff_eq, beq_iff_eq]
      exact hinjective.eq_iff
    rw [List.find?_cons, List.find?_cons, hsame]
    split
    · exact .some hfirst
    · exact ih

namespace Table.Renamed

variable {table other : Table}

theorem loaded?_eq (h : Table.Renamed r table other) : other.loaded? = table.loaded? := by
  rw [loaded?, loaded?, h.dataset]

theorem field? (hr : r.IsInjective) (h : Table.Renamed r table other) (id : String) :
    Option.Rel (TableField.Renamed r) (table.field? id) (other.field? (r.field id)) :=
  find?_renamed hr.field (fun _ _ hfield => hfield.id) h.fields id

/-- Whether a field is visible is up to its column. -/
theorem visible (h : Table.Renamed r table other) :
    List.Forall₂ (TableField.Renamed r) table.visible other.visible := by
  refine List.rel_filter ?_ h.fields
  intro field field' hfield
  simp only [TableField.isVisible, hfield.column]

/-- The table shows the same columns. -/
theorem map_visible {α : Type} (h : Table.Renamed r table other) (view : String → α) :
    other.visible.map (fun field => view field.column) = table.visible.map fun field => view field.column :=
  map_eq_map_of_forall₂ h.visible fun _ _ hfield => congrArg view hfield.column

theorem any_visible (h : Table.Renamed r table other) (column : String) :
    other.visible.any (·.column == column) = table.visible.any (·.column == column) := by
  have hsame := congrArg (List.any · fun shown => shown) (h.map_visible (· == column))
  simp only [List.any_map] at hsame
  exact hsame

end Table.Renamed

/-! ### Layouts of joins -/

structure Participant.Renamed (r : Renaming) (p other : Participant) : Prop where
  table : Table.Renamed r p.table other.table
  shortName : other.shortName = p.shortName
  isBase : other.isBase = p.isBase

structure JoinLayout.Renamed (r : Renaming) (layout other : JoinLayout) : Prop where
  base : Participant.Renamed r layout.base other.base
  joined : List.Forall₂ (Participant.Renamed r) layout.joined other.joined
  clauses : other.clauses = layout.clauses

namespace JoinLayout

variable {base base' : Table}

/-- A participant under new ids of its table, with the same clause. -/
def PairRenamed (r : Renaming) (pair pair' : Participant × Sql.JoinClause) : Prop :=
  Participant.Renamed r pair.1 pair'.1 ∧ pair'.2 = pair.2

/-- A join finds its key fields under their new ids, or misses them. -/
theorem endsAlike_participant (hr : r.IsInjective) (hbase : Table.Renamed r base base') {join join' : Join}
    (hjoin : Join.Renamed r join join') (isBase : Bool) (position : Nat) :
    EndsAlike r (PairRenamed r) (participant base join isBase position)
      (participant base' join' isBase position) := by
  have hbaseField := hbase.field? hr join.keys.baseField
  have hjoinedField := hjoin.table.field? hr join.keys.joinedField
  simp only [participant, hjoin.table.name, hjoin.table.loaded?_eq, hbase.name, hjoin.baseField,
    hjoin.joinedField]
  refine (endsAlike_orFault_self join.table.loaded?).bind fun dataset _ hdataset => ?_
  subst hdataset
  refine (endsAlike_orFault hbaseField).bind fun baseField baseField' hbaseColumn => ?_
  refine (endsAlike_orFault hjoinedField).bind fun joinedField joinedField' hjoinedColumn => ?_
  refine .ok ⟨⟨hjoin.table, rfl, rfl⟩, ?_⟩
  rw [hjoin.kind, hbaseColumn.column, hjoinedColumn.column]

theorem endsAlike_participantsFrom (hr : r.IsInjective) (hbase : Table.Renamed r base base')
    {joins joins' : List Join} (hjoins : List.Forall₂ (Join.Renamed r) joins joins') (isBase : Nat → Bool)
    (position : Nat) :
    EndsAlike r (List.Forall₂ (PairRenamed r)) (participantsFrom base isBase position joins)
      (participantsFrom base' isBase position joins') := by
  induction hjoins generalizing position with
  | nil => exact .ok .nil
  | cons hfirst _ ih =>
    refine (endsAlike_participant hr hbase hfirst (isBase position) position).bind fun first first' hfirst => ?_
    exact (ih (position + 1)).bind fun rest rest' hrest => .ok (.cons hfirst hrest)

theorem endsAlike_ofObject (hr : r.IsInjective) {insight other : Insight} (h : Insight.Renamed r insight other) :
    EndsAlike r (JoinLayout.Renamed r) (ofObject insight.apart) (ofObject other.apart) := by
  refine (endsAlike_participantsFrom hr h.base h.joins (fun _ => false) 0).bind fun pairs pairs' hpairs => ?_
  refine .ok ⟨⟨h.base, rfl, rfl⟩, ?_, ?_⟩
  · exact List.rel_map (R := PairRenamed r) (fun _ _ hpair => hpair.1) hpairs
  · exact map_eq_map_of_forall₂ hpairs fun _ _ hpair => hpair.2

namespace Renamed

variable {layout other : JoinLayout} {p p' : Participant}

theorem participants (h : JoinLayout.Renamed r layout other) :
    List.Forall₂ (Participant.Renamed r) layout.participants other.participants :=
  .cons h.base h.joined

theorem occurrences_eq (h : JoinLayout.Renamed r layout other) (column : String) :
    other.occurrences column = layout.occurrences column := by
  have hshown := map_eq_map_of_forall₂ h.participants fun _ _ hp => hp.table.any_visible column
  have hsame := congrArg (List.countP id) hshown
  rw [List.countP_map, List.countP_map] at hsame
  exact hsame

theorem outputName_eq (h : JoinLayout.Renamed r layout other) (hp : Participant.Renamed r p p') (column : String) :
    other.outputName p' column = layout.outputName p column := by
  unfold outputName isBaseKey
  rw [h.occurrences_eq, h.clauses, hp.isBase, hp.table.name]

theorem items_eq (h : JoinLayout.Renamed r layout other) : other.items = layout.items := by
  have hitem : ∀ p p', Participant.Renamed r p p' →
      (p'.table.visible.map fun field => other.item p' field.column) =
        p.table.visible.map fun field => layout.item p field.column := by
    intro p p' hp
    rw [hp.table.map_visible (other.item p')]
    simp only [item, h.outputName_eq hp, hp.shortName]
  unfold items
  rw [List.flatMap_def, List.flatMap_def, map_eq_map_of_forall₂ h.participants hitem]

/-- The table of a metric stands where it stood. -/
theorem source (hr : r.IsInjective) (h : JoinLayout.Renamed r layout other) (id : String) :
    Participant.Renamed r (layout.source id) (other.source (r.table id)) := by
  have hfound : Option.Rel (Participant.Renamed r) (layout.participants.find? (·.table.id == id))
      (other.participants.find? (·.table.id == r.table id)) :=
    find?_renamed hr.table (fun _ _ hp => hp.table.id) h.participants id
  unfold JoinLayout.source
  generalize layout.participants.find? (·.table.id == id) = found at hfound ⊢
  generalize other.participants.find? (·.table.id == r.table id) = found' at hfound ⊢
  cases hfound with
  | none => exact h.base
  | some hp => exact hp

end Renamed

end JoinLayout

/-! ### Statements -/

/-- The one obstacle that there may be names no key fields. -/
theorem renamed_of_mem_ite {p : Prop} [Decidable p] {obstacle fault : Fault}
    (hkept : obstacle.renamed r = obstacle) (h : fault ∈ if p then [obstacle] else []) :
    fault.renamed r = fault := by
  obtain ⟨-, hfault⟩ := List.mem_ite_nil_right.mp h
  rw [List.mem_singleton.mp hfault]
  exact hkept

theorem Value.renamed_of_mem_obstacles {value : Value} {fault : Fault} (h : fault ∈ value.obstacles) :
    fault.renamed r = fault := by
  unfold obstacles at h
  split at h
  · cases h
  · cases h
  · cases h
  all_goals exact renamed_of_mem_ite rfl h

namespace Insight

variable {insight other : Insight}

/-- What is in the way of a statement, apart from tables and joins, names no key fields. -/
theorem renamed_of_mem_ownObstacles {fault : Fault} (h : fault ∈ insight.metrics.flatMap Metric.obstacles ++
      (insight.filters.flatMap Predicate.obstacles ++ insight.limitObstacles)) :
    fault.renamed r = fault := by
  rcases List.mem_append.mp h with hmetric | hrest
  · obtain ⟨metric, -, hmetric⟩ := List.mem_flatMap.mp hmetric
    exact renamed_of_mem_ite rfl hmetric
  · rcases List.mem_append.mp hrest with hfilter | hlimit
    · obtain ⟨predicate, -, hpredicate⟩ := List.mem_flatMap.mp hfilter
      obtain ⟨value, -, hvalue⟩ := List.mem_flatMap.mp hpredicate
      exact Value.renamed_of_mem_obstacles hvalue
    · exact renamed_of_mem_ite rfl hlimit

namespace Renamed

theorem isAggregated_eq (h : Insight.Renamed r insight other) : other.isAggregated = insight.isAggregated := by
  rw [isAggregated, isAggregated, isEmpty_eq_of_forall₂ h.metrics, h.groupBy]

theorem assemble_eq (h : Insight.Renamed r insight other) : other.assemble = insight.assemble := by
  funext items source groups
  unfold assemble rowLimit
  rw [h.filters, h.orderBy, h.limit]

/-- A metric on a column that goes by the same name is the same item. -/
theorem aggregatedItems_eq (h : Insight.Renamed r insight other) {columnOf columnOf' : Metric → Option String}
    (hcolumn : ∀ metric metric', Metric.Renamed r metric metric' → columnOf' metric' = columnOf metric) :
    other.aggregatedItems columnOf' = insight.aggregatedItems columnOf := by
  have hitems : other.metrics.mapM (fun metric => metricItem metric (columnOf' metric)) =
      insight.metrics.mapM fun metric => metricItem metric (columnOf metric) := by
    refine mapM_eq_mapM_of_forall₂ h.metrics fun metric metric' hmetric => ?_
    simp only [metricItem, hcolumn metric metric' hmetric, hmetric.aggregation, hmetric.name]
  rw [aggregatedItems, aggregatedItems, hitems, h.groupBy]

theorem column?_eq {metric metric' : Metric} (h : Metric.Renamed r metric metric') :
    metric'.column? = metric.column? := by
  rw [Metric.column?, Metric.column?, h.column]

/-- The fields that an insight shows are found by their new ids. -/
theorem shownFields (hr : r.IsInjective) (h : Insight.Renamed r insight other) :
    List.Forall₂ (TableField.Renamed r) insight.shownFields other.shownFields := by
  have hselected : other.selectedFields.isEmpty = insight.selectedFields.isEmpty := by
    rw [h.selectedFields, List.isEmpty_map]
  unfold Insight.shownFields
  rw [hselected]
  split
  · exact h.base.visible
  · refine List.rel_filter ?_ h.base.visible
    intro field field' hfield
    simp only [List.contains_iff_mem]
    rw [h.selectedFields, hfield.id, List.mem_map_of_injective hr.field]

theorem simpleStatement_eq (hr : r.IsInjective) (h : Insight.Renamed r insight other) (dataset : String) :
    other.simpleStatement dataset = insight.simpleStatement dataset := by
  have hshown : other.shownFields.map (fun field => Sql.Item.column field.column) =
      insight.shownFields.map fun field => Sql.Item.column field.column :=
    map_eq_map_of_forall₂ (h.shownFields hr) fun _ _ hfield => congrArg Sql.Item.column hfield.column
  unfold simpleStatement
  rw [h.isAggregated_eq, h.aggregatedItems_eq fun _ _ => column?_eq, h.assemble_eq, h.groupBy, hshown]

theorem endsAlike_simpleStatement (hr : r.IsInjective) (h : Insight.Renamed r insight other) (dataset : String) :
    EndsAlike r Eq (insight.simpleStatement dataset) (other.simpleStatement dataset) := by
  rw [h.simpleStatement_eq hr]
  exact (stopsAt_selection (fun _ => Iff.rfl) _ _).endsAlike fun _ => renamed_of_mem_ownObstacles

/-- The column of a metric leaves the inner selection under the same name. -/
theorem joinedColumn_eq (hr : r.IsInjective) {layout layout' : JoinLayout}
    (hlayout : JoinLayout.Renamed r layout layout') {metric metric' : Metric}
    (h : Metric.Renamed r metric metric') : joinedColumn layout' metric' = joinedColumn layout metric := by
  have hsource := hlayout.source hr metric.sourceTable
  have hname : layout'.outputName (layout'.source metric'.sourceTable) =
      layout.outputName (layout.source metric.sourceTable) := by
    funext column
    rw [h.sourceTable]
    exact hlayout.outputName_eq hsource column
  rw [joinedColumn, joinedColumn, column?_eq h, hname]

theorem endsAlike_joinedStatement (hr : r.IsInjective) (h : Insight.Renamed r insight other) (dataset : String) :
    EndsAlike r Eq (insight.apart.joinedStatement dataset) (other.apart.joinedStatement dataset) := by
  refine (JoinLayout.endsAlike_ofObject hr h).bind fun layout layout' hlayout => ?_
  have htables : layout'.tables (tableName dataset) = layout.tables (tableName dataset) := by
    rw [JoinLayout.tables, JoinLayout.tables, hlayout.clauses]
  simp only [apart, h.isAggregated_eq, h.aggregatedItems_eq fun _ _ => joinedColumn_eq hr hlayout,
    h.assemble_eq, h.groupBy, hlayout.items_eq, htables]
  exact (stopsAt_selection (fun _ => Option.map_eq_none_iff) _ _).endsAlike fun _ => renamed_of_mem_ownObstacles

theorem endsAlike_statement (hr : r.IsInjective) (h : Insight.Renamed r insight other) :
    EndsAlike r Eq insight.statement other.statement := by
  have hname : other.apart.insight.base.name = insight.apart.insight.base.name := h.base.name
  have hloaded : other.apart.insight.base.loaded? = insight.apart.insight.base.loaded? := h.base.loaded?_eq
  have hempty : other.apart.insight.joins.isEmpty = insight.apart.insight.joins.isEmpty :=
    isEmpty_eq_of_forall₂ h.joins
  unfold statement InsightObject.statement
  dsimp only
  rw [hname, hloaded, hempty]
  refine (endsAlike_orFault_self insight.base.loaded?).bind fun dataset _ hdataset => ?_
  subst hdataset
  split
  · exact h.endsAlike_simpleStatement hr dataset
  · exact h.endsAlike_joinedStatement hr dataset

end Renamed

/-- The statement of an insight does not depend on which ids its fields and tables have, nor on any id, name or
type that the statement has no use for. When there is none, the same thing is in the way. -/
theorem sql_of_renamed (hr : r.IsInjective) (h : Insight.Renamed r insight other) :
    other.sql = insight.sql.mapError (Fault.renamed r) := by
  have hstatement := (h.endsAlike_statement hr).eq_mapError
  unfold statement at hstatement
  unfold sql InsightObject.sql
  rw [hstatement]
  cases insight.apart.statement <;> rfl

def keptIds : Renaming :=
  ⟨fun id => id, fun id => id⟩

/-- Exchanges the ids of two key fields, and those of two tables. -/
def exchangedIds : Renaming :=
  ⟨Equiv.swap "s1" "t2", Equiv.swap "s" "t"⟩

/-- The average target of each sale, with its ids put through a renaming. Two fields of the sales have one id,
and the join looks for the given field of the sales. -/
def targetsOfSales (r : Renaming) (name baseField : String) : Insight where
  id := name
  name := name
  base := ⟨r.table "s", "sales", some "a", [⟨r.field "s1", name, "id", name, none, none⟩,
    ⟨r.field "s1", name, "value", name, none, none⟩, ⟨r.field "s3", name, "_row", name, none, none⟩]⟩
  selectedFields := [r.field "s3"]
  metrics := [⟨name, "average", r.table "t", .avg, some "value"⟩]
  filters := [⟨"id", .isNull true, .null, none⟩]
  groupBy := ["id"]
  orderBy := []
  limit := some 5
  joins := [⟨⟨r.table "t", "targets", some "b", [⟨r.field "t1", name, "value", name, none, none⟩,
    ⟨r.field "t2", name, "sales_id", name, none, none⟩]⟩, [], ⟨r.field baseField, r.field "t2"⟩, .left⟩]

theorem sql_of_renamed_targetsOfSales :
    exchangedIds.IsInjective ∧ Insight.Renamed exchangedIds (targetsOfSales keptIds "targets" "s1")
        (targetsOfSales exchangedIds "other" "s1") ∧
      (targetsOfSales exchangedIds "other" "s1").joins.map (·.keys) = [⟨"t2", "s1"⟩] ∧
      (∃ text, (targetsOfSales exchangedIds "other" "s1").sql = .ok text ∧
        (targetsOfSales keptIds "targets" "s1").sql = .ok text) ∧
      (targetsOfSales keptIds "targets" "t2").sql = .error (.joinKeyNotFound "sales" "t2" "targets" "t2") ∧
      (targetsOfSales exchangedIds "other" "t2").sql = .error (.joinKeyNotFound "sales" "s1" "targets" "s1") := by
  have hinjective : exchangedIds.IsInjective := ⟨Equiv.injective _, Equiv.injective _⟩
  have hrenamed : ∀ baseField, Insight.Renamed exchangedIds (targetsOfSales keptIds "targets" baseField)
      (targetsOfSales exchangedIds "other" baseField) := by
    intro baseField
    constructor
    case base => exact ⟨rfl, rfl, rfl, .cons ⟨rfl, rfl⟩ (.cons ⟨rfl, rfl⟩ (.cons ⟨rfl, rfl⟩ .nil))⟩
    case metrics => exact .cons ⟨rfl, rfl, rfl, rfl⟩ .nil
    case joins =>
      exact .cons ⟨⟨rfl, rfl, rfl, .cons ⟨rfl, rfl⟩ (.cons ⟨rfl, rfl⟩ .nil)⟩, rfl, rfl, rfl⟩ .nil
    all_goals rfl
  have hbroken : (targetsOfSales keptIds "targets" "t2").sql =
      .error (.joinKeyNotFound "sales" "t2" "targets" "t2") := by
    decide +kernel
  have hsome : (targetsOfSales keptIds "targets" "s1").sql.toOption.isSome = true := by decide +kernel
  refine ⟨hinjective, hrenamed "s1", by decide, ?_, hbroken, ?_⟩
  · cases hsql : (targetsOfSales keptIds "targets" "s1").sql with
    | error fault => simp [hsql, Except.toOption] at hsome
    | ok text =>
      refine ⟨text, ?_, rfl⟩
      rw [sql_of_renamed hinjective (hrenamed "s1"), hsql]
      rfl
  · rw [sql_of_renamed hinjective (hrenamed "t2"), hbroken]
    decide

end Insight

end Insights
