import Mathlib.Data.List.Forall2
import Mathlib.Data.List.Perm.Subperm
import Mathlib.Data.Prod.Basic
import Insights.Proofs.Insight.InnerSelection

/-!
The names under which the columns of joined tables leave the inner selection, and what the outer selection
makes of them. Columns that keep their own names never collide with each other, so two columns have one
name only through a label made of a table's name and a column's. The outer selection filters, groups and
orders by the bare names, and these are there only for the columns that kept them.
-/

namespace Insights

/-- The name under which an item leaves a selection, if it has one. -/
def Sql.Item.outputName : Sql.Item → Option String
  | .column name => some name
  | .qualified _ name output => some (output.getD name)
  | .aggregate _ _ output => output

namespace InsightObject

variable {object : InsightObject}

/-- Whether some table shows the column. -/
def IsVisible (object : InsightObject) (column : String) : Prop :=
  ∃ p ∈ object.participants, p.table.Shows column

/-- The visible columns with their tables, in order. -/
def columns (object : InsightObject) : List (Participant × String) :=
  object.participants.flatMap fun p => p.table.visible.map fun field => (p, field.column)

/-- The name under which a column leaves the inner selection. -/
def exportName (object : InsightObject) (column : Participant × String) : String :=
  (object.newName column.1 column.2).getD column.2

theorem mem_columns {p : Participant} {column : String} :
    (p, column) ∈ object.columns ↔ p ∈ object.participants ∧ p.table.Shows column := by
  constructor
  · intro h
    obtain ⟨q, hq, h⟩ := List.mem_flatMap.mp h
    obtain ⟨field, hfield, hsame⟩ := List.mem_map.mp h
    obtain ⟨rfl, rfl⟩ := Prod.mk.inj hsame
    exact ⟨hq, field, hfield, rfl⟩
  · rintro ⟨hp, field, hfield, rfl⟩
    exact List.mem_flatMap.mpr ⟨p, hp, List.mem_map.mpr ⟨field, hfield, rfl⟩⟩

theorem outputNames_innerColumns (object : InsightObject) :
    object.innerColumns.map Sql.Item.outputName =
      object.columns.map fun column => some (object.exportName column) := by
  simp only [innerColumns, columns, List.map_flatMap, List.map_map]
  rfl

theorem nodup_columns
    (hlisted : ∀ p ∈ object.participants, (p.table.visible.map (·.column)).Nodup) :
    object.columns.Nodup := by
  have hparticipants : object.participants.Nodup := List.Nodup.of_map _ object.nodup_aliases
  refine List.nodup_flatMap.mpr ⟨?_, hparticipants.imp ?_⟩
  · intro p hp
    have hpairs := (hlisted p hp).map (Prod.mk_right_injective p)
    rwa [List.map_map] at hpairs
  · intro p q hne
    apply List.disjoint_left.mpr
    intro column hleft hright
    obtain ⟨field, -, rfl⟩ := List.mem_map.mp hleft
    obtain ⟨other, -, hsame⟩ := List.mem_map.mp hright
    exact hne (Prod.mk.inj hsame).1.symm

/-! ### Columns that keep their names -/

theorem isShared_of_ne {p q : Participant} (hp : p ∈ object.participants)
    (hq : q ∈ object.participants) (hne : p ≠ q) {column : String} (hshows : p.table.Shows column)
    (hshows' : q.table.Shows column) : object.IsShared column := by
  have hsubset : [p, q] ⊆ object.participants.filter fun p => p.table.Shows column := by
    intro r hr
    have hmember : r = p ∨ r = q := by simpa using hr
    rcases hmember with rfl | rfl
    · exact List.mem_filter.mpr ⟨hp, decide_eq_true hshows⟩
    · exact List.mem_filter.mpr ⟨hq, decide_eq_true hshows'⟩
  have hlength := (List.subperm_of_subset (by simpa using hne) hsubset).length_le
  rw [IsShared, List.countP_eq_length_filter]
  exact hlength

/-- Only the base table itself counts as the base table, wherever it takes part. -/
theorem table_of_isBase {p : Participant} (hp : p ∈ object.participants) (h : p.isBase = true) :
    p.table = object.insight.base := by
  rcases List.mem_cons.mp hp with rfl | hp
  · rfl
  · obtain ⟨position, hlt, rfl⟩ := List.mem_mapIdx.mp hp
    exact object.table_eq position _ (List.getElem?_eq_getElem hlt) h

theorem exportName_of_isRenamed {p : Participant} {column : String} (h : object.IsRenamed p column) :
    object.exportName (p, column) = p.label column := by
  rw [exportName, newName, if_pos h, Option.getD_some]

theorem exportName_of_not_isRenamed {p : Participant} {column : String}
    (h : ¬ object.IsRenamed p column) : object.exportName (p, column) = column := by
  rw [exportName, newName, if_neg h, Option.getD_none]

/-- Of the tables that show a column, only one exports it under its own name, or else the base table does
so wherever it takes part. -/
theorem eq_or_isBase_of_not_isRenamed {p q : Participant} (hp : p ∈ object.participants)
    (hq : q ∈ object.participants) {column : String} (hshows : p.table.Shows column)
    (hshows' : q.table.Shows column) (hkept : ¬ object.IsRenamed p column)
    (hkept' : ¬ object.IsRenamed q column) :
    p = q ∨ (p.isBase = true ∧ q.isBase = true ∧ object.insight.IsBaseKey column) := by
  by_contra hne
  rw [not_or] at hne
  have hshared := isShared_of_ne hp hq hne.1 hshows hshows'
  have hbase : ∀ r, ¬ object.IsRenamed r column → r.isBase = true ∧ object.insight.IsBaseKey column := by
    intro r hr
    by_contra hkey
    exact hr ⟨hshared, hkey⟩
  exact hne.2 ⟨(hbase p hkept).1, hbase q hkept'⟩

/-! ### Distinct names -/

/-- No label is given twice, and none is the name of a column that keeps its own. -/
structure LabelsAreFresh (object : InsightObject) : Prop where
  distinct : ∀ p column q other, (p, column) ∈ object.columns → (q, other) ∈ object.columns →
    object.IsRenamed p column → object.IsRenamed q other → p.label column = q.label other →
    p = q ∧ column = other
  unclaimed : ∀ p column q other, (p, column) ∈ object.columns → (q, other) ∈ object.columns →
    object.IsRenamed p column → ¬ object.IsRenamed q other → p.label column ≠ other

/-- The base table is not joined to itself while it shows its side of a join. -/
def KeepsKeysOnce (object : InsightObject) : Prop :=
  ∀ p ∈ object.participants, p.isBase = true → p ≠ object.insight.baseParticipant →
    ∀ column, object.insight.IsBaseKey column → ¬ object.insight.base.Shows column

theorem keepsKeysOnce_of_injOn
    (hinjective : ∀ c ∈ object.columns, ∀ d ∈ object.columns,
      object.exportName c = object.exportName d → c = d) : object.KeepsKeysOnce := by
  intro p hp hisBase hne column hkey hshows
  have hkept : ∀ q : Participant, q.isBase = true → ¬ object.IsRenamed q column :=
    fun q hq hrenamed => hrenamed.2 ⟨hq, hkey⟩
  have hshows' : p.table.Shows column := by rwa [table_of_isBase hp hisBase]
  have hsame := hinjective (p, column) (mem_columns.mpr ⟨hp, hshows'⟩)
    (object.insight.baseParticipant, column) (mem_columns.mpr ⟨List.mem_cons_self, hshows⟩)
    (by rw [exportName_of_not_isRenamed (hkept p hisBase), exportName_of_not_isRenamed (hkept _ rfl)])
  exact hne (Prod.mk.inj hsame).1

theorem eq_of_not_isRenamed (honce : object.KeepsKeysOnce) {p q : Participant}
    (hp : p ∈ object.participants) (hq : q ∈ object.participants) {column : String}
    (hshows : p.table.Shows column) (hshows' : q.table.Shows column)
    (hkept : ¬ object.IsRenamed p column) (hkept' : ¬ object.IsRenamed q column) : p = q := by
  obtain hsame | ⟨hbase, hbase', hkey⟩ :=
    eq_or_isBase_of_not_isRenamed hp hq hshows hshows' hkept hkept'
  · exact hsame
  · have heq : ∀ r ∈ object.participants, r.isBase = true → r.table.Shows column →
        r = object.insight.baseParticipant := by
      intro r hr hisBase hshown
      by_contra hne
      rw [table_of_isBase hr hisBase] at hshown
      exact honce r hr hisBase hne column hkey hshown
    rw [heq p hp hbase hshows, heq q hq hbase' hshows']

theorem injOn_exportName_iff :
    (∀ c ∈ object.columns, ∀ d ∈ object.columns, object.exportName c = object.exportName d → c = d) ↔
      object.LabelsAreFresh ∧ object.KeepsKeysOnce := by
  constructor
  · intro hinjective
    refine ⟨⟨?_, ?_⟩, keepsKeysOnce_of_injOn hinjective⟩
    · intro p column q other hc hd hrenamed hrenamed' hlabel
      rw [← exportName_of_isRenamed hrenamed, ← exportName_of_isRenamed hrenamed'] at hlabel
      exact Prod.mk.inj (hinjective _ hc _ hd hlabel)
    · intro p column q other hc hd hrenamed hkept hlabel
      rw [← exportName_of_isRenamed hrenamed] at hlabel
      have hsame := hinjective _ hc _ hd (hlabel.trans (exportName_of_not_isRenamed hkept).symm)
      obtain ⟨rfl, rfl⟩ := Prod.mk.inj hsame
      exact hkept hrenamed
  · rintro ⟨hfresh, honce⟩ ⟨p, column⟩ hc ⟨q, other⟩ hd hsame
    by_cases hp : object.IsRenamed p column <;> by_cases hq : object.IsRenamed q other
    · rw [exportName_of_isRenamed hp, exportName_of_isRenamed hq] at hsame
      obtain ⟨rfl, rfl⟩ := hfresh.distinct _ _ _ _ hc hd hp hq hsame
      rfl
    · rw [exportName_of_isRenamed hp, exportName_of_not_isRenamed hq] at hsame
      exact absurd hsame (hfresh.unclaimed _ _ _ _ hc hd hp hq)
    · rw [exportName_of_not_isRenamed hp, exportName_of_isRenamed hq] at hsame
      exact absurd hsame.symm (hfresh.unclaimed _ _ _ _ hd hc hq hp)
    · rw [exportName_of_not_isRenamed hp, exportName_of_not_isRenamed hq] at hsame
      subst hsame
      obtain ⟨hp', hshows⟩ := mem_columns.mp hc
      obtain ⟨hq', hshows'⟩ := mem_columns.mp hd
      rw [eq_of_not_isRenamed honce hp' hq' hshows hshows' hp hq]

/-- Labels are fresh when the names that the tables are shown under differ and no name has a point. -/
theorem labelsAreFresh_of_plain
    (hnames : (object.participants.map fun p => displayName p.table.name).Nodup)
    (htables : ∀ p ∈ object.participants, '.' ∉ (displayName p.table.name).toList)
    (hcolumns : ∀ column, object.IsVisible column → '.' ∉ column.toList) : object.LabelsAreFresh := by
  have htext : ∀ p : Participant, ∀ column, (p.label column).toList =
      (displayName p.table.name).toList ++ '.' :: column.toList := by
    intro p column
    have hpoint : ".".toList = ['.'] := rfl
    simp [Participant.label, hpoint]
  constructor
  · intro p column q other hc hd _ _ hlabel
    obtain ⟨hp, hshows⟩ := mem_columns.mp hc
    obtain ⟨hq, -⟩ := mem_columns.mp hd
    have hlists := congrArg String.toList hlabel
    rw [htext, htext,
      List.append_cons_inj_of_notMem (htables p hp) (hcolumns column ⟨p, hp, hshows⟩)] at hlists
    obtain ⟨hname, -, hcolumn⟩ := hlists
    exact ⟨List.inj_on_of_nodup_map hnames hp hq (String.toList_injective hname),
      String.toList_injective hcolumn⟩
  · intro p column q other _ hd _ _ hlabel
    apply hcolumns other ⟨q, mem_columns.mp hd⟩
    rw [← hlabel, htext]
    simp

/-- The columns of joined tables leave the inner selection under distinct names exactly when every label is
fresh and the base table is not joined to itself with a key that both of its places show. -/
theorem nodup_outputNames_iff {text : String} (hjoins : object.insight.joins ≠ [])
    (h : object.sql = .ok text)
    (hlisted : ∀ p ∈ object.participants, (p.table.visible.map (·.column)).Nodup) :
    ∃ s items joined, object.statement = .ok s ∧ text = s.render ∧
      s.source = .derived items joined joinedAlias ∧
      ((items.map Sql.Item.outputName).Nodup ↔ object.LabelsAreFresh ∧ object.KeepsKeysOnce) := by
  obtain ⟨s, hstatement, htext, hs⟩ := joins_of_sql hjoins h
  have hsource := hs.source
  rw [items_layout hs.resolves] at hsource
  refine ⟨s, _, _, hstatement, htext, hsource, ?_⟩
  rw [outputNames_innerColumns, List.nodup_map_iff_inj_on (nodup_columns hlisted),
    ← injOn_exportName_iff]
  simp only [Option.some.injEq]

theorem keepsKeysOnce_apart (insight : Insight) : insight.apart.KeepsKeysOnce := by
  intro p hp hisBase hne
  rcases List.mem_cons.mp hp with rfl | hp
  · exact absurd rfl hne
  · obtain ⟨position, hlt, rfl⟩ := List.mem_mapIdx.mp hp
    exact absurd hisBase Bool.false_ne_true

/-- The columns of joined tables, each an object of its own, leave the inner selection under distinct names
exactly when every label is fresh: columns that keep their own names never stand in each other's way. -/
theorem output_names_distinct_iff (insight : Insight) (text : String) (hjoins : insight.joins ≠ [])
    (h : insight.sql = .ok text)
    (hlisted : ∀ p ∈ insight.apart.participants, (p.table.visible.map (·.column)).Nodup) :
    ∃ s items joined, insight.statement = .ok s ∧ text = s.render ∧
      s.source = .derived items joined joinedAlias ∧
      ((items.map Sql.Item.outputName).Nodup ↔ insight.apart.LabelsAreFresh) := by
  obtain ⟨s, items, joined, hstatement, htext, hsource, hiff⟩ := nodup_outputNames_iff hjoins h hlisted
  rw [and_iff_left (keepsKeysOnce_apart insight)] at hiff
  exact ⟨s, items, joined, hstatement, htext, hsource, hiff⟩

/-- Sales with their targets, once. -/
def salesWithTargets : Insight :=
  { salesAndTargets with joins := salesAndTargets.joins.take 1 }

theorem output_names_distinct_iff_salesWithTargets :
    ∃ text s items joined, salesWithTargets.joins ≠ [] ∧ salesWithTargets.sql = .ok text ∧
      salesWithTargets.statement = .ok s ∧ s.source = .derived items joined joinedAlias ∧
      (items.map Sql.Item.outputName).Nodup := by
  have hsome : salesWithTargets.sql.toOption.isSome = true := by decide +kernel
  cases hsql : salesWithTargets.sql with
  | error fault => simp [hsql, Except.toOption] at hsome
  | ok text =>
    have hjoins : salesWithTargets.joins ≠ [] := by decide
    have hfresh : salesWithTargets.apart.LabelsAreFresh := by
      apply labelsAreFresh_of_plain
      · decide +kernel
      · decide +kernel
      · rintro column ⟨p, hp, field, hfield, rfl⟩
        revert field
        revert p
        decide +kernel
    obtain ⟨s, items, joined, hs, -, hsource, hiff⟩ :=
      output_names_distinct_iff _ text hjoins hsql (by decide +kernel)
    exact ⟨text, s, items, joined, hjoins, rfl, hs, hsource, hiff.mpr hfresh⟩

/-- Two tables of one name give their common columns one label, although each of them lists its columns
only once. -/
theorem output_names_collide :
    ∃ text s items joined, salesAndTargets.joins ≠ [] ∧ salesAndTargets.sql = .ok text ∧
      (∀ p ∈ salesAndTargets.apart.participants, (p.table.visible.map (·.column)).Nodup) ∧
      salesAndTargets.statement = .ok s ∧ text = s.render ∧
      s.source = .derived items joined joinedAlias ∧ ¬ (items.map Sql.Item.outputName).Nodup := by
  have hsome : salesAndTargets.sql.toOption.isSome = true := by decide +kernel
  cases hsql : salesAndTargets.sql with
  | error fault => simp [hsql, Except.toOption] at hsome
  | ok text =>
    have hjoins : salesAndTargets.joins ≠ [] := by decide
    obtain ⟨s, hs, htext, hparts⟩ := joins_of_sql hjoins hsql
    exact ⟨text, s, _, _, hjoins, rfl, by decide +kernel, hs, htext, hparts.source, by decide +kernel⟩

/-! ### References from outside -/

/-- A column that is known outside of the inner selection by its own name: only one table shows it, or the
base table shows it as its side of a join, or the label of another column happens to read like it. -/
def KeepsName (object : InsightObject) (column : String) : Prop :=
  ¬ object.IsShared column ∨ (object.insight.IsBaseKey column ∧ object.insight.base.Shows column) ∨
    ∃ p other, (p, other) ∈ object.columns ∧ object.IsRenamed p other ∧ p.label other = column

theorem exported_iff_keepsName {column : String} (hvisible : object.IsVisible column) :
    some column ∈ object.innerColumns.map Sql.Item.outputName ↔ object.KeepsName column := by
  rw [outputNames_innerColumns]
  constructor
  · intro h
    obtain ⟨⟨p, other⟩, hmem, hsame⟩ := List.mem_map.mp h
    rw [Option.some.injEq] at hsame
    by_cases hrenamed : object.IsRenamed p other
    · rw [exportName_of_isRenamed hrenamed] at hsame
      exact .inr (.inr ⟨p, other, hmem, hrenamed, hsame⟩)
    · rw [exportName_of_not_isRenamed hrenamed] at hsame
      subst hsame
      by_cases hshared : object.IsShared other
      · have hkey : p.isBase = true ∧ object.insight.IsBaseKey other := by
          by_contra hkey
          exact hrenamed ⟨hshared, hkey⟩
        obtain ⟨hp, hshows⟩ := mem_columns.mp hmem
        rw [table_of_isBase hp hkey.1] at hshows
        exact .inr (.inl ⟨hkey.2, hshows⟩)
      · exact .inl hshared
  · rintro (hunshared | ⟨hkey, hshows⟩ | ⟨p, other, hmem, hrenamed, rfl⟩)
    · obtain ⟨p, hp, hshows⟩ := hvisible
      refine List.mem_map.mpr ⟨(p, column), mem_columns.mpr ⟨hp, hshows⟩, ?_⟩
      rw [exportName_of_not_isRenamed fun h => hunshared h.1]
    · refine List.mem_map.mpr
        ⟨(object.insight.baseParticipant, column), mem_columns.mpr ⟨List.mem_cons_self, hshows⟩, ?_⟩
      rw [exportName_of_not_isRenamed fun h => h.2 ⟨rfl, hkey⟩]
    · exact List.mem_map.mpr ⟨(p, other), hmem, by rw [exportName_of_isRenamed hrenamed]⟩

/-- The outer selection refers to the columns of its insight by names that the inner one exports: to those
that it groups by, in its items as well, to those that it filters on, and to those that it orders by, unless
they are names of its own. -/
structure RefersInside (object : InsightObject) (s : Sql.Statement) (items : List Sql.Item) : Prop where
  groups : List.Forall₂
    (fun column emitted => object.IsVisible column → some emitted ∈ items.map Sql.Item.outputName)
    object.insight.groupBy s.groups
  selected : List.Forall₂
    (fun column item => object.IsVisible column →
      ∃ emitted, item = .column emitted ∧ some emitted ∈ items.map Sql.Item.outputName)
    object.insight.groupBy (s.items.take object.insight.groupBy.length)
  conditions : List.Forall₂
    (fun predicate condition => object.IsVisible predicate.column →
      some condition.column ∈ items.map Sql.Item.outputName)
    object.insight.filters s.conditions
  orderings : List.Forall₂
    (fun order ordering => object.IsVisible order.column →
      order.column ∉ object.insight.metrics.map (·.name) → order.column ∉ object.insight.groupBy →
        some ordering.column ∈ items.map Sql.Item.outputName)
    object.insight.orderBy s.orderings

/-- The columns that the outer selection refers to by name. -/
def IsReferred (object : InsightObject) (column : String) : Prop :=
  column ∈ object.insight.groupBy ∨ column ∈ object.insight.filters.map (·.column) ∨
    (column ∈ object.insight.orderBy.map (·.column) ∧ column ∉ object.insight.metrics.map (·.name) ∧
      column ∉ object.insight.groupBy)

/-- A relation between two lists that agree in a view, and that depends on nothing but the view. -/
theorem forall₂_view_iff {α β γ : Type} {as : List α} {bs : List β} {view : α → γ} {view' : β → γ}
    (hsame : bs.map view' = as.map view) (R : γ → γ → Prop) :
    List.Forall₂ (fun a b => R (view a) (view' b)) as bs ↔ ∀ a ∈ as, R (view a) (view a) := by
  have hviews : List.Forall₂ (fun a b => R (view a) (view' b)) as bs ↔
      List.Forall₂ R (as.map view) (bs.map view') := by
    rw [List.forall₂_map_left_iff, List.forall₂_map_right_iff]
  rw [hviews, hsame, List.forall₂_same, List.forall_mem_map]

theorem columns_of_conditions {predicates : List Predicate} {found : List Sql.Condition}
    (h : conditions predicates = .ok found) : found.map (·.column) = predicates.map (·.column) := by
  apply map_eq_map_of_mapM h
  intro predicate condition hcondition
  simp only [Predicate.condition, bind_eq_ok, pure_eq_ok] at hcondition
  obtain ⟨test, -, rfl⟩ := hcondition
  rfl

theorem items_take_groupBy {s : Sql.Statement} (hs : object.Joins s) :
    s.items.take object.insight.groupBy.length = object.insight.groupBy.map Sql.Item.column := by
  cases hgroups : object.insight.groupBy with
  | nil => simp
  | cons first rest =>
    have haggregated : object.insight.isAggregated = true := by simp [Insight.isAggregated, hgroups]
    have hitems := hs.items haggregated
    simp only [Insight.aggregatedItems, bind_eq_ok, pure_eq_ok] at hitems
    obtain ⟨found, -, hitems⟩ := hitems
    rw [← hitems, ← hgroups]
    exact List.take_left' (by simp)

theorem refersInside_iff_exported {s : Sql.Statement} (hs : object.Joins s) :
    object.RefersInside s object.innerColumns ↔
      ∀ column, object.IsReferred column → object.IsVisible column →
        some column ∈ object.innerColumns.map Sql.Item.outputName := by
  let exported : String → Prop := fun column => some column ∈ object.innerColumns.map Sql.Item.outputName
  have hconditions := forall₂_view_iff (columns_of_conditions hs.conditions)
    fun column emitted => object.IsVisible column → exported emitted
  have hordered : s.orderings.map (·.column) = object.insight.orderBy.map (·.column) := by
    simp [hs.orderings, SortOrder.ordering]
  have horderings := forall₂_view_iff hordered
    fun column emitted => object.IsVisible column → column ∉ object.insight.metrics.map (·.name) →
      column ∉ object.insight.groupBy → exported emitted
  constructor
  · rintro hinside column (hgroup | hfilter | ⟨horder, hmetric, hgroup⟩) hvisible
    · have hgroups := hinside.groups
      rw [hs.groups, List.forall₂_same] at hgroups
      exact hgroups column hgroup hvisible
    · obtain ⟨predicate, hmem, rfl⟩ := List.mem_map.mp hfilter
      exact hconditions.mp hinside.conditions predicate hmem hvisible
    · obtain ⟨order, hmem, rfl⟩ := List.mem_map.mp horder
      exact horderings.mp hinside.orderings order hmem hvisible hmetric hgroup
  · intro hexported
    constructor
    · rw [hs.groups, List.forall₂_same]
      intro column hmem hvisible
      exact hexported column (.inl hmem) hvisible
    · rw [items_take_groupBy hs, List.forall₂_map_right_iff, List.forall₂_same]
      intro column hmem hvisible
      exact ⟨column, rfl, hexported column (.inl hmem) hvisible⟩
    · apply hconditions.mpr
      intro predicate hmem hvisible
      exact hexported _ (.inr (.inl (List.mem_map_of_mem hmem))) hvisible
    · apply horderings.mpr
      intro order hmem hvisible hmetric hgroup
      exact hexported _ (.inr (.inr ⟨List.mem_map_of_mem hmem, hmetric, hgroup⟩)) hvisible

theorem refersInside_iff {s : Sql.Statement} (hs : object.Joins s) :
    object.RefersInside s object.innerColumns ↔
      ∀ column, object.IsReferred column → object.IsVisible column → object.KeepsName column := by
  rw [refersInside_iff_exported hs]
  refine forall_congr' fun column => forall_congr' fun _ => forall_congr' fun hvisible => ?_
  exact exported_iff_keepsName hvisible

/-- No reference of the outer selection dangles exactly when every column that it refers to, as far as a
table shows it, has kept its name. -/
theorem outer_references_exported_iff (object : InsightObject) (text : String) (hjoins : object.insight.joins ≠ [])
    (h : object.sql = .ok text) :
    ∃ s items joined, object.statement = .ok s ∧ text = s.render ∧
      s.source = .derived items joined joinedAlias ∧
      (object.RefersInside s items ↔
        ∀ column, object.IsReferred column → object.IsVisible column → object.KeepsName column) := by
  obtain ⟨s, hstatement, htext, hs⟩ := joins_of_sql hjoins h
  have hsource := hs.source
  rw [items_layout hs.resolves] at hsource
  exact ⟨s, _, _, hstatement, htext, hsource, refersInside_iff hs⟩

/-- Sales by targets: grouped by the key of the sales, for those with a target, in the order of its number. -/
def salesByTarget : Insight :=
  { salesWithTargets with
    filters := [⟨"sales_id", .isNull true, .null, none⟩]
    orderBy := [⟨"average", .descending⟩, ⟨"id", .ascending⟩] }

theorem outer_references_exported_iff_salesByTarget :
    ∃ text s items joined, salesByTarget.apart.insight.joins ≠ [] ∧ salesByTarget.apart.sql = .ok text ∧
      salesByTarget.apart.statement = .ok s ∧ s.source = .derived items joined joinedAlias ∧
      salesByTarget.apart.RefersInside s items := by
  have hsome : salesByTarget.apart.sql.toOption.isSome = true := by decide +kernel
  cases hsql : salesByTarget.apart.sql with
  | error fault => simp [hsql, Except.toOption] at hsome
  | ok text =>
    have hjoins : salesByTarget.apart.insight.joins ≠ [] := by decide
    have hkey : salesByTarget.apart.KeepsName "id" := .inr (.inl (by decide +kernel))
    have hunshared : salesByTarget.apart.KeepsName "sales_id" := .inl (by decide +kernel)
    have hkeeps : ∀ column, salesByTarget.apart.IsReferred column → salesByTarget.apart.IsVisible column →
        salesByTarget.apart.KeepsName column := by
      intro column hreferred _
      rcases hreferred with hgroup | hfilter | ⟨horder, hmetric, -⟩
      · obtain rfl : column = "id" := by simpa [Insight.apart, salesByTarget, salesWithTargets, salesAndTargets] using hgroup
        exact hkey
      · obtain rfl : column = "sales_id" := by simpa [Insight.apart, salesByTarget] using hfilter
        exact hunshared
      · have hname : column ≠ "average" := by
          simpa [Insight.apart, salesByTarget, salesWithTargets, salesAndTargets] using hmetric
        obtain rfl : column = "id" := by simpa [Insight.apart, salesByTarget, hname] using horder
        exact hkey
    obtain ⟨s, items, joined, hs, -, hsource, hiff⟩ := outer_references_exported_iff _ text hjoins hsql
    exact ⟨text, s, items, joined, hjoins, rfl, hs, hsource, hiff.mpr hkeeps⟩

/-- Sales with their targets, of which only those above a value are wanted, the greatest first. -/
def greatSales : Insight :=
  { salesWithTargets with
    metrics := []
    groupBy := []
    filters := [⟨"value", .compare .gt, .integer 100, none⟩]
    orderBy := [⟨"value", .descending⟩] }

/-- Sales and targets both show a value, so neither exports it under its own name: the filter and the order
refer to nothing. -/
theorem outer_reference_dangles :
    ∃ text s items joined, greatSales.apart.insight.joins ≠ [] ∧ greatSales.apart.sql = .ok text ∧
      greatSales.apart.IsVisible "value" ∧ greatSales.apart.IsReferred "value" ∧ greatSales.apart.statement = .ok s ∧
      text = s.render ∧ s.source = .derived items joined joinedAlias ∧
      s.conditions.map (·.column) = ["value"] ∧ s.orderings.map (·.column) = ["value"] ∧
      some "value" ∉ items.map Sql.Item.outputName := by
  have hsome : greatSales.apart.sql.toOption.isSome = true := by decide +kernel
  cases hsql : greatSales.apart.sql with
  | error fault => simp [hsql, Except.toOption] at hsome
  | ok text =>
    have hjoins : greatSales.apart.insight.joins ≠ [] := by decide
    obtain ⟨s, hs, htext, hparts⟩ := joins_of_sql hjoins hsql
    have hvisible : greatSales.apart.IsVisible "value" :=
      ⟨greatSales.baseParticipant, List.mem_cons_self, by decide +kernel⟩
    have hconditions : s.conditions.map (·.column) = ["value"] := columns_of_conditions hparts.conditions
    have horderings : s.orderings.map (·.column) = ["value"] := by
      rw [hparts.orderings]
      rfl
    exact ⟨text, s, _, _, hjoins, rfl, hvisible, .inr (.inl List.mem_cons_self), hs, htext, hparts.source,
      hconditions, horderings, by decide +kernel⟩

end InsightObject
end Insights
