import Insights.Proofs.Insight.Compiled

/-!
The columns that the statement of an insight selects when it neither joins tables nor combines rows. They
are the columns of the fields that are not hidden and, where the insight selects fields, are among those.
When that leaves none, the statement selects every column of the data, hidden ones and all.
-/

namespace Insights

/-- A field is hidden when the name of its column begins with an underscore. -/
def TableField.IsHidden (field : TableField) : Prop :=
  field.column.toList.head? = some '_'

instance (field : TableField) : Decidable field.IsHidden :=
  inferInstanceAs (Decidable (_ = _))

theorem TableField.isVisible_eq (field : TableField) : field.isVisible = !decide field.IsHidden := by
  have hstarts : field.column.startsWith "_" = true ↔ field.IsHidden := by
    rw [String.startsWith_string_iff, IsHidden]
    cases field.column.toList with
    | nil => simp
    | cons c rest => simp [eq_comm]
  unfold isVisible
  congr 1
  rw [Bool.eq_iff_iff, hstarts, decide_eq_true_iff]

namespace Sql

/-- The text selects exactly these columns of a table, by name. -/
def Selects (columns : List String) (table text : String) : Prop :=
  columns ≠ [] ∧
    ∃ rest, text = "SELECT " ++ separated ", " (columns.map quoteName) ++ " FROM " ++ quoteName table ++ rest

/-- The text selects whatever columns the table has. -/
def SelectsAll (table text : String) : Prop :=
  ∃ rest, text = "SELECT * FROM " ++ quoteName table ++ rest

variable {columns : List String} {table other text : String}

/-- Names begin with a quote. -/
theorem toList_separated_names (hcolumns : columns ≠ []) :
    ∃ rest, (separated ", " (columns.map quoteName)).toList = '"' :: rest := by
  obtain ⟨first, others, rfl⟩ := List.exists_cons_of_ne_nil hcolumns
  have hfirst : (quoteName first).toList = '"' :: (Text.doubled '"' first.toList ++ ['"']) :=
    String.toList_ofList
  cases others with
  | nil => exact ⟨_, by rw [List.map_singleton, separated_singleton, hfirst]⟩
  | cons second others =>
    rw [List.map_cons, List.map_cons, separated_cons_cons, String.toList_append, String.toList_append, hfirst]
    exact ⟨_, rfl⟩

theorem Selects.not_selectsAll (h : Selects columns table text) : ¬ SelectsAll other text := by
  obtain ⟨hcolumns, rest, rfl⟩ := h
  rintro ⟨after, hstar⟩
  obtain ⟨names, hnames⟩ := toList_separated_names hcolumns
  have hall : "SELECT * FROM ".toList = "SELECT ".toList ++ '*' :: " FROM ".toList := rfl
  have hchars := congrArg String.toList hstar
  simp only [String.toList_append, hnames, hall, List.append_assoc, List.cons_append] at hchars
  exact absurd (List.cons.inj (List.append_cancel_left hchars)).1 (by decide)

theorem renderItems_columns (columns : List String) (hcolumns : columns ≠ []) :
    renderItems (columns.map Item.column) = separated ", " (columns.map quoteName) := by
  obtain ⟨first, others, rfl⟩ := List.exists_cons_of_ne_nil hcolumns
  simp [renderItems, Item.render, Function.comp_def]

/-- A statement begins with its items and where they come from. -/
theorem Statement.exists_render (s : Statement) :
    ∃ rest, s.render = "SELECT " ++ renderItems s.items ++ " FROM " ++ s.source.render ++ rest := by
  unfold render
  simp only [String.append_assoc, String.append_right_inj]
  exact ⟨_, rfl⟩

end Sql

namespace Insight

variable {insight : Insight} {text : String}

/-- The fields that are asked for, in the order of the table: none that is hidden, and where fields are
selected none but those. -/
def askedFields (insight : Insight) : List TableField :=
  insight.base.fields.filter fun field =>
    ¬ field.IsHidden ∧ (insight.selectedFields = [] ∨ field.id ∈ insight.selectedFields)

theorem mem_askedFields {field : TableField} :
    field ∈ insight.askedFields ↔ field ∈ insight.base.fields ∧ ¬ field.IsHidden ∧
      (insight.selectedFields = [] ∨ field.id ∈ insight.selectedFields) := by
  rw [askedFields, List.mem_filter, decide_eq_true_iff]

theorem shownFields_eq (insight : Insight) : insight.shownFields = insight.askedFields := by
  have hvisible : TableField.isVisible = fun field => !decide field.IsHidden :=
    funext TableField.isVisible_eq
  unfold shownFields askedFields Table.visible
  rw [hvisible]
  split
  · next hnone => simp [List.isEmpty_iff.mp hnone]
  · next hsome =>
    rw [List.isEmpty_iff] at hsome
    simp [List.filter_filter, hsome, Bool.and_comm]

/-- The text selects nothing but columns of fields that are asked for, in the order of the table. -/
def Narrows (insight : Insight) (text : String) : Prop :=
  ∃ fields : List TableField, fields.Sublist insight.base.fields ∧
    (∀ field ∈ fields, ¬ field.IsHidden ∧
      (insight.selectedFields = [] ∨ field.id ∈ insight.selectedFields)) ∧
    Sql.Selects (fields.map (·.column)) insight.base.stored text

theorem narrows_of_selects (h : Sql.Selects (insight.askedFields.map (·.column)) insight.base.stored text) :
    insight.Narrows text :=
  ⟨insight.askedFields, List.filter_sublist, fun _ hmem => (mem_askedFields.mp hmem).2, h⟩

theorem not_narrows_of_selectsAll (h : Sql.SelectsAll insight.base.stored text) : ¬ insight.Narrows text := by
  rintro ⟨fields, -, -, hselects⟩
  exact hselects.not_selectsAll h

theorem askedFields_ne_nil_iff (hvisible : ∃ field ∈ insight.base.fields, ¬ field.IsHidden) :
    insight.askedFields ≠ [] ↔ insight.selectedFields = [] ∨
      ∃ field ∈ insight.base.fields, ¬ field.IsHidden ∧ field.id ∈ insight.selectedFields := by
  constructor
  · intro hsome
    obtain ⟨field, hmem⟩ := List.exists_mem_of_ne_nil _ hsome
    obtain ⟨hfield, hshown, hasked⟩ := mem_askedFields.mp hmem
    exact hasked.imp_right fun hselected => ⟨field, hfield, hshown, hselected⟩
  · rintro (hall | ⟨field, hfield, hshown, hselected⟩)
    · obtain ⟨field, hfield, hshown⟩ := hvisible
      exact List.ne_nil_of_mem (mem_askedFields.mpr ⟨hfield, hshown, .inl hall⟩)
    · exact List.ne_nil_of_mem (mem_askedFields.mpr ⟨hfield, hshown, .inr hselected⟩)

/-- How the text of a statement begins that neither joins tables nor combines rows. -/
theorem sql_eq_of_plain (hjoins : insight.joins = []) (hmetrics : insight.metrics = [])
    (hgroups : insight.groupBy = []) (h : insight.sql = .ok text) :
    ∃ rest, text = "SELECT " ++ Sql.renderItems (insight.askedFields.map fun field => .column field.column) ++
      " FROM " ++ Sql.quoteName insight.base.stored ++ rest := by
  obtain ⟨s, hs, rfl⟩ := map_eq_ok.mp h
  rw [insight.apart.statement_of_no_joins hjoins] at hs
  simp only [apart, bind_eq_ok, orFault_eq_ok] at hs
  obtain ⟨dataset, hdataset, hs⟩ := hs
  have haggregated : insight.isAggregated = false := by simp [isAggregated, hmetrics, hgroups]
  rw [simpleStatement, haggregated, if_neg Bool.false_ne_true, shownFields_eq, assemble] at hs
  simp only [bind_eq_ok, pure_eq_ok] at hs
  obtain ⟨conditions, -, limit, -, rfl⟩ := hs
  have hstored : tableName dataset = insight.base.stored := by simp [Table.stored, hdataset]
  obtain ⟨rest, hrender⟩ := Sql.Statement.exists_render _
  rw [hrender]
  exact ⟨rest, by rw [← hstored]; rfl⟩

/-- A statement that neither joins tables nor combines rows selects exactly the fields that are asked for,
unless there are none. Since some field is not hidden, there are none exactly when fields are selected and
every selected one is hidden or unknown, and then every column of the data is selected. -/
theorem selection_narrows_iff (insight : Insight) (text : String) (hjoins : insight.joins = [])
    (hmetrics : insight.metrics = []) (hgroups : insight.groupBy = [])
    (hvisible : ∃ field ∈ insight.base.fields, ¬ field.IsHidden) (h : insight.sql = .ok text) :
    (insight.Narrows text ↔ insight.selectedFields = [] ∨
        ∃ field ∈ insight.base.fields, ¬ field.IsHidden ∧ field.id ∈ insight.selectedFields) ∧
      (insight.Narrows text →
        Sql.Selects (insight.askedFields.map (·.column)) insight.base.stored text) ∧
      (¬ insight.Narrows text → Sql.SelectsAll insight.base.stored text) := by
  obtain ⟨rest, htext⟩ := sql_eq_of_plain hjoins hmetrics hgroups h
  rw [← askedFields_ne_nil_iff hvisible]
  by_cases hnone : insight.askedFields = []
  · have hall : Sql.SelectsAll insight.base.stored text := by
      rw [hnone] at htext
      exact ⟨rest, htext⟩
    have hnot := not_narrows_of_selectsAll hall
    exact ⟨iff_of_false hnot fun hsome => hsome hnone, fun hnarrows => absurd hnarrows hnot, fun _ => hall⟩
  · have hselects : Sql.Selects (insight.askedFields.map (·.column)) insight.base.stored text := by
      have hcolumns : insight.askedFields.map (·.column) ≠ [] := by simpa using hnone
      have hitems := Sql.renderItems_columns _ hcolumns
      rw [List.map_map] at hitems
      refine ⟨hcolumns, rest, ?_⟩
      rw [htext, ← hitems]
      rfl
    have hnarrows := narrows_of_selects hselects
    exact ⟨iff_of_true hnarrows hnone, fun _ => hselects, fun hnot => absurd hnarrows hnot⟩

/-- The sales with some fields selected by id. The table has a hidden field. -/
def salesShowing (selectedFields : List String) : Insight where
  id := "i"
  name := "some sales"
  base := ⟨"s", "sales", some "a", [⟨"s1", "Id", "id", "string", none, none⟩,
    ⟨"s2", "Value", "value", "string", none, none⟩, ⟨"s3", "Row", "_row", "string", none, none⟩]⟩
  selectedFields
  metrics := []
  filters := []
  groupBy := []
  orderBy := []
  limit := none
  joins := []

theorem selection_narrows_iff_salesShowing :
    (salesShowing ["s3", "s2", "s9"]).sql = .ok "SELECT \"value\" FROM \"df_a\"" ∧
      (salesShowing ["s3", "s2", "s9"]).Narrows "SELECT \"value\" FROM \"df_a\"" := by
  have hsql : (salesShowing ["s3", "s2", "s9"]).sql = .ok "SELECT \"value\" FROM \"df_a\"" := by
    decide +kernel
  obtain ⟨hnarrows, -, -⟩ := selection_narrows_iff _ _ rfl rfl rfl (by decide) hsql
  exact ⟨hsql, hnarrows.mpr (.inr (by decide))⟩

/-- When no selected id is one of the table any more, the statement selects the hidden column as well. -/
theorem stale_selection_selects_all :
    (salesShowing ["s9"]).joins = [] ∧ (salesShowing ["s9"]).metrics = [] ∧
      (salesShowing ["s9"]).groupBy = [] ∧ (salesShowing ["s9"]).base.loaded? = some "a" ∧
      (∃ field ∈ (salesShowing ["s9"]).base.fields, ¬ field.IsHidden) ∧
      (salesShowing ["s9"]).sql = .ok "SELECT * FROM \"df_a\"" ∧
      ¬ (salesShowing ["s9"]).Narrows "SELECT * FROM \"df_a\"" := by
  have hall : Sql.SelectsAll (salesShowing ["s9"]).base.stored "SELECT * FROM \"df_a\"" :=
    ⟨"", by decide +kernel⟩
  exact ⟨rfl, rfl, rfl, by decide, by decide, by decide +kernel, not_narrows_of_selectsAll hall⟩

end Insight
end Insights
