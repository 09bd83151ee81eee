import Mathlib.Algebra.Order.BigOperators.Group.List
import Mathlib.Algebra.Order.Group.Nat
import Insights.Proofs.Insight.Obstacles
import Insights.Proofs.Insight.OutputNames
import Insights.Proofs.Sql.Constants

/-!
What it is to a statement that the table of a join is the base table itself and not only a table equal to it.
Nothing but the columns that such a join brings in: its side of a join keeps the bare name there, so the two
statements part exactly when it shows a column of that name. Both fail alike, and their outer selections
are the same.
-/

namespace Insights

/-- The participant as a table that is an object of its own. The base table is told by its alias. -/
def Participant.asOwn (p : Participant) : Participant :=
  { p with isBase := decide (p.shortName = baseAlias) }

namespace InsightObject

variable {object : InsightObject}

/-! ### Layouts -/

theorem participants_apart (object : InsightObject) :
    object.insight.apart.participants = object.participants.map Participant.asOwn := by
  have hjoined : ∀ (position : Nat) (join : Join), (⟨join.table, joinAlias position, false⟩ : Participant) =
      Participant.asOwn ⟨join.table, joinAlias position, object.joinsBase position⟩ := by
    intro position join
    rw [Participant.asOwn, decide_eq_false (Insight.joinAlias_ne_baseAlias position)]
  simp only [participants, Insight.apart, List.map_cons, List.mapIdx_eq_zipIdx_map, List.map_map, hjoined]
  rfl

theorem isBase_of_asOwn {p : Participant} (hp : p ∈ object.participants) (h : p.asOwn.isBase = true) :
    p = object.insight.baseParticipant :=
  eq_of_shortName hp List.mem_cons_self (of_decide_eq_true h)

theorem isShared_apart (column : String) :
    object.insight.apart.IsShared column ↔ object.IsShared column := by
  rw [IsShared, participants_apart, List.countP_map]
  rfl

theorem newName_apart (p : Participant) (column : String) :
    object.insight.apart.newName p column = object.newName p column := by
  simp only [newName, IsRenamed, isShared_apart]
  rfl

/-- A metric is never about the base table as the table of a join: it is found first at its own place. -/
theorem source_apart (object : InsightObject) (id : String) :
    object.insight.apart.layout.source id = object.layout.source id := by
  unfold JoinLayout.source
  rw [participants_layout, participants_layout, participants_apart, List.find?_map]
  have hsame : ((·.table.id == id) ∘ Participant.asOwn) = fun p : Participant => p.table.id == id := rfl
  rw [hsame]
  cases hfound : object.participants.find? (·.table.id == id) with
  | none => rfl
  | some p =>
    have hp := List.mem_of_find?_eq_some hfound
    rw [Option.map_some, Option.getD_some, Option.getD_some]
    by_cases hown : p = object.insight.baseParticipant
    · rw [hown]
      rfl
    · have hnot : p.isBase = false := by
        by_contra hbase
        rw [Bool.not_eq_false] at hbase
        have hid := List.find?_some hfound
        rw [table_of_isBase hp hbase] at hid
        have hfirst : object.participants.find? (·.table.id == id) = some object.insight.baseParticipant :=
          List.find?_cons_of_pos hid
        exact hown (Option.some.inj (hfound.symm.trans hfirst))
      have halias : p.shortName ≠ baseAlias := fun h => hown (eq_of_shortName hp List.mem_cons_self h)
      rw [Participant.asOwn, decide_eq_false halias, ← hnot]

theorem outputName_apart (object : InsightObject) (p : Participant) (column : String) :
    object.insight.apart.layout.outputName p column = object.layout.outputName p column := by
  have hoccurrences : object.insight.apart.layout.occurrences column = object.layout.occurrences column := by
    rw [occurrences_layout, occurrences_layout, participants_apart, List.countP_map]
    rfl
  rw [JoinLayout.outputName, hoccurrences]
  rfl

theorem joinedColumn_apart (object : InsightObject) :
    Insight.joinedColumn object.insight.apart.layout = Insight.joinedColumn object.layout := by
  funext metric
  simp only [Insight.joinedColumn, source_apart]
  exact congrArg (metric.column?.map ·) (funext (outputName_apart object _))

/-! ### Statements -/

theorem assemble_source {insight : Insight} {items : List Sql.Item} {source : Sql.Source}
    {groups : List String} {s : Sql.Statement} (h : insight.assemble items source groups = .ok s)
    (source' : Sql.Source) : insight.assemble items source' groups = .ok { s with source := source' } := by
  simp only [Insight.assemble, bind_eq_ok, pure_eq_ok] at h ⊢
  obtain ⟨found, hfound, limit, hlimit, rfl⟩ := h
  exact ⟨found, hfound, limit, hlimit, rfl⟩

/-- The inner selection over tables that are all objects of their own. -/
def apartSource (object : InsightObject) : Sql.Source :=
  .derived object.insight.apart.layout.items (object.layout.tables object.insight.base.stored) joinedAlias

theorem statement_apart (hjoins : object.insight.joins ≠ []) {s : Sql.Statement}
    (h : object.statement = .ok s) :
    object.insight.statement = .ok { s with source := object.apartSource } := by
  simp only [statement, bind_eq_ok, orFault_eq_ok] at h
  obtain ⟨dataset, hdataset, h⟩ := h
  have hstored : tableName dataset = object.insight.base.stored := by
    simp [Table.stored, hdataset]
  rw [if_neg (by simpa using hjoins), joinedStatement] at h
  obtain ⟨found, hfound, h⟩ := bind_eq_ok.mp h
  -- the joins resolve whichever of the tables are one object
  obtain ⟨found', hfound'⟩ := (stopsAt_ofObject object).exists_ok (stopsAt_ofObject object.insight.apart) hfound
  obtain rfl := ofObject_ok hfound
  obtain rfl := ofObject_ok hfound'
  have hstatement : object.insight.statement =
      object.insight.apart.joinedStatement dataset := by
    simp only [Insight.statement, statement, Insight.apart, hdataset]
    exact if_neg (by simpa using hjoins)
  rw [hstatement, joinedStatement]
  refine bind_eq_ok.mpr ⟨_, hfound', ?_⟩
  rw [joinedColumn_apart]
  rw [hstored] at h ⊢
  split at h
  next haggregated =>
    obtain ⟨items, hitems, h⟩ := bind_eq_ok.mp h
    exact (if_pos haggregated).trans (bind_eq_ok.mpr ⟨items, hitems, assemble_source h _⟩)
  next haggregated => exact (if_neg haggregated).trans (assemble_source h _)

/-! ### Texts -/

theorem length_commas {parts : List (List Sql.Token)} (h : parts ≠ []) :
    (Sql.commas parts).length + 1 = (parts.map List.length).sum + parts.length := by
  induction parts with
  | nil => exact absurd rfl h
  | cons first rest ih =>
    cases rest with
    | nil => simp [Sql.commas, List.intercalate_singleton]
    | cons second rest =>
      have hrest := ih (List.cons_ne_nil _ _)
      simp only [Sql.commas, List.intercalate_cons_cons, List.length_append, List.map_cons, List.sum_cons,
        List.length_cons, List.length_nil] at hrest ⊢
      omega

/-- As many parts that make as many tokens have as many tokens among them. -/
theorem sum_eq_of_listTokens {parts parts' : List (List Sql.Token)} (hlength : parts.length = parts'.length)
    (h : Sql.listTokens parts = Sql.listTokens parts') :
    (parts.map List.length).sum = (parts'.map List.length).sum := by
  by_cases hnil : parts = []
  · subst hnil
    rw [List.length_eq_zero_iff.mp hlength.symm]
  · have hnil' : parts' ≠ [] := by
      rintro rfl
      exact hnil (List.length_eq_zero_iff.mp hlength)
    have hcommas := length_commas hnil
    have hcommas' := length_commas hnil'
    have htokens : Sql.commas parts = Sql.commas parts' := by
      simpa [Sql.listTokens, hnil, hnil'] using h
    rw [htokens] at hcommas
    omega

/-- The item for a visible column, with the name that the column gets for a participant. -/
theorem innerColumns_apart (object : InsightObject) :
    object.insight.apart.innerColumns = object.columns.map fun column =>
      .qualified column.1.shortName column.2 (object.newName column.1.asOwn column.2) := by
  simp only [innerColumns, columns, participants_apart, List.flatMap_map, List.map_flatMap, List.map_map,
    newName_apart]
  rfl

theorem innerColumns_eq (object : InsightObject) :
    object.innerColumns = object.columns.map fun column =>
      .qualified column.1.shortName column.2 (object.newName column.1 column.2) := by
  simp only [innerColumns, columns, List.map_flatMap, List.map_map]
  rfl

theorem isRenamed_asOwn {p : Participant} (hp : p ∈ object.participants) {column : String}
    (h : object.IsRenamed p column) : object.IsRenamed p.asOwn column := by
  refine ⟨h.1, fun hkept => h.2 ⟨?_, hkept.2⟩⟩
  rw [isBase_of_asOwn hp hkept.1]
  rfl

theorem innerColumns_apart_of_keepsKeysOnce (h : object.KeepsKeysOnce) :
    object.insight.apart.innerColumns = object.innerColumns := by
  rw [innerColumns_apart, innerColumns_eq]
  refine List.map_congr_left fun column hcolumn => ?_
  obtain ⟨hp, hshows⟩ := mem_columns.mp hcolumn
  have hrenamed : object.IsRenamed column.1.asOwn column.2 ↔ object.IsRenamed column.1 column.2 := by
    refine ⟨fun hown => ⟨hown.1, ?_⟩, isRenamed_asOwn hp⟩
    rintro ⟨hbase, hkey⟩
    by_cases heq : column.1 = object.insight.baseParticipant
    · exact hown.2 ⟨by rw [heq]; rfl, hkey⟩
    · rw [table_of_isBase hp hbase] at hshows
      exact h column.1 hp hbase heq column.2 hkey hshows
  simp only [newName, hrenamed]
  rfl

/-- Where the base table is joined to itself with a key that both of its places show, there are fewer new
names, and so there are fewer tokens. -/
theorem keepsKeysOnce_of_listTokens
    (h : Sql.listTokens (object.innerColumns.map Sql.Item.tokens) =
      Sql.listTokens (object.insight.apart.innerColumns.map Sql.Item.tokens)) : object.KeepsKeysOnce := by
  intro p hp hbase hne column hkey hshows
  rw [innerColumns_apart, innerColumns_eq] at h
  have hsum := sum_eq_of_listTokens (by simp) h
  rw [List.map_map, List.map_map, List.map_map, List.map_map] at hsum
  refine absurd hsum (List.sum_lt_sum _ _ ?_ ⟨(p, column), ?_, ?_⟩).ne
  · rintro ⟨q, other⟩ hmem
    obtain ⟨hq, -⟩ := mem_columns.mp hmem
    by_cases hrenamed : object.IsRenamed q other
    · simp [newName, hrenamed, isRenamed_asOwn hq hrenamed, Sql.Item.tokens, Sql.asTokens, Participant.label]
    · simp [newName, hrenamed, Sql.Item.tokens, Sql.asTokens]
  · refine mem_columns.mpr ⟨hp, ?_⟩
    rwa [table_of_isBase hp hbase]
  · have hkept : ¬ object.IsRenamed p column := fun h => h.2 ⟨hbase, hkey⟩
    have hown : object.IsRenamed p.asOwn column := by
      refine ⟨isShared_of_ne hp List.mem_cons_self hne ?_ hshows, fun h => hne (isBase_of_asOwn hp h.1)⟩
      rwa [table_of_isBase hp hbase]
    simp [newName, hkept, hown, Sql.Item.tokens, Sql.asTokens]

theorem joins_of_statement (hjoins : object.insight.joins ≠ []) {s : Sql.Statement}
    (h : object.statement = .ok s) : object.Joins s := by
  obtain ⟨found, hfound, -, hparts⟩ := joins_of_sql hjoins (map_eq_ok.mpr ⟨s, h, rfl⟩)
  rwa [Except.ok.inj (h.symm.trans hfound)]

theorem keepsKeysOnce_of_no_joins (h : object.insight.joins = []) : object.KeepsKeysOnce := by
  intro p hp _ hne
  rw [participants, h, List.mapIdx_nil, List.mem_singleton] at hp
  exact absurd hp hne

theorem statement_apart_of_no_joins (h : object.insight.joins = []) :
    object.insight.statement = object.statement := by
  rw [statement_of_no_joins object h, Insight.statement, statement_of_no_joins object.insight.apart h]
  rfl

theorem sql_apart_error {fault : Fault} :
    object.insight.sql = .error fault ↔ object.sql = .error fault :=
  ((stopsAt_statement object.insight.apart).map _).eq_error_iff ((stopsAt_statement object).map _)

/-- The insight over tables that are all objects of their own has a statement too, which takes its rows from
another selection at most. -/
theorem exists_source {s : Sql.Statement} (h : object.statement = .ok s) :
    ∃ source, object.insight.statement = .ok { s with source } ∧
      (object.KeepsKeysOnce → source = s.source) ∧
      (source.tokens = s.source.tokens → object.KeepsKeysOnce) := by
  by_cases hjoins : object.insight.joins = []
  · refine ⟨s.source, ?_, fun _ => rfl, fun _ => keepsKeysOnce_of_no_joins hjoins⟩
    exact (statement_apart_of_no_joins hjoins).trans h
  have hparts := joins_of_statement hjoins h
  have hown : object.insight.apart.layout.items = object.insight.apart.innerColumns :=
    items_layout hparts.resolves
  refine ⟨_, statement_apart hjoins h, fun honce => ?_, fun htokens => keepsKeysOnce_of_listTokens ?_⟩
  · rw [hparts.source, apartSource, hown, innerColumns_apart_of_keepsKeysOnce honce,
      items_layout hparts.resolves]
  · rw [hparts.source, apartSource, hown, items_layout hparts.resolves] at htokens
    simp only [Sql.Source.tokens, List.append_assoc, List.append_right_inj] at htokens
    exact (List.append_cancel_right htokens).symm

/-- The text is the same exactly when the base table is not joined to itself with a key that both of its
places show. -/
theorem sql_apart {text : String} (h : object.sql = .ok text) :
    ∃ text', object.insight.sql = .ok text' ∧ (text' = text ↔ object.KeepsKeysOnce) := by
  obtain ⟨s, hs, rfl⟩ := map_eq_ok.mp h
  obtain ⟨source, hs', hsame, hparts⟩ := exists_source hs
  refine ⟨_, map_eq_ok.mpr ⟨_, hs', rfl⟩, fun hrender => hparts ?_, fun honce => by rw [hsame honce]⟩
  have hsource : source.render = s.source.render := by
    simpa [Sql.Statement.render, String.append_assoc] using hrender
  have hlexes := Sql.Source.lexes (statement_ok hs).aliased.source
  have hlexes' := Sql.Source.lexes (statement_ok hs').aliased.source
  rw [← hsource] at hlexes
  exact Option.some.inj (hlexes'.lex_eq.symm.trans hlexes.lex_eq)

end InsightObject
end Insights
