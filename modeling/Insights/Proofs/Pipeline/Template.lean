import Insights.Pipeline.Plan
import Insights.Proofs.Insight.Compiled
import Insights.Proofs.Pipeline.Plan

/-!
The tokens that a pipeline asks for, written down from its operations alone: whatever the order of the
calls, the clauses stand in one order, filters and joins are all there, and of every other kind the last
call is. A statement that is made of loaded tables has exactly these tokens. Its text is read as them when
every number in it has the text of a number.
-/

namespace Insights

open Sql (Token)

/-- The one token of a column. A value that is no text is the name of none, and no statement has it. -/
def Value.columnToken (value : Value) : Token :=
  match value.native with
  | .text name => .name name
  | _ => .name ""

/-- Whether a value is an integer of some class. Flags are integers too. -/
def Value.isWhole (value : Value) : Bool :=
  match value.native with
  | .integer _ | .boolean _ => true
  | _ => false

def Aggregation.tokens (aggregation : Aggregation) : List Token :=
  Sql.aggregateTokens aggregation.function (some aggregation.column) ++
    (if aggregation.label.getD "" = "" then [] else [.word "AS", .name (aggregation.label.getD "")])

/-- The table of a dataset that loads without fail. -/
def Dataset.loaded (dataset : Dataset) : Except Fault String :=
  .ok dataset.table

namespace Pipeline

open Operation

/-- The columns of the last grouping. -/
def groups (operations : List Operation) : List Value :=
  ((latest? grouping? operations).map Grouping.columns).getD []

/-- The aggregations of the last grouping. -/
def aggregated (operations : List Operation) : List Aggregation :=
  ((latest? grouping? operations).bind Grouping.aggregations).getD []

/-- The columns of the last selection. -/
def selected (operations : List Operation) : List Value :=
  (latest? columns? operations).getD []

/-- The orders of the last sort. -/
def ordered (operations : List Operation) : List SortOrder :=
  (latest? orders? operations).getD []

def items (operations : List Operation) : List (List Token) :=
  if selected operations ≠ [] then (selected operations).map ([·.columnToken])
  else if groups operations ≠ [] then
    (aggregated operations).map Aggregation.tokens ++ (groups operations).map ([·.columnToken])
  else []

def joinTokens (base : String) (join : DatasetJoin) : List Token :=
  (Sql.joinWords join.kind).map .word ++
    [.name join.right.table, .word "ON", .name base, .symbol ".", join.leftColumn.columnToken, .symbol "=",
      .name join.right.table, .symbol ".", join.rightColumn.columnToken]

/-- The template of a pipeline over a base table. -/
def tokens (base : String) (operations : List Operation) : List Token :=
  [.word "SELECT"] ++ Sql.listTokens (items operations) ++ [.word "FROM"] ++
    ([.name base] ++ (allJoins operations).flatMap (joinTokens base)) ++
    Sql.clauseTokens ["WHERE"] (.word "AND") ((allPredicates operations).map Predicate.tokens) ++
    Sql.clauseTokens ["GROUP", "BY"] (.symbol ",") ((groups operations).map ([·.columnToken])) ++
    Sql.clauseTokens ["ORDER", "BY"] (.symbol ",") ((ordered operations).map SortOrder.tokens) ++
    Sql.countTokens "LIMIT" (latest? limit? operations) ++ Sql.countTokens "OFFSET" (latest? offset? operations)

/-- The last operation that a view shows, if any, gives an integer. -/
def CountsWhole (view : Operation → Option Value) (operations : List Operation) : Prop :=
  ∀ count, latest? view operations = some count → count.isWhole = true

/-- The last operation that a view shows, if any, gives the text of a number. -/
def CountsSpelt (view : Operation → Option Value) (operations : List Operation) : Prop :=
  ∀ count, latest? view operations = some count → Sql.IsNumeral count.plain

/-- Every number in the statement has the text of a number. -/
structure IsSpelt (operations : List Operation) : Prop where
  predicates : ∀ predicate ∈ allPredicates operations, predicate.IsSpelt
  limit : CountsSpelt limit? operations
  offset : CountsSpelt offset? operations

end Pipeline

/-! ### Names -/

theorem Value.name_eq_ok {value : Value} {name : String} :
    value.name = .ok name ↔ value.native = .text name := by
  have hasText : ∀ v : Value, v.asText = .ok name ↔ v.native = .text name := by
    intro v
    unfold asText
    cases v.native <;> simp
  unfold Value.name
  split
  · simp [native]
  · simp [native]
  · exact hasText value

theorem columnToken_of_name {value : Value} {name : String} (h : value.name = .ok name) :
    value.columnToken = .name name := by
  simp only [Value.columnToken, Value.name_eq_ok.mp h]

theorem names_ok {columns : List Value} {names : List String} (h : columns.mapM Value.name = .ok names) :
    names.map (fun name => [Token.name name]) = columns.map ([·.columnToken]) :=
  map_eq_map_of_mapM h fun _ _ hname => by rw [columnToken_of_name hname]

theorem length_names {columns : List Value} {names : List String}
    (h : columns.mapM Value.name = .ok names) : names.length = columns.length := by
  have hlength := congrArg List.length (names_ok h)
  simpa using hlength

theorem Aggregation.tokens_item (aggregation : Aggregation) :
    aggregation.item.tokens = aggregation.tokens := by
  unfold item Sql.Item.tokens tokens
  cases hlabel : aggregation.label with
  | none => simp [output, hlabel, Sql.asTokens]
  | some label =>
    by_cases hempty : label = ""
    · simp [output, hlabel, hempty, Option.filter, Sql.asTokens]
    · simp [output, hlabel, hempty, Option.filter, Sql.asTokens]

/-! ### Clauses -/

namespace Plan

open Operation Pipeline

variable {operations : List Operation} {base : String}

theorem selected_ofOperations (operations : List Operation) :
    (ofOperations operations).selection.getD [] = selected operations := by
  rw [ofOperations_eq]
  rfl

theorem groupColumns_ofOperations (operations : List Operation) :
    (ofOperations operations).groupColumns = groups operations := by
  rw [groupColumns, ofOperations_eq]
  rfl

theorem aggregations_ofOperations (operations : List Operation) :
    (ofOperations operations).aggregations = aggregated operations := by
  rw [aggregations, ofOperations_eq]
  rfl

theorem columns_ok {columns : List Value} {names : List String}
    (h : columns.mapM Value.name = .ok names) :
    (names.map Sql.Item.column).map Sql.Item.tokens = columns.map ([·.columnToken]) := by
  rw [List.map_map]
  exact names_ok h

theorem wellSpelt_column {names : List String} : ∀ item ∈ names.map Sql.Item.column, item.WellSpelt := by
  intro item hmem
  obtain ⟨name, -, rfl⟩ := List.mem_map.mp hmem
  trivial

theorem items_ok {found : List Sql.Item} (h : (ofOperations operations).items = .ok found) :
    found.map Sql.Item.tokens = Pipeline.items operations ∧ ∀ item ∈ found, item.WellSpelt := by
  unfold Plan.items at h
  rw [selected_ofOperations, groupColumns_ofOperations, aggregations_ofOperations] at h
  unfold Pipeline.items
  cases hselected : selected operations with
  | cons column rest =>
    simp only [hselected, bind_eq_ok, pure_eq_ok] at h
    obtain ⟨names, hnames, rfl⟩ := h
    refine ⟨?_, wellSpelt_column⟩
    rw [if_pos (List.cons_ne_nil _ _)]
    exact columns_ok hnames
  | nil =>
    cases hgroups : groups operations with
    | nil =>
      obtain rfl : [] = found := by simpa [hselected, hgroups] using h
      simp
    | cons group rest =>
      simp only [hselected, hgroups, bind_eq_ok, pure_eq_ok] at h
      obtain ⟨names, hnames, rfl⟩ := h
      constructor
      · rw [if_neg (by simp), if_pos (List.cons_ne_nil _ _), List.map_append, columns_ok hnames,
          List.map_map]
        congr 1
        exact List.map_congr_left fun aggregation _ => aggregation.tokens_item
      · intro item hmem
        rcases List.mem_append.mp hmem with haggregation | hcolumn
        · obtain ⟨aggregation, -, rfl⟩ := List.mem_map.mp haggregation
          trivial
        · exact wellSpelt_column item hcolumn

theorem clause_ok (base : String) {join : DatasetJoin} {clause : Sql.JoinClause} (h : join.clause join.right.table = .ok clause) :
    clause.tokens ⟨base, none⟩ = joinTokens base join ∧ clause.table.WellSpelt := by
  simp only [DatasetJoin.clause, bind_eq_ok, pure_eq_ok] at h
  obtain ⟨left, hleft, right, hright, rfl⟩ := h
  constructor
  · simp [Sql.JoinClause.tokens, joinTokens, Sql.TableRef.tokens, Sql.TableRef.qualifierToken,
      columnToken_of_name hleft, columnToken_of_name hright]
  · simp [Sql.TableRef.WellSpelt]

theorem joinClauses_ok (base : String) {found : List Sql.JoinClause}
    (h : (ofOperations operations).joinClauses Dataset.loaded = .ok found) :
    found.flatMap (·.tokens ⟨base, none⟩) = (allJoins operations).flatMap (joinTokens base) ∧
      ∀ join ∈ found, join.table.WellSpelt := by
  have hall : (allJoins operations).mapM (fun join => join.clause join.right.table) = .ok found := by
    rw [joinClauses, ofOperations_eq] at h
    exact h
  constructor
  · rw [List.flatMap_def, List.flatMap_def,
      map_eq_map_of_mapM hall fun _ _ hclause => (clause_ok base hclause).1]
  · exact forall_of_mapM hall fun _ _ hclause => (clause_ok base hclause).2

/-- The statement of a plan is over the base table and, in order, over the tables of the joined datasets. -/
theorem source_statement {plan : Plan} {base : String} {s : Sql.Statement}
    (h : plan.statement (.text base) Dataset.loaded = .ok s) :
    ∃ joins, s.source = .tables ⟨⟨base, none⟩, joins⟩ ∧
      List.Forall₂ (fun join clause => join.clause join.right.table = .ok clause) plan.joins joins := by
  unfold statement at h
  simp only [bind_eq_ok, pure_eq_ok] at h
  obtain ⟨items, -, name, hname, joins, hjoins, conditions, -, groups, -, limit, -, offset, -, rfl⟩ := h
  obtain rfl : base = name := by simpa [Value.native] using Value.name_eq_ok.mp hname
  exact ⟨joins, rfl, forall₂_of_mapM hjoins⟩

/-- A number of rows that is written as the template has it. -/
theorem count_ok {view : Operation → Option Value} (hwhole : CountsWhole view operations)
    {written : Option Value} (h : ((latest? view operations).bind count?).mapM Value.written = .ok written) :
    written = latest? view operations ∧
      (Sql.CountWellSpelt written ↔ CountsSpelt view operations) := by
  have hsame : written = latest? view operations := by
    cases hlatest : latest? view operations with
    | none =>
      rw [hlatest, Option.bind_none, Option.mapM_none, pure_eq_ok] at h
      exact h.symm
    | some count =>
      have hcount : count? count = some count := by
        cases count with
        | null => cases hwhole _ hlatest
        | _ => rfl
      rw [hlatest, Option.bind_some, hcount, Option.mapM_some, fmap_eq_ok] at h
      obtain ⟨value, hvalue, rfl⟩ := h
      rw [eq_of_written hvalue]
  subst hsame
  exact ⟨rfl, Iff.rfl⟩

/-- How a statement follows from a pipeline: it has the tokens of the template, and each of its clauses has
something in it when an operation asks for it. -/
structure Follows (base : String) (operations : List Operation) (s : Sql.Statement) : Prop where
  tokens : s.tokens = Pipeline.tokens base operations
  aliased : s.Aliased
  wellSpelt : s.WellSpelt ↔ Pipeline.IsSpelt operations
  conditions : s.conditions = [] ↔ allPredicates operations = []
  groups : s.groups = [] ↔ Pipeline.groups operations = []
  orderings : s.orderings = [] ↔ ordered operations = []
  limit : s.limit = none ↔ latest? limit? operations = none
  offset : s.offset = none ↔ latest? offset? operations = none

theorem statement_ok {s : Sql.Statement} {base : Value} (hlimit : CountsWhole limit? operations)
    (hoffset : CountsWhole offset? operations)
    (h : (ofOperations operations).statement base Dataset.loaded = .ok s) :
    ∃ name, base.native = .text name ∧ Follows name operations s := by
  unfold statement at h
  simp only [bind_eq_ok, pure_eq_ok] at h
  obtain ⟨items, hitems, name, hname, joins, hjoins, conditions, hconditions, groups, hgroups,
    limit, hlimitWritten, offset, hoffsetWritten, rfl⟩ := h
  refine ⟨name, Value.name_eq_ok.mp hname, ?_⟩
  obtain ⟨hitemTokens, hitemsSpelt⟩ := items_ok hitems
  obtain ⟨hjoinTokens, hjoinsSpelt⟩ := joinClauses_ok name hjoins
  rw [ofOperations_eq] at hconditions hlimitWritten hoffsetWritten
  obtain ⟨hconditionTokens, hconditionsSpelt⟩ := conditions_ok hconditions
  rw [groupColumns_ofOperations] at hgroups
  have hgroupTokens := names_ok hgroups
  obtain ⟨rfl, hlimitSpelt⟩ := count_ok hlimit hlimitWritten
  obtain ⟨rfl, hoffsetSpelt⟩ := count_ok hoffset hoffsetWritten
  have horderTokens : ((ordered operations).map SortOrder.ordering).map Sql.Ordering.tokens =
      (ordered operations).map SortOrder.tokens := by
    rw [List.map_map]
    rfl
  have hsource : (Sql.Source.tables ⟨⟨name, none⟩, joins⟩).tokens =
      [.name name] ++ (allJoins operations).flatMap (joinTokens name) := by
    simp [Sql.Source.tokens, Sql.Joined.tokens, Sql.TableRef.tokens, hjoinTokens]
  have hsourceSpelt : (Sql.Source.tables ⟨⟨name, none⟩, joins⟩).WellSpelt :=
    ⟨by simp [Sql.TableRef.WellSpelt], hjoinsSpelt⟩
  rw [ofOperations_eq]
  have hlength := length_names hgroups
  have hconditionLength := congrArg List.length hconditionTokens
  rw [List.length_map, List.length_map] at hconditionLength
  constructor
  · rw [Pipeline.tokens, ← hitemTokens, ← hsource, ← hconditionTokens, ← hgroupTokens, ← horderTokens]
    rfl
  · exact ⟨hitemsSpelt, hsourceSpelt⟩
  · constructor
    · intro hspelt
      exact ⟨hconditionsSpelt.mp hspelt.conditions, hlimitSpelt.mp hspelt.limit,
        hoffsetSpelt.mp hspelt.offset⟩
    · intro hspelt
      exact ⟨⟨hitemsSpelt, hsourceSpelt⟩, hconditionsSpelt.mpr hspelt.predicates,
        hlimitSpelt.mpr hspelt.limit, hoffsetSpelt.mpr hspelt.offset⟩
  · rw [← List.length_eq_zero_iff, ← List.length_eq_zero_iff, hconditionLength]
  · rw [← List.length_eq_zero_iff, ← List.length_eq_zero_iff, hlength]
  · exact List.map_eq_nil_iff
  · exact Iff.rfl
  · exact Iff.rfl

end Plan
end Insights
