import Insights.Proofs.Insight.Template
import Insights.Proofs.Outcome
import Insights.Proofs.Sql.Clauses
import Insights.Proofs.Sql.Rendering

/-!
The statement of an insight follows the template. Whenever there is a statement at all, its text is cut
into the tokens that the insight asks for and no others.
-/

namespace Insights

/-! ### Values and filters -/

theorem Sql.Literal.wellSpelt_number_iff {spelling : List Char} :
    (Sql.Literal.number (String.ofList spelling)).WellSpelt ↔ Sql.IsNumeral spelling := by
  rw [WellSpelt, String.toList_ofList]

/-- A value has its token as a literal. The literal is well spelt unless the value is a number with a text
of its own. -/
theorem Sql.Literal.ofValue_ok {value : Value} {literal : Sql.Literal}
    (h : Sql.Literal.ofValue value = .ok literal) :
    literal.token = value.token ∧ (literal.WellSpelt ↔ value.IsSpelt) := by
  have hwritten : ∀ make : Value → Sql.Literal, value.written.map make = .ok literal →
      make value = literal := by
    intro make hmade
    obtain ⟨written, hwritten, rfl⟩ := map_eq_ok.mp hmade
    rw [eq_of_written hwritten]
  unfold ofValue at h
  unfold Value.token Value.IsSpelt Value.isNumber
  cases hnative : value.native with
  | null =>
    obtain rfl : Sql.Literal.null = literal := by simpa [hnative] using h
    exact ⟨rfl, by simp [WellSpelt]⟩
  | boolean b =>
    obtain rfl : Sql.Literal.boolean b = literal := by simpa [hnative] using h
    exact ⟨by cases b <;> rfl, by simp [WellSpelt]⟩
  | integer n =>
    obtain rfl := hwritten _ (by simpa [hnative] using h)
    exact ⟨rfl, by simp [wellSpelt_number_iff]⟩
  | float x =>
    simp only [hnative] at h
    split_ifs at h
    obtain rfl : Sql.Literal.number _ = literal := by simpa using h
    exact ⟨rfl, by simp [wellSpelt_number_iff]⟩
  | decimal d =>
    simp only [hnative] at h
    split_ifs at h
    obtain rfl : Sql.Literal.number _ = literal := by simpa using h
    exact ⟨rfl, by simp [wellSpelt_number_iff]⟩
  | timestamp t =>
    simp only [hnative, map_eq_ok, orFault_eq_ok] at h
    obtain ⟨text, htext, rfl⟩ := h
    exact ⟨by simp [token, htext], by simp [WellSpelt]⟩
  | date d =>
    obtain rfl : Sql.Literal.text _ = literal := by simpa [hnative] using h
    exact ⟨rfl, by simp [WellSpelt]⟩
  | _ =>
    obtain rfl := hwritten _ (by simpa [hnative] using h)
    exact ⟨rfl, by simp [WellSpelt]⟩

theorem Value.isSpelt_of_not_isNumber {value : Value} (h : value.isNumber = false) : value.IsSpelt := by
  simp [IsSpelt, h]

theorem Value.isSpelt_integer (n : Int) : (Value.integer n).IsSpelt :=
  fun _ => Sql.isNumeral_integerDigits n

/-- A number that is of no other class has the text of a number, if it has a literal at all. -/
theorem Value.isSpelt_of_native {value : Value} {literal : Sql.Literal} (hnative : value.native = value)
    (h : Sql.Literal.ofValue value = .ok literal) : value.IsSpelt := by
  unfold Sql.Literal.ofValue at h
  rw [hnative] at h
  cases value with
  | integer n => exact isSpelt_integer n
  | float x =>
    refine fun _ => Sql.isNumeral_shown ?_
    by_contra hfinite
    simp [hfinite] at h
  | decimal d =>
    refine fun _ => Sql.isNumeral_text ?_
    by_contra hfinite
    simp [hfinite] at h
  | custom native =>
    obtain _ | native := native
    · exact isSpelt_of_not_isNumber rfl
    · cases native <;> cases hnative
  | _ => exact isSpelt_of_not_isNumber rfl

/-- A number that has its name as its text, as the members of an enumeration of numbers do. -/
def Value.namedThree : Value :=
  .custom (some (.integer 3)) "Priority.HIGH" "<Priority.HIGH: 3>" (some (.integer 3)) none

theorem Predicate.condition_ok {predicate : Predicate} {condition : Sql.Condition}
    (h : predicate.condition = .ok condition) :
    condition.tokens = predicate.tokens ∧ (condition.test.WellSpelt ↔ predicate.IsSpelt) := by
  obtain ⟨column, operator, value, values⟩ := predicate
  simp only [Predicate.condition, bind_eq_ok, pure_eq_ok] at h
  obtain ⟨test, htest, rfl⟩ := h
  cases operator with
  | compare comparison =>
    simp only [Predicate.test, bind_eq_ok, pure_eq_ok] at htest
    obtain ⟨operand, hoperand, rfl⟩ := htest
    obtain ⟨htoken, hspelt⟩ := Sql.Literal.ofValue_ok hoperand
    refine ⟨?_, ?_⟩
    · simp [Sql.Condition.tokens, Sql.Test.tokens, Predicate.tokens, htoken]
    · simpa [Sql.Test.WellSpelt, Predicate.IsSpelt, Predicate.operands] using hspelt
  | member negated =>
    simp only [Predicate.test, bind_eq_ok, pure_eq_ok] at htest
    obtain ⟨operands, hoperands, rfl⟩ := htest
    have htokens : operands.map ([·.token]) = (values.getD []).map ([·.token]) :=
      map_eq_map_of_mapM hoperands fun _ _ h => by rw [(Sql.Literal.ofValue_ok h).1]
    refine ⟨?_, forall_iff_of_mapM hoperands fun _ _ h => (Sql.Literal.ofValue_ok h).2⟩
    simp [Sql.Condition.tokens, Sql.Test.tokens, Predicate.tokens, htokens]
  | isNull negated =>
    obtain rfl : Sql.Test.isNull negated = test := by simpa [Predicate.test] using htest
    exact ⟨rfl, by simp [Sql.Test.WellSpelt, Predicate.IsSpelt, Predicate.operands]⟩

theorem conditions_ok {predicates : List Predicate} {found : List Sql.Condition}
    (h : conditions predicates = .ok found) :
    found.map Sql.Condition.tokens = predicates.map Predicate.tokens ∧
      ((∀ condition ∈ found, condition.test.WellSpelt) ↔ ∀ predicate ∈ predicates, predicate.IsSpelt) :=
  ⟨map_eq_map_of_mapM h fun _ _ h => (Predicate.condition_ok h).1,
    forall_iff_of_mapM h fun _ _ h => (Predicate.condition_ok h).2⟩

namespace Insight

/-! ### Items -/

theorem metricItem_some {metric : Metric} (hcount : metric.aggregation ≠ .count) {column : String} :
    metricItem metric (some column) =
      .ok (.aggregate metric.aggregation (some column) (some metric.name)) := by
  unfold metricItem
  split <;> simp_all

theorem metricItem_none {metric : Metric} (hcount : metric.aggregation ≠ .count) {item : Sql.Item} :
    metricItem metric none ≠ .ok item := by
  unfold metricItem
  split <;> simp_all

theorem metricItem_ok {metric : Metric} {column : Option String} {item : Sql.Item}
    (h : metricItem metric column = .ok item) : item.tokens = metric.tokens column ∧ item.WellSpelt := by
  by_cases hcount : metric.aggregation = .count
  · obtain rfl : Sql.Item.aggregate .count none (some metric.name) = item := by
      simpa [metricItem, hcount] using h
    refine ⟨?_, trivial⟩
    simp [Sql.Item.tokens, Metric.tokens, hcount, Sql.asTokens]
  · cases column with
    | none => exact absurd h (metricItem_none hcount)
    | some name =>
      rw [metricItem_some hcount, Except.ok.injEq] at h
      subst h
      refine ⟨?_, trivial⟩
      simp [Sql.Item.tokens, Metric.tokens, hcount, Sql.asTokens]

theorem aggregatedItems_ok {insight : Insight} {columnOf : Metric → Option String} {items : List Sql.Item}
    (h : insight.aggregatedItems columnOf = .ok items) :
    items.map Sql.Item.tokens = insight.groupBy.map ([.name ·]) ++
        insight.metrics.map (fun metric => metric.tokens (columnOf metric)) ∧
      ∀ item ∈ items, item.WellSpelt := by
  simp only [aggregatedItems, bind_eq_ok, pure_eq_ok] at h
  obtain ⟨metrics, hmetrics, rfl⟩ := h
  have htokens : metrics.map Sql.Item.tokens =
      insight.metrics.map fun metric => metric.tokens (columnOf metric) :=
    map_eq_map_of_mapM hmetrics fun _ _ h => (metricItem_ok h).1
  have hspelt : ∀ item ∈ metrics, item.WellSpelt :=
    forall_of_mapM hmetrics fun _ _ h => (metricItem_ok h).2
  refine ⟨?_, ?_⟩
  · simp [htokens, Sql.Item.tokens]
  · intro item hmem
    obtain hmem | hmem := List.mem_append.mp hmem
    · obtain ⟨column, -, rfl⟩ := List.mem_map.mp hmem
      trivial
    · exact hspelt item hmem

/-! ### Joined tables -/

theorem isAlias_baseAlias : Sql.IsAlias baseAlias :=
  ⟨by decide, by decide⟩

theorem isAlias_joinedAlias : Sql.IsAlias joinedAlias :=
  ⟨by decide, by decide⟩

theorem isAlias_joinAlias (position : Nat) : Sql.IsAlias (joinAlias position) := by
  have hdigits : ∀ c ∈ integerDigits (position + 1), Sql.isWordPart c = true := by
    intro c hc
    rw [integerDigits, if_neg (by omega)] at hc
    have hdigit := (Sql.isDigits_digitsOf _).2 c hc
    simp [Sql.isWordPart, Char.isAlphanum, hdigit]
  have hhead : (joinAlias position).toList.head? = some 'j' := by
    rw [joinAlias]
    split <;> simp
  constructor
  · rw [joinAlias]
    split
    · decide
    · have hstart : Sql.isWordStart 'j' = true := by decide
      simpa [Sql.isWord, hstart] using hdigits
  · intro hmem
    have hclause : ∀ word ∈ Sql.clauseWords, word.toList.head? ≠ some 'j' := by decide
    exact hclause _ hmem hhead

theorem participant_ok {insight : Insight} {join : Join} {isBase : Bool} {position : Nat}
    {pair : Participant × Sql.JoinClause}
    (h : JoinLayout.participant insight.base join isBase position = .ok pair) :
    pair = (⟨join.table, joinAlias position, isBase⟩, insight.joinClause position join) := by
  simp only [JoinLayout.participant, bind_eq_ok, pure_eq_ok, orFault_eq_ok] at h
  obtain ⟨dataset, hdataset, baseField, hbase, joinedField, hjoined, rfl⟩ := h
  simp [joinClause, Table.stored, Table.columnOf, hdataset, hbase, hjoined]

theorem participantsFrom_ok {insight : Insight} {isBase : Nat → Bool} {joins : List Join} {position : Nat}
    {pairs : List (Participant × Sql.JoinClause)}
    (h : JoinLayout.participantsFrom insight.base isBase position joins = .ok pairs) :
    pairs.map Prod.fst = joins.mapIdx (fun i join =>
        ⟨join.table, joinAlias (position + i : Nat), isBase (position + i)⟩) ∧
      pairs.map Prod.snd = joins.mapIdx fun i join => insight.joinClause (position + i) join := by
  induction joins generalizing position pairs with
  | nil =>
    obtain rfl : [] = pairs := by simpa [JoinLayout.participantsFrom] using h
    exact ⟨rfl, rfl⟩
  | cons join rest ih =>
    simp only [JoinLayout.participantsFrom, bind_eq_ok, pure_eq_ok] at h
    obtain ⟨first, hfirst, others, hothers, rfl⟩ := h
    obtain ⟨hparticipants, hclauses⟩ := ih hothers
    have hpair := participant_ok hfirst
    have hshift : ∀ i, position + 1 + i = position + (i + 1) := by omega
    simp only [List.map_cons, List.mapIdx_cons, hparticipants, hclauses, hpair, hshift, Nat.add_zero,
      and_self]

theorem wellSpelt_joinClause (insight : Insight) (position : Nat) (join : Join) :
    (insight.joinClause position join).table.WellSpelt := by
  intro shortName hshort
  obtain rfl : joinAlias position = shortName := by simpa [joinClause] using hshort
  exact isAlias_joinAlias position

/-! ### Limits and groups -/

/-- The limit of a statement is that of the insight if it is positive. -/
theorem rowLimit_eq {insight : Insight} {limit : Option Value} (h : insight.rowLimit = .ok limit) :
    limit = (insight.limit.filter (0 < ·)).map .integer := by
  unfold rowLimit at h
  cases hlimit : insight.limit.filter (0 < ·) with
  | none =>
    rw [hlimit, Option.mapM_none, pure_eq_ok] at h
    exact h.symm
  | some n =>
    rw [hlimit, Option.mapM_some, fmap_eq_ok] at h
    obtain ⟨value, hvalue, rfl⟩ := h
    obtain ⟨m, hm, rfl⟩ := map_eq_ok.mp hvalue
    rw [eq_of_writable hm]
    rfl

theorem rowLimit_ok {insight : Insight} {limit : Option Value} (h : insight.rowLimit = .ok limit) :
    Sql.countTokens "LIMIT" limit = insight.limitTokens ∧ Sql.CountWellSpelt limit ∧
      (limit = none ↔ ¬ ∃ n, insight.limit = some n ∧ 0 < n) := by
  obtain rfl := rowLimit_eq h
  unfold limitTokens
  cases hlimit : insight.limit.filter (0 < ·) with
  | none =>
    refine ⟨rfl, by simp [Sql.CountWellSpelt], iff_of_true rfl ?_⟩
    rintro ⟨n, hn, hpos⟩
    have hle : n ≤ 0 := by simpa [hn] using hlimit
    omega
  | some n =>
    have hasked : insight.limit = some n ∧ 0 < n := by
      simpa [Option.filter_eq_some_iff] using hlimit
    refine ⟨rfl, ?_, by simp [hasked]⟩
    intro value hvalue
    obtain rfl : Value.integer n = value := by simpa using hvalue
    exact Sql.isNumeral_integerDigits n

theorem groupBy_of_not_isAggregated {insight : Insight} (h : ¬ insight.isAggregated = true) :
    insight.groupBy = [] := by
  simp only [isAggregated, Bool.or_eq_true, Bool.not_eq_true', not_or, Bool.not_eq_false,
    List.isEmpty_iff] at h
  exact h.2

end Insight

namespace InsightObject

variable {object : InsightObject}

/-! ### The inner selection -/

theorem ofObject_ok {found : JoinLayout} (h : JoinLayout.ofObject object = .ok found) :
    found = object.layout := by
  simp only [JoinLayout.ofObject, bind_eq_ok, pure_eq_ok] at h
  obtain ⟨pairs, hpairs, rfl⟩ := h
  obtain ⟨hparticipants, hclauses⟩ := Insight.participantsFrom_ok hpairs
  simp only [hparticipants, hclauses, layout, Nat.zero_add]

theorem isAlias_of_mem_participants {p : Participant} (h : p ∈ object.layout.participants) :
    Sql.IsAlias p.shortName := by
  obtain rfl | hmem := List.mem_cons.mp h
  · exact Insight.isAlias_baseAlias
  · obtain ⟨position, hlt, rfl⟩ := List.mem_mapIdx.mp hmem
    exact Insight.isAlias_joinAlias position

theorem wellSpelt_of_mem_clauses {join : Sql.JoinClause} (h : join ∈ object.layout.clauses) :
    join.table.WellSpelt := by
  obtain ⟨position, hlt, rfl⟩ := List.mem_mapIdx.mp h
  exact object.insight.wellSpelt_joinClause position _

theorem tokens_items (object : InsightObject) :
    object.layout.items.map Sql.Item.tokens = object.innerItems := by
  have hitem : ∀ p column, (object.layout.item p column).tokens = object.innerItem p column := by
    intro p column
    simp only [JoinLayout.item, innerItem, Sql.Item.tokens]
    split <;> rfl
  simp [JoinLayout.items, innerItems, List.map_flatMap, Function.comp_def, hitem]

theorem tokens_clauses (object : InsightObject) :
    object.layout.clauses.flatMap (·.tokens ⟨object.insight.base.stored, some baseAlias⟩) =
      (object.insight.joins.mapIdx object.insight.joinTokens).flatten := by
  have hclause : ∀ position join,
      (object.insight.joinClause position join).tokens ⟨object.insight.base.stored, some baseAlias⟩ =
        object.insight.joinTokens position join := by
    intro position join
    simp [Sql.JoinClause.tokens, Insight.joinClause, Insight.joinTokens, Sql.TableRef.tokens,
      Sql.TableRef.qualifierToken]
  simp [layout, List.flatMap_def, List.mapIdx_eq_zipIdx_map, Function.comp_def, hclause]

/-- The selection that an insight with joins takes its rows from. -/
theorem derived_tokens (hjoins : object.insight.joins.isEmpty = false) :
    (Sql.Source.derived object.layout.items (object.layout.tables object.insight.base.stored)
      joinedAlias).tokens = object.fromTokens := by
  simp only [Sql.Source.tokens, tokens_items, Sql.Joined.tokens, JoinLayout.tables, tokens_clauses,
    fromTokens, hjoins, Sql.TableRef.tokens]
  simp

theorem derived_wellSpelt (object : InsightObject) :
    (Sql.Source.derived object.layout.items (object.layout.tables object.insight.base.stored)
      joinedAlias).WellSpelt := by
  refine ⟨?_, ⟨?_, fun join hmem => wellSpelt_of_mem_clauses hmem⟩, Insight.isAlias_joinedAlias⟩
  · intro item hmem
    obtain ⟨p, hp, hmem⟩ := List.mem_flatMap.mp hmem
    obtain ⟨field, -, rfl⟩ := List.mem_map.mp hmem
    exact isAlias_of_mem_participants hp
  · intro shortName hshort
    obtain rfl : baseAlias = shortName := by simpa [JoinLayout.tables] using hshort
    exact Insight.isAlias_baseAlias

/-! ### Statements -/

/-- How a statement follows from an insight: it has the tokens of the template, and each of its clauses
has something in it when the insight asks for it. -/
structure Follows (object : InsightObject) (s : Sql.Statement) : Prop where
  tokens : s.tokens = object.tokens
  aliased : s.Aliased
  wellSpelt : (∀ predicate ∈ object.insight.filters, predicate.IsSpelt) → s.WellSpelt
  conditions : s.conditions = [] ↔ object.insight.filters = []
  groups : s.groups = object.insight.groupBy
  orderings : s.orderings = [] ↔ object.insight.orderBy = []
  limit : s.limit = none ↔ ¬ ∃ limit, object.insight.limit = some limit ∧ 0 < limit

/-- What `assemble` puts around a selection that has the tokens of the template. -/
theorem assemble_ok {items : List Sql.Item} {source : Sql.Source} {groups : List String}
    {s : Sql.Statement} (h : object.insight.assemble items source groups = .ok s)
    (hitems : items.map Sql.Item.tokens = object.outerItems) (hspelt : ∀ item ∈ items, item.WellSpelt)
    (hsource : source.tokens = object.fromTokens) (hsourceSpelt : source.WellSpelt)
    (hgroups : groups = object.insight.groupBy) : object.Follows s := by
  simp only [Insight.assemble, bind_eq_ok, pure_eq_ok] at h
  obtain ⟨found, hfound, limit, hlimit, rfl⟩ := h
  obtain ⟨hconditions, hconditionsSpelt⟩ := conditions_ok hfound
  obtain ⟨hlimitTokens, hlimitSpelt, hasked⟩ := Insight.rowLimit_ok hlimit
  have horderings : (object.insight.orderBy.map SortOrder.ordering).map Sql.Ordering.tokens =
      object.insight.orderBy.map SortOrder.tokens := by
    simp [SortOrder.ordering, Sql.Ordering.tokens, SortOrder.tokens]
  have hoffset : Sql.countTokens "OFFSET" none = [] := rfl
  have hlength : found.length = object.insight.filters.length := by
    simpa using congrArg List.length hconditions
  constructor
  · simp only [Sql.Statement.tokens, tokens, hitems, hsource, hconditions, hgroups, horderings,
      hlimitTokens, hoffset, List.append_nil]
  · exact ⟨hspelt, hsourceSpelt⟩
  · intro hfilters
    exact ⟨⟨hspelt, hsourceSpelt⟩, hconditionsSpelt.mpr hfilters, hlimitSpelt,
      by simp [Sql.CountWellSpelt]⟩
  · rw [← List.length_eq_zero_iff, ← List.length_eq_zero_iff, hlength]
  · exact hgroups
  · simp
  · exact hasked

theorem simpleStatement_ok {dataset : String} {s : Sql.Statement}
    (hdataset : object.insight.base.loaded? = some dataset) (hjoins : object.insight.joins.isEmpty = true)
    (h : object.insight.simpleStatement dataset = .ok s) : object.Follows s := by
  have hsource : (Sql.Source.tables ⟨⟨tableName dataset, none⟩, []⟩).tokens = object.fromTokens := by
    simp [fromTokens, hjoins, Sql.Source.tokens, Sql.Joined.tokens, Sql.TableRef.tokens, Table.stored, hdataset]
  have hspelt : (Sql.Source.tables ⟨⟨tableName dataset, none⟩, []⟩).WellSpelt :=
    ⟨by simp [Sql.TableRef.WellSpelt], by simp⟩
  unfold Insight.simpleStatement at h
  split at h
  · next haggregated =>
    obtain ⟨items, hitems, h⟩ := bind_eq_ok.mp h
    obtain ⟨htokens, hitemsSpelt⟩ := Insight.aggregatedItems_ok hitems
    refine assemble_ok h ?_ hitemsSpelt hsource hspelt rfl
    simp [outerItems, haggregated, htokens, metricColumn, hjoins]
  · next haggregated =>
    refine assemble_ok h ?_ ?_ hsource hspelt (Insight.groupBy_of_not_isAggregated haggregated).symm
    · simp [outerItems, haggregated, hjoins, Sql.Item.tokens]
    · intro item hmem
      obtain ⟨field, -, rfl⟩ := List.mem_map.mp hmem
      trivial

theorem joinedStatement_ok {dataset : String} {s : Sql.Statement}
    (hdataset : object.insight.base.loaded? = some dataset)
    (hjoins : object.insight.joins.isEmpty = false) (h : object.joinedStatement dataset = .ok s) :
    object.Follows s := by
  have hstored : tableName dataset = object.insight.base.stored := by
    simp [Table.stored, hdataset]
  obtain ⟨found, hfound, h⟩ := bind_eq_ok.mp h
  have hlayout := ofObject_ok hfound
  subst hlayout
  rw [hstored] at h
  split at h
  · next haggregated =>
    obtain ⟨items, hitems, h⟩ := bind_eq_ok.mp h
    obtain ⟨htokens, hitemsSpelt⟩ := Insight.aggregatedItems_ok hitems
    refine assemble_ok h ?_ hitemsSpelt (derived_tokens hjoins) (derived_wellSpelt object) rfl
    simp [outerItems, haggregated, htokens, metricColumn, Insight.joinedColumn, hjoins]
  · next haggregated =>
    refine assemble_ok h ?_ (by simp) (derived_tokens hjoins) (derived_wellSpelt object)
      (Insight.groupBy_of_not_isAggregated haggregated).symm
    simp [outerItems, haggregated, hjoins]

/-- Without joins it does not matter which tables are one object. -/
theorem statement_of_no_joins (object : InsightObject) (h : object.insight.joins = []) :
    object.statement =
      orFault (.missingDataset object.insight.base.name false) object.insight.base.loaded? >>=
        object.insight.simpleStatement := by
  unfold statement
  simp only [h, List.isEmpty_nil, if_true]

theorem statement_ok {s : Sql.Statement} (h : object.statement = .ok s) : object.Follows s := by
  simp only [statement, bind_eq_ok, orFault_eq_ok] at h
  obtain ⟨dataset, hdataset, h⟩ := h
  split at h
  · next hjoins => exact simpleStatement_ok hdataset hjoins h
  · next hjoins => exact joinedStatement_ok hdataset (by simpa using hjoins) h

/-- How the text of a statement follows from the insight. It is read as the template as long as the numbers
that its filters compare with have the texts of numbers. In the template all brackets are closed, and each
clause is there exactly when the insight asks for it. -/
structure FollowsTemplate (object : InsightObject) (text : String) : Prop where
  template : (∀ predicate ∈ object.insight.filters, predicate.IsSpelt) →
    Sql.lex text.toList = some object.tokens
  closed : Sql.Closed object.tokens
  filters : .word "WHERE" ∈ object.tokens ↔ object.insight.filters ≠ []
  groups : .word "GROUP" ∈ object.tokens ↔ object.insight.groupBy ≠ []
  orders : .word "ORDER" ∈ object.tokens ↔ object.insight.orderBy ≠ []
  limit : .word "LIMIT" ∈ object.tokens ↔ ∃ limit, object.insight.limit = some limit ∧ 0 < limit

/-- The text of an insight's statement is cut into exactly the tokens of the template, whatever its names
and values contain. -/
theorem sql_follows_template (object : InsightObject) (text : String) (h : object.sql = .ok text) :
    object.FollowsTemplate text := by
  obtain ⟨s, hs, rfl⟩ := map_eq_ok.mp h
  have hfollows := statement_ok hs
  have hmem : ∀ word ∈ Sql.clauseWords, _ := fun word hword =>
    Sql.Statement.mem_tokens hfollows.aliased hword
  constructor
  · intro hspelt
    rw [← hfollows.tokens]
    exact (Sql.Statement.lexes (hfollows.wellSpelt hspelt)).lex_eq
  · rw [← hfollows.tokens]
    exact Sql.Statement.closed hfollows.aliased
  · rw [← hfollows.tokens, hmem "WHERE" (by decide)]
    simp [hfollows.conditions]
  · rw [← hfollows.tokens, hmem "GROUP" (by decide)]
    simp [hfollows.groups]
  · rw [← hfollows.tokens, hmem "ORDER" (by decide)]
    simp [hfollows.orderings]
  · rw [← hfollows.tokens, hmem "LIMIT" (by decide)]
    simp [hfollows.limit]

/-- An insight whose names and values are full of quotes, brackets and words that begin clauses. -/
def hostileInsight : Insight where
  id := "i"
  name := "hostile"
  base := ⟨"t", "orders", some "a\"; DROP TABLE x; --", [⟨"f", "key", "k\"", "string", none, none⟩]⟩
  selectedFields := []
  metrics := [⟨"m", "n) FROM \"", "t", .sum, some "c'"⟩]
  filters := [⟨"a\"b", .compare .eq, .text "it's", none⟩,
    ⟨"d", .member true, .null, some [.integer (-1), .text "', '"]⟩]
  groupBy := ["g WHERE"]
  orderBy := []
  limit := some 5
  joins := [⟨⟨"u", "lines", some "b-c", [⟨"h", "key", "k\"", "string", none, none⟩]⟩, [], ⟨"f", "h"⟩, .left⟩]

theorem sql_follows_template_hostileInsight :
    ∃ text, hostileInsight.apart.sql = .ok text ∧
      (∀ predicate ∈ hostileInsight.apart.insight.filters, predicate.IsSpelt) ∧
      Sql.lex text.toList = some hostileInsight.apart.tokens ∧ Sql.Closed hostileInsight.apart.tokens ∧
      .word "LIMIT" ∈ hostileInsight.apart.tokens ∧ .word "ORDER" ∉ hostileInsight.apart.tokens := by
  have hsome : hostileInsight.apart.sql.toOption.isSome = true := by decide +kernel
  cases hsql : hostileInsight.apart.sql with
  | error fault => simp [hsql, Except.toOption] at hsome
  | ok text =>
    have hspelt : ∀ predicate ∈ hostileInsight.apart.insight.filters, predicate.IsSpelt := by
      intro predicate hpredicate value hvalue
      have hliteral : ∀ predicate ∈ hostileInsight.apart.insight.filters, ∀ value ∈ predicate.operands,
          value.native = value ∧ (Sql.Literal.ofValue value).toOption.isSome = true := by
        decide +kernel
      obtain ⟨hnative, hliteral⟩ := hliteral predicate hpredicate value hvalue
      cases hok : Sql.Literal.ofValue value with
      | error fault => simp [hok, Except.toOption] at hliteral
      | ok literal => exact value.isSpelt_of_native hnative hok
    have hfollows := sql_follows_template hostileInsight.apart text hsql
    refine ⟨text, rfl, hspelt, hfollows.template hspelt, hfollows.closed,
      hfollows.limit.mpr ⟨5, rfl, by decide⟩, ?_⟩
    rw [hfollows.orders]
    exact fun h => h rfl

/-- A count that names a column, a test for null that comes with a value, and a number with a name. -/
def tacitInsight : Insight where
  id := "i"
  name := "count of values"
  base := ⟨"t", "orders", some "a", []⟩
  selectedFields := []
  metrics := [⟨"m", "n", "t", .count, some "value"⟩]
  filters := [⟨"checked", .isNull true, .integer 5, none⟩,
    ⟨"priority", .compare .eq, .namedThree, none⟩]
  groupBy := []
  orderBy := []
  limit := none
  joins := []

/-- A count of rows has no token for a column and a test for null none for a value. A number with a text of
its own is not read as a number. -/
theorem tokens_of_tacitInsight :
    ∃ text tokens, tacitInsight.apart.sql = .ok text ∧ Sql.lex text.toList = some tokens ∧
      .name "value" ∉ tokens ∧ ∀ spelling, .number spelling ∉ tokens := by
  let text := "SELECT COUNT(*) AS \"n\" FROM \"df_a\" WHERE \"checked\" IS NOT NULL" ++
    " AND \"priority\" = Priority.HIGH"
  let tokens : List Sql.Token := [.word "SELECT", .word "COUNT", .symbol "(", .symbol "*", .symbol ")",
    .word "AS", .name "n", .word "FROM", .name "df_a", .word "WHERE", .name "checked", .word "IS",
    .word "NOT", .word "NULL", .word "AND", .name "priority", .symbol "=", .word "Priority", .symbol ".",
    .word "HIGH"]
  have hsql : tacitInsight.apart.sql.toOption = some text := by decide +kernel
  have hlex : Sql.lex text.toList = some tokens := by decide +kernel
  cases hfound : tacitInsight.apart.sql with
  | error fault => simp [hfound, Except.toOption] at hsql
  | ok found =>
    obtain rfl : found = text := by simpa [hfound, Except.toOption] using hsql
    exact ⟨text, tokens, rfl, hlex, by simp [tokens], by simp [tokens]⟩

end InsightObject
end Insights
