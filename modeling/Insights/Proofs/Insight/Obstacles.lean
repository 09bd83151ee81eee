import Insights.Proofs.Insight.Compiled
import Insights.Proofs.Time.Calendar

/-!
Why an insight has no statement. All that can stand in the way of a statement is written down from the
insight alone, in the order in which it is met: a base table without data, joins in order, metrics in order,
and the values that filters compare with in order. The first obstacle is the fault of the insight, and an
insight without obstacles has a statement. Values that no operator looks at never count.
-/

namespace Insights

/-! ### Computations that stop -/

section Stops

variable {α β : Type} {first second : List Fault} {x : Except Fault α} {f : α → Except Fault β}

/-- The computation fails with the first of the obstacles, and succeeds when there are none. -/
def StopsAt (obstacles : List Fault) (x : Except Fault α) : Prop :=
  match obstacles with
  | [] => ∃ a, x = .ok a
  | fault :: _ => x = .error fault

theorem stopsAt_ok (a : α) : StopsAt [] (.ok a : Except Fault α) :=
  ⟨a, rfl⟩

/-- The obstacles of a computation come before those of what follows it. -/
theorem StopsAt.bind (hx : StopsAt first x) (hf : ∀ a, x = .ok a → StopsAt second (f a)) :
    StopsAt (first ++ second) (x >>= f) := by
  cases first with
  | nil =>
    obtain ⟨a, rfl⟩ := hx
    exact hf a rfl
  | cons fault rest =>
    obtain rfl : x = .error fault := hx
    exact rfl

theorem StopsAt.map (hx : StopsAt first x) (g : α → β) : StopsAt first (x.map g) := by
  cases first with
  | nil =>
    obtain ⟨a, rfl⟩ := hx
    exact ⟨g a, rfl⟩
  | cons fault rest =>
    obtain rfl : x = .error fault := hx
    exact rfl

/-- A computation whose result is only put into another form. -/
theorem StopsAt.bind_pure (hx : StopsAt first x) (g : α → β) :
    StopsAt first (x >>= fun a => pure (g a)) := by
  have hboth := hx.bind (f := fun a => pure (g a)) fun a _ => stopsAt_ok (g a)
  rwa [List.append_nil] at hboth

/-- Items are gone through in order. -/
theorem stopsAt_mapM {obstacles : α → List Fault} {items : List α}
    (h : ∀ a ∈ items, StopsAt (obstacles a) (f a)) : StopsAt (items.flatMap obstacles) (items.mapM f) := by
  induction items with
  | nil => exact stopsAt_ok []
  | cons item rest ih =>
    rw [List.forall_mem_cons] at h
    rw [List.flatMap_cons, List.mapM_cons]
    exact h.1.bind fun b _ => (ih h.2).bind_pure (b :: ·)

theorem stopsAt_ite {p : Prop} [Decidable p] {fault : Fault} (hfails : p → x = .error fault)
    (hsucceeds : ¬ p → ∃ a, x = .ok a) : StopsAt (if p then [fault] else []) x := by
  split
  · next h => exact hfails h
  · next h => exact hsucceeds h

theorem StopsAt.eq_error (h : StopsAt first x) {fault : Fault} (hhead : first.head? = some fault) :
    x = .error fault := by
  obtain ⟨rest, rfl⟩ := List.head?_eq_some_iff.mp hhead
  exact h

theorem StopsAt.head?_eq (h : StopsAt first x) {fault : Fault} (hx : x = .error fault) :
    first.head? = some fault := by
  cases first with
  | nil =>
    obtain ⟨a, ha⟩ := h
    rw [ha] at hx
    cases hx
  | cons found rest =>
    obtain rfl : found = fault := Except.error.inj (Eq.trans (Eq.symm h) hx)
    rfl

/-- Two computations with the same obstacles fail alike. -/
theorem StopsAt.eq_error_iff {y : Except Fault β} (hx : StopsAt first x) (hy : StopsAt first y)
    {fault : Fault} : x = .error fault ↔ y = .error fault :=
  ⟨fun h => hy.eq_error (hx.head?_eq h), fun h => hx.eq_error (hy.head?_eq h)⟩

theorem StopsAt.exists_ok {y : Except Fault β} (hx : StopsAt first x) (hy : StopsAt first y) {a : α}
    (h : x = .ok a) : ∃ b, y = .ok b := by
  cases hfound : y with
  | ok b => exact ⟨b, rfl⟩
  | error fault =>
    rw [(hx.eq_error_iff hy).mpr hfound] at h
    cases h

end Stops

/-! ### Values and filters -/

/-- A number that is not finite has no literal, nor has a moment that leaves the calendar. An integer with
more digits than are ever written is in the way wherever it stands in a value. -/
def Value.obstacles (value : Value) : List Fault :=
  match value.native with
  | .null | .boolean _ | .date _ => []
  | .float x => if x.isFinite = false then [.nonFinite value] else []
  | .decimal d => if d.isFinite = false then [.nonFinite value] else []
  | .timestamp t => if t.LeavesCalendar then [.outOfRange] else []
  | _ => if value.isPrintable = false then [.unwritableInteger] else []

theorem Value.stopsAt_written (value : Value) :
    StopsAt (if value.isPrintable = false then [.unwritableInteger] else []) value.written := by
  refine stopsAt_ite ?_ ?_
  · intro h
    simp [written, h]
  · intro h
    simp [written, eq_true_of_ne_false h]

theorem Value.stopsAt_literal (value : Value) : StopsAt value.obstacles (Sql.Literal.ofValue value) := by
  unfold obstacles Sql.Literal.ofValue
  cases value.native with
  | null => exact stopsAt_ok _
  | boolean b => exact stopsAt_ok _
  | date d => exact stopsAt_ok _
  | float x =>
    refine stopsAt_ite ?_ ?_
    · intro h
      simp [h]
    · intro h
      simp [eq_true_of_ne_false h]
  | decimal d =>
    refine stopsAt_ite ?_ ?_
    · intro h
      simp [h]
    · intro h
      simp [eq_true_of_ne_false h]
  | timestamp t =>
    refine stopsAt_ite ?_ ?_
    · intro h
      rw [← t.literal?_eq_none_iff] at h
      simp only [h]
      rfl
    · intro h
      rw [← t.literal?_eq_none_iff] at h
      obtain ⟨text, htext⟩ := Option.ne_none_iff_exists'.mp h
      simp only [htext]
      exact ⟨_, rfl⟩
  | _ => exact value.stopsAt_written.map _

def Predicate.obstacles (predicate : Predicate) : List Fault :=
  predicate.operands.flatMap Value.obstacles

theorem Predicate.stopsAt_test (predicate : Predicate) : StopsAt predicate.obstacles predicate.test := by
  unfold obstacles operands test
  cases predicate.operator with
  | compare comparison =>
    have hvalue := predicate.value.stopsAt_literal.bind_pure (Sql.Test.compare comparison)
    simpa using hvalue
  | member negated =>
    exact (stopsAt_mapM fun value _ => value.stopsAt_literal).bind_pure (Sql.Test.member negated)
  | isNull negated => exact stopsAt_ok (Sql.Test.isNull negated)

theorem stopsAt_conditions (predicates : List Predicate) :
    StopsAt (predicates.flatMap Predicate.obstacles) (conditions predicates) :=
  stopsAt_mapM fun predicate _ => predicate.stopsAt_test.bind_pure _

/-- The filters differ at most in values that their operator does not look at. -/
def Predicate.Alike (predicate other : Predicate) : Prop :=
  predicate.column = other.column ∧ predicate.operator = other.operator ∧ predicate.operands = other.operands

theorem Predicate.Alike.condition_eq {predicate other : Predicate} (h : predicate.Alike other) :
    predicate.condition = other.condition := by
  obtain ⟨column, operator, value, values⟩ := predicate
  obtain ⟨otherColumn, otherOperator, otherValue, otherValues⟩ := other
  obtain ⟨rfl, rfl, hoperands⟩ := h
  cases operator with
  | compare comparison =>
    obtain rfl : value = otherValue := by simpa [operands] using hoperands
    rfl
  | member negated =>
    have hvalues : values.getD [] = otherValues.getD [] := hoperands
    simp only [condition, test, hvalues]
  | isNull negated => rfl

theorem conditions_of_alike {predicates others : List Predicate}
    (h : List.Forall₂ Predicate.Alike predicates others) : conditions predicates = conditions others :=
  (mapM_eq_mapM_of_forall₂ h fun _ _ halike => halike.condition_eq.symm).symm

/-! ### Tables and metrics -/

/-- No data is known for the table. -/
def Table.IsUnloaded (table : Table) : Prop :=
  table.dataset = none ∨ table.dataset = some ""

instance (table : Table) : Decidable table.IsUnloaded :=
  inferInstanceAs (Decidable (_ ∨ _))

theorem Table.loaded?_eq_none_iff (table : Table) : table.loaded? = none ↔ table.IsUnloaded := by
  unfold loaded? IsUnloaded
  cases table.dataset with
  | none => simp
  | some dataset => simp [Option.filter_eq_none_iff]

def Table.HasField (table : Table) (id : String) : Prop :=
  ∃ field ∈ table.fields, field.id = id

instance (table : Table) (id : String) : Decidable (table.HasField id) :=
  inferInstanceAs (Decidable (∃ field ∈ table.fields, field.id = id))

theorem Table.field?_eq_none_iff (table : Table) (id : String) : table.field? id = none ↔ ¬ table.HasField id := by
  simp [field?, HasField]

theorem Table.hasField_iff {table : Table} {id : String} :
    table.HasField id ↔ ∃ field, table.field? id = some field := by
  rw [← Option.ne_none_iff_exists', Ne, field?_eq_none_iff, not_not]

/-- Every metric but a count needs a column. -/
def Metric.obstacles (metric : Metric) : List Fault :=
  if metric.aggregation ≠ .count ∧ (metric.column = none ∨ metric.column = some "") then
    [.columnlessMetric metric.name metric.aggregation.word]
  else []

namespace Insight

/-- A metric is in the way only for want of a column, whatever the column is called where it is looked up. -/
theorem stopsAt_metricItem (metric : Metric) {column : Option String}
    (hcolumn : column = none ↔ metric.column? = none) : StopsAt metric.obstacles (metricItem metric column) := by
  have hnone : metric.column? = none ↔ metric.column = none ∨ metric.column = some "" := by
    unfold Metric.column?
    cases metric.column <;> simp [Option.filter_eq_none_iff]
  rw [hnone] at hcolumn
  refine stopsAt_ite ?_ ?_
  · rintro ⟨hcount, hmissing⟩
    rw [hcolumn.mpr hmissing]
    unfold metricItem
    split <;> simp_all
  · intro hfine
    by_cases hcount : metric.aggregation = .count
    · exact ⟨.aggregate .count none (some metric.name), by simp [metricItem, hcount]⟩
    · obtain ⟨name, rfl⟩ := Option.ne_none_iff_exists'.mp fun h => hfine ⟨hcount, hcolumn.mp h⟩
      exact ⟨_, metricItem_some hcount⟩

/-! ### Parts of an insight -/

section Parts

variable {insight : Insight}

def baseObstacles (insight : Insight) : List Fault :=
  if insight.base.IsUnloaded then [.missingDataset insight.base.name false] else []

/-- A join needs data, and then both of its key fields. -/
def joinObstacles (insight : Insight) (join : Join) : List Fault :=
  if join.table.IsUnloaded then [.missingDataset join.table.name true]
  else if ¬ (insight.base.HasField join.keys.baseField ∧ join.table.HasField join.keys.joinedField) then
    [.joinKeyNotFound insight.base.name join.keys.baseField join.table.name join.keys.joinedField]
  else []

/-- All that stands in the way of a statement, in the order in which it is met. -/
def obstacles (insight : Insight) : List Fault :=
  insight.baseObstacles ++ insight.joins.flatMap insight.joinObstacles ++
    insight.metrics.flatMap Metric.obstacles ++ insight.filters.flatMap Predicate.obstacles

/-- The limit has more digits than are ever written. -/
def HasOverlongLimit (insight : Insight) : Prop :=
  ∃ limit ∈ insight.limit, (Nat.pow 10 digitLimit : Int) ≤ limit

instance (insight : Insight) : Decidable insight.HasOverlongLimit :=
  inferInstanceAs (Decidable (∃ limit ∈ insight.limit, (Nat.pow 10 digitLimit : Int) ≤ limit))

def limitObstacles (insight : Insight) : List Fault :=
  if insight.HasOverlongLimit then [.unwritableInteger] else []

/-- Both fields are looked up, and one that is not there is no other fault than the other. -/
theorem stopsAt_participant (join : Join) (isBase : Bool) (position : Nat) :
    StopsAt (insight.joinObstacles join) (JoinLayout.participant insight.base join isBase position) := by
  simp only [JoinLayout.participant, joinObstacles]
  cases hloaded : join.table.loaded? with
  | none =>
    rw [if_pos (join.table.loaded?_eq_none_iff.mp hloaded)]
    rfl
  | some dataset =>
    rw [if_neg fun h => by simp [join.table.loaded?_eq_none_iff.mpr h] at hloaded]
    refine stopsAt_ite ?_ ?_
    · intro hmissing
      cases hbase : insight.base.field? join.keys.baseField with
      | none => rfl
      | some baseField =>
        have hjoined : join.table.field? join.keys.joinedField = none := by
          rw [Table.field?_eq_none_iff]
          exact fun h => hmissing ⟨Table.hasField_iff.mpr ⟨baseField, hbase⟩, h⟩
        rw [hjoined]
        rfl
    · intro hthere
      rw [not_not] at hthere
      obtain ⟨baseField, hbase⟩ := Table.hasField_iff.mp hthere.1
      obtain ⟨joinedField, hjoined⟩ := Table.hasField_iff.mp hthere.2
      rw [hbase, hjoined]
      exact ⟨_, rfl⟩

theorem stopsAt_participantsFrom (isBase : Nat → Bool) (joins : List Join) (position : Nat) :
    StopsAt (joins.flatMap insight.joinObstacles)
      (JoinLayout.participantsFrom insight.base isBase position joins) := by
  induction joins generalizing position with
  | nil => exact stopsAt_ok []
  | cons join rest ih =>
    exact (stopsAt_participant join (isBase position) position).bind fun first _ =>
      (ih (position + 1)).bind_pure (first :: ·)

theorem stopsAt_rowLimit (insight : Insight) : StopsAt insight.limitObstacles insight.rowLimit := by
  refine stopsAt_ite ?_ ?_
  · rintro ⟨limit, hlimit, hlong⟩
    have hpow : ∀ digits, 0 < Nat.pow 10 digits := fun _ => Nat.pow_pos (by decide)
    have hpos : 0 < limit := Int.lt_of_lt_of_le (Int.natCast_pos.mpr (hpow digitLimit)) hlong
    have hnot : ¬ fitsDigitLimit limit = true := by
      rw [fitsDigitLimit_iff]
      omega
    rw [rowLimit, Option.mem_def.mp hlimit, Option.filter_some, if_pos (by simpa using hpos), Option.mapM_some,
      writable, if_neg hnot]
    rfl
  · intro hshort
    unfold rowLimit
    cases hlimit : insight.limit.filter (0 < ·) with
    | none => exact ⟨none, rfl⟩
    | some limit =>
      obtain ⟨hasked, hpos⟩ : insight.limit = some limit ∧ 0 < limit := by
        simpa [Option.filter_eq_some_iff] using hlimit
      have hfits : fitsDigitLimit limit = true := by
        rw [fitsDigitLimit_iff]
        by_contra hlong
        exact hshort ⟨limit, hasked, by omega⟩
      rw [Option.mapM_some, writable, if_pos hfits]
      exact ⟨_, rfl⟩

theorem metrics_of_not_isAggregated (h : ¬ insight.isAggregated = true) : insight.metrics = [] := by
  simp only [isAggregated, Bool.or_eq_true, Bool.not_eq_true', not_or, Bool.not_eq_false,
    List.isEmpty_iff] at h
  exact h.1

theorem stopsAt_aggregatedItems {columnOf : Metric → Option String}
    (h : ∀ metric, columnOf metric = none ↔ metric.column? = none) :
    StopsAt (insight.metrics.flatMap Metric.obstacles) (insight.aggregatedItems columnOf) :=
  (stopsAt_mapM fun metric _ => stopsAt_metricItem metric (h metric)).bind_pure
    (insight.groupBy.map Sql.Item.column ++ ·)

theorem stopsAt_assemble (items : List Sql.Item) (source : Sql.Source) (groups : List String) :
    StopsAt (insight.filters.flatMap Predicate.obstacles ++ insight.limitObstacles)
      (insight.assemble items source groups) :=
  (stopsAt_conditions insight.filters).bind fun _ _ => (stopsAt_rowLimit insight).bind_pure _

/-- What a selection does with the rest of an insight, under whatever names it knows the columns. -/
theorem stopsAt_selection {columnOf : Metric → Option String}
    (h : ∀ metric, columnOf metric = none ↔ metric.column? = none) (source : Sql.Source)
    (unaggregated : List Sql.Item) :
    StopsAt (insight.metrics.flatMap Metric.obstacles ++
        (insight.filters.flatMap Predicate.obstacles ++ insight.limitObstacles))
      (if insight.isAggregated then do
        let items ← insight.aggregatedItems columnOf
        insight.assemble items source insight.groupBy
      else insight.assemble unaggregated source []) := by
  split
  · exact (stopsAt_aggregatedItems h).bind fun items _ => stopsAt_assemble items source insight.groupBy
  · next haggregated =>
    rw [metrics_of_not_isAggregated haggregated]
    exact stopsAt_assemble unaggregated source []

end Parts

end Insight

namespace InsightObject

/-! ### Statements -/

theorem stopsAt_ofObject (object : InsightObject) :
    StopsAt (object.insight.joins.flatMap object.insight.joinObstacles) (JoinLayout.ofObject object) :=
  (Insight.stopsAt_participantsFrom object.joinsBase object.insight.joins 0).bind_pure _

/-- Both ways to a statement meet the same obstacles, since a column goes by another name in a joined
selection but is not missing there. -/
theorem stopsAt_statement (object : InsightObject) :
    StopsAt (object.insight.obstacles ++ object.insight.limitObstacles) object.statement := by
  let insight := object.insight
  have hbase : StopsAt insight.baseObstacles
      (orFault (.missingDataset insight.base.name false) insight.base.loaded?) := by
    refine stopsAt_ite ?_ ?_
    · intro hunloaded
      rw [insight.base.loaded?_eq_none_iff.mpr hunloaded]
      rfl
    · intro hloaded
      obtain ⟨dataset, hdataset⟩ :=
        Option.ne_none_iff_exists'.mp fun h => hloaded (insight.base.loaded?_eq_none_iff.mp h)
      exact ⟨dataset, orFault_eq_ok.mpr hdataset⟩
  simp only [Insight.obstacles, List.append_assoc]
  refine hbase.bind fun dataset _ => ?_
  split
  · next hjoins =>
    rw [List.isEmpty_iff.mp hjoins]
    exact Insight.stopsAt_selection (fun _ => Iff.rfl) _ _
  · exact (stopsAt_ofObject object).bind fun layout _ =>
      Insight.stopsAt_selection (fun _ => Option.map_eq_none_iff) _ _

/-- A statement reads the filters only for their conditions. -/
theorem sql_of_alike_filters (object : InsightObject) {filters : List Predicate}
    (h : List.Forall₂ Predicate.Alike object.insight.filters filters) :
    (object.withFilters filters).sql = object.sql := by
  have hassemble : { object.insight with filters }.assemble = object.insight.assemble := by
    funext items source groups
    unfold Insight.assemble
    rw [conditions_of_alike h]
    rfl
  have hsimple : { object.insight with filters }.simpleStatement = object.insight.simpleStatement := by
    unfold Insight.simpleStatement
    rw [hassemble]
    rfl
  have hjoined : (object.withFilters filters).joinedStatement = object.joinedStatement := by
    unfold joinedStatement
    simp only [withFilters, hassemble]
    rfl
  unfold sql statement
  rw [hjoined]
  simp only [withFilters, hsimple]

/-- Whether an insight has a statement, and which fault it has otherwise, is decided by the first obstacle.
Nothing else goes wrong, apart from a limit that is too long to be written, and only what an operator looks
at counts. -/
theorem sql_fails_at_first_obstacle (object : InsightObject) :
    (∀ fault, object.insight.obstacles.head? = some fault → object.sql = .error fault) ∧
      (object.insight.obstacles = [] →
        ((∃ text, object.sql = .ok text) ↔ ¬ object.insight.HasOverlongLimit)) ∧
      (∀ fault, object.sql = .error fault → object.insight.obstacles.head? = some fault ∨
        object.insight.obstacles = [] ∧ object.insight.HasOverlongLimit ∧ fault = .unwritableInteger) ∧
      ∀ filters, List.Forall₂ Predicate.Alike object.insight.filters filters →
        (object.withFilters filters).sql = object.sql := by
  have hstops : StopsAt (object.insight.obstacles ++ object.insight.limitObstacles) object.sql :=
    (stopsAt_statement object).map Sql.Statement.render
  refine ⟨?_, ?_, ?_, fun filters => object.sql_of_alike_filters⟩
  · intro fault hfirst
    refine hstops.eq_error ?_
    rw [List.head?_append, hfirst, Option.some_or]
  · intro hnone
    rw [hnone, List.nil_append, Insight.limitObstacles] at hstops
    split at hstops
    · next hlong =>
      have hfault : object.sql = .error .unwritableInteger := hstops
      simp [hfault, hlong]
    · next hshort => exact iff_of_true hstops hshort
  · intro fault hfault
    have hfirst := hstops.head?_eq hfault
    rw [List.head?_append, Option.or_eq_some_iff, List.head?_eq_none_iff, Insight.limitObstacles] at hfirst
    refine hfirst.imp_right fun ⟨hnone, hlimit⟩ => ?_
    split at hlimit
    · next hlong => exact ⟨hnone, hlong, (Option.some.inj hlimit).symm⟩
    · cases hlimit

end InsightObject
end Insights
