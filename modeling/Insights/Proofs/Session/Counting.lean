import Insights.Proofs.Session.Branches
import Insights.Proofs.Session.Execution

/-!
Counting the rows of a builder. A count sets aside the operations that page the rows, order them or choose
their columns, and counts the rows of the statement of all others. So it makes no difference how many
operations of these kinds there are and where they stand, and a builder that was asked for a count keeps
its operations and its statement.
-/

namespace Insights

namespace Operation

/-- The kinds of operations that page rows, order them or choose their columns. -/
def Kind.shaping : List Kind :=
  [.limit, .offset, .sort, .select]

/-- The operations of all other kinds. -/
def unshaped (operations : List Operation) : List Operation :=
  operations.filter (·.kind ∉ Kind.shaping)

theorem filter_not_isShaping (operations : List Operation) :
    operations.filter (fun operation => !operation.isShaping) = unshaped operations := by
  apply List.filter_congr
  intro operation _
  cases operation <;> rfl

/-- The second list is the first one with operations of shaping kinds put in anywhere. -/
inductive Interspersed : List Operation → List Operation → Prop where
  | nil : Interspersed [] []
  | keep (operation : Operation) {operations longer : List Operation} (h : Interspersed operations longer) :
    Interspersed (operation :: operations) (operation :: longer)
  | insert {operation : Operation} (hkind : operation.kind ∈ Kind.shaping) {operations longer : List Operation}
    (h : Interspersed operations longer) : Interspersed operations (operation :: longer)

theorem Interspersed.unshaped_eq {operations longer : List Operation} (h : Interspersed operations longer) :
    unshaped longer = unshaped operations := by
  induction h with
  | nil => rfl
  | keep operation _ ih =>
    unfold unshaped at ih ⊢
    rw [List.filter_cons, List.filter_cons, ih]
  | insert hkind _ ih =>
    unfold unshaped at ih ⊢
    rw [List.filter_cons_of_neg (by simpa using hkind), ih]

section
variable {α : Type} {view : Operation → Option α} {seen : Kind}

/-- What is seen of the other kinds stays in view. -/
theorem filterMap_unshaped (h : Sees view seen) (hseen : seen ∉ Kind.shaping) (operations : List Operation) :
    (unshaped operations).filterMap view = operations.filterMap view := by
  rw [← filterMap_filter_kind h (unshaped operations), ← filterMap_filter_kind h operations, unshaped,
    List.filter_filter]
  congr 1
  apply List.filter_congr
  intro operation _
  by_cases hkind : operation.kind = seen
  · simp [hkind, hseen]
  · simp [hkind]

/-- Nothing is seen of the shaping kinds. -/
theorem latest?_unshaped (h : Sees view seen) (hseen : seen ∈ Kind.shaping) (operations : List Operation) :
    latest? view (unshaped operations) = none := by
  rw [latest?_eq_none]
  intro operation hmem
  apply h
  rintro rfl
  have hkept := List.of_mem_filter hmem
  simp [hseen] at hkept

end

end Operation

open Operation in
/-- What a count is over: all filters and joins and the last grouping, and neither order, columns nor limits. -/
theorem Plan.ofOperations_unshaped (operations : List Operation) :
    ofOperations (unshaped operations) =
      { filters := allPredicates operations
        orders := []
        joins := allJoins operations
        grouping := latest? grouping? operations
        selection := none
        limit := none
        offset := none } := by
  obtain ⟨hpredicates, hjoins, horders, hgrouping, hcolumns, hlimit, hoffset⟩ := sees_views
  rw [ofOperations_eq, latest?_unshaped horders (by decide), latest?_unshaped hcolumns (by decide),
    latest?_unshaped hlimit (by decide), latest?_unshaped hoffset (by decide), allPredicates, allJoins, latest?,
    filterMap_unshaped hpredicates (by decide), filterMap_unshaped hjoins (by decide),
    filterMap_unshaped hgrouping (by decide)]
  rfl

variable {σ : Type} [ByteStore σ]

/-- The table that a builder knows after it was looked for in a session. -/
def Builder.tableAfter (builder : Builder) (session : Session σ) : Value :=
  (builder.remember (builder.findTable.run.run session).1).table

namespace BuilderAction

open Operation

/-- What comes of a statement whose rows are to be counted. -/
def counted (session : Session σ) : Except Fault String → Except Fault Int × Session σ
  | .error fault => (.error fault, session)
  | .ok text =>
    let answered := (Action.query (countStatement text)).run.run session
    (answered.1 >>= countOf, answered.2)

theorem run_sqlOf_eq (builder : Builder) (operations listed : List Operation) (session : Session σ) :
    ((sqlOf operations).run.run { builder with operations := listed }).run session =
      (let made := (builder.statementText operations).run.run session
      ((made.1, { builder with operations := listed, table := builder.tableAfter session }), made.2)) := by
  have hremember : { builder with operations := listed }.remember (builder.findTable.run.run session).1 =
      { builder with operations := listed, table := builder.tableAfter session } := by
    unfold Builder.tableAfter
    cases (builder.findTable.run.run session).1 <;> rfl
  rw [run_sqlOf, ← hremember]
  rfl

theorem run_sql_eq (builder : Builder) (operations : List Operation) (session : Session σ) :
    (sql.run.run { builder with operations }).run session =
      (let made := (builder.statementText operations).run.run session
      ((made.1, { builder with operations, table := builder.tableAfter session }), made.2)) := by
  unfold sql
  rw [run_bind, run_get]
  exact run_sqlOf_eq builder operations operations session

/-- A count makes the statement of the operations that do not only shape the rows, sends the statement that
counts its rows, and reads the number off the answer. -/
theorem run_count (builder : Builder) (operations : List Operation) (session : Session σ) :
    (count.run.run { builder with operations }).run session =
      (let made := (builder.statementText (unshaped operations)).run.run session
      let answered := counted made.2 made.1
      ((answered.1, { builder with operations, table := builder.tableAfter session }), answered.2)) := by
  unfold count
  rw [run_bind, run_get]
  dsimp only
  rw [run_bind, run_sqlOf_eq, filter_not_isShaping]
  rcases (builder.statementText (unshaped operations)).run.run session with ⟨made, middle⟩
  cases made with
  | error fault => rfl
  | ok text =>
    dsimp only [counted]
    rw [run_bind, run_ofAction]
    rcases (Action.query (countStatement text)).run.run middle with ⟨answer, after⟩
    cases answer with
    | error fault => rfl
    | ok rows => rfl

/-- Operations of shaping kinds make no difference to a count. -/
theorem count_of_interspersed {builder : Builder} {longer : List Operation}
    (h : Interspersed builder.operations longer) (session : Session σ) :
    ∃ outcome table after,
      (count.run.run builder).run session = ((outcome, { builder with table }), after) ∧
        (count.run.run { builder with operations := longer }).run session =
          ((outcome, { builder with operations := longer, table }), after) := by
  refine ⟨_, _, _, run_count builder builder.operations session, ?_⟩
  rw [run_count, h.unshaped_eq]

/-- A count sends one statement, around the statement of the other operations. If these have none, it fails
as they do and sends nothing. -/
theorem count_of_sql (builder : Builder) (session : Session σ) :
    ∃ outcome table made,
      (sql.run.run { builder with operations := unshaped builder.operations }).run session =
        ((outcome, { builder with operations := unshaped builder.operations, table }), made) ∧
      (∀ fault, outcome = .error fault →
        (count.run.run builder).run session = ((.error fault, { builder with table }), made)) ∧
      ∀ text, outcome = .ok text → ∃ answer after,
        (Action.query (countStatement text)).run.run made = (answer, after) ∧
          after.engine.calls = made.engine.calls ++ [.query (countStatement text)] ∧
          (count.run.run builder).run session = ((answer >>= countOf, { builder with table }), after) := by
  have hcount := run_count builder builder.operations session
  dsimp only at hcount
  refine ⟨_, _, _, run_sql_eq builder (unshaped builder.operations) session, ?_, ?_⟩
  · intro fault hfault
    rw [hfault] at hcount
    exact hcount
  · intro text htext
    rw [htext] at hcount
    exact ⟨_, _, rfl, Action.calls_query _ _, hcount⟩

/-- A builder that was asked for a count has the statement that it had before, in whatever sessions the two
statements are made. -/
theorem sql_after_count (builder : Builder) {session : Session σ} (hreached : session.Reached) :
    builder.Remembers (count.leaves builder session).1 ∧
      ∀ later other : Session σ, later.Reached → other.Reached →
        (∀ text text', ((sql.run.run (count.leaves builder session).1).run later).1.1 = .ok text →
          ((sql.run.run builder).run other).1.1 = .ok text' → text = text') ∧
        (Action.LoadsEach builder.loader
            ((count.leaves builder session).1.needed builder.operations) later →
          Action.LoadsEach builder.loader (builder.needed builder.operations) other →
          ((sql.run.run (count.leaves builder session).1).run later).1.1 =
            ((sql.run.run builder).run other).1.1) := by
  have hremembers : builder.Remembers (count.leaves builder session).1 := (keeps_count builder session hreached).1
  refine ⟨hremembers, fun later other hlater hother => ?_⟩
  obtain ⟨asked, hasked⟩ : ∃ asked, (count.leaves builder session).1 = asked := ⟨_, rfl⟩
  rw [hasked] at hremembers ⊢
  constructor
  · intro text text' htext htext'
    rw [run_sql] at htext htext'
    obtain ⟨_, -, -, hok⟩ := asked.yields_statementText asked.operations later
    obtain ⟨_, -, -, hok'⟩ := builder.yields_statementText builder.operations other
    have hsame := (hok text htext).2 hlater
    rw [hremembers.operations, hremembers.base, (hok' text' htext').2 hother] at hsame
    exact (Except.ok.inj hsame).symm
  · intro hloads hloads'
    rw [← hremembers.loader] at hloads
    rw [← hremembers.operations] at hloads
    rw [sql_of_loads hlater hloads, sql_of_loads hother hloads', Builder.plan, Builder.plan,
      hremembers.operations, hremembers.base]

/-- Limits, offsets, orders and selections make no difference to a count, however many there are and wherever
they stand: it makes the same calls, leaves the same session and gives the same number. It sends one
statement, around the statement that the builder has without these operations, which keeps all filters and
joins and the last grouping. Whatever comes of it, the builder keeps its own statement. The number is the
one in the column `count` of the first row, and zero without rows. -/
theorem count_ignores_shaping :
    (∀ (builder : Builder) (longer : List Operation), Interspersed builder.operations longer →
      ∀ session : Session σ, ∃ outcome table after,
        (count.run.run builder).run session = ((outcome, { builder with table }), after) ∧
          (count.run.run { builder with operations := longer }).run session =
            ((outcome, { builder with operations := longer, table }), after)) ∧
    (∀ (builder : Builder) (session : Session σ), ∃ outcome table made,
      (sql.run.run { builder with operations := unshaped builder.operations }).run session =
        ((outcome, { builder with operations := unshaped builder.operations, table }), made) ∧
      (∀ fault, outcome = .error fault →
        (count.run.run builder).run session = ((.error fault, { builder with table }), made)) ∧
      ∀ text, outcome = .ok text → ∃ answer after,
        (Action.query ("SELECT COUNT(*) AS count FROM (" ++ text ++ ")")).run.run made = (answer, after) ∧
          after.engine.calls =
            made.engine.calls ++ [.query ("SELECT COUNT(*) AS count FROM (" ++ text ++ ")")] ∧
          (count.run.run builder).run session = ((answer >>= countOf, { builder with table }), after)) ∧
    (∀ operations : List Operation, Plan.ofOperations (unshaped operations) =
      { filters := allPredicates operations
        orders := []
        joins := allJoins operations
        grouping := latest? grouping? operations
        selection := none
        limit := none
        offset := none }) ∧
    (∀ (builder : Builder) (session : Session σ), session.Reached →
      (count.leaves builder session).1.operations = builder.operations ∧
      (count.leaves builder session).2.Reached ∧
      ∀ later other : Session σ, later.Reached → other.Reached →
        (∀ text text', ((sql.run.run (count.leaves builder session).1).run later).1.1 = .ok text →
          ((sql.run.run builder).run other).1.1 = .ok text' → text = text') ∧
        (Action.LoadsEach builder.loader
            ((count.leaves builder session).1.needed builder.operations) later →
          Action.LoadsEach builder.loader (builder.needed builder.operations) other →
          ((sql.run.run (count.leaves builder session).1).run later).1.1 =
            ((sql.run.run builder).run other).1.1)) ∧
    countOf [] = .ok 0 ∧
    ∀ (row : Row) (rows : List Row) (n : Int), row.lookup "count" = some (.integer n) →
      countOf (row :: rows) = .ok n := by
  refine ⟨fun _ _ => count_of_interspersed, count_of_sql, Plan.ofOperations_unshaped, ?_, rfl, ?_⟩
  · intro builder session hreached
    obtain ⟨hremembers, hsame⟩ := sql_after_count builder hreached
    exact ⟨hremembers.operations, (keeps_count builder session hreached).2, hsame⟩
  · intro row rows n hn
    rw [countOf, hn]
    rfl

/-- The sales of some regions, joined to the regions and grouped by them. -/
def groupedBranch : Builder where
  dataset := Desk.tradeDataset
  loader := 0
  operations :=
    [.filter [⟨"value", .compare .gt, .integer 100, none⟩],
      .join ⟨Desk.regionDataset, .text "region", .text "id", .left⟩, .group ⟨[.text "region"], none⟩]
  table := .null

/-- The same operations with others in between that only shape the rows. -/
def shapedOperations : List Operation :=
  [.limit (.integer 5), .filter [⟨"value", .compare .gt, .integer 100, none⟩], .select [.text "id"],
    .join ⟨Desk.regionDataset, .text "region", .text "id", .left⟩, .sort [⟨"value", .descending⟩],
    .group ⟨[.text "region"], none⟩, .offset (.integer 2), .limit .null]

theorem interspersed_shapedOperations : Interspersed groupedBranch.operations shapedOperations :=
  .insert (by decide) <| .keep _ <| .insert (by decide) <| .keep _ <| .insert (by decide) <| .keep _ <|
    .insert (by decide) <| .insert (by decide) .nil

theorem count_ignores_shaping_groupedBranch :
    Interspersed groupedBranch.operations shapedOperations ∧
      ((count.run.run groupedBranch).run Desk.tradeSession).1.1 = .ok 0 ∧
      ((count.run.run { groupedBranch with operations := shapedOperations }).run Desk.tradeSession).1.1 = .ok 0 ∧
      ((count.run.run { groupedBranch with operations := shapedOperations }).run Desk.tradeSession).2 =
        ((count.run.run groupedBranch).run Desk.tradeSession).2 := by
  obtain ⟨hsame, -⟩ := @count_ignores_shaping MemoryStore _
  obtain ⟨outcome, table, after, hcount, hlonger⟩ := hsame _ _ interspersed_shapedOperations Desk.tradeSession
  have hnumber : ((count.run.run groupedBranch).run Desk.tradeSession).1.1 = .ok 0 := by decide +kernel
  refine ⟨interspersed_shapedOperations, hnumber, ?_, ?_⟩
  · rw [hlonger]
    rwa [hcount] at hnumber
  · rw [hlonger, hcount]

end BuilderAction
end Insights
