import Insights.Proofs.Pipeline.Enclosing
import Insights.Proofs.Session.Statement
import Insights.Session.Builder
import Insights.Store.Basic

/-!
The statement of a builder. It depends on the operations through their plan alone, and it is made after
the table of the dataset is found: known to the builder, or loaded and remembered. Its text follows the
template of the operations, and stays within the brackets that are put around it.
-/

namespace Insights

open Session

variable {σ α β : Type}

namespace BuilderAction

/-! ### Actions of a session within a builder -/

theorem run_bind (action : BuilderAction σ α) (next : α → BuilderAction σ β) (builder : Builder)
    (session : Session σ) :
    ((action >>= next).run.run builder).run session =
      match (action.run.run builder).run session with
      | ((.ok a, builder), session) => ((next a).run.run builder).run session
      | ((.error fault, builder), session) => ((.error fault, builder), session) := by
  rw [ExceptT.run_bind, StateT.run_bind, StateT.run_bind]
  rcases hrun : (action.run.run builder).run session with ⟨⟨result, remembered⟩, after⟩
  cases result with
  | error fault => rfl
  | ok a => rfl

/-- Actions that follow one another succeed together only if each of them does. -/
theorem run_bind_ok {action : BuilderAction σ α} {next : α → BuilderAction σ β} {builder kept : Builder}
    {session after : Session σ} {b : β}
    (h : ((action >>= next).run.run builder).run session = ((.ok b, kept), after)) :
    ∃ a remembered middle, (action.run.run builder).run session = ((.ok a, remembered), middle) ∧
      ((next a).run.run remembered).run middle = ((.ok b, kept), after) := by
  rw [run_bind] at h
  rcases hrun : (action.run.run builder).run session with ⟨⟨result, remembered⟩, middle⟩
  rw [hrun] at h
  cases result with
  | error fault => cases h
  | ok a => exact ⟨a, remembered, middle, rfl, h⟩

theorem run_get (builder : Builder) (session : Session σ) :
    ((get : BuilderAction σ Builder).run.run builder).run session = ((.ok builder, builder), session) :=
  rfl

theorem run_ofAction (action : Action σ α) (builder : Builder) (session : Session σ) :
    ((ofAction action).run.run builder).run session =
      (((action.run.run session).1, builder), (action.run.run session).2) :=
  rfl

theorem run_ofAction_ok {action : Action σ α} {builder kept : Builder} {session after : Session σ} {a : α}
    (h : ((ofAction action).run.run builder).run session = ((.ok a, kept), after)) :
    action.run.run session = (.ok a, after) := by
  rw [run_ofAction] at h
  obtain ⟨hresult, hafter⟩ := Prod.mk.inj h
  exact Prod.ext (Prod.mk.inj hresult).1 hafter

theorem ofAction_bind (action : Action σ α) (next : α → Action σ β) :
    ofAction (action >>= next) = ofAction action >>= fun a => ofAction (next a) := by
  funext builder session
  simp only [ofAction, bind, ExceptT.bind, ExceptT.mk, StateT.lift, StateT.bind, ExceptT.run]
  rcases action session with ⟨result, after⟩
  cases result with
  | error fault => rfl
  | ok a => rfl

theorem ofAction_liftM (outcome : Except Fault α) :
    ofAction (liftM outcome : Action σ α) = liftM outcome :=
  rfl

theorem ofAction_pure (a : α) : ofAction (pure a : Action σ α) = pure a :=
  rfl

theorem ofAction_mapM (action : α → Action σ β) (items : List α) :
    ofAction (items.mapM action) = items.mapM fun a => ofAction (action a) := by
  induction items with
  | nil => rfl
  | cons item rest ih =>
    rw [List.mapM_cons, List.mapM_cons, ofAction_bind]
    congr 1
    funext b
    rw [ofAction_bind, ih]
    rfl

/-- A statement may be made in the session alone, for the builder takes no part in it. -/
theorem ofAction_statement (plan : Plan) (base : Value) (load : Dataset → Action σ String) :
    plan.statement base (fun dataset => ofAction (load dataset)) = ofAction (plan.statement base load) := by
  simp only [Plan.statement, Plan.joinClauses, ofAction_bind, ofAction_mapM, ofAction_liftM, ofAction_pure]

end BuilderAction

namespace Builder

/-- The base table of the statements of a builder. -/
def base (builder : Builder) : Value :=
  if builder.table.isEmpty then .text builder.dataset.table else builder.table

/-- The dataset of a builder as far as it has to be asked for. -/
def unloaded (builder : Builder) : List Dataset :=
  if builder.table.isEmpty then [builder.dataset] else []

/-- All datasets that a statement of some operations asks for, in order. -/
def needed (builder : Builder) (operations : List Operation) : List Dataset :=
  builder.unloaded ++ (Operation.allJoins operations).map (·.right)

/-- The builder after further operations were asked for one after the other. -/
def chain (builder : Builder) (operations : List Operation) : Builder :=
  operations.foldl add builder

theorem chain_eq (builder : Builder) (operations : List Operation) :
    builder.chain operations = { builder with operations := builder.operations ++ operations } := by
  induction operations generalizing builder with
  | nil => simp [chain]
  | cons operation rest ih =>
    refine (ih (builder.add operation)).trans ?_
    simp [add]

/-- The builder after its table was looked for. -/
def remember (builder : Builder) : Except Fault Value → Builder
  | .ok table => { builder with table }
  | .error _ => builder

variable [ByteStore σ]

/-- Finds the table of the dataset. -/
def findTable (builder : Builder) : Action σ Value :=
  if builder.table.isEmpty then do
    return .text (← Action.ensureLoaded builder.loader builder.dataset)
  else return builder.table

/-- The text of the statement of some operations, made in the session alone. -/
def statementText (builder : Builder) (operations : List Operation) : Action σ String := do
  let table ← builder.findTable
  let statement ← (Plan.ofOperations operations).statement table (Action.ensureLoaded builder.loader)
  return statement.render

end Builder

namespace BuilderAction

variable [ByteStore σ]

theorem run_ensureLoaded (builder : Builder) (session : Session σ) :
    (ensureLoaded.run.run builder).run session =
      (((builder.findTable.run.run session).1, builder.remember (builder.findTable.run.run session).1),
        (builder.findTable.run.run session).2) := by
  unfold ensureLoaded Builder.findTable
  rw [run_bind, run_get]
  dsimp only
  split
  · rw [run_bind, run_ofAction, Action.run_bind]
    rcases (Action.ensureLoaded builder.loader builder.dataset).run.run session with ⟨result, after⟩
    cases result with
    | error fault => rfl
    | ok table => rfl
  · rfl

/-- The text of the statement over a table that was found. -/
theorem run_rendered (plan : Plan) (table : Value) (loader : Nat) (builder : Builder) (session : Session σ) :
    ((do
        let statement ← plan.statement table fun dataset => ofAction (Action.ensureLoaded loader dataset)
        return statement.render : BuilderAction σ String).run.run builder).run session =
      (let made := (do
        let statement ← plan.statement table (Action.ensureLoaded loader)
        return statement.render : Action σ String).run.run session
      ((made.1, builder), made.2)) := by
  have hmade : (do
        let statement ← plan.statement table fun dataset => ofAction (Action.ensureLoaded loader dataset)
        return statement.render : BuilderAction σ String) = ofAction (do
        let statement ← plan.statement table (Action.ensureLoaded loader)
        return statement.render) := by
    rw [ofAction_statement, ofAction_bind]
    rfl
  rw [hmade, run_ofAction]

theorem run_sqlOf (operations : List Operation) (builder : Builder) (session : Session σ) :
    ((sqlOf operations).run.run builder).run session =
      ((((builder.statementText operations).run.run session).1,
          builder.remember (builder.findTable.run.run session).1),
        ((builder.statementText operations).run.run session).2) := by
  unfold sqlOf Builder.statementText
  rw [run_bind, run_ensureLoaded, Action.run_bind]
  rcases builder.findTable.run.run session with ⟨result, after⟩
  cases result with
  | error fault => rfl
  | ok table =>
    dsimp only
    rw [run_bind, run_get]
    dsimp only
    rw [run_rendered]
    rfl

end BuilderAction

namespace Builder

open Operation Insights.Action

variable [ByteStore σ]

/-- Whatever tracks the datasets that an action asks for tracks those of a builder and of its joins. -/
theorem tracks_statementText {P : ∀ {α : Type}, List Dataset → Except Fault α → Action σ α → Prop}
    (builder : Builder) (h : Tracks builder.loader P) (operations : List Operation) :
    P builder.unloaded (.ok builder.base) (builder.findTable : Action σ Value) ∧
      P (builder.needed operations)
        ((Plan.ofOperations operations).statement builder.base Dataset.loaded >>= fun statement =>
          pure statement.render)
        (builder.statementText operations : Action σ String) := by
  have htable : P builder.unloaded (.ok builder.base) (builder.findTable : Action σ Value) := by
    unfold unloaded base findTable
    split
    · exact h.bind (h.loaded builder.dataset) fun table => h.done (Value.text table)
    · exact h.done builder.table
  have hjoins : (Plan.ofOperations operations).joins = allJoins operations := by
    rw [Plan.ofOperations_eq]
  have hrendered : ∀ table, P ((allJoins operations).map (·.right) ++ [])
      ((Plan.ofOperations operations).statement table Dataset.loaded >>= fun statement =>
        pure statement.render)
      ((Plan.ofOperations operations).statement table (ensureLoaded builder.loader) >>= fun statement =>
        pure statement.render : Action σ String) := by
    intro table
    rw [← hjoins]
    exact h.bind (h.statement (Plan.ofOperations operations) table) fun statement =>
      h.done statement.render
  have hall := h.bind htable hrendered
  rw [List.append_nil] at hall
  exact ⟨htable, hall⟩

theorem yields_findTable (builder : Builder) :
    Yields builder.loader builder.unloaded (.ok builder.base) (builder.findTable : Action σ Value) :=
  (builder.tracks_statementText (tracks_yields builder.loader) []).1

theorem yields_statementText (builder : Builder) (operations : List Operation) :
    Yields builder.loader (builder.needed operations)
      ((Plan.ofOperations operations).statement builder.base Dataset.loaded >>= fun statement =>
        pure statement.render)
      (builder.statementText operations : Action σ String) :=
  (builder.tracks_statementText (tracks_yields builder.loader) operations).2

theorem relies_statementText (builder : Builder) (operations : List Operation) :
    Relies builder.loader (builder.needed operations)
      ((Plan.ofOperations operations).statement builder.base Dataset.loaded >>= fun statement =>
        pure statement.render)
      (builder.statementText operations : Action σ String) :=
  (builder.tracks_statementText (tracks_relies builder.loader) operations).2

/-- The name of the base table. A value that is no text names none, and no statement has it. -/
def baseName (builder : Builder) : String :=
  match builder.base.native with
  | .text name => name
  | _ => ""

/-- The template of the statement of a builder. -/
def tokens (builder : Builder) : List Sql.Token :=
  Pipeline.tokens builder.baseName builder.operations

end Builder

namespace BuilderAction

open Operation

variable [ByteStore σ]

theorem run_sql (builder : Builder) (session : Session σ) :
    (sql.run.run builder).run session =
      ((((builder.statementText builder.operations).run.run session).1,
          builder.remember (builder.findTable.run.run session).1),
        ((builder.statementText builder.operations).run.run session).2) := by
  unfold sql
  rw [run_bind, run_get]
  exact run_sqlOf builder.operations builder session

/-- When the datasets of a builder and of its joins load, its statement is the one over tables that bear
their names, whatever else is in the session. -/
theorem sql_of_loads {builder : Builder} {session : Session σ} (hreached : session.Reached)
    (hloads : Action.LoadsEach builder.loader (builder.needed builder.operations) session) :
    ((sql.run.run builder).run session).1.1 =
      (builder.plan.statement builder.base Dataset.loaded).map Sql.Statement.render := by
  rw [run_sql]
  exact (builder.relies_statementText builder.operations session hreached hloads).1

/-- A statement that was made is the one over tables that bear the names of their datasets. -/
theorem statement_of_sql {builder : Builder} {session : Session σ} {text : String}
    (hreached : session.Reached) (h : ((sql.run.run builder).run session).1.1 = .ok text) :
    ∃ s, builder.plan.statement builder.base Dataset.loaded = .ok s ∧ s.render = text := by
  rw [run_sql] at h
  obtain ⟨asked, -, -, hok⟩ := builder.yields_statementText builder.operations session
  obtain ⟨-, houtcome⟩ := hok text h
  obtain ⟨s, hs, hrendered⟩ := bind_eq_ok.mp (houtcome hreached)
  exact ⟨s, hs, pure_eq_ok.mp hrendered⟩

/-- Of the operations of a builder only their plan matters. Two lists of operations with the same
predicates and joins in order and with the same last operation of each other kind have one plan, and with
them a builder gives one outcome, finds one table and leaves one session. It asks for the dataset of the
builder and for the joined ones, in this order and no further than it comes. In particular operations of
different kinds may be mixed in any way, a filter without predicates may stand anywhere, and a plan has
its grouping from the last operation that groups. -/
theorem sql_of_alike :
    (∀ first second : List Operation, Alike first second →
      Plan.ofOperations first = Plan.ofOperations second ∧
      ∀ (builder : Builder) (session : Session σ), ∃ outcome table after asked,
        (sql.run.run { builder with operations := first }).run session =
          ((outcome, { builder with operations := first, table }), after) ∧
        (sql.run.run { builder with operations := second }).run session =
          ((outcome, { builder with operations := second, table }), after) ∧
        Advances builder.loader asked session after ∧ asked <+: builder.needed first ∧
        ∀ text, outcome = .ok text → asked = builder.needed first) ∧
    (∀ first second : List Operation,
      (∀ seen : Kind, first.filter (·.kind = seen) = second.filter (·.kind = seen)) → Alike first second) ∧
    (∀ (before after : List Operation) (first second : Operation), first.kind ≠ second.kind →
      Alike (before ++ first :: second :: after) (before ++ second :: first :: after)) ∧
    (∀ before after : List Operation, Alike (before ++ .filter [] :: after) (before ++ after)) ∧
    (∀ (operations : List Operation) (grouping : Grouping),
      (Plan.ofOperations operations).grouping = some grouping →
        ∃ earlier later, operations = earlier ++ .group grouping :: later ∧
          ∀ operation ∈ later, operation.kind ≠ .group) := by
  refine ⟨?_, fun _ _ => alike_of_kinds, fun before after _ _ => alike_swap before after,
    alike_insert_empty, fun _ _ => Plan.grouping_ofOperations⟩
  intro first second halike
  have hplan := Plan.ofOperations_congr halike
  refine ⟨hplan, ?_⟩
  intro builder session
  have htext : builder.statementText second = (builder.statementText first : Action σ String) := by
    rw [Builder.statementText, Builder.statementText, hplan]
  obtain ⟨asked, hprefix, hadvances, hok⟩ := builder.yields_statementText first session
  have hremember : ∀ operations, ({ builder with operations } : Builder).remember
      (builder.findTable.run.run session).1 =
        { builder with operations, table := (builder.remember (builder.findTable.run.run session).1).table } := by
    intro operations
    cases (builder.findTable.run.run session).1 <;> rfl
  refine ⟨((builder.statementText first).run.run session).1,
    (builder.remember (builder.findTable.run.run session).1).table,
    ((builder.statementText first).run.run session).2, asked, ?_, ?_, hadvances, hprefix, ?_⟩
  · rw [run_sql, ← hremember]
    rfl
  · rw [run_sql, ← hremember, ← htext]
    rfl
  · intro text htext
    exact (hok text htext).1

/-- A dataset whose id is full of quotes. -/
def quotedDataset : Dataset :=
  ⟨"a\"; DROP TABLE x; --", ⟨.local, "k"⟩, [], none, 0⟩

def joinedDataset : Dataset :=
  ⟨"b-c", ⟨.local, "l"⟩, [], none, 0⟩

/-- Both datasets turn out to have tables already. -/
def bothLoaded : List Event :=
  [.ensure quotedDataset, .start 0, .reply 0 (.probed (.ok true)), .retire 0,
    .ensure joinedDataset, .start 1, .reply 1 (.probed (.ok true)), .retire 1]

def loadedSession : Session MemoryStore :=
  { Session.start .empty with loaders := fun _ => Loader.reached bothLoaded }

def comparison : Predicate :=
  ⟨"a\"b", .compare .eq, .text "it's) OR (1=1", none⟩

def exclusion : Predicate :=
  ⟨"d", .member true, .null, some [.integer (-1), .text "', '"]⟩

def totals : Grouping :=
  ⟨[.text "g WHERE"], some [⟨"v", .sum, some "n) FROM \""⟩]⟩

def quotedJoin : DatasetJoin :=
  ⟨joinedDataset, .text "id\"", .text "id", .left⟩

/-- A builder whose names and values are full of quotes, brackets and words that begin clauses, and whose
later limit and selection replace earlier ones. -/
def hostileBuilder : Builder where
  dataset := quotedDataset
  loader := 0
  operations :=
    [.limit (.integer 5), .filter [comparison], .group totals, .select [.text "x"], .join quotedJoin,
      .filter [exclusion], .select [], .limit (.integer 0)]
  table := .null

/-- What is left of the operations of that builder. -/
def tidyOperations : List Operation :=
  [.join quotedJoin, .filter [comparison, exclusion], .filter [], .group totals, .select [],
    .limit (.integer 0)]

theorem sql_of_alike_tidyOperations :
    Alike hostileBuilder.operations tidyOperations ∧
      Plan.ofOperations hostileBuilder.operations = Plan.ofOperations tidyOperations ∧
      ((sql.run.run hostileBuilder).run loadedSession).1.1 =
        ((sql.run.run { hostileBuilder with operations := tidyOperations }).run loadedSession).1.1 ∧
      hostileBuilder.needed tidyOperations = [quotedDataset, joinedDataset] := by
  have halike : Alike hostileBuilder.operations tidyOperations := ⟨rfl, rfl, rfl, rfl, rfl, rfl, rfl⟩
  obtain ⟨hall, -⟩ := @sql_of_alike MemoryStore _
  obtain ⟨hplan, hsame⟩ := hall _ _ halike
  obtain ⟨outcome, table, after, asked, hfirst, hsecond, -⟩ := hsame hostileBuilder loadedSession
  have hunchanged : { hostileBuilder with operations := hostileBuilder.operations } = hostileBuilder := rfl
  rw [hunchanged] at hfirst
  exact ⟨halike, hplan, by rw [hfirst, hsecond], rfl⟩

/-- How the text of a statement follows from the operations of a builder. It is read as the template
exactly when the numbers in it have the texts of numbers, and then it is read so between the brackets that
are put around it. Whatever the numbers are, brackets are closed and the clauses are those asked for. -/
structure FollowsOperations (builder : Builder) (text : String) : Prop where
  template : Sql.lex text.toList = some builder.tokens ↔ Pipeline.IsSpelt builder.operations
  closed : Sql.Closed builder.tokens
  filters : .word "WHERE" ∈ builder.tokens ↔ allPredicates builder.operations ≠ []
  groups : .word "GROUP" ∈ builder.tokens ↔ Pipeline.groups builder.operations ≠ []
  orders : .word "ORDER" ∈ builder.tokens ↔ Pipeline.ordered builder.operations ≠ []
  limit : .word "LIMIT" ∈ builder.tokens ↔ ∃ count, .limit count ∈ builder.operations
  offset : .word "OFFSET" ∈ builder.tokens ↔ ∃ count, .offset count ∈ builder.operations
  counted : Pipeline.IsSpelt builder.operations →
    Sql.lex (countStatement text).toList = some (countingTokens builder.tokens)
  countedClosed : Sql.Closed (countingTokens builder.tokens)
  tagged : Pipeline.IsSpelt builder.operations → ∀ position,
    Sql.lex (Batch.tagged (.text text) position).toList = some (taggingTokens position builder.tokens)
  taggedClosed : ∀ position, Sql.Closed (taggingTokens position builder.tokens)

theorem followsOperations_render {builder : Builder} {name : String} {s : Sql.Statement}
    (hbase : builder.base.native = .text name) (hfollows : Plan.Follows name builder.operations s) :
    FollowsOperations builder s.render := by
  have htokens : s.tokens = builder.tokens := by
    simp only [hfollows.tokens, Builder.tokens, Builder.baseName, hbase]
  have hlexes : Pipeline.IsSpelt builder.operations → Sql.Lexes Sql.isBreak s.render builder.tokens :=
    fun hspelt => htokens ▸ Sql.Statement.lexes (hfollows.wellSpelt.mpr hspelt)
  have hclosed : Sql.Closed builder.tokens := htokens ▸ Sql.Statement.closed hfollows.aliased
  have hmem : ∀ word ∈ Sql.clauseWords, (.word word ∈ builder.tokens ↔ _) := fun word hword =>
    htokens ▸ Sql.Statement.mem_tokens hfollows.aliased hword
  constructor
  · rw [← htokens, Sql.Statement.lex_eq_iff hfollows.aliased]
    exact hfollows.wellSpelt
  · exact hclosed
  · rw [hmem "WHERE" (by decide)]
    simp [hfollows.conditions]
  · rw [hmem "GROUP" (by decide)]
    simp [hfollows.groups]
  · rw [hmem "ORDER" (by decide)]
    simp [hfollows.orderings]
  · rw [hmem "LIMIT" (by decide), ← latest?_ne_none limit?_eq_some]
    simp [hfollows.limit]
  · rw [hmem "OFFSET" (by decide), ← latest?_ne_none offset?_eq_some]
    simp [hfollows.offset]
  · exact fun hspelt => (lexes_countStatement (hlexes hspelt)).lex_eq
  · exact closed_countingTokens hclosed
  · exact fun hspelt position => (lexes_tagged position (hlexes hspelt)).lex_eq
  · exact fun position => closed_taggingTokens position hclosed

/-- The text of a builder's statement follows from its operations, in whatever order they were asked for and
whatever their names and values contain. The session may go on to make further statements. -/
theorem sql_follows_operations (builder : Builder) (session : Session σ) (text : String)
    (hreached : session.Reached) (hlimit : Pipeline.CountsWhole limit? builder.operations)
    (hoffset : Pipeline.CountsWhole offset? builder.operations)
    (h : ((sql.run.run builder).run session).1.1 = .ok text) :
    FollowsOperations builder text ∧ ((sql.run.run builder).run session).2.Reached := by
  rw [run_sql] at h ⊢
  obtain ⟨asked, -, hadvances, hok⟩ := builder.yields_statementText builder.operations session
  obtain ⟨-, houtcome⟩ := hok text h
  obtain ⟨s, hs, hrendered⟩ := bind_eq_ok.mp (houtcome hreached)
  obtain rfl : s.render = text := pure_eq_ok.mp hrendered
  obtain ⟨name, hbase, hfollows⟩ := Plan.statement_ok hlimit hoffset hs
  exact ⟨followsOperations_render hbase hfollows, hreached.advance hadvances⟩

theorem sql_follows_operations_hostileBuilder :
    loadedSession.Reached ∧ Pipeline.CountsWhole limit? hostileBuilder.operations ∧
      Pipeline.CountsWhole offset? hostileBuilder.operations ∧
      ∃ text, ((sql.run.run hostileBuilder).run loadedSession).1.1 = .ok text ∧
        Sql.lex text.toList = some hostileBuilder.tokens ∧ .word "LIMIT" ∈ hostileBuilder.tokens ∧
        .word "OFFSET" ∉ hostileBuilder.tokens ∧
        Sql.lex (countStatement text).toList = some (countingTokens hostileBuilder.tokens) := by
  have hreached : loadedSession.Reached := fun _ => ⟨bothLoaded, rfl⟩
  have hlimit : Pipeline.CountsWhole limit? hostileBuilder.operations := by
    intro count hcount
    obtain rfl : Value.integer 0 = count := Option.some.inj hcount
    rfl
  have hoffset : Pipeline.CountsWhole offset? hostileBuilder.operations := by
    intro count hcount
    cases hcount
  have hspelt : Pipeline.IsSpelt hostileBuilder.operations := by
    refine ⟨?_, ?_, ?_⟩
    · intro predicate hpredicate value hvalue
      obtain rfl | rfl : predicate = comparison ∨ predicate = exclusion := by
        simpa [hostileBuilder, allPredicates, predicates?] using hpredicate
      · obtain rfl : value = .text "it's) OR (1=1" := by
          simpa [comparison, Predicate.operands] using hvalue
        exact Value.isSpelt_of_not_isNumber rfl
      · obtain rfl | rfl : value = .integer (-1) ∨ value = .text "', '" := by
          simpa [exclusion, Predicate.operands] using hvalue
        · exact Value.isSpelt_integer (-1)
        · exact Value.isSpelt_of_not_isNumber rfl
    · intro count hcount
      obtain rfl : Value.integer 0 = count := Option.some.inj hcount
      exact Value.isSpelt_integer 0 rfl
    · intro count hcount
      cases hcount
  have hsome : ((sql.run.run hostileBuilder).run loadedSession).1.1.toOption.isSome = true := by
    decide +kernel
  cases hsql : ((sql.run.run hostileBuilder).run loadedSession).1.1 with
  | error fault => simp [hsql, Except.toOption] at hsome
  | ok text =>
    obtain ⟨hfollows, -⟩ :=
      sql_follows_operations hostileBuilder loadedSession text hreached hlimit hoffset hsql
    refine ⟨hreached, hlimit, hoffset, text, rfl, hfollows.template.mpr hspelt,
      hfollows.limit.mpr ⟨.integer 0, ?_⟩, ?_, hfollows.counted hspelt⟩
    · simp [hostileBuilder]
    · rw [hfollows.offset]
      rintro ⟨count, hcount⟩
      simp [hostileBuilder] at hcount

/-- A builder that asks for rows of one kind, with a number of rows that may be of any class. -/
def countedBuilder (value count : Value) : Builder where
  dataset := quotedDataset
  loader := 0
  operations := [.filter [⟨"priority", .compare .eq, value, none⟩], .limit count]
  table := .text "t"

/-- A flag is an integer, and so is a member of an enumeration of integers, but neither is written as one:
the limit is the word of the flag, and the value is a name in two parts. -/
theorem flag_is_written_as_word :
    Value.isWhole (.boolean true) = true ∧ Value.namedThree.isWhole = true ∧
      ∃ flagged named, Sql.lex flagged.toList ≠ some (countedBuilder (.integer 3) (.boolean true)).tokens ∧
        Sql.lex named.toList ≠ some (countedBuilder .namedThree (.integer 1)).tokens ∧
        ((sql.run.run (countedBuilder (.integer 3) (.boolean true))).run loadedSession).1.1 = .ok flagged ∧
        ((sql.run.run (countedBuilder .namedThree (.integer 1))).run loadedSession).1.1 = .ok named := by
  let flagged := "SELECT * FROM \"t\" WHERE \"priority\" = 3 LIMIT True"
  let named := "SELECT * FROM \"t\" WHERE \"priority\" = Priority.HIGH LIMIT 1"
  refine ⟨rfl, rfl, flagged, named, ?_, ?_, ?_, ?_⟩
  · decide +kernel
  · decide +kernel
  · decide +kernel
  · decide +kernel

end BuilderAction
end Insights
