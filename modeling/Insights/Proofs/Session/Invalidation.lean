import Insights.Proofs.Session.Branches
import Insights.Proofs.Session.Execution
import Insights.Proofs.Session.Reprobing

/-!
What an invalidation comes to. Once a table was taken off the loaded ones while no load of it was under way,
whoever asks for it next has it probed: by loading its dataset, by running an insight, or by asking a builder
that still has to find it or joins it. A builder that remembers the table does not ask for it any more,
and sends its statement without a probe.
-/

namespace Insights

namespace Loader

variable {past events early late : List Event} {table : String} {dataset : Dataset} {name : String}

/-- The table was taken off the loaded ones while no load of it was under way, and nobody has asked for it
since. -/
def Invalidated (table : String) (loader : Loader) : Prop :=
  ∃ past invalidation between, Forgets table invalidation ∧ (reached past).inflight.lookup table = none ∧
    (∀ dataset, .ensure dataset ∈ between → dataset.table ≠ table) ∧
    loader = reached (past ++ invalidation :: between)

theorem Invalidated.idle {loader : Loader} (h : Invalidated table loader) :
    ∃ past, loader = reached past ∧ Idle table (reached past) := by
  obtain ⟨past, invalidation, between, hforgets, hinflight, hunasked, rfl⟩ := h
  refine ⟨past ++ invalidation :: between, rfl, ?_⟩
  rw [List.append_cons]
  exact (idle_of_forgets hforgets hinflight).along hunasked

/-- A load of the table that was begun between the two has asked whether the table exists. -/
def ProbedSince (table : String) (before after : Loader) : Prop :=
  ∃ position load, before.loads.length ≤ position ∧ after.loads[position]? = some load ∧
    load.table = table ∧ .probe table ∈ load.asked

theorem probedSince_of_settled (h : Settled (reached past).loads.length table (reached events)) :
    ProbedSince table (reached past) (reached events) := by
  obtain ⟨position, load, hnew, hload, rfl, hended⟩ := h
  refine ⟨position, load, hnew, hload, rfl, ?_⟩
  apply probe_mem_asked events load (List.mem_of_getElem? hload)
  intro hbegun
  simp [Load.outcome?, hbegun] at hended

theorem length_callers_le (loader : Loader) (events : List Event) :
    loader.callers.length ≤ (loader.run events).callers.length := by
  induction events generalizing loader with
  | nil => exact Nat.le_refl _
  | cons event rest ih =>
    refine Nat.le_trans ?_ (ih (loader.step event))
    by_contra hless
    -- the caller that would be the first one to be lost is still there
    have hlt := Nat.lt_of_not_le hless
    have hkept := callers_step (List.getElem?_eq_getElem hlt) event
    exact Nat.lt_irrefl _ (List.getElem?_eq_some_iff.mp hkept).1

/-- Nobody who asks for an idle table is told its name before it was probed. -/
theorem probedSince_of_answered (hidle : Idle dataset.table (reached past))
    (h : (reached (past ++ (early ++ .ensure dataset :: late))).callers[
      (reached (past ++ early)).callers.length]? = some (.answered (.ok name))) :
    ProbedSince dataset.table (reached past) (reached (past ++ (early ++ .ensure dataset :: late))) := by
  have hnew : (reached past).callers.length ≤ (reached (past ++ early)).callers.length := by
    rw [← run_reached]
    exact length_callers_le _ early
  have hasked : Occurred (AsksAs (reached (past ++ early)).callers.length dataset)
      (past ++ (early ++ .ensure dataset :: late)) :=
    ⟨past ++ early, .ensure dataset, late, (List.append_assoc ..).symm, ⟨rfl, rfl⟩, by simp⟩
  exact probedSince_of_settled (settled_of_answered hidle hnew hasked h).2

/-- Each of several datasets that are asked for in turn has a caller of its own. -/
theorem asked_awaited (past : List Event) (datasets : List Dataset) :
    List.Forall₂ (fun one dataset => ∃ early late, datasets.map .ensure = early ++ .ensure dataset :: late ∧
        one.caller = (reached (past ++ early)).callers.length)
      ((reached past).awaited datasets) datasets := by
  induction datasets generalizing past with
  | nil => exact .nil
  | cons dataset rest ih =>
    have hnext : (reached past).ensure dataset = reached (past ++ [.ensure dataset]) :=
      (reached_append past (.ensure dataset)).symm
    rw [awaited, hnext]
    refine .cons ⟨[], rest.map .ensure, rfl, by rw [List.append_nil]⟩ ?_
    refine (ih (past ++ [.ensure dataset])).imp ?_
    rintro one other ⟨early, late, hsplit, hcaller⟩
    refine ⟨.ensure dataset :: early, late, ?_, ?_⟩
    · rw [List.map_cons, hsplit, List.cons_append]
    · rw [hcaller, List.append_assoc past, List.singleton_append]

/-- No run sends its statement before each idle table that it needs was probed. -/
theorem probedSince_of_sent {sql : String} {needed : List Dataset} {moves : List Move}
    (hidle : Idle table (reached past))
    (h : (Scene.start sql needed (reached (past ++ early))).sent moves ≠ []) (hneeded : dataset ∈ needed)
    (htable : dataset.table = table) :
    ProbedSince table (reached past) ((Scene.start sql needed (reached (past ++ early))).run moves).loader := by
  subst htable
  have hserved := (Scene.proceeds_run sql needed (past ++ early) moves).orderly.loaded h
  have hloader : ((Scene.start sql needed (reached (past ++ early))).run moves).loader =
      reached (past ++ early ++ needed.map .ensure ++ Move.events moves) := by
    rw [Scene.loader_run, Scene.start, run_reached, run_reached]
  obtain ⟨-, hserved⟩ := List.forall₂_iff_get.mp hserved
  obtain ⟨hlength, hasked⟩ := List.forall₂_iff_get.mp (asked_awaited (past ++ early) needed)
  obtain ⟨position, hlt, rfl⟩ := List.mem_iff_getElem.mp hneeded
  have htold := hserved position (hlength ▸ hlt) hlt
  obtain ⟨sooner, later, hsplit, hcaller⟩ := hasked position (hlength ▸ hlt) hlt
  rw [Awaited.Served, Awaited.IsAt, hcaller, hloader, hsplit] at htold
  rw [hloader, hsplit]
  simp only [List.append_assoc, List.cons_append] at htold ⊢
  rw [← List.append_assoc early] at htold ⊢
  exact probedSince_of_answered hidle htold

end Loader

/-! ### What is sent for a question -/

namespace Question

/-- The operations of the statement that a question makes. -/
def operations (builder : Builder) : Question → List Operation
  | .sql | .rows | .save _ _ => builder.operations
  | .preview settings limit => (builder.previewed settings limit).operations
  | .count => builder.operations.filter fun operation => !operation.isShaping

/-- What the engine is asked with the text of the statement. -/
def calls (text : String) : Question → List EngineCall
  | .sql => []
  | .rows | .preview _ _ => [.query text]
  | .count => [.query (countStatement text)]
  | .save _ _ => [.exportRows text]

/-- What the engine is asked if there is a statement. -/
def sent (question : Question) : Except Fault String → List EngineCall
  | .ok text => question.calls text
  | .error _ => []

/-- The joins of a builder take part in every question. -/
theorem allJoins_operations (question : Question) (builder : Builder) :
    Operation.allJoins (question.operations builder) = Operation.allJoins builder.operations := by
  cases question with
  | sql | rows | save => rfl
  | preview settings limit => simp [operations, Builder.previewed, Builder.add, Operation.allJoins, Operation.join?]
  | count =>
    -- no join is set aside
    rw [operations, Operation.allJoins, Operation.allJoins, List.filterMap_filter]
    congr 1
    funext operation
    cases operation <;> rfl

theorem needed_operations (question : Question) (builder : Builder) :
    builder.needed (question.operations builder) = builder.needed builder.operations := by
  rw [Builder.needed, Builder.needed, allJoins_operations]

end Question

namespace BuilderAction

variable {σ α β : Type}

/-- What comes of the answer of the engine does not reach the engine again. -/
theorem calls_bind_still {action : Action σ α} {next : α → BuilderAction σ β}
    (hnext : ∀ a builder (session : Session σ),
      ((next a).leaves builder session).2.engine.calls = session.engine.calls)
    (builder : Builder) (session : Session σ) :
    ((ofAction action >>= next).leaves builder session).2.engine.calls =
      (action.run.run session).2.engine.calls := by
  rw [leaves, run_bind, run_ofAction]
  rcases action.run.run session with ⟨result, after⟩
  cases result with
  | error fault => rfl
  | ok a => exact hnext a builder after

/-- What is asked with a text is asked after all that making the text asks for. -/
theorem calls_bind_text (question : Question) {action : BuilderAction σ String}
    {next : String → BuilderAction σ β} {builder kept : Builder} {session after : Session σ}
    {outcome : Except Fault String} (hmade : (action.run.run builder).run session = ((outcome, kept), after))
    (hnext : ∀ text builder (session : Session σ),
      ((next text).leaves builder session).2.engine.calls = session.engine.calls ++ question.calls text) :
    ((action >>= next).leaves builder session).2.engine.calls =
      after.engine.calls ++ question.sent outcome := by
  rw [leaves, run_bind, hmade]
  cases outcome with
  | error fault => exact (List.append_nil _).symm
  | ok text => exact hnext text kept after

variable [ByteStore σ]

theorem calls_rows (builder : Builder) (session : Session σ) :
    let made := (builder.statementText builder.operations).run.run session
    (rows.leaves builder session).2.engine.calls = made.2.engine.calls ++ Question.rows.sent made.1 :=
  calls_bind_text .rows (run_sql builder session) fun text _ session => Action.calls_query text session

theorem calls_count (builder : Builder) (session : Session σ) :
    let made := (builder.statementText (Question.count.operations builder)).run.run session
    (count.leaves builder session).2.engine.calls = made.2.engine.calls ++ Question.count.sent made.1 := by
  rw [leaves, count, run_bind, run_get]
  refine calls_bind_text .count (run_sqlOf _ builder session) fun text _ session => ?_
  rw [calls_bind_still fun _ _ _ => rfl]
  exact Action.calls_query _ session

theorem calls_save (now : Int) (id : String) (builder : Builder) (session : Session σ) :
    let made := (builder.statementText builder.operations).run.run session
    ((save now id).leaves builder session).2.engine.calls =
      made.2.engine.calls ++ (Question.save now id).sent made.1 := by
  refine calls_bind_text (.save now id) (run_sql builder session) fun text _ session => ?_
  rw [calls_bind_still fun _ _ _ => rfl]
  rfl

end BuilderAction

namespace Question

variable {σ : Type} [ByteStore σ]

/-- A question asks the engine for what its statement needs, and then asks it with the text. -/
theorem calls_leaves (question : Question) (builder : Builder) (session : Session σ) :
    let made := (builder.statementText (question.operations builder)).run.run session
    (question.leaves builder session).2.engine.calls = made.2.engine.calls ++ question.sent made.1 := by
  cases question with
  | sql =>
    intro made
    have hsent : Question.sql.sent made.1 = [] := by
      cases made.1 <;> rfl
    rw [hsent, List.append_nil, leaves, BuilderAction.leaves, BuilderAction.run_sql]
    rfl
  | rows => exact BuilderAction.calls_rows builder session
  | preview settings limit => exact BuilderAction.calls_rows (builder.previewed settings limit) session
  | count => exact BuilderAction.calls_count builder session
  | save now id => exact BuilderAction.calls_save now id builder session

end Question

/-! ### The next one who needs the table -/

namespace Session

open Loader (Idle reached)

variable {σ α β : Type} {session : Session σ} {loader : Nat} {table : String} {past : List Event}

theorem Reached.invalidated {event : Event} (h : session.Reached) (hforgets : Loader.Forgets table event)
    (hinflight : (session.loaders loader).inflight.lookup table = none) :
    ((session.apply loader event).loaders loader).Invalidated table := by
  obtain ⟨past, hpast⟩ := h loader
  refine ⟨past, event, [], hforgets, hpast ▸ hinflight, by simp, ?_⟩
  rw [Loader.reached_append, ← hpast]
  simp [apply]

variable [ByteStore σ]

theorem reprobes_ensureLoaded (hpast : session.loaders loader = reached past) (hidle : Idle table (reached past))
    {dataset : Dataset} (htable : dataset.table = table) :
    Reprobes table [] session ((Action.ensureLoaded loader dataset).run.run session).2 := by
  rw [Action.run_ensureLoaded_askedAll]
  exact (idle_askedAll hpast hidle [dataset]).1 ⟨dataset, List.mem_singleton.mpr rfl, htable⟩

omit [ByteStore σ] in
theorem reprobes_bind {action : Action σ α} {next : α → Action σ β}
    (h : Reprobes table [] session (action.run.run session).2)
    (hnext : ∀ a (session : Session σ), Works (fun _ => False) session ((next a).run.run session).2) :
    Reprobes table [] session ((action >>= next).run.run session).2 := by
  rw [Action.run_bind]
  rcases hrun : action.run.run session with ⟨result, middle⟩
  rw [hrun] at h
  cases result with
  | error fault => exact h
  | ok a => exact h.works (hnext a middle)

/-- A builder that has to find an idle table has it probed, whether there will be a statement or not. -/
theorem reprobes_statementText {builder : Builder} (hpast : session.loaders builder.loader = reached past)
    (hidle : Idle table (reached past)) (hunknown : builder.table.isEmpty = true)
    (htable : builder.dataset.table = table) (operations : List Operation) :
    Reprobes table [] session ((builder.statementText operations).run.run session).2 := by
  have htracks := @Action.tracks_probesAnew σ _ table builder.loader
  refine reprobes_bind ?_ fun found session => ?_
  · rw [Builder.findTable, if_pos hunknown]
    exact reprobes_bind (reprobes_ensureLoaded hpast hidle htable) fun found session => works_self session
  · exact ((htracks.statement (Plan.ofOperations operations) found).bind fun statement =>
      htracks.done statement.render) session |>.1

/-- Whether a run probes an idle table depends on whether it needs the table. -/
theorem idle_execute {object : InsightObject} {datasets : Fields Dataset} {sql : String}
    {needed : List Dataset} (hprepared : object.prepared datasets = .ok (sql, needed))
    (hpast : session.loaders loader = reached past) (hidle : Idle table (reached past)) :
    let after := ((Action.execute loader object datasets).run.run session).2
    ∃ sent, (sent = [] ∨ sent = [.query sql]) ∧
      ((∃ dataset ∈ needed, dataset.table = table) → Reprobes table sent session after) ∧
      ((∀ dataset ∈ needed, dataset.table ≠ table) → Ignores table sent session after) := by
  intro after
  obtain ⟨hprobed, hspared⟩ := idle_askedAll hpast hidle needed
  have hafter : after = _ := congrArg Prod.snd (Action.run_execute hprepared loader rfl)
  have hcalls := hafter ▸ (Action.run_conclude _ (session.askedAll loader needed)).2
  refine ⟨_, ?_, fun hamong => (hprobed hamong).sends hcalls,
    fun hunneeded => (hspared hunneeded).ignores.sends hcalls⟩
  simp only [Execution.start, Execution.look]
  split
  · exact .inr rfl
  · exact .inl rfl
  · exact .inl rfl

end Session

namespace Question

open Session
open Loader (Idle reached)

variable {σ : Type} [ByteStore σ] {session : Session σ} {table : String} {past : List Event}

/-- What a question to a builder has to do with an idle table: the first that the engine hears about it is its
probe if the builder still has to find the table, or if the statement is made and the builder joins it; and the
engine hears nothing about it if the builder does neither. What is asked with the statement comes last. -/
structure AsksAnew (table : String) (session : Session σ) (builder : Builder) (question : Question) :
    Prop where
  found : builder.table.isEmpty = true → builder.dataset.table = table →
    Reprobes table
      (question.sent ((builder.statementText (question.operations builder)).run.run session).1)
      session (question.leaves builder session).2
  joined : ∀ text, ((builder.statementText (question.operations builder)).run.run session).1 = .ok text →
    (∃ dataset ∈ builder.needed builder.operations, dataset.table = table) →
      Reprobes table (question.calls text) session (question.leaves builder session).2
  unneeded : (∀ dataset ∈ builder.needed builder.operations, dataset.table ≠ table) →
    Ignores table
      (question.sent ((builder.statementText (question.operations builder)).run.run session).1)
      session (question.leaves builder session).2

/-- Whether a question has an idle table probed depends on whether the builder still has to find the table
or joins it. -/
theorem asksAnew_of_idle (question : Question) {builder : Builder}
    (hpast : session.loaders builder.loader = reached past) (hidle : Idle table (reached past)) :
    AsksAnew table session builder question := by
  have hcalls := question.calls_leaves builder session
  obtain ⟨-, asked, hfirst, -, hall, hasked⟩ := (builder.tracks_statementText
    (Action.tracks_probesAnew table builder.loader) (question.operations builder)).2 session
  obtain ⟨hprobed, hspared⟩ := hasked past hpast hidle
  rw [question.needed_operations builder] at hfirst hall
  refine ⟨?_, ?_, ?_⟩
  · intro hunknown htable
    exact (reprobes_statementText hpast hidle hunknown htable _).sends hcalls
  · intro text hmade hamong
    obtain rfl := hall text hmade
    refine (hprobed hamong).sends (hcalls.trans ?_)
    rw [hmade]
    rfl
  · intro hunneeded
    exact (hspared fun dataset hdataset => hunneeded dataset (hfirst.subset hdataset)).ignores.sends hcalls

end Question

namespace Session

variable {σ : Type} [ByteStore σ] {session : Session σ} {loader : Nat} {table : String}

/-- What whoever needs the table of a loader next has to do with it. -/
structure ProbesNext (table : String) (loader : Nat) (session : Session σ) : Prop where
  /-- Nobody is told the name of the table before it was probed, whatever happens meanwhile. -/
  told : ∀ early dataset late name, dataset.table = table →
    ((session.loaders loader).run (early ++ .ensure dataset :: late)).callers[
        ((session.loaders loader).run early).callers.length]? = some (.answered (.ok name)) →
      Loader.ProbedSince table (session.loaders loader)
        ((session.loaders loader).run (early ++ .ensure dataset :: late))
  /-- No statement over it is sent by a run before that either. -/
  sent : ∀ early sql needed moves,
    let scene := Scene.start sql needed ((session.loaders loader).run early)
    scene.sent moves ≠ [] → ∀ dataset ∈ needed, dataset.table = table →
      Loader.ProbedSince table (session.loaders loader) (scene.run moves).loader
  /-- Loading a dataset of the table probes it first, -/
  loads : ∀ dataset : Dataset, dataset.table = table →
    Reprobes table [] session ((Action.ensureLoaded loader dataset).run.run session).2
  /-- and so does running an insight that needs the table. -/
  executes : ∀ (object : InsightObject) datasets sql needed,
    object.prepared datasets = .ok (sql, needed) →
      let after := ((Action.execute loader object datasets).run.run session).2
      ∃ sent, (sent = [] ∨ sent = [.query sql]) ∧
        ((∃ dataset ∈ needed, dataset.table = table) → Reprobes table sent session after) ∧
        ((∀ dataset ∈ needed, dataset.table ≠ table) → Ignores table sent session after)
  /-- A question to a builder does if the builder still has to find the table or joins it. -/
  asks : ∀ (builder : Builder) (question : Question), builder.loader = loader →
    question.AsksAnew table session builder

/-- An invalidation has the table probed again for the next one who needs it. But a builder that neither has
to find the table nor joins it sends what it is asked without any question about the table, even if it is the
one that the builder remembers. -/
theorem probed_after_invalidation (h : (session.loaders loader).Invalidated table) :
    session.ProbesNext table loader := by
  obtain ⟨past, hpast, hidle⟩ := h.idle
  refine ⟨?_, ?_, ?_, ?_, ?_⟩
  · rintro early dataset late name rfl htold
    rw [hpast, Loader.run_reached, Loader.run_reached] at htold
    rw [hpast, Loader.run_reached]
    exact Loader.probedSince_of_answered hidle htold
  · intro early sql needed moves scene hsent dataset hneeded htable
    simp only [scene, hpast, Loader.run_reached] at hsent ⊢
    exact Loader.probedSince_of_sent hidle hsent hneeded htable
  · exact fun dataset htable => reprobes_ensureLoaded hpast hidle htable
  · exact fun object datasets sql needed hprepared => idle_execute hprepared hpast hidle
  · rintro builder question rfl
    exact question.asksAnew_of_idle hpast hidle

end Session

namespace Desk

open Session

/-- The rows of a dataset were asked for. -/
def askedDesk : Desk MemoryStore :=
  (start 0 tradeDataset tradeSession).run [.ask 0 .rows]

/-- And then the dataset has to be loaded again. -/
def invalidatedSession : Session MemoryStore :=
  askedDesk.session.apply 0 (.invalidate "a")

theorem invalidated_invalidatedSession : (invalidatedSession.loaders 0).Invalidated "df_a" := by
  have hstart : tradeSession.Reached := (reached_start MemoryStore.empty).of_loaders rfl
  have hasked : askedDesk.session.Reached := (stands_run hstart _).reached
  exact hasked.invalidated rfl (by decide +kernel)

/-- The builder of the sales after it was asked. -/
def rememberingSales : Builder :=
  { Builder.ofDataset 0 tradeDataset with table := .text "df_a" }

/-- The regions joined to the sales. -/
def regionsWithSales : Builder :=
  (Builder.ofDataset 0 regionDataset).add (.join ⟨tradeDataset, .text "id", .text "region", .left⟩)

def regionsWithSalesText : String :=
  "SELECT * FROM \"df_b\" LEFT JOIN \"df_a\" ON \"df_b\".\"id\" = \"df_a\".\"region\""

/-- The table of the sales is probed again when it is loaded, when the text over the joined regions is made,
and before the rows of this text are asked for. -/
theorem probed_after_invalidation_regionsWithSales :
    (invalidatedSession.loaders 0).Invalidated "df_a" ∧
      Reprobes "df_a" [] invalidatedSession ((Action.ensureLoaded 0 tradeDataset).run.run invalidatedSession).2 ∧
      Reprobes "df_a" [] invalidatedSession
        (Question.sql.leaves regionsWithSales invalidatedSession).2 ∧
      Reprobes "df_a" [.query regionsWithSalesText] invalidatedSession
        (Question.rows.leaves regionsWithSales invalidatedSession).2 := by
  have hnext := probed_after_invalidation invalidated_invalidatedSession
  have hsome : (((regionsWithSales.statementText regionsWithSales.operations).run.run
      invalidatedSession).1).toOption = some regionsWithSalesText := by
    decide +kernel
  have hmade : ((regionsWithSales.statementText regionsWithSales.operations).run.run
      invalidatedSession).1 = .ok regionsWithSalesText := by
    cases hresult : ((regionsWithSales.statementText regionsWithSales.operations).run.run
        invalidatedSession).1 with
    | error fault => simp [hresult, Except.toOption] at hsome
    | ok text => exact congrArg Except.ok (by simpa [hresult, Except.toOption] using hsome)
  have hjoined : ∃ dataset ∈ regionsWithSales.needed regionsWithSales.operations,
      dataset.table = "df_a" :=
    ⟨tradeDataset, by decide +kernel, rfl⟩
  exact ⟨invalidated_invalidatedSession, hnext.loads tradeDataset rfl,
    (hnext.asks regionsWithSales .sql rfl).joined _ hmade hjoined,
    (hnext.asks regionsWithSales .rows rfl).joined _ hmade hjoined⟩

/-- A builder that remembers the table has the rows asked for without a probe. -/
theorem remembered_table_not_probed :
    (invalidatedSession.loaders 0).Invalidated "df_a" ∧ ∃ builder, askedDesk.builders = [builder] ∧
      (Question.rows.leaves builder invalidatedSession).2.engine.calls =
        invalidatedSession.engine.calls ++ [.query "SELECT * FROM \"df_a\""] ∧
      ∀ sent, ¬ Reprobes "df_a" sent invalidatedSession (Question.rows.leaves builder invalidatedSession).2 := by
  have hcalls : (Question.rows.leaves rememberingSales invalidatedSession).2.engine.calls =
      invalidatedSession.engine.calls ++ [.query "SELECT * FROM \"df_a\""] := by
    decide +kernel
  refine ⟨invalidated_invalidatedSession, rememberingSales, by decide +kernel, hcalls, ?_⟩
  rintro sent ⟨early, late, -, hprobed⟩
  have hnew := List.append_cancel_left (hcalls.symm.trans hprobed)
  have hmember : EngineCall.query (probeStatement "df_a") ∈ [EngineCall.query "SELECT * FROM \"df_a\""] := by
    rw [hnew]
    simp [Request.call?]
  revert hmember
  decide +kernel

end Desk
end Insights
