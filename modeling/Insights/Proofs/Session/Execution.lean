import Insights.Proofs.Insight.InnerSelection
import Insights.Proofs.Loading.Gathering
import Insights.Proofs.Session.Statement
import Insights.Proofs.Session.Transcript
import Insights.Session.Execution
import Insights.Store.Basic

/-!
Runs of insights. A run asks for its tables once its statement and its datasets are known, and from then
on it only looks at what its callers have come to, whenever that may be and whatever happens to the loads
in between. Its statement is sent at most once, and only after every table was loaded. A session that runs
an insight does one such run: until it looks the engine hears from the loads alone.
-/

namespace Insights

/-! ### The tables that an insight reads -/

/-- The dataset that a table's data is mapped to. -/
def Table.mapped? (datasets : Fields Dataset) (table : Table) : Option Dataset :=
  table.loaded?.bind fun id => datasets.lookup id

/-- The tables that a statement names, the first one first. -/
def Sql.Source.joined : Sql.Source → Sql.Joined
  | .tables joined | .derived _ joined _ => joined

/-- The names of the tables that a statement selects from. -/
def Sql.Statement.tableNames (s : Sql.Statement) : List String :=
  s.source.joined.base.name :: s.source.joined.joins.map (·.table.name)

namespace Insight

variable {insight : Insight} {datasets : Fields Dataset}

/-- The tables that an insight reads, the base table first, each with whether it is joined to that one. -/
def readTables (insight : Insight) : List (Table × Bool) :=
  (insight.base, false) :: insight.joins.map fun join => (join.table, true)

theorem datasetsIn_eq (insight : Insight) (datasets : Fields Dataset) :
    insight.datasetsIn datasets =
      insight.readTables.mapM fun entry => entry.1.datasetIn datasets entry.2 := by
  rw [readTables, List.mapM_cons, List.mapM_map]
  rfl

theorem datasetIn_eq_ok {table : Table} {joined : Bool} {dataset : Dataset} :
    table.datasetIn datasets joined = .ok dataset ↔ table.mapped? datasets = some dataset :=
  orFault_eq_ok

theorem source_assemble {items : List Sql.Item} {source : Sql.Source} {groups : List String}
    {s : Sql.Statement} (h : insight.assemble items source groups = .ok s) : s.source = source := by
  simp only [assemble, bind_eq_ok, pure_eq_ok] at h
  obtain ⟨found, -, limit, -, rfl⟩ := h
  rfl

theorem source_simpleStatement {dataset : String} {s : Sql.Statement}
    (h : insight.simpleStatement dataset = .ok s) :
    s.source = .tables ⟨⟨tableName dataset, none⟩, []⟩ := by
  unfold simpleStatement at h
  split at h
  · obtain ⟨items, -, h⟩ := bind_eq_ok.mp h
    exact source_assemble h
  · exact source_assemble h

end Insight

namespace InsightObject

variable {object : InsightObject} {datasets : Fields Dataset} {sql : String} {needed : List Dataset}

/-- An insight can be run exactly when it has a statement and the data of all its tables is mapped. -/
theorem prepared_eq_ok : object.prepared datasets = .ok (sql, needed) ↔
    object.sql = .ok sql ∧
      List.Forall₂ (fun entry dataset => entry.1.mapped? datasets = some dataset)
        object.insight.readTables needed := by
  constructor
  · intro h
    obtain ⟨text, htext, h⟩ := bind_eq_ok.mp h
    obtain ⟨found, hfound, h⟩ := bind_eq_ok.mp h
    obtain ⟨rfl, rfl⟩ := Prod.mk.inj (pure_eq_ok.mp h)
    rw [Insight.datasetsIn_eq] at hfound
    exact ⟨htext, (forall₂_of_mapM hfound).imp fun _ _ => Insight.datasetIn_eq_ok.mp⟩
  · rintro ⟨hsql, hneeded⟩
    have hfound : object.insight.datasetsIn datasets = .ok needed := by
      rw [Insight.datasetsIn_eq]
      exact mapM_of_forall₂ (hneeded.imp fun _ _ => Insight.datasetIn_eq_ok.mpr)
    rw [prepared, hsql, hfound]
    rfl

theorem prepared_of_error {fault : Fault} (h : object.sql = .error fault) :
    object.prepared datasets = .error fault := by
  rw [prepared, h]
  rfl

/-- The first table without a dataset decides the fault. -/
theorem prepared_of_unmapped (hsql : object.sql = .ok sql) {before after : List (Table × Bool)}
    {table : Table} {joined : Bool}
    (hsplit : object.insight.readTables = before ++ (table, joined) :: after)
    (hbefore : ∀ entry ∈ before, entry.1.mapped? datasets ≠ none) (h : table.mapped? datasets = none) :
    object.prepared datasets = .error (.missingDataset table.name joined) := by
  have hfound : ∀ entry ∈ before, ∃ dataset, entry.1.datasetIn datasets entry.2 = .ok dataset := by
    intro entry hentry
    obtain ⟨dataset, hdataset⟩ := Option.ne_none_iff_exists'.mp (hbefore entry hentry)
    exact ⟨dataset, Insight.datasetIn_eq_ok.mpr hdataset⟩
  have hmissing : table.datasetIn datasets joined = .error (.missingDataset table.name joined) := by
    rw [Table.datasetIn]
    exact congrArg (orFault _) h
  have hfault := mapM_eq_error (a := (table, joined)) hfound hmissing after
  rw [prepared, hsql, Insight.datasetsIn_eq, hsplit, hfault]
  rfl

/-- The statement of an insight selects from the stored tables of all tables that it reads. -/
theorem tableNames_statement {s : Sql.Statement} (h : object.statement = .ok s) :
    s.tableNames = object.insight.readTables.map fun entry => entry.1.stored := by
  simp only [statement, bind_eq_ok, orFault_eq_ok] at h
  obtain ⟨dataset, hdataset, h⟩ := h
  split at h
  next hjoins =>
    rw [Sql.Statement.tableNames, Insight.source_simpleStatement h, Insight.readTables,
      List.isEmpty_iff.mp hjoins]
    simp [Sql.Source.joined, Table.stored, hdataset]
  next =>
    have hsource := (joins_of_joinedStatement hdataset h).source
    rw [Sql.Statement.tableNames, hsource]
    simp only [Sql.Source.joined, Insight.readTables, JoinLayout.tables, List.map_cons, List.map_map]
    refine congrArg (object.insight.base.stored :: ·) ?_
    change (object.insight.joins.mapIdx object.insight.joinClause).map (·.table.name) =
      object.insight.joins.map (·.table.stored)
    conv_rhs => rw [← List.zipIdx_map_fst 0 object.insight.joins]
    rw [List.mapIdx_eq_zipIdx_map, List.map_map, List.map_map]
    rfl

/-- Where every dataset is mapped under its own id, these are the tables of the datasets. -/
theorem tableNames_prepared (h : object.prepared datasets = .ok (sql, needed))
    (hids : ∀ id dataset, datasets.lookup id = some dataset → dataset.id = id) :
    ∃ s, object.statement = .ok s ∧ s.render = sql ∧ s.tableNames = needed.map Dataset.table := by
  obtain ⟨hsql, hneeded⟩ := prepared_eq_ok.mp h
  obtain ⟨s, hs, hrender⟩ := map_eq_ok.mp hsql
  refine ⟨s, hs, hrender, ?_⟩
  rw [tableNames_statement hs, ← List.forall₂_eq_eq_eq, List.forall₂_map_left_iff,
    List.forall₂_map_right_iff]
  refine hneeded.imp fun entry dataset hmapped => ?_
  obtain ⟨id, hid, hdataset⟩ := Option.bind_eq_some_iff.mp hmapped
  rw [Table.stored, hid, Dataset.table, hids id dataset hdataset]
  rfl

end InsightObject

/-! ### A run among other things that happen -/

/-- The statements that a run has sent. -/
def Execution.statements : Execution → List String
  | .sent sql => [sql]
  | .waiting _ _ | .failed _ => []

/-- What may happen while an insight is run: an event of the loader, or the run looks at its callers. -/
inductive Move where
  | event (event : Event)
  | look

/-- The events among moves. -/
def Move.events (moves : List Move) : List Event :=
  moves.filterMap fun move =>
    match move with
    | .event happened => some happened
    | .look => none

/-- A loader and the run of an insight that waits for some of its callers. -/
structure Scene where
  loader : Loader
  execution : Execution

namespace Scene

/-- The scene when the tables of the datasets have been asked for. -/
def start (sql : String) (needed : List Dataset) (loader : Loader) : Scene :=
  ⟨loader.run (needed.map .ensure), .start sql needed loader⟩

def step (scene : Scene) : Move → Scene
  | .event event => { scene with loader := scene.loader.step event }
  | .look => { scene with execution := scene.execution.look scene.loader }

def run (scene : Scene) (moves : List Move) : Scene :=
  moves.foldl step scene

/-- The statements that are sent by a move. -/
def sends (scene : Scene) (move : Move) : List String :=
  match scene.execution, (scene.step move).execution with
  | .waiting _ _, .sent sql => [sql]
  | _, _ => []

/-- The statements that are sent in the course of moves, in order. -/
def sent (scene : Scene) : List Move → List String
  | [] => []
  | move :: rest => scene.sends move ++ (scene.step move).sent rest

theorem run_append (scene : Scene) (moves : List Move) (move : Move) :
    scene.run (moves ++ [move]) = (scene.run moves).step move := by
  simp [run]

theorem sent_append (scene : Scene) (moves : List Move) (move : Move) :
    scene.sent (moves ++ [move]) = scene.sent moves ++ (scene.run moves).sends move := by
  induction moves generalizing scene with
  | nil => simp [sent, run]
  | cons first rest ih =>
    rw [List.cons_append, sent, ih, sent, List.append_assoc]
    rfl

theorem loader_run (scene : Scene) (moves : List Move) :
    (scene.run moves).loader = scene.loader.run (Move.events moves) := by
  induction moves generalizing scene with
  | nil => rfl
  | cons move rest ih =>
    cases move with
    | event event => exact ih _
    | look => exact ih _

end Scene

namespace Scene

variable {sql : String} {needed : List Dataset} {awaited : List Awaited} {scene : Scene} {sent : List String}

/-- How far a run has come together with what it has sent: its callers stand to their loads; it waits and
has sent nothing, it has sent its statement and all its callers were served, or it has failed with the fault
of one of its callers and has sent nothing. -/
structure Proceeds (sql : String) (needed : List Dataset) (awaited : List Awaited) (scene : Scene)
    (sent : List String) : Prop where
  stands : List.Forall₂ (fun one dataset => one.Stands dataset scene.loader) awaited needed
  state : scene.execution = .waiting sql awaited ∧ sent = [] ∨
    scene.execution = .sent sql ∧ sent = [sql] ∧
      List.Forall₂ (fun one dataset => one.Served dataset scene.loader) awaited needed ∨
    ∃ fault, scene.execution = .failed fault ∧ sent = [] ∧ ∃ one ∈ awaited, one.Failed fault scene.loader

theorem proceeds_start (sql : String) (needed : List Dataset) (past : List Event) :
    Proceeds sql needed ((Loader.reached past).awaited needed) (start sql needed (Loader.reached past))
      [] where
  stands := by
    rw [start, Loader.run_reached]
    exact (Loader.joined_awaited past needed).imp fun _ _ => Awaited.Joined.stands
  state := .inl ⟨rfl, rfl⟩

theorem sends_look {awaited : List Awaited} (h : scene.execution = .waiting sql awaited) :
    scene.sends .look = (scene.step .look).execution.statements := by
  cases hlook : (scene.step .look).execution <;> simp only [sends, h, hlook, Execution.statements]

/-- An event of the loader sends nothing. -/
theorem sends_event (scene : Scene) (event : Event) : scene.sends (.event event) = [] := by
  simp only [sends, step]
  split
  next hwaiting hsent => cases hwaiting.symm.trans hsent
  · rfl

theorem Proceeds.event (h : Proceeds sql needed awaited scene sent) (event : Event) :
    Proceeds sql needed awaited (scene.step (.event event)) (sent ++ scene.sends (.event event)) := by
  rw [sends_event, List.append_nil]
  refine ⟨h.stands.imp fun _ _ hstands => hstands.step event, ?_⟩
  rcases h.state with hwaiting | ⟨hsent, hsql, hserved⟩ | ⟨fault, hfailed, hnothing, one, hone, hfault⟩
  · exact .inl hwaiting
  · exact .inr (.inl ⟨hsent, hsql, hserved.imp fun _ _ htold => htold.step_answered event⟩)
  · exact .inr (.inr ⟨fault, hfailed, hnothing, one, hone, hfault.step event⟩)

/-- All callers were served when each was told a name. -/
theorem Proceeds.served (h : Proceeds sql needed awaited scene sent)
    (htold : ∀ one ∈ awaited, ∃ name, one.IsAt scene.loader (.answered (.ok name))) :
    List.Forall₂ (fun one dataset => one.Served dataset scene.loader) awaited needed := by
  refine List.forall₂_iff_zip.mpr ⟨h.stands.length_eq, fun {one dataset} hpair => ?_⟩
  obtain ⟨name, hname⟩ := htold one (List.of_mem_zip hpair).1
  exact ((List.forall₂_iff_zip.mp h.stands).2 hpair).served hname

theorem look_of_done (hdone : ∀ sql awaited, scene.execution ≠ .waiting sql awaited) :
    scene.step .look = scene ∧ scene.sends .look = [] := by
  obtain ⟨loader, execution⟩ := scene
  cases execution with
  | waiting sql awaited => exact absurd rfl (hdone sql awaited)
  | sent sql => exact ⟨rfl, rfl⟩
  | failed fault => exact ⟨rfl, rfl⟩

theorem Proceeds.look (h : Proceeds sql needed awaited scene sent) :
    Proceeds sql needed awaited (scene.step .look) (sent ++ scene.sends .look) := by
  by_cases hdone : ∀ sql awaited, scene.execution ≠ .waiting sql awaited
  · obtain ⟨hsame, hnothing⟩ := look_of_done hdone
    rw [hsame, hnothing, List.append_nil]
    exact h
  refine ⟨h.stands, ?_⟩
  rcases h.state with ⟨hwaiting, hnothing⟩ | ⟨hsent, -⟩ | ⟨fault, hfailed, -⟩
  · subst hnothing
    simp only [step, sends, hwaiting, Execution.look]
    cases hverdict : scene.loader.verdict? awaited with
    | none => exact .inl ⟨rfl, rfl⟩
    | some verdict =>
      cases verdict with
      | ok done => exact .inr (.inl ⟨rfl, rfl, h.served (Loader.served_of_verdict? hverdict)⟩)
      | error fault => exact .inr (.inr ⟨fault, rfl, rfl, Loader.failed_of_verdict? hverdict⟩)
  · exact absurd (fun _ _ heq => by cases hsent.symm.trans heq) hdone
  · exact absurd (fun _ _ heq => by cases hfailed.symm.trans heq) hdone

theorem proceeds_run (sql : String) (needed : List Dataset) (past : List Event) (moves : List Move) :
    Proceeds sql needed ((Loader.reached past).awaited needed)
      ((start sql needed (Loader.reached past)).run moves)
      ((start sql needed (Loader.reached past)).sent moves) := by
  induction moves using List.reverseRecOn with
  | nil => exact proceeds_start sql needed past
  | append_singleton moves move ih =>
    rw [run_append, sent_append]
    cases move with
    | event event => exact ih.event event
    | look => exact ih.look

/-- What a run of a statement keeps to: it is sent at most once, and only when all its tables were loaded;
it is never sent once a load that it waits for has failed, and the run then fails with the fault of such a
load as soon as it looks; and it is sent as soon as the run looks after all tables were loaded. -/
structure Orderly (sql : String) (needed : List Dataset) (awaited : List Awaited) (scene : Scene)
    (sent : List String) : Prop where
  once : sent = [] ∨ sent = [sql]
  loaded : sent ≠ [] → List.Forall₂ (fun one dataset => one.Served dataset scene.loader) awaited needed
  unsent : ∀ one ∈ awaited, ∀ position load fault, one.load = some position →
    scene.loader.loads[position]? = some load → load.outcome? = some (.error fault) → sent = []
  fails : ∀ one ∈ awaited, ∀ fault, one.IsAt scene.loader (.answered (.error fault)) →
    ∃ found, (scene.step .look).execution = .failed found
  fault : ∀ fault, scene.execution = .failed fault →
    scene.loader.FailedFor awaited needed fault ∨
      fault = .cancelled ∧ ∃ one ∈ awaited, one.IsAt scene.loader .cancelled
  goes : List.Forall₂ (fun one dataset => one.Served dataset scene.loader) awaited needed →
    sent ++ scene.sends .look = [sql]

theorem Proceeds.pair (h : Proceeds sql needed awaited scene sent) {one : Awaited} (hone : one ∈ awaited) :
    ∃ dataset, (one, dataset) ∈ awaited.zip needed ∧ one.Stands dataset scene.loader := by
  obtain ⟨position, hlt, rfl⟩ := List.mem_iff_getElem.mp hone
  have hlt' : position < needed.length := h.stands.length_eq ▸ hlt
  have hpair : (awaited[position], needed[position]) ∈ awaited.zip needed := by
    rw [← List.getElem_zip (h := by simp [hlt, hlt'])]
    exact List.getElem_mem _
  exact ⟨_, hpair, (List.forall₂_iff_zip.mp h.stands).2 hpair⟩

theorem Proceeds.orderly (h : Proceeds sql needed awaited scene sent) :
    Orderly sql needed awaited scene sent where
  once := by
    rcases h.state with ⟨-, hsent⟩ | ⟨-, hsent, -⟩ | ⟨-, -, hsent, -⟩
    · exact .inl hsent
    · exact .inr hsent
    · exact .inl hsent
  loaded hne := by
    rcases h.state with ⟨-, hsent⟩ | ⟨-, -, hserved⟩ | ⟨-, -, hsent, -⟩
    · exact absurd hsent hne
    · exact hserved
    · exact absurd hsent hne
  unsent one hone position load fault hjoined hload houtcome := by
    rcases h.state with ⟨-, hsent⟩ | ⟨-, -, hserved⟩ | ⟨-, -, hsent, -⟩
    · exact hsent
    · obtain ⟨dataset, hpair, hstands⟩ := h.pair hone
      exact absurd ((List.forall₂_iff_zip.mp hserved).2 hpair)
        (hstands.not_served hjoined hload houtcome)
    · exact hsent
  fails one hone fault htold := by
    rcases h.state with ⟨hwaiting, -⟩ | ⟨-, -, hserved⟩ | ⟨found, hfailed, -⟩
    · obtain ⟨found, hfound⟩ := Loader.verdict?_of_failed hone htold
      exact ⟨found, by simp only [step, hwaiting, Execution.look, hfound]⟩
    · obtain ⟨dataset, hpair, -⟩ := h.pair hone
      cases htold.unique ((List.forall₂_iff_zip.mp hserved).2 hpair)
    · exact ⟨found, by simp only [step, hfailed, Execution.look]⟩
  fault fault hfault := by
    rcases h.state with ⟨hwaiting, -⟩ | ⟨hsent, -⟩ | ⟨found, hfailed, -, one, hone, hcause⟩
    · cases hwaiting.symm.trans hfault
    · cases hsent.symm.trans hfault
    · cases hfailed.symm.trans hfault
      rcases hcause with htold | ⟨hcancelled, rfl⟩
      · obtain ⟨dataset, hpair, hstands⟩ := h.pair hone
        obtain ⟨position, load, hjoined, hload, htable, houtcome⟩ := hstands.load_of_told htold
        exact .inl ⟨one, dataset, position, load, hpair, hjoined, hload, htable, houtcome⟩
      · exact .inr ⟨rfl, one, hone, hcancelled⟩
  goes hserved := by
    have htold : ∀ one ∈ awaited, ∃ name, one.IsAt scene.loader (.answered (.ok name)) := by
      intro one hone
      obtain ⟨dataset, hpair, -⟩ := h.pair hone
      exact ⟨_, (List.forall₂_iff_zip.mp hserved).2 hpair⟩
    rcases h.state with ⟨hwaiting, hnothing⟩ | ⟨hsent, hsql, -⟩ | ⟨fault, -, -, one, hone, hcause⟩
    · rw [hnothing, List.nil_append, sends_look hwaiting]
      simp only [step, hwaiting, Execution.look, Loader.verdict?_of_served htold, Execution.statements]
    · rw [(look_of_done fun _ _ heq => by cases hsent.symm.trans heq).2, List.append_nil, hsql]
    · obtain ⟨name, hname⟩ := htold one hone
      rcases hcause with hanswered | ⟨hcancelled, -⟩
      · cases hname.unique hanswered
      · cases hname.unique hcancelled

end Scene

/-! ### A run in a session -/

namespace Scene

variable {sql : String} {needed : List Dataset}

/-- While only events of the loader happen, a run waits and sends nothing. -/
theorem run_events (scene : Scene) (events : List Event) :
    scene.run (events.map .event) = { scene with loader := scene.loader.run events } ∧
      scene.sent (events.map .event) = [] := by
  induction events generalizing scene with
  | nil => exact ⟨rfl, rfl⟩
  | cons event rest ih =>
    obtain ⟨hrun, hsent⟩ := ih (scene.step (.event event))
    refine ⟨hrun, ?_⟩
    rw [List.map_cons, sent, sends_event, hsent, List.append_nil]

/-- So it can send something only when it looks afterwards. -/
theorem run_look {awaited : List Awaited} {scene : Scene} (h : scene.execution = .waiting sql awaited)
    (events : List Event) :
    scene.run (events.map .event ++ [.look]) =
        ⟨scene.loader.run events, scene.execution.look (scene.loader.run events)⟩ ∧
      scene.sent (events.map .event ++ [.look]) =
        (scene.execution.look (scene.loader.run events)).statements := by
  obtain ⟨hrun, hsent⟩ := run_events scene events
  rw [run_append, sent_append, hrun, hsent, List.nil_append]
  exact ⟨rfl, sends_look h⟩

end Scene

namespace Session

variable {σ : Type} {sql : String} {needed : List Dataset} {loader : Nat} {past events : List Event}
  {awaited : List Awaited} {before asked : Session σ}

/-- What a run of a statement comes to when a session has it look. The statement is sent if all tables were
loaded. Otherwise the session stays as it is: either a load that the run waits for has failed, or its import
is held back and the run gives up. -/
inductive Concludes (sql : String) (needed : List Dataset) (awaited : List Awaited) (loader : Nat)
    (asked : Session σ) : Except Fault (List Row) × Session σ → Prop where
  | sent (served : List.Forall₂ (fun one dataset => one.Served dataset (asked.loaders loader)) awaited
      needed) : Concludes sql needed awaited loader asked ((Action.query sql).run.run asked)
  | failed (fault : Fault) (failed : (asked.loaders loader).FailedFor awaited needed fault) :
      Concludes sql needed awaited loader asked (.error fault, asked)
  | held (held : asked.held = true)
      (waits : ∃ one ∈ awaited, ∃ position, one.IsAt (asked.loaders loader) (.waiting position)) :
      Concludes sql needed awaited loader asked (.error .cancelled, asked)

/-- How a session runs a statement over the tables of datasets: it asks for the tables and takes their loads
as far as they go by `events`, while nobody else asks, gives up or invalidates; then, in the session `asked`,
it looks once and concludes. The engine hears what the loads ask by these events, and after that what is sent
by the run of `Scene` with the same events and that look. -/
structure Conducts (sql : String) (needed : List Dataset) (loader : Nat) (past events : List Event)
    (before asked : Session σ) (done : Except Fault (List Row) × Session σ) : Prop where
  progress : ∀ event ∈ events, event.isProgress
  loads : before.Follows loader (needed.map .ensure ++ events) asked
  concludes : asked.Concludes sql needed ((Loader.reached past).awaited needed) loader done
  loader : done.2.loaders loader =
    ((Scene.start sql needed (Loader.reached past)).run (events.map .event ++ [.look])).loader
  calls : done.2.engine.calls = asked.engine.calls ++
    ((Scene.start sql needed (Loader.reached past)).sent (events.map .event ++ [.look])).map .query

end Session

namespace Action

open Session

variable {σ : Type} [ByteStore σ] {object : InsightObject} {datasets : Fields Dataset} {sql : String}
  {needed : List Dataset} {awaited : List Awaited} {loader : Nat} {past : List Event} {session : Session σ}

/-- A run that cannot be prepared does nothing. -/
theorem run_execute_of_error {fault : Fault} (h : object.prepared datasets = .error fault) (loader : Nat)
    (session : Session σ) :
    (execute loader object datasets).run.run session = (.error fault, session) := by
  rw [execute, h]
  rfl

/-- A run asks for its tables, takes their loads as far as they go, and looks. -/
theorem run_execute (h : object.prepared datasets = .ok (sql, needed)) (loader : Nat)
    {session settled : Session σ}
    (hsettled : (session.applyAll loader (needed.map .ensure)).settle loader = settled) :
    (execute loader object datasets).run.run session =
      (conclude ((Execution.start sql needed (session.loaders loader)).look
        (settled.loaders loader))).run.run settled := by
  subst hsettled
  rw [execute, h]
  rfl

omit [ByteStore σ] in
theorem run_query (sql : String) (session : Session σ) :
    (query sql).run.run session =
      ((session.onEngine (·.record (.query sql))).engine.answer sql,
        (session.onEngine (·.record (.query sql))).onEngine (·.effect sql)) :=
  rfl

omit [ByteStore σ] in
theorem calls_query (sql : String) (session : Session σ) :
    ((query sql).run.run session).2.engine.calls = session.engine.calls ++ [.query sql] := by
  rw [run_query]
  change ((session.engine.record (.query sql)).effect sql).calls = _
  unfold ScriptedEngine.effect
  split <;> rfl

omit [ByteStore σ] in
/-- What the engine hears last from a run that returns rows is its statement. -/
theorem calls_of_conducts {events : List Event} {before asked : Session σ}
    {done : Except Fault (List Row) × Session σ}
    (h : Conducts sql needed loader past events before asked done) (hrows : done.1.isOk = true) :
    done.2.engine.calls = asked.engine.calls ++ [.query sql] := by
  cases h.concludes with
  | sent served => exact calls_query sql asked
  | failed fault failed => cases hrows
  | held held waits => cases hrows

omit [ByteStore σ] in
/-- Concluding a run changes no loader, and what it sends is heard last. -/
theorem run_conclude (execution : Execution) (session : Session σ) :
    ((conclude execution).run.run session).2.loaders = session.loaders ∧
      ((conclude execution).run.run session).2.engine.calls =
        session.engine.calls ++ execution.statements.map .query := by
  cases execution with
  | sent sql => exact ⟨rfl, calls_query sql session⟩
  | waiting sql awaited => exact ⟨rfl, (List.append_nil _).symm⟩
  | failed fault => exact ⟨rfl, (List.append_nil _).symm⟩

/-- When all loads have gone as far as they go, everybody who asked for a table was told something, unless
loads are held back from their imports. -/
theorem told_or_held {asked : Session σ} (hsettled : session.settle loader = asked)
    (hjoined : ∀ one ∈ awaited, ∃ dataset, one.Joined dataset (session.loaders loader)) :
    (∀ one ∈ awaited, ∃ outcome, one.IsAt (asked.loaders loader) (.answered outcome)) ∨
      asked.held = true ∧ ∃ one ∈ awaited, ∃ position, one.IsAt (asked.loaders loader) (.waiting position) := by
  subst hsettled
  by_cases htold : ∀ one ∈ awaited, ∃ outcome,
      one.IsAt ((session.settle loader).loaders loader) (.answered outcome)
  · exact .inl htold
  push Not at htold
  obtain ⟨one, hone, huntold⟩ := htold
  obtain ⟨dataset, hone'⟩ := hjoined one hone
  have hworks : Works (fun _ => False) session (session.settle loader) := works_settle fun _ _ _ _ _ => id
  refine .inr ⟨?_, one, hone, ?_⟩
  · by_contra hfree
    rw [hworks.held] at hfree
    obtain ⟨outcome, hcaller⟩ := told_settle (Bool.eq_false_of_not_eq_true hfree) hone'
    exact huntold outcome hcaller
  · rcases (continues_settle session loader).joined hone' with ⟨-, hserved⟩ | ⟨position, -, load, -, -,
      hwaiting | ⟨outcome, -, hanswered⟩⟩
    · exact absurd hserved (huntold _)
    · exact ⟨position, hwaiting⟩
    · exact absurd hanswered (huntold _)

omit [ByteStore σ] in
/-- What a run concludes with follows from how far it has come. -/
theorem concludes_conclude {asked : Session σ} {execution : Execution} {sent : List String}
    (h : Scene.Proceeds sql needed awaited ⟨asked.loaders loader, execution⟩ sent)
    (hkept : ∀ one ∈ awaited, ¬ one.IsAt (asked.loaders loader) .cancelled)
    (hheld : execution = .waiting sql awaited → asked.held = true ∧
      ∃ one ∈ awaited, ∃ position, one.IsAt (asked.loaders loader) (.waiting position)) :
    asked.Concludes sql needed awaited loader ((conclude execution).run.run asked) := by
  rcases h.state with ⟨hwaiting, -⟩ | ⟨hsent, -, hserved⟩ | ⟨fault, hfailed, -⟩
  · obtain rfl : execution = .waiting sql awaited := hwaiting
    obtain ⟨hheld, hwaits⟩ := hheld rfl
    exact .held hheld hwaits
  · obtain rfl : execution = .sent sql := hsent
    exact .sent hserved
  · obtain rfl : execution = .failed fault := hfailed
    rcases h.orderly.fault fault rfl with hload | ⟨-, one, hone, hcancelled⟩
    · exact .failed fault hload
    · exact absurd hcancelled (hkept one hone)

omit [ByteStore σ] in
/-- Once a session has asked for the tables, its run waits for callers that have all joined a load. -/
theorem joined_applyAll (hpast : session.loaders loader = Loader.reached past) (needed : List Dataset) :
    ∀ one ∈ (Loader.reached past).awaited needed, ∃ dataset,
      one.Joined dataset ((session.applyAll loader (needed.map .ensure)).loaders loader) := by
  rw [loaders_applyAll, hpast, Loader.run_reached]
  exact forall_of_forall₂ (Loader.joined_awaited past needed) (Q := fun _ => True)
    (fun _ _ => trivial) fun one dataset hone _ => ⟨dataset, hone⟩

omit [ByteStore σ] in
theorem follows_ensures (session : Session σ) (loader : Nat) (needed : List Dataset) :
    session.Follows loader (needed.map .ensure) (session.applyAll loader (needed.map .ensure)) := by
  refine follows_applyAll session loader fun event hevent => ?_
  obtain ⟨dataset, -, rfl⟩ := List.mem_map.mp hevent
  exact fun _ _ => rfl

/-- The run of an insight in a session is one run of its statement. -/
theorem conducts_execute (h : object.prepared datasets = .ok (sql, needed))
    (hpast : session.loaders loader = Loader.reached past) :
    ∃ events asked, Conducts sql needed loader past events session asked
      ((execute loader object datasets).run.run session) := by
  obtain ⟨asked, hasked⟩ : ∃ asked,
      (session.applyAll loader (needed.map .ensure)).settle loader = asked := ⟨_, rfl⟩
  have hcontinues : Continues loader (session.applyAll loader (needed.map .ensure)) asked :=
    hasked ▸ continues_settle _ loader
  have hjoined := joined_applyAll hpast needed
  have hkept : ∀ one ∈ (Loader.reached past).awaited needed, ¬ one.IsAt (asked.loaders loader) .cancelled := by
    intro one hone
    obtain ⟨dataset, hone'⟩ := hjoined one hone
    exact (hcontinues.joined hone').not_cancelled
  obtain ⟨events, hprogress, hfollows⟩ := hcontinues
  have hloads := (follows_ensures session loader needed).trans hfollows
  have hloader : (Scene.start sql needed (Loader.reached past)).loader.run events = asked.loaders loader := by
    rw [hloads.moved, hpast]
    exact List.foldl_append.symm
  obtain ⟨hrun, hsent⟩ := @Scene.run_look _ _ (.start sql needed (Loader.reached past)) rfl events
  have hproceeds := Scene.proceeds_run sql needed past (events.map .event ++ [.look])
  have hdone := run_execute h loader hasked
  rw [hloader] at hrun hsent
  rw [hrun] at hproceeds
  rw [hpast] at hdone
  obtain ⟨hloaders, hcalls⟩ :=
    run_conclude ((Execution.start sql needed (Loader.reached past)).look (asked.loaders loader)) asked
  refine ⟨events, asked, hprogress, hloads, ?_, ?_, ?_⟩
  · rw [hdone]
    refine concludes_conclude hproceeds hkept fun hwaiting => ?_
    refine (told_or_held hasked hjoined).resolve_left fun htold => ?_
    obtain ⟨verdict, hverdict⟩ := Loader.verdict?_of_told htold
    simp only [Execution.start, Execution.look, hverdict] at hwaiting
    cases verdict <;> cases hwaiting
  · rw [hdone, hloaders, hrun]
  · rw [hdone, hcalls, hsent]
    rfl

end Action

namespace InsightObject

/-- What the runs of an insight over datasets that are known by id keep to. -/
structure SendsAfterLoading (σ : Type) [ByteStore σ] (object : InsightObject) (datasets : Fields Dataset) :
    Prop where
  /-- A run that cannot be prepared ends with the fault that says why, and does nothing. -/
  refused : ∀ fault, object.prepared datasets = .error fault → ∀ loader (session : Session σ),
    (Action.execute loader object datasets).run.run session = (.error fault, session)
  /-- It cannot be prepared without a statement, -/
  unwritten : ∀ fault, object.sql = .error fault → object.prepared datasets = .error fault
  /-- or when the data of some table is not mapped; the first such table decides the fault. -/
  unmapped : ∀ sql before table joined after, object.sql = .ok sql →
    object.insight.readTables = before ++ (table, joined) :: after →
    (∀ entry ∈ before, entry.1.mapped? datasets ≠ none) → table.mapped? datasets = none →
      object.prepared datasets = .error (.missingDataset table.name joined)
  /-- Any other run is prepared: with the statement, and the datasets of all tables in order. -/
  prepares : ∀ sql needed, object.prepared datasets = .ok (sql, needed) ↔ object.sql = .ok sql ∧
    List.Forall₂ (fun entry dataset => entry.1.mapped? datasets = some dataset) object.insight.readTables
      needed
  /-- Whatever happens to the loads before the run, during it and in between, it keeps to the order. -/
  orderly : ∀ sql needed, object.prepared datasets = .ok (sql, needed) → ∀ past moves,
    Scene.Orderly sql needed ((Loader.reached past).awaited needed)
      ((Scene.start sql needed (Loader.reached past)).run moves)
      ((Scene.start sql needed (Loader.reached past)).sent moves)
  /-- The run asks for the tables of the datasets, and for nothing else. -/
  asks : ∀ sql needed, object.prepared datasets = .ok (sql, needed) → ∀ past moves,
    ((Scene.start sql needed (Loader.reached past)).run moves).loader =
      Loader.reached (past ++ needed.map .ensure ++ Move.events moves)
  /-- Where probes tell the truth, none of them is imported twice. -/
  once : ∀ sql needed, object.prepared datasets = .ok (sql, needed) → ∀ past moves initial tables,
    Loader.Unfolds Loader.Truthful initial (past ++ needed.map .ensure ++ Move.events moves) tables →
      ∀ dataset ∈ needed, (Loader.observed Loader.imported .empty
        (past ++ needed.map .ensure ++ Move.events moves)).count dataset.table ≤ 1
  /-- Where every dataset is mapped under its own id, the statement selects from the tables asked for. -/
  tables : ∀ sql needed, object.prepared datasets = .ok (sql, needed) →
    (∀ id dataset, datasets.lookup id = some dataset → dataset.id = id) →
      ∃ s, object.statement = .ok s ∧ s.render = sql ∧ s.tableNames = needed.map Dataset.table
  /-- A session that runs the insight does one such run. -/
  conducted : ∀ sql needed, object.prepared datasets = .ok (sql, needed) →
    ∀ loader past (session : Session σ), session.loaders loader = Loader.reached past →
      ∃ events asked, Session.Conducts sql needed loader past events session asked
        ((Action.execute loader object datasets).run.run session)

/-- The statement of an insight is sent only after its tables are loaded. A run that cannot be prepared does
nothing. Any other run sends nothing but its statement, once at most and after every table was loaded, and
after a failed load it sends nothing and ends with the fault of such a load. A session conducts the run so
that the engine hears from the loads first: from nobody else, and only what they ask. -/
theorem sent_after_loading (σ : Type) [ByteStore σ] (object : InsightObject) (datasets : Fields Dataset) :
    object.SendsAfterLoading σ datasets where
  refused _ h loader session := Action.run_execute_of_error h loader session
  unwritten _ h := prepared_of_error h
  unmapped _ _ _ _ _ hsql hsplit hbefore h := prepared_of_unmapped hsql hsplit hbefore h
  prepares _ _ := prepared_eq_ok
  orderly sql needed _ past moves := (Scene.proceeds_run sql needed past moves).orderly
  asks _ _ _ _ _ := by
    rw [Scene.loader_run, Scene.start, Loader.run_reached, Loader.run_reached]
  once _ _ _ _ _ _ _ hunfolds dataset _ := by
    rcases Loader.imported_once dataset.table hunfolds with hnever | ⟨honce, -⟩
    · omega
    · omega
  tables _ _ h := tableNames_prepared h
  conducted _ _ h _ _ _ hpast := Action.conducts_execute h hpast

/-- Sales joined to themselves: two tables with the same data. -/
def salesTwice : Insight :=
  { salesAndTargets with
    metrics := []
    groupBy := []
    joins := [⟨salesAndTargets.base, [], ⟨"s1", "s1"⟩, .inner⟩] }

/-- Both callers of the run share one load. The run looks when only the first one has heard of its end, and
again when both have. -/
def sharedMoves : List Move :=
  [.event (.start 0), .event (.reply 0 (.probed (.ok false))), .event (.reply 0 (.dropped (.ok ()))),
    .event (.reply 0 (.fetched (.ok (some [1])))), .event (.reply 0 (.imported (.ok ()))),
    .event (.resume 0), .look, .event (.retire 0), .event (.resume 1), .look]

/-- A run that has asked twice for the same table. -/
def pairedScene (sql : String) : Scene :=
  .start sql [Loader.sampleDataset, Loader.sampleDataset] (Loader.reached [])

open Loader in
theorem truthful_sharedMoves :
    Unfolds Truthful [] ([] ++ [sampleDataset, sampleDataset].map .ensure ++ Move.events sharedMoves)
      ["df_a"] := by
  have before : Unfolds Truthful [] [] [] := .start
  have first := before.still (.ensure sampleDataset) (by simp) rfl
  have asked := first.still (.ensure sampleDataset) (by simp) rfl
  have started := asked.still (.start 0) (by simp) rfl
  have probed := @Unfolds.next Truthful [] _ [] [] (.reply 0 (.probed (.ok false))) started <| by
    refine ⟨?_, by decide +kernel, fun table => Or.inl Iff.rfl⟩
    intro position result load hevent
    cases hevent
    simp
  have dropped := probed.still (.reply 0 (.dropped (.ok ()))) (by simp) rfl
  have fetched := dropped.still (.reply 0 (.fetched (.ok (some [1])))) (by simp) rfl
  have imported := @Unfolds.next Truthful [] _ [] ["df_a"] (.reply 0 (.imported (.ok ()))) fetched <| by
    refine ⟨by simp, by decide +kernel, ?_⟩
    intro table
    by_cases htable : table = "df_a"
    · subst htable
      refine Or.inr ⟨⟨sampleDataset, .importing [1], _⟩, List.mem_singleton.mpr rfl, Or.inr ⟨[1], rfl⟩⟩
    · simp [htable]
  have heard := imported.still (.resume 0) (by simp) rfl
  exact (heard.still (.retire 0) (by simp) rfl).still (.resume 1) (by simp) rfl

/-- A session whose store holds the data of both tables. -/
def storedSession : Session MemoryStore :=
  .start ⟨[("k", [1])]⟩

theorem calls_salesTwice :
    let done := (Action.execute 0 salesTwice.apart [("a", Loader.sampleDataset)]).run.run storedSession
    done.1.isOk = true ∧ done.2.engine.calls = [.query (probeStatement "df_a"),
      .query (dropStatement "df_a"), .bulkImport "df_a" [1]] ++
        [.query (salesTwice.apart.sql.toOption.getD "")] :=
  ⟨by decide +kernel, by decide +kernel⟩

/-- The statement over both tables is sent at the second look, when the shared load has imported their data
once and both callers have heard of it. A session that runs the insight has this load probe, drop and import
first. Without the data nothing is asked for. -/
theorem sent_after_loading_salesTwice :
    salesTwice.apart.prepared [] = .error (.missingDataset "sales" false) ∧
      ∃ sql s, salesTwice.apart.prepared [("a", Loader.sampleDataset)] =
          .ok (sql, [Loader.sampleDataset, Loader.sampleDataset]) ∧
        salesTwice.apart.statement = .ok s ∧ s.tableNames = ["df_a", "df_a"] ∧
        (pairedScene sql).sent (sharedMoves.take 7) = [] ∧ (pairedScene sql).sent sharedMoves = [sql] ∧
        (Loader.observed Loader.imported .empty
          ([Loader.sampleDataset, Loader.sampleDataset].map .ensure ++ Move.events sharedMoves)).count
            "df_a" ≤ 1 ∧
        let done := (Action.execute 0 salesTwice.apart [("a", Loader.sampleDataset)]).run.run storedSession
        ∃ events asked, Session.Conducts sql [Loader.sampleDataset, Loader.sampleDataset] 0 [] events
            storedSession asked done ∧
          asked.engine.calls = [.query (probeStatement "df_a"), .query (dropStatement "df_a"),
            .bulkImport "df_a" [1]] ∧
          done.2.engine.calls = asked.engine.calls ++ [.query sql] := by
  have hsome : salesTwice.apart.sql.toOption.isSome = true := by decide +kernel
  cases hsql : salesTwice.apart.sql with
  | error fault => simp [hsql, Except.toOption] at hsome
  | ok sql =>
    have hempty := sent_after_loading MemoryStore salesTwice.apart []
    have hknown := sent_after_loading MemoryStore salesTwice.apart [("a", Loader.sampleDataset)]
    have hprepared := (hknown.prepares sql _).mpr ⟨hsql, .cons rfl (.cons rfl .nil)⟩
    have hids : ∀ id dataset, [("a", Loader.sampleDataset)].lookup id = some dataset →
        dataset.id = id := by
      intro id dataset hlookup
      obtain ⟨rfl, rfl⟩ : id = "a" ∧ dataset = Loader.sampleDataset := by
        simpa using Fields.mem_of_lookup hlookup
      rfl
    obtain ⟨s, hs, -, hnames⟩ := hknown.tables _ _ hprepared hids
    have hearly : (pairedScene sql).sent (sharedMoves.take 7) = [] := by
      by_contra hsent
      have hserved := (hknown.orderly _ _ hprepared [] (sharedMoves.take 7)).loaded hsent
      obtain ⟨-, hrest⟩ := List.forall₂_cons.mp hserved
      have hwaiting : some (Caller.waiting 0) = some (.answered (.ok "df_a")) :=
        (List.forall₂_cons.mp hrest).1
      cases hwaiting
    have hlast : (pairedScene sql).sent (sharedMoves.take 9 ++ [.look]) = [sql] := by
      rw [Scene.sent_append]
      exact (hknown.orderly _ _ hprepared [] (sharedMoves.take 9)).goes (.cons rfl (.cons rfl .nil))
    have honce := hknown.once _ _ hprepared [] sharedMoves _ _ truthful_sharedMoves _ List.mem_cons_self
    have hrefused := hempty.unmapped sql [] _ false _ hsql rfl (by simp) rfl
    obtain ⟨events, asked, hconducts⟩ := hknown.conducted _ _ hprepared 0 [] storedSession rfl
    obtain ⟨hrows, hcalls⟩ := calls_salesTwice
    rw [hsql] at hcalls
    have hsent := Action.calls_of_conducts hconducts hrows
    have hloads := List.append_cancel_right (hsent.symm.trans hcalls)
    exact ⟨hrefused, sql, s, hprepared, hs, hnames, hearly, hlast, honce, events, asked, hconducts, hloads,
      hsent⟩

end InsightObject
end Insights
