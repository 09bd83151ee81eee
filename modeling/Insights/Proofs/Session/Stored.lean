import Insights.Proofs.Dataset.Creation
import Insights.Proofs.Session.Builder
import Insights.Proofs.Session.Pursuit
import Insights.Proofs.Store.Directory

/-!
What is stored is what is loaded. A payload is stored when a dataset is created from it, or when the rows of
a builder are stored as a new dataset. As long as nobody else uses its key, the first load of the dataset
imports exactly this payload into the table that is named after its id, and statements over the dataset
select from that table without asking for it again.
-/

namespace Insights

open Session

variable {σ α β : Type}

/-! ### Actions that leave loaded tables alone -/

/-- The spared tables are loaded, in a loader that has come about by events. -/
def Session.Guards (spared : String → Prop) (loader : Nat) (session : Session σ) : Prop :=
  ∀ table, spared table →
    (∃ past, session.loaders loader = Loader.reached past) ∧ table ∈ (session.loaders loader).loaded

namespace Action

variable {spared : String → Prop} {loader : Nat}

/-- The action asks nothing about tables that are loaded, and they stay loaded. -/
def Spares (spared : String → Prop) (loader : Nat) (action : Action σ α) : Prop :=
  ∀ session : Session σ, Guards spared loader session →
    Works spared session (action.run.run session).2 ∧ Guards spared loader (action.run.run session).2

theorem Spares.bind {action : Action σ α} {next : α → Action σ β} (haction : Spares spared loader action)
    (hnext : ∀ a, Spares spared loader (next a)) : Spares spared loader (action >>= next) := by
  intro session hguards
  obtain ⟨hworks, hguards'⟩ := haction session hguards
  rw [run_bind]
  rcases hrun : action.run.run session with ⟨result, middle⟩
  rw [hrun] at hworks hguards'
  cases result with
  | error fault => exact ⟨hworks, hguards'⟩
  | ok a =>
    obtain ⟨hworks', hguards''⟩ := hnext a middle hguards'
    exact ⟨hworks.trans hworks', hguards''⟩

theorem spares_liftM (outcome : Except Fault α) : Spares spared loader (liftM outcome : Action σ α) :=
  fun session hguards => ⟨works_self session, hguards⟩

variable [ByteStore σ]

/-- While a table is loaded no load of it is open, and whoever asks for it is answered at once. -/
theorem spares_ensureLoaded (dataset : Dataset) :
    Spares spared loader (ensureLoaded loader dataset : Action σ String) := by
  intro session hguards
  obtain ⟨asked, hasked⟩ : ∃ asked, session.apply loader (.ensure dataset) = asked := ⟨_, rfl⟩
  have hloader : asked.loaders loader = (session.loaders loader).step (.ensure dataset) := by
    simp [← hasked, apply]
  have hloaded : ∀ table, spared table → table ∈ (asked.loaders loader).loaded := by
    intro table htable
    rw [hloader, Loader.mem_loaded_step]
    exact .inr ⟨(hguards table htable).2, id⟩
  have hallows : Allows spared loader (asked.loaders loader).loads.length asked := by
    intro position _ load hload hopen hspared
    obtain ⟨⟨past, hpast⟩, -⟩ := hguards _ hspared
    have hreached : asked.loaders loader = Loader.reached (past ++ [.ensure dataset]) := by
      rw [hloader, hpast, Loader.reached_append]
    have hthere := hloaded _ hspared
    rw [load?, hreached] at hload
    rw [hreached] at hthere
    have hended := Loader.ended_of_loaded hthere load (List.mem_of_getElem? hload) rfl
    rw [hopen] at hended
    cases hended
  have hadvances := advances_ensureLoaded loader dataset session
  rw [run_ensureLoaded, hasked] at hadvances ⊢
  have happlied : Works spared session asked := hasked ▸ works_apply session loader (.ensure dataset)
  refine ⟨happlied.trans (works_settle hallows), fun table htable => ?_⟩
  refine ⟨?_, loaded_settle (hloaded table htable)⟩
  obtain ⟨⟨past, hpast⟩, -⟩ := hguards table htable
  obtain ⟨events, -, hafter, -⟩ := hadvances
  exact ⟨past ++ events, hafter.trans (hpast ▸ Loader.run_reached past events)⟩

/-- Whoever asks for a loaded table is told its name. -/
theorem run_ensureLoaded_loaded {dataset : Dataset} {session : Session σ}
    (h : dataset.table ∈ (session.loaders loader).loaded) :
    ((ensureLoaded loader dataset).run.run session).1 = .ok dataset.table := by
  have hcaller : ((session.apply loader (.ensure dataset)).loaders loader).callers[
      (session.loaders loader).callers.length]? = some (.answered (.ok dataset.table)) := by
    simp [apply, Loader.step, Loader.callers_ensure, Loader.welcome, h]
  obtain ⟨events, -, hsettled, -⟩ := advances_settle (session.apply loader (.ensure dataset)) loader
  rw [run_ensureLoaded, outcome, hsettled, Loader.answered_run hcaller]

theorem tracks_spares (spared : String → Prop) (loader : Nat) :
    @Tracks σ _ loader fun _ _ action => Spares spared loader action where
  decided := spares_liftM
  loaded := spares_ensureLoaded
  bind := Spares.bind

omit [ByteStore σ] in
theorem run_exportRows_ok {text : String} {data : Bytes} {session after : Session σ}
    (h : (exportRows text).run.run session = (.ok data, after)) :
    data = session.engine.payload := by
  have hrun : (exportRows text).run.run session =
      ((session.onEngine (·.record (.exportRows text))).engine.orRaise .exportRows session.engine.payload,
        session.onEngine (·.record (.exportRows text))) :=
    rfl
  rw [hrun] at h
  have hdata := (Prod.mk.inj h).1
  unfold ScriptedEngine.orRaise at hdata
  split at hdata
  · cases hdata
  · exact (Except.ok.inj hdata).symm

theorem run_create_ok {now : Int} {id : String} {draft : Dataset.Draft} {handle : Dataset}
    {session after : Session σ} (h : (create now id draft).run.run session = (.ok handle, after)) :
    Dataset.create now id draft session.store = (.ok handle, after.store) := by
  have hrun : (create now id draft).run.run session =
      ((Dataset.create now id draft session.store).1,
        { session with store := (Dataset.create now id draft session.store).2 }) :=
    rfl
  rw [hrun] at h
  obtain ⟨hhandle, rfl⟩ := Prod.mk.inj h
  exact Prod.ext hhandle rfl

end Action

variable [ByteStore σ]

/-- A statement of a builder asks nothing about tables that are loaded. -/
theorem BuilderAction.works_sql {spared : String → Prop} {builder : Builder} {session : Session σ}
    (h : session.Guards spared builder.loader) :
    Works spared session ((sql.run.run builder).run session).2 := by
  rw [run_sql]
  exact ((builder.tracks_statementText (Action.tracks_spares spared builder.loader)
    builder.operations).2 session h).1

/-! ### How payloads come to be stored -/

/-- The payload was stored for the handle, which left the store so: a dataset was created from it, or it
was exported as the rows of a builder and stored as a new dataset. -/
inductive Dataset.StoredAs : Bytes → Dataset → σ → Prop where
  | created {now : Int} {id : String} {draft : Draft} {handle : Dataset} {before after : σ} :
      create now id draft before = (.ok handle, after) → StoredAs draft.data handle after
  | exported {now : Int} {id : String} {builder remembered : Builder} {handle : Dataset}
      {before after : Session σ} :
      ((BuilderAction.save now id).run.run builder).run before = ((.ok handle, remembered), after) →
        StoredAs before.engine.payload handle after.store

namespace Dataset.StoredAs

variable {payload : Bytes} {handle : Dataset} {stored : σ}

/-- Either way the payload was saved under the key that the handle names. -/
theorem saved (h : StoredAs payload handle stored) :
    handle.storage = ⟨.local, arrowKey handle.id⟩ ∧
      ∃ before : σ, stored = ByteStore.save before (arrowKey handle.id) payload := by
  cases h with
  | @created now id draft _ before _ hcreate =>
    obtain ⟨rfl, hstorage, hafter⟩ := create_eq_ok hcreate
    exact ⟨hstorage, before, hafter⟩
  | @exported now id builder remembered _ before after hsave =>
    have hguards : before.Guards (fun _ => False) builder.loader := fun _ => False.elim
    have hworks := BuilderAction.works_sql hguards
    obtain ⟨text, kept, made, hsql, hsave⟩ := BuilderAction.run_bind_ok hsave
    obtain ⟨data, exported, sent, hexport, hcreate⟩ := BuilderAction.run_bind_ok hsave
    rw [hsql] at hworks
    have hdata := Action.run_exportRows_ok (BuilderAction.run_ofAction_ok hexport)
    obtain ⟨rfl, hstorage, hstored⟩ :=
      create_eq_ok (Action.run_create_ok (BuilderAction.run_ofAction_ok hcreate))
    rw [hdata, hworks.payload] at hstored
    exact ⟨hstorage, sent.store, hstored⟩

end Dataset.StoredAs

/-! ### What is loaded -/

theorem ByteStore.fetch?_saved {used : Set String} (hsep : Separates σ used) (store : σ) {key : String}
    (hkey : key ∈ used) (payload : Bytes) {calls : List StoreCall}
    (hcalls : ∀ call ∈ calls, call.key ∈ used ∧ call.key ≠ key) :
    fetch? (run (save store key payload) calls) key = some payload := by
  have hagrees : Agrees used (save store key payload) (fetch? (save store key payload)) := fun _ _ => rfl
  rw [hagrees.run hsep (fun call hcall => (hcalls call hcall).1) key hkey,
    StoreCall.replay_of_ne (fun call hcall => (hcalls call hcall).2),
    hsep.fetch?_save store payload key hkey key hkey, if_pos rfl]

namespace BuilderAction

open Operation

variable {loader : Nat} {dataset : Dataset} {session : Session σ}

/-- A builder over a dataset selects from the table that is named after it. -/
theorem selects_from_table (hreached : session.Reached) {operations : List Operation} {text : String}
    (h : ((sql.run.run ((Builder.ofDataset loader dataset).chain operations)).run session).1.1 = .ok text) :
    ∃ s joins, text = Sql.Statement.render s ∧ s.source = .tables ⟨⟨dataset.table, none⟩, joins⟩ := by
  rw [Builder.chain_eq] at h
  obtain ⟨s, hs, hrendered⟩ := statement_of_sql hreached h
  obtain ⟨joins, hsource, -⟩ := Plan.source_statement hs
  exact ⟨s, joins, hrendered.symm, hsource⟩

/-- While the table of a dataset is loaded, statements over the dataset are made when the joined datasets
load, and nothing is asked about the table for them. -/
theorem sql_of_loaded (hreached : session.Reached) (hloaded : dataset.table ∈ (session.loaders loader).loaded)
    (operations : List Operation) :
    Works (· = dataset.table) session
        ((sql.run.run ((Builder.ofDataset loader dataset).chain operations)).run session).2 ∧
      (Action.LoadsEach loader ((allJoins operations).map (·.right))
          ((Action.ensureLoaded loader dataset).run.run session).2 →
        ((sql.run.run ((Builder.ofDataset loader dataset).chain operations)).run session).1.1 =
          ((Plan.ofOperations operations).statement (.text dataset.table) Dataset.loaded).map
            Sql.Statement.render) := by
  rw [Builder.chain_eq]
  constructor
  · apply works_sql
    rintro _ rfl
    exact ⟨hreached loader, hloaded⟩
  · intro hjoins
    have hfirst : ∃ name, ((Action.ensureLoaded loader dataset).run.run session).1 = .ok name :=
      ⟨_, Action.run_ensureLoaded_loaded hloaded⟩
    exact sql_of_loads hreached ⟨hfirst, hjoins⟩

end BuilderAction

namespace Dataset

variable {payload : Bytes} {handle : Dataset}

/-- What is stored is what is loaded. However a payload was stored for a handle, and whatever was saved and
deleted under other keys since and before, the first load of the handle over the same store gives exactly
this payload to the engine, once and under the name of the table of the handle; besides that only loads of
other tables that were under way ask for something. From then on, as long as nobody has the table forgotten,
builders over the handle select from that table, whatever operations they have: their statements are made
whenever the joined datasets load, and ask nothing about the table. Keys are told apart by their digests,
and neither the engine nor the store refuses anything. -/
theorem loads_what_is_stored {stored : DirectoryStore} (hstored : StoredAs payload handle stored)
    {calls : List StoreCall} (hothers : ∀ call ∈ calls, call.key ≠ arrowKey handle.id)
    (hdistinct : Set.InjOn DirectoryStore.fileStem
      {key | key = arrowKey handle.id ∨ ∃ call ∈ calls, call.key = key})
    {session : Session DirectoryStore} (hstore : session.store = ByteStore.run stored calls)
    (hreached : session.Reached) {loader : Nat}
    (hfirst : ∀ load ∈ (session.loaders loader).loads, load.table ≠ tableName handle.id)
    (habsent : session.engine.tables.lookup (tableName handle.id) = none) (hwilling : session.Willing) :
    ∃ (after : Session DirectoryStore) (others : List Request),
      (Action.ensureLoaded loader handle).run.run session = (.ok (tableName handle.id), after) ∧
      after.engine.calls = session.engine.calls ++ (others.filterMap Request.call? ++
        [.query (probeStatement (tableName handle.id)), .query (dropStatement (tableName handle.id)),
          .bulkImport (tableName handle.id) payload]) ∧
      (∀ request ∈ others, ∀ table, Request.Names table request → table ≠ tableName handle.id ∧
        ∃ load ∈ (session.loaders loader).loads, load.table = table ∧ load.outcome? = none) ∧
      after.engine.tables.lookup (tableName handle.id) = some payload ∧ after.Reached ∧
      tableName handle.id ∈ (after.loaders loader).loaded ∧
      ∀ later : Session DirectoryStore, later.Reached → tableName handle.id ∈ (later.loaders loader).loaded →
        ∀ operations : List Operation,
          let made := (BuilderAction.sql.run.run
            ((Builder.ofDataset loader handle).chain operations)).run later
          (∀ text, made.1.1 = .ok text → ∃ s joins, text = Sql.Statement.render s ∧
            s.source = .tables ⟨⟨tableName handle.id, none⟩, joins⟩) ∧
          Works (· = tableName handle.id) later made.2 ∧
          (Action.LoadsEach loader ((Operation.allJoins operations).map (·.right))
              ((Action.ensureLoaded loader handle).run.run later).2 →
            made.1.1 = ((Plan.ofOperations operations).statement (.text (tableName handle.id))
              Dataset.loaded).map Sql.Statement.render) := by
  obtain ⟨hstorage, before, hsaved⟩ := hstored.saved
  have hfetch : ByteStore.fetch? session.store handle.storage.locator = some payload := by
    rw [hstore, hsaved, hstorage]
    refine ByteStore.fetch?_saved (DirectoryStore.separates hdistinct) before (.inl rfl) payload ?_
    exact fun call hcall => ⟨.inr ⟨call, hcall, rfl⟩, hothers call hcall⟩
  have hlocal : handle.storage.kind = .local := by rw [hstorage]
  obtain ⟨after, others, hrun, hcalls, hnames, hcontent, hafter, hloaded⟩ :=
    Action.run_ensureLoaded_stored hreached hfirst hwilling hlocal hfetch habsent
  refine ⟨after, others, hrun, hcalls, hnames, hcontent, hafter, hloaded, ?_⟩
  intro later hlater hthere operations
  obtain ⟨hworks, hmade⟩ := BuilderAction.sql_of_loaded hlater hthere operations
  exact ⟨fun text htext => BuilderAction.selects_from_table hlater htext, hworks, hmade⟩

/-- A payload of which a dataset was created. -/
def sampleDraft : Draft :=
  ⟨[1, 2, 3], .list [], .text "local", .null⟩

/-- The handle of that dataset. -/
def hyphenatedHandle : Dataset :=
  ⟨"a-b", ⟨.local, arrowKey "a-b"⟩, [], none, 0⟩

/-- Another dataset comes, and a third one goes. -/
def otherCalls : List StoreCall :=
  [.save (arrowKey "c") [9], .delete (arrowKey "d")]

/-- A session over the store afterwards. -/
def sampleSession : Session DirectoryStore :=
  Session.start (ByteStore.run (create 0 "a-b" sampleDraft DirectoryStore.empty).2 otherCalls)

theorem loads_what_is_stored_sampleDraft :
    create 0 "a-b" sampleDraft DirectoryStore.empty =
        (.ok hyphenatedHandle, (create 0 "a-b" sampleDraft DirectoryStore.empty).2) ∧
      ∃ after, (Action.ensureLoaded 0 hyphenatedHandle).run.run sampleSession = (.ok "df_a_b", after) ∧
        .bulkImport "df_a_b" [1, 2, 3] ∈ after.engine.calls ∧
        ((BuilderAction.sql.run.run ((Builder.ofDataset 0 hyphenatedHandle).chain
          [.limit (.integer 5)])).run after).1.1 = .ok "SELECT * FROM \"df_a_b\" LIMIT 5" := by
  have hresult : (create 0 "a-b" sampleDraft DirectoryStore.empty).1 = .ok hyphenatedHandle := by
    decide +kernel
  have hcreated : create 0 "a-b" sampleDraft DirectoryStore.empty =
      (.ok hyphenatedHandle, (create 0 "a-b" sampleDraft DirectoryStore.empty).2) := by
    rw [← hresult]
  have hothers : ∀ call ∈ otherCalls, call.key ≠ arrowKey hyphenatedHandle.id := by decide
  have hdistinct : Set.InjOn DirectoryStore.fileStem
      {key | key = arrowKey hyphenatedHandle.id ∨ ∃ call ∈ otherCalls, call.key = key} := by
    have hall : ∀ key ∈ arrowKey "a-b" :: otherCalls.map StoreCall.key,
        ∀ other ∈ arrowKey "a-b" :: otherCalls.map StoreCall.key,
          DirectoryStore.fileStem key = DirectoryStore.fileStem other → key = other := by
      decide +kernel
    have hlisted : ∀ key, (key = arrowKey hyphenatedHandle.id ∨ ∃ call ∈ otherCalls, call.key = key) →
        key ∈ arrowKey "a-b" :: otherCalls.map StoreCall.key := by
      rintro key (rfl | ⟨call, hcall, rfl⟩)
      · exact List.mem_cons_self
      · exact List.mem_cons_of_mem _ (List.mem_map_of_mem hcall)
    exact fun key hkey other hother => hall key (hlisted key hkey) other (hlisted other hother)
  have hreached : sampleSession.Reached := reached_start _
  have hnone : ∀ load ∈ (sampleSession.loaders 0).loads, load.table ≠ tableName hyphenatedHandle.id :=
    fun load hload => absurd hload List.not_mem_nil
  obtain ⟨after, others, hrun, hcalls, -, -, hafter, hloaded, hlater⟩ :=
    loads_what_is_stored (.created hcreated) hothers hdistinct rfl hreached hnone rfl
      ⟨rfl, rfl, rfl, rfl, rfl⟩
  have hmade := (hlater after hafter hloaded [.limit (.integer 5)]).2.2 trivial
  refine ⟨hcreated, after, hrun, ?_, hmade.trans (by decide +kernel)⟩
  rw [hcalls]
  exact List.mem_append_right _ (List.mem_append_right _ (.tail _ (.tail _ (.head _))))

-- The rows of a builder are stored as a dataset as well.
example : (((BuilderAction.save 0 "n").run.run (Builder.ofDataset 0 hyphenatedHandle)).run sampleSession).1.1 =
    .ok ⟨"n", ⟨.local, arrowKey "n"⟩, [], none, 0⟩ := by
  decide +kernel

end Dataset

end Insights
