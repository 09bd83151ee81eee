import Insights.Proofs.Loading.Loaded
import Insights.Proofs.Loading.Renewal
import Insights.Proofs.Loading.Sharing
import Insights.Proofs.Session.Calls

/-!
How a load comes to its end within a session. While it is pursued, the other loads and all callers stay as
they are. If nothing is refused or held back and its payload is stored, a load of a table that is not there
probes it, drops it and imports exactly that payload; whoever asked for the table is then told its name.
-/

namespace Insights

theorem Load.after_start (load : Load) (position : Nat) :
    load.after position (.start position) = load.start :=
  if_pos rfl

theorem Load.after_reply (load : Load) (position : Nat) (reply : Reply) :
    load.after position (.reply position reply) = load.advance reply :=
  if_pos rfl

namespace Session

variable {σ : Type} {loader position : Nat} {before middle after session : Session σ}

/-- Between the two sessions nothing happened to a loader but steps of its load at a position. -/
structure Pursues (loader position : Nat) (before after : Session σ) : Prop where
  callers : (after.loaders loader).callers = (before.loaders loader).callers
  others : ∀ other ≠ position, after.load? loader other = before.load? loader other
  loaded : ∀ table ∈ (before.loaders loader).loaded, table ∈ (after.loaders loader).loaded

theorem pursues_of_loaders (h : after.loaders = before.loaders) : Pursues loader position before after where
  callers := by rw [h]
  others other _ := by rw [load?, load?, h]
  loaded table htable := by rwa [h]

theorem Pursues.trans (h : Pursues loader position before middle)
    (h' : Pursues loader position middle after) : Pursues loader position before after where
  callers := h'.callers.trans h.callers
  others other hother := (h'.others other hother).trans (h.others other hother)
  loaded table htable := h'.loaded table (h.loaded table htable)

theorem loaders_forward (session : Session σ) (loader position : Nat) (event : Event) :
    (session.forward loader position event).loaders loader = (session.loaders loader).step event := by
  rw [forward, loaders_recordRequest]
  simp [apply]

theorem pursues_start (session : Session σ) (loader position : Nat) :
    Pursues loader position session (session.forward loader position (.start position)) where
  callers := by
    rw [loaders_forward]
    rfl
  others other hother := by
    rw [load?, loaders_forward]
    simp [Loader.step, load?, Ne.symm hother]
  loaded table htable := by
    rw [loaders_forward]
    exact htable

theorem pursues_reply (session : Session σ) (loader position : Nat) (reply : Reply) :
    Pursues loader position session (session.forward loader position (.reply position reply)) where
  callers := by
    rw [loaders_forward, Loader.step, Loader.reply]
    split <;> rfl
  others other hother := by
    rw [load?, loaders_forward, Loader.step, Loader.reply]
    split
    · rfl
    · exact List.getElem?_set_ne (Ne.symm hother)
  loaded table htable := by
    rw [loaders_forward, Loader.mem_loaded_step]
    exact .inr ⟨htable, id⟩

/-- Neither the engine nor the store refuses what loads ask for, and imports are not held back. -/
structure Willing (session : Session σ) : Prop where
  probe : session.engine.faults .probe = none
  drop : session.engine.faults .drop = none
  bulkImport : session.engine.faults .bulkImport = none
  fetch : session.fetchFault = none
  free : session.held = false

theorem Works.willing {spared : String → Prop} (hworks : Works spared before after) (h : before.Willing) :
    after.Willing where
  probe := by rw [hworks.faults, h.probe]
  drop := by rw [hworks.faults, h.drop]
  bulkImport := by rw [hworks.faults, h.bulkImport]
  fetch := hworks.fetchFault.trans h.fetch
  free := hworks.held.trans h.free

theorem isHeld_of_free (h : session.held = false) (request : Request) : session.isHeld request = false := by
  cases request with
  | bulkImport table data => exact h
  | _ => rfl

variable [ByteStore σ]

theorem pursues_pursueLoad (session : Session σ) (loader position : Nat) :
    Pursues loader position session (session.pursueLoad loader position) := by
  obtain ⟨steps, hsteps⟩ := session.exists_pursue loader position
  rw [hsteps]
  refine pursue_rel (fun _ => pursues_of_loaders rfl) Pursues.trans ?_ ?_ session steps
  · intro session _ _ _
    exact pursues_start session loader position
  · intro session load request _ _
    exact (pursues_of_loaders (loaders_serve session request)).trans (pursues_reply _ loader position _)

/-- Loads that are pursued leave a load that is none of them as it is, and all callers. -/
theorem untouched_of_pursued (session : Session σ) (loader : Nat) {positions : List Nat}
    (hother : position ∉ positions) :
    let after := positions.foldl (fun s position => s.pursueLoad loader position) session
    after.load? loader position = session.load? loader position ∧
      (after.loaders loader).callers = (session.loaders loader).callers := by
  induction positions generalizing session with
  | nil => exact ⟨rfl, rfl⟩
  | cons first rest ih =>
    rw [List.mem_cons, not_or] at hother
    obtain ⟨hload, hcallers⟩ := ih (session.pursueLoad loader first) hother.2
    have hfirst := session.pursues_pursueLoad loader first
    exact ⟨hload.trans (hfirst.others position hother.1), hcallers.trans hfirst.callers⟩

/-! ### What is answered -/

variable {table : String}

omit [ByteStore σ] in
theorem answer_probe (h : session.Willing) (habsent : session.engine.tables.lookup table = none) :
    session.engine.answer (probeStatement table) = .ok [] := by
  have hother : (session.engine.tables.any fun entry => probeStatement entry.1 == probeStatement table) =
      false := by
    rw [List.any_eq_false]
    intro entry hentry hsame
    obtain hname := probeStatement_injective (beq_iff_eq.mp hsame)
    have hne := List.lookup_eq_none_iff.mp habsent entry hentry
    simp [hname] at hne
  rw [ScriptedEngine.answer, pointOf_probeStatement]
  simp only [ScriptedEngine.orRaise, h.probe, hother]
  rfl

theorem serve_probe (h : session.Willing) (habsent : session.engine.tables.lookup table = none) :
    session.serve (.probe table) = (.probed (.ok false), session) := by
  rw [serve, answer_probe h habsent]
  rfl

theorem serve_drop (h : session.Willing) :
    (session.serve (.drop table)).1 = .dropped (.ok ()) := by
  simp only [serve, ScriptedEngine.answer, pointOf_dropStatement, ScriptedEngine.orRaise, h.drop]
  rfl

theorem serve_fetch {key : String} {payload : Bytes} (h : session.Willing)
    (hstored : ByteStore.fetch? session.store key = some payload) :
    session.serve (.fetch key) = (.fetched (.ok (some payload)), session) := by
  simp only [serve, fetched, h.fetch, hstored]

theorem serve_bulkImport (h : session.Willing) (table : String) (payload : Bytes) :
    (session.serve (.bulkImport table payload)).1 = .imported (.ok ()) ∧
      (session.serve (.bulkImport table payload)).2.engine.tables.lookup table = some payload := by
  simp only [serve, ScriptedEngine.fill, ScriptedEngine.orRaise, h.bulkImport, true_and]
  rw [Fields.lookup_put, if_pos rfl]

theorem calls_serve (session : Session σ) (request : Request) :
    (session.serve request).2.engine.calls = session.engine.calls := by
  cases request with
  | probe table => rfl
  | fetch key => rfl
  | drop table =>
    obtain ⟨tables, heffect, -⟩ := session.engine.effect_drop table
    simp only [serve, onEngine, heffect]
  | bulkImport table data =>
    obtain ⟨tables, hfill, -⟩ := session.engine.fill_tables table data
    simp only [serve, hfill]

/-! ### A load on its way -/

variable {load : Load} {calls : List EngineCall}

theorem pursue_of_ended (hload : session.load? loader position = some load) {outcome : Except Fault Unit}
    (houtcome : load.outcome? = some outcome) (steps : Nat) :
    session.pursue loader position steps = session := by
  cases steps with
  | zero => rfl
  | succ steps =>
    rw [pursue, hload]
    cases hphase : load.phase <;> simp [Load.outcome?, hphase] at houtcome
    simp only [hphase, Load.request?, Load.requestIn]

/-- The first step of a load asks its first question. -/
theorem pursue_of_begun (hload : session.load? loader position = some load) (hphase : load.phase = .begun)
    (steps : Nat) : session.pursue loader position (steps + 1) =
      (session.forward loader position (.start position)).pursue loader position steps := by
  rw [pursue, hload]
  simp only [hphase]

/-- Every other step has a question answered, if it is not held back, and asks the next one. -/
theorem pursue_of_request (hload : session.load? loader position = some load) {request : Request}
    (hrequest : load.request? = some request) (hfree : session.isHeld request = false) (steps : Nat) :
    session.pursue loader position (steps + 1) =
      ((session.serve request).2.forward loader position
        (.reply position (session.serve request).1)).pursue loader position steps := by
  rw [pursue, hload]
  cases hphase : load.phase <;> simp [Load.request?, Load.requestIn, hphase] at hrequest <;>
    simp only [hphase, Load.request?, Load.requestIn, hrequest, hfree] <;> rfl

/-- Where a load stands that began in an earlier session, and what it has asked of the engine since. -/
structure Stage (loader position : Nat) (before : Session σ) (load : Load) (calls : List EngineCall)
    (session : Session σ) : Prop where
  load : session.load? loader position = some load
  calls : session.engine.calls = before.engine.calls ++ calls
  works : Works (fun _ => False) before session

omit [ByteStore σ] in
/-- An event of the load takes it forward, and what it asks then is recorded. -/
theorem Stage.forward (h : Stage loader position before load calls session) {event : Event}
    (hevent : Loader.ensured [event] = []) {next : Load} (hnext : load.after position event = next) :
    Stage loader position before next (calls ++ (next.request?.bind Request.call?).toList)
      (session.forward loader position event) where
  load := by
    rw [load?_forward, Loader.loads_step h.load, hnext]
  calls := by
    have hasked :
        ((session.apply loader event).load? loader position).bind Load.request? = next.request? := by
      rw [load?_apply, Loader.loads_step h.load, hnext]
      rfl
    rw [Session.forward, hasked, calls_recordRequest, ← List.append_assoc, ← h.calls]
    rfl
  works := by
    have hforward : Works (fun _ => False) session (session.forward loader position event) :=
      works_forward (fun _ _ _ _ _ => id) (Nat.lt_succ_self position) hevent
    exact h.works.trans hforward

theorem Stage.serve (h : Stage loader position before load calls session) (request : Request) :
    Stage loader position before load calls (session.serve request).2 where
  load := by
    rw [load?, loaders_serve]
    exact h.load
  calls := (calls_serve session request).trans h.calls
  works := h.works.trans (works_serve session fun _ _ => id)

omit [ByteStore σ] in
theorem tables_forward (session : Session σ) (loader position : Nat) (event : Event) :
    (session.forward loader position event).engine.tables = session.engine.tables := by
  rw [forward]
  cases ((session.apply loader event).load? loader position).bind Load.request? with
  | none => rfl
  | some request =>
    rw [recordRequest_some]
    cases request.call? <;> rfl

theorem Stage.begin (h : Stage loader position before load calls session) (hphase : load.phase = .begun)
    {next : Load} (hnext : load.start = next) (steps : Nat) :
    ∃ after, session.pursue loader position (steps + 1) = after.pursue loader position steps ∧
      Stage loader position before next (calls ++ (next.request?.bind Request.call?).toList) after ∧
      after.engine.tables = session.engine.tables := by
  exact ⟨session.forward loader position (.start position), pursue_of_begun h.load hphase steps,
    h.forward rfl ((Load.after_start load position).trans hnext), tables_forward _ _ _ _⟩

/-- When the last question of a load is answered and it ends well, the table is loaded. -/
theorem Stage.ask (h : Stage loader position before load calls session) (hwilling : before.Willing)
    {request : Request} (hrequest : load.request? = some request) {reply : Reply}
    (hreply : (session.serve request).1 = reply) {next : Load} (hnext : load.advance reply = next)
    (steps : Nat) :
    ∃ after, session.pursue loader position (steps + 1) = after.pursue loader position steps ∧
      Stage loader position before next (calls ++ (next.request?.bind Request.call?).toList) after ∧
      after.engine.tables = (session.serve request).2.engine.tables ∧
      (next.outcome? = some (.ok ()) → load.table ∈ (after.loaders loader).loaded) := by
  have hfree := isHeld_of_free (h.works.willing hwilling).free request
  subst hreply
  refine ⟨_, pursue_of_request h.load hrequest hfree steps,
    (h.serve request).forward rfl ((Load.after_reply load position _).trans hnext),
    tables_forward _ _ _ _, fun hended => ?_⟩
  rw [loaders_forward, Loader.mem_loaded_step]
  refine .inl (Loader.completes_iff.mpr ⟨position, _, load, rfl, (h.serve request).load, rfl,
    Load.outcome?_of_request hrequest, ?_⟩)
  rw [hnext, hended]

/-- A load of a table that is not there, with its payload stored where the dataset says, imports exactly
this payload and ends well. -/
theorem stage_pursueLoad {dataset : Dataset} {payload : Bytes}
    (hload : session.load? loader position = some (.ofDataset dataset)) (hwilling : session.Willing)
    (hlocal : dataset.storage.kind = .local)
    (hstored : ByteStore.fetch? session.store dataset.storage.locator = some payload)
    (habsent : session.engine.tables.lookup dataset.table = none) :
    ∃ load, load.table = dataset.table ∧ load.outcome? = some (.ok ()) ∧
      Stage loader position session load
        [.query (probeStatement dataset.table), .query (dropStatement dataset.table),
          .bulkImport dataset.table payload] (session.pursueLoad loader position) ∧
      (session.pursueLoad loader position).engine.tables.lookup dataset.table = some payload ∧
      dataset.table ∈ ((session.pursueLoad loader position).loaders loader).loaded := by
  have hbegun : Stage loader position session (.ofDataset dataset) [] session :=
    ⟨hload, (List.append_nil _).symm, works_self session⟩
  have hpursued : session.pursueLoad loader position = session.pursue loader position 5 := by
    rw [pursueLoad, hload]
    rfl
  have habsence : ∀ asked, Load.advance ⟨dataset, .probing, asked⟩ (.probed (.ok false)) =
      ⟨dataset, .dropping, asked ++ [.drop dataset.table]⟩ := by
    intro asked
    simp only [Load.advance, Load.nextPhase?, Load.absentPhase, hlocal]
    rfl
  obtain ⟨first, hfirst, hprobing, htables⟩ := hbegun.begin rfl rfl 4
  rw [← htables] at habsent
  have hprobed := serve_probe (hprobing.works.willing hwilling) habsent
  obtain ⟨second, hsecond, hdropping, -⟩ :=
    hprobing.ask hwilling rfl (congrArg Prod.fst hprobed) (habsence _) 3
  obtain ⟨third, hthird, hfetching, -⟩ :=
    hdropping.ask hwilling rfl (serve_drop (hdropping.works.willing hwilling)) rfl 2
  rw [← hfetching.works.store] at hstored
  have hfetched := serve_fetch (hfetching.works.willing hwilling) hstored
  obtain ⟨fourth, hfourth, himporting, -⟩ :=
    hfetching.ask hwilling rfl (congrArg Prod.fst hfetched) rfl 1
  obtain ⟨himported, hheld⟩ :=
    serve_bulkImport (himporting.works.willing hwilling) dataset.table payload
  obtain ⟨last, hlast, hended, htables, hloaded⟩ := himporting.ask hwilling rfl himported rfl 0
  have hresult : session.pursueLoad loader position = last := by
    rw [hpursued, hfirst, hsecond, hthird, hfourth, hlast, pursue]
  rw [hresult]
  have htable := hloaded rfl
  have hcontent : last.engine.tables.lookup dataset.table = some payload := by
    rw [htables]
    exact hheld
  exact ⟨⟨dataset, .ended (.ok ()), _⟩, rfl, rfl, hended, hcontent, htable⟩

end Session

namespace Loader

variable {loader : Loader} {number position : Nat} {dataset : Dataset} {load : Load}
  {outcome : Except Fault Unit}

/-- Whoever shares a load that has ended, is resumed and not cancelled is told its outcome. -/
theorem answered_of_resumed (h : Shares number position dataset loader)
    (hload : loader.loads[position]? = some load) (houtcome : load.outcome? = some outcome)
    {events : List Event} (hkept : ∀ event ∈ events, event ≠ .cancel number)
    (hresumed : .resume number ∈ events) :
    (loader.run events).callers[number]? = some (.answered (outcome.map fun _ => dataset.table)) := by
  induction events generalizing loader with
  | nil => simp at hresumed
  | cons event rest ih =>
    rw [List.forall_mem_cons] at hkept
    by_cases hevent : event = .resume number
    · subst hevent
      exact answered_of_shares h hload houtcome rest
    · exact ih (shares_step h hkept.1) (loads_step_of_ended hload houtcome event) hkept.2
        ((List.mem_cons.mp hresumed).resolve_left (Ne.symm hevent))

theorem mem_loaded_run {events : List Event} {table : String} (h : table ∈ loader.loaded)
    (hkept : ∀ event ∈ events, ¬ Forgets table event) : table ∈ (loader.run events).loaded := by
  induction events generalizing loader with
  | nil => exact h
  | cons event rest ih =>
    rw [List.forall_mem_cons] at hkept
    exact ih ((mem_loaded_step loader event table).mpr (.inr ⟨h, hkept.1⟩)) hkept.2

/-- What lets callers hear cancels nobody and forgets no table. -/
theorem mem_hearing {event : Event} (h : event ∈ loader.hearing) :
    (∃ position, event = .retire position) ∨ ∃ number, event = .resume number := by
  rcases List.mem_append.mp h with hretire | hresume
  · obtain ⟨position, -, rfl⟩ := List.mem_map.mp hretire
    exact .inl ⟨position, rfl⟩
  · obtain ⟨number, -, rfl⟩ := List.mem_map.mp hresume
    exact .inr ⟨number, rfl⟩

theorem not_cancel_hearing (number : Nat) : ∀ event ∈ loader.hearing, event ≠ .cancel number := by
  rintro event hevent rfl
  rcases mem_hearing hevent with ⟨_, hretire⟩ | ⟨_, hresume⟩
  · cases hretire
  · cases hresume

/-- Everybody is among those who hear. -/
theorem resume_mem_hearing {caller : Caller} (h : loader.callers[number]? = some caller) :
    .resume number ∈ loader.hearing :=
  List.mem_append_right _ (List.mem_map_of_mem
    (List.mem_range.mpr (List.getElem?_eq_some_iff.mp h).1))

/-- A table of which no load was ever begun is idle. -/
theorem idle_of_unloaded {events : List Event} {table : String}
    (h : ∀ load ∈ (reached events).loads, load.table ≠ table) : Idle table (reached events) where
  notLoaded hloaded := by
    have hsettled : Settled 0 table (reached ([] ++ events)) :=
      settled_of_loaded (idle_empty table) hloaded
    obtain ⟨position, load, -, hload, htable, -⟩ := hsettled
    exact h load (List.mem_of_getElem? hload) htable
  notInflight := by
    rw [Option.eq_none_iff_forall_ne_some]
    intro position hlookup
    obtain ⟨load, hload, htable⟩ := registered_reached events table position hlookup
    exact h load (List.mem_of_getElem? hload) htable

end Loader

namespace Session

variable {σ : Type} [ByteStore σ] {session : Session σ} {spared : String → Prop}
  {loader position number : Nat} {dataset : Dataset} {payload : Bytes}

omit [ByteStore σ] in
theorem not_forgets_hearing {table : String} :
    ∀ event ∈ (session.loaders loader).hearing, ¬ Loader.Forgets table event := by
  intro event hevent
  rcases Loader.mem_hearing hevent with ⟨_, rfl⟩ | ⟨_, rfl⟩ <;> exact id

/-- A loaded table stays loaded while loads are taken as far as they go. -/
theorem loaded_settle {table : String} (h : table ∈ (session.loaders loader).loaded) :
    table ∈ ((session.settle loader).loaders loader).loaded := by
  have hpursued : ∀ positions : List Nat, table ∈ ((positions.foldl
      (fun s position => s.pursueLoad loader position) session).loaders loader).loaded := by
    intro positions
    induction positions generalizing session with
    | nil => exact h
    | cons position rest ih => exact ih ((session.pursues_pursueLoad loader position).loaded table h)
  rw [settle_eq, loaders_applyAll]
  exact Loader.mem_loaded_run (hpursued _) not_forgets_hearing

/-- When the last load of a loader has just begun, its table is not there and its payload is stored, taking
all loads as far as they go has the load import this payload, and who waits for it is told the table. Apart
from that the engine hears only from other loads. -/
theorem settle_stored (hloads : (session.loaders loader).loads.length = position + 1)
    (hload : session.load? loader position = some (.ofDataset dataset))
    (hcaller : (session.loaders loader).callers[number]? = some (.waiting position))
    (hallows : Allows spared loader position session) (hspared : spared dataset.table)
    (hwilling : session.Willing) (hlocal : dataset.storage.kind = .local)
    (hstored : ByteStore.fetch? session.store dataset.storage.locator = some payload)
    (habsent : session.engine.tables.lookup dataset.table = none) :
    ∃ others : List Request,
      (session.settle loader).engine.calls = session.engine.calls ++ (others.filterMap Request.call? ++
        [.query (probeStatement dataset.table), .query (dropStatement dataset.table),
          .bulkImport dataset.table payload]) ∧
      (∀ request ∈ others, ∀ table, Request.Names table request → ¬ spared table) ∧
      (session.settle loader).engine.tables.lookup dataset.table = some payload ∧
      dataset.table ∈ ((session.settle loader).loaders loader).loaded ∧
      (session.settle loader).outcome loader number = .ok dataset.table := by
  -- The load is pursued after all others, which leave it, its table and its caller alone.
  obtain ⟨earlier, hearlier⟩ : ∃ earlier, (List.range position).foldl
      (fun s position => s.pursueLoad loader position) session = earlier := ⟨_, rfl⟩
  have hpursued : session.pursued loader = earlier.pursueLoad loader position := by
    rw [pursued, hloads, List.range_succ, List.foldl_append, hearlier]
    rfl
  obtain ⟨hkept, hcallers⟩ := untouched_of_pursued session loader List.not_mem_range_self
  rw [hearlier] at hkept hcallers
  have hworks : Works spared session earlier := by
    rw [← hearlier]
    exact works_pursueLoads hallows fun _ => List.mem_range.mp
  obtain ⟨others, hnames, hcalls⟩ := hworks.calls
  obtain ⟨load, htable, hended, hstage, hcontent, hloaded⟩ := stage_pursueLoad (hkept.trans hload)
    (hworks.willing hwilling) hlocal (hworks.store ▸ hstored) ((hworks.catalog _ hspared).trans habsent)
  have hshares : Loader.Shares number position dataset ((session.pursued loader).loaders loader) := by
    refine ⟨load, hpursued ▸ hstage.load, htable, .inl ?_⟩
    rw [hpursued, (pursues_pursueLoad earlier loader position).callers, hcallers]
    exact hcaller
  have hanswered := Loader.answered_of_resumed hshares (hpursued ▸ hstage.load) hended
    (Loader.not_cancel_hearing number) (Loader.resume_mem_hearing hcaller)
  rw [settle_eq, engine_applyAll, loaders_applyAll, outcome, loaders_applyAll, hanswered, hpursued]
  refine ⟨others, ?_, hnames, hcontent, Loader.mem_loaded_run hloaded not_forgets_hearing, rfl⟩
  rw [hstage.calls, hcalls, List.append_assoc]

/-- No load of the table is open. -/
def Quiet (loader : Nat) (session : Session σ) (table : String) : Prop :=
  ∀ load ∈ (session.loaders loader).loads, load.table = table → load.outcome? ≠ none

omit [ByteStore σ] in
/-- Whoever asks for an idle table waits for a new load of it, the last one of the loader. -/
theorem begins_of_idle {asked : Session σ} (hasked : session.apply loader (.ensure dataset) = asked)
    (hidle : Loader.Idle dataset.table (session.loaders loader)) :
    (asked.loaders loader).loads = (session.loaders loader).loads ++ [.ofDataset dataset] ∧
      (asked.loaders loader).callers[(session.loaders loader).callers.length]? =
        some (.waiting (session.loaders loader).loads.length) := by
  have hloader : asked.loaders loader = (session.loaders loader).step (.ensure dataset) := by
    simp [← hasked, apply]
  obtain ⟨hbegins, hcallers⟩ := hidle.ensure
  rw [hloader, hcallers, List.getElem?_concat_length]
  exact ⟨Loader.loads_of_begins hbegins, rfl⟩

omit [ByteStore σ] in
/-- The loads before the new one ask nothing about tables of which no load was open. -/
theorem allows_quiet {asked : Session σ} {load : Load}
    (hloads : (asked.loaders loader).loads = (session.loaders loader).loads ++ [load]) :
    Allows (session.Quiet loader) loader (session.loaders loader).loads.length asked := by
  intro position hlt other hother hopen hquiet
  rw [load?, hloads, List.getElem?_append_left hlt] at hother
  exact hquiet other (List.mem_of_getElem? hother) rfl hopen

end Session

namespace Action

open Session

variable {σ : Type} [ByteStore σ] {session : Session σ} {loader : Nat} {dataset : Dataset} {payload : Bytes}

/-- Somebody asks for a table for the first time, which is not there while the payload of the dataset is
stored: the table is probed, dropped and imported from exactly this payload, and is loaded from then on.
Apart from that the engine hears only from loads of other tables that had not ended. -/
theorem run_ensureLoaded_stored (hreached : session.Reached)
    (hfirst : ∀ load ∈ (session.loaders loader).loads, load.table ≠ dataset.table)
    (hwilling : session.Willing) (hlocal : dataset.storage.kind = .local)
    (hstored : ByteStore.fetch? session.store dataset.storage.locator = some payload)
    (habsent : session.engine.tables.lookup dataset.table = none) :
    ∃ (after : Session σ) (others : List Request),
      (ensureLoaded loader dataset).run.run session = (.ok dataset.table, after) ∧
      after.engine.calls = session.engine.calls ++ (others.filterMap Request.call? ++
        [.query (probeStatement dataset.table), .query (dropStatement dataset.table),
          .bulkImport dataset.table payload]) ∧
      (∀ request ∈ others, ∀ table, Request.Names table request → table ≠ dataset.table ∧
        ∃ load ∈ (session.loaders loader).loads, load.table = table ∧ load.outcome? = none) ∧
      after.engine.tables.lookup dataset.table = some payload ∧ after.Reached ∧
      dataset.table ∈ (after.loaders loader).loaded := by
  obtain ⟨past, hpast⟩ := hreached loader
  have hidle : Loader.Idle dataset.table (session.loaders loader) := by
    rw [hpast] at hfirst ⊢
    exact Loader.idle_of_unloaded hfirst
  have hquiet : session.Quiet loader dataset.table :=
    fun load hload htable => absurd htable (hfirst load hload)
  obtain ⟨asked, hasked⟩ : ∃ asked, session.apply loader (.ensure dataset) = asked := ⟨_, rfl⟩
  obtain ⟨hloads, hcaller⟩ := begins_of_idle hasked hidle
  have hcount : (asked.loaders loader).loads.length = (session.loaders loader).loads.length + 1 := by
    rw [hloads, List.length_append, List.length_singleton]
  have hload : asked.load? loader (session.loaders loader).loads.length = some (.ofDataset dataset) := by
    rw [load?, hloads, List.getElem?_concat_length]
  have hworks : Works (fun _ => True) session asked := hasked ▸ works_apply session loader (.ensure dataset)
  rw [← hworks.store] at hstored
  rw [← hworks.catalog _ trivial] at habsent
  obtain ⟨others, hcalls, hnames, hcontent, hloaded, houtcome⟩ := settle_stored hcount hload hcaller
    (allows_quiet hloads) hquiet (hworks.willing hwilling) hlocal hstored habsent
  have hrun := run_ensureLoaded loader dataset session
  have hafter : (asked.settle loader).Reached := by
    have hadvances := advances_ensureLoaded loader dataset session
    rw [hrun, hasked] at hadvances
    exact hreached.advance hadvances
  rw [hasked, houtcome] at hrun
  refine ⟨asked.settle loader, others, hrun, ?_, ?_, hcontent, hafter, hloaded⟩
  · rw [hcalls, ← hasked]
    rfl
  · intro request hrequest table htable
    have hopen := hnames request hrequest table htable
    unfold Quiet at hopen
    push Not at hopen
    obtain ⟨load, hmember, rfl, hnone⟩ := hopen
    exact ⟨hfirst load hmember, load, hmember, rfl, hnone⟩

end Action
end Insights
