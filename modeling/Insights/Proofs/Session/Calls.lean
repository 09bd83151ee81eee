import Insights.Proofs.Dataset.TableName
import Insights.Proofs.Session.Loading
import Insights.Proofs.Value.Fields

/-!
What loading does to the rest of a session. Loads ask the engine for three things only, they change its
catalog only in their own tables, and they leave everything else as it is: the store, what is made to
fail, and whether imports are held back.
-/

namespace Insights

/-- The call to the engine that a request makes, if it makes one. -/
def Request.call? : Request → Option EngineCall
  | .probe table => some (.query (probeStatement table))
  | .drop table => some (.query (dropStatement table))
  | .bulkImport table data => some (.bulkImport table data)
  | .fetch _ => none

/-- The request is about the table. -/
def Request.Names (table : String) : Request → Prop
  | .probe name | .drop name | .bulkImport name _ => name = table
  | .fetch _ => False

theorem Load.names_request {load : Load} {request : Request} {table : String}
    (h : load.request? = some request) (hnames : request.Names table) : load.table = table := by
  cases hphase : load.phase <;> simp [request?, requestIn, hphase] at h <;> subst h
  case fetching => exact hnames.elim
  all_goals exact hnames

/-- Where nobody asks for a table, a load that has not ended was there and had not ended before. -/
theorem Loader.open_of_run {loader : Loader} {events : List Event} (hevents : ensured events = [])
    {position : Nat} {next : Load} (hnext : (loader.run events).loads[position]? = some next)
    (hopen : next.outcome? = none) :
    ∃ load, loader.loads[position]? = some load ∧ load.table = next.table ∧ load.outcome? = none := by
  induction events generalizing loader with
  | nil => exact ⟨next, hnext, rfl, hopen⟩
  | cons event rest ih =>
    obtain ⟨hevent, hrest⟩ := List.append_eq_nil_iff.mp
      ((List.filterMap_append (l := [event])).symm.trans hevents)
    obtain ⟨found, hfound, htable, hopen⟩ := ih hrest hnext
    rcases loads_step_cases hfound with ⟨load, hload, rfl⟩ | ⟨dataset, ⟨rfl, -⟩, -, -⟩
    · exact ⟨load, hload, (Load.table_after load position event).symm.trans htable,
        Load.open_of_after hopen⟩
    · cases hevent

theorem pointOf_probeStatement (table : String) :
    ScriptedEngine.pointOf (probeStatement table) = .probe := by
  have hstart : (probeStatement table).startsWith probeStart = true := by
    rw [String.startsWith_string_iff, probeStatement, existenceStatement, String.append_assoc,
      String.toList_append]
    exact List.prefix_append _ _
  rw [ScriptedEngine.pointOf, if_pos hstart]

theorem pointOf_dropStatement (table : String) :
    ScriptedEngine.pointOf (dropStatement table) = .drop := by
  have hstart : (dropStatement table).startsWith dropStart = true := by
    rw [String.startsWith_string_iff, dropStatement, String.toList_append]
    exact List.prefix_append _ _
  have hother : ¬ (dropStatement table).startsWith probeStart = true := by
    rw [String.startsWith_string_iff, dropStatement, String.toList_append]
    rintro ⟨rest, hrest⟩
    have hfirst : 'S' = 'D' := (List.cons.inj hrest).1
    exact absurd hfirst (by decide)
  rw [ScriptedEngine.pointOf, if_neg hother, if_pos hstart]

/-- Dropping a table changes the catalog in nothing but that table. -/
theorem ScriptedEngine.effect_drop (engine : ScriptedEngine) (table : String) :
    ∃ tables, engine.effect (dropStatement table) = { engine with tables } ∧
      ∀ other, other ≠ table → tables.lookup other = engine.tables.lookup other := by
  have hnames : (fun entry : String × Bytes => dropStatement entry.1 != dropStatement table) =
      fun entry => entry.1 != table := by
    funext entry
    rw [Bool.eq_iff_iff, bne_iff_ne, bne_iff_ne, dropStatement_injective.ne_iff]
  unfold effect
  split
  · refine ⟨_, rfl, fun other hother => ?_⟩
    rw [hnames, Fields.lookup_erase, if_neg hother]
  · exact ⟨engine.tables, rfl, fun _ _ => rfl⟩

/-- So does importing into a table. -/
theorem ScriptedEngine.fill_tables (engine : ScriptedEngine) (table : String) (data : Bytes) :
    ∃ tables, (engine.fill table data).2 = { engine with tables } ∧
      ∀ other, other ≠ table → tables.lookup other = engine.tables.lookup other := by
  unfold fill
  split
  · refine ⟨_, rfl, fun other hother => ?_⟩
    rw [Fields.lookup_put, if_neg hother]
  · exact ⟨engine.tables, rfl, fun _ _ => rfl⟩

namespace Session

variable {σ : Type} {spared : String → Prop} {before middle after session : Session σ}

/-- Between the two sessions nothing was done but what loads of tables that are not spared ask for. -/
structure Works (spared : String → Prop) (before after : Session σ) : Prop where
  store : after.store = before.store
  fetchFault : after.fetchFault = before.fetchFault
  held : after.held = before.held
  faults : after.engine.faults = before.engine.faults
  payload : after.engine.payload = before.engine.payload
  calls : ∃ requests : List Request, (∀ request ∈ requests, ∀ table, request.Names table → ¬ spared table) ∧
    after.engine.calls = before.engine.calls ++ requests.filterMap Request.call?
  catalog : ∀ table, spared table → after.engine.tables.lookup table = before.engine.tables.lookup table

theorem works_self (session : Session σ) : Works spared session session where
  store := rfl
  fetchFault := rfl
  held := rfl
  faults := rfl
  payload := rfl
  calls := ⟨[], by simp, (List.append_nil _).symm⟩
  catalog _ _ := rfl

theorem Works.trans (h : Works spared before middle) (h' : Works spared middle after) :
    Works spared before after where
  store := h'.store.trans h.store
  fetchFault := h'.fetchFault.trans h.fetchFault
  held := h'.held.trans h.held
  faults := h'.faults.trans h.faults
  payload := h'.payload.trans h.payload
  calls := by
    obtain ⟨early, hearly, hmiddle⟩ := h.calls
    obtain ⟨late, hlate, hafter⟩ := h'.calls
    refine ⟨early ++ late, fun request hrequest => ?_, ?_⟩
    · rcases List.mem_append.mp hrequest with hmember | hmember
      · exact hearly request hmember
      · exact hlate request hmember
    · rw [hafter, hmiddle, List.filterMap_append, List.append_assoc]
  catalog table htable := (h'.catalog table htable).trans (h.catalog table htable)

theorem works_apply (session : Session σ) (loader : Nat) (event : Event) :
    Works spared session (session.apply loader event) where
  store := rfl
  fetchFault := rfl
  held := rfl
  faults := rfl
  payload := rfl
  calls := ⟨[], by simp, (List.append_nil _).symm⟩
  catalog _ _ := rfl

theorem recordRequest_some (session : Session σ) (request : Request) :
    session.recordRequest (some request) =
      request.call?.elim session fun call => session.onEngine (·.record call) := by
  cases request <;> rfl

theorem calls_recordRequest (session : Session σ) (request : Option Request) :
    (session.recordRequest request).engine.calls =
      session.engine.calls ++ (request.bind Request.call?).toList := by
  cases request with
  | none => exact (List.append_nil _).symm
  | some request =>
    rw [recordRequest_some, Option.bind_some]
    cases request.call? with
    | none => exact (List.append_nil _).symm
    | some call => rfl

theorem works_recordRequest (session : Session σ) {request : Request}
    (h : ∀ table, request.Names table → ¬ spared table) :
    Works spared session (session.recordRequest (some request)) := by
  have hcalls : (session.recordRequest (some request)).engine.calls =
      session.engine.calls ++ [request].filterMap Request.call? := by
    rw [calls_recordRequest]
    cases hcall : request.call? <;> simp [hcall]
  refine ⟨?_, ?_, ?_, ?_, ?_, ⟨[request], ?_, hcalls⟩, ?_⟩
  case refine_6 =>
    intro asked hasked
    rw [List.mem_singleton.mp hasked]
    exact h
  all_goals
    rw [recordRequest_some]
    cases request.call? <;> intros <;> rfl

variable [ByteStore σ]

omit [ByteStore σ] in
theorem works_tables (session : Session σ) {tables : Fields Bytes}
    (h : ∀ table, spared table → tables.lookup table = session.engine.tables.lookup table) :
    Works spared session { session with engine := { session.engine with tables } } where
  store := rfl
  fetchFault := rfl
  held := rfl
  faults := rfl
  payload := rfl
  calls := ⟨[], by simp, (List.append_nil _).symm⟩
  catalog := h

/-- What is asked is answered from what there is, and changes at most the catalog in its own table. -/
theorem works_serve (session : Session σ) {request : Request}
    (h : ∀ table, request.Names table → ¬ spared table) :
    Works spared session (session.serve request).2 := by
  have hother : ∀ {table other : String}, request.Names table → spared other → other ≠ table := by
    rintro table other hnames hspared rfl
    exact h _ hnames hspared
  cases request with
  | probe table => exact works_self session
  | fetch key => exact works_self session
  | drop table =>
    obtain ⟨tables, heffect, hlookup⟩ := session.engine.effect_drop table
    simp only [serve, onEngine, heffect]
    exact works_tables session fun other hspared => hlookup other (hother rfl hspared)
  | bulkImport table data =>
    obtain ⟨tables, hfill, hlookup⟩ := session.engine.fill_tables table data
    simp only [serve, hfill]
    exact works_tables session fun other hspared => hlookup other (hother rfl hspared)

omit [ByteStore σ] in
theorem load?_apply (session : Session σ) (loader position : Nat) (event : Event) :
    (session.apply loader event).load? loader position =
      ((session.loaders loader).step event).loads[position]? := by
  simp [load?, apply]

omit [ByteStore σ] in
theorem load?_forward (session : Session σ) (loader position : Nat) (event : Event) :
    (session.forward loader position event).load? loader position =
      ((session.loaders loader).step event).loads[position]? := by
  rw [← load?_apply, forward, load?, loaders_recordRequest]
  rfl

/-! ### Loads that leave some tables alone -/

/-- None of the loads before a bound that have not ended is of a spared table. -/
def Allows (spared : String → Prop) (loader bound : Nat) (session : Session σ) : Prop :=
  ∀ position < bound, ∀ load, session.load? loader position = some load → load.outcome? = none →
    ¬ spared load.table

omit [ByteStore σ] in
/-- Where nobody asks for a table, no load begins. -/
theorem Allows.advance {loader bound : Nat} (h : Allows spared loader bound before)
    (hadvances : Advances loader [] before after) : Allows spared loader bound after := by
  obtain ⟨events, hensured, hafter, -⟩ := hadvances
  intro position hlt next hnext hopen
  rw [load?, hafter] at hnext
  obtain ⟨load, hload, htable, hopen⟩ := Loader.open_of_run hensured hnext hopen
  rw [← htable]
  exact h position hlt load hload hopen

omit [ByteStore σ] in
theorem works_forward {loader bound position : Nat} (h : Allows spared loader bound session)
    (hlt : position < bound) {event : Event} (hevent : Loader.ensured [event] = []) :
    Works spared session (session.forward loader position event) := by
  have happlied := advances_apply session loader event
  rw [hevent] at happlied
  simp only [forward]
  cases hrequest : ((session.apply loader event).load? loader position).bind Load.request? with
  | none => exact works_apply session loader event
  | some request =>
    obtain ⟨next, hnext, hasked⟩ := Option.bind_eq_some_iff.mp hrequest
    refine (works_apply session loader event).trans (works_recordRequest _ fun table hnames => ?_)
    exact Load.names_request hasked hnames ▸
      h.advance happlied position hlt next hnext (Load.outcome?_of_request hasked)

theorem works_pursue {loader bound position : Nat} (h : Allows spared loader bound session)
    (hlt : position < bound) (steps : Nat) : Works spared session (session.pursue loader position steps) := by
  refine (pursue_rel (R := fun first second => Advances loader [] first second ∧
    (Allows spared loader bound first → Works spared first second)) ?_ ?_ ?_ ?_ session steps).2 h
  · intro session
    exact ⟨advances_of_loaders rfl, fun _ => works_self session⟩
  · rintro first second third ⟨hfirst, hworks⟩ ⟨hsecond, hworks'⟩
    exact ⟨hfirst.trans hsecond, fun h => (hworks h).trans (hworks' (h.advance hfirst))⟩
  · intro session _ _ _
    exact ⟨advances_forward session loader position rfl, fun h => works_forward h hlt rfl⟩
  · intro session load request hload hrequest
    have hserved : Advances loader [] session (session.serve request).2 :=
      advances_of_loaders (loaders_serve session request)
    refine ⟨hserved.trans (advances_forward _ loader position rfl), fun h => ?_⟩
    have hnames : ∀ table, request.Names table → ¬ spared table := fun table hnames =>
      Load.names_request hrequest hnames ▸
        h position hlt load hload (Load.outcome?_of_request hrequest)
    exact (works_serve session hnames).trans (works_forward (h.advance hserved) hlt rfl)

theorem works_pursueLoad {loader bound position : Nat} (h : Allows spared loader bound session)
    (hlt : position < bound) : Works spared session (session.pursueLoad loader position) := by
  obtain ⟨steps, hsteps⟩ := session.exists_pursue loader position
  rw [hsteps]
  exact works_pursue h hlt steps

/-- The loads before a bound are taken as far as they go. -/
theorem works_pursueLoads {loader bound : Nat} (h : Allows spared loader bound session)
    {positions : List Nat} (hlt : ∀ position ∈ positions, position < bound) :
    Works spared session (positions.foldl (fun s position => s.pursueLoad loader position) session) := by
  induction positions generalizing session with
  | nil => exact works_self session
  | cons position rest ih =>
    rw [List.forall_mem_cons] at hlt
    exact (works_pursueLoad h hlt.1).trans
      (ih (h.advance (advances_pursueLoad session loader position)) hlt.2)

omit [ByteStore σ] in
theorem works_applyAll (session : Session σ) (loader : Nat) (events : List Event) :
    Works spared session (session.applyAll loader events) := by
  induction events generalizing session with
  | nil => exact works_self session
  | cons event rest ih => exact (works_apply session loader event).trans (ih _)

/-- Taking all loads as far as they go asks for nothing but what those that have not ended ask for. -/
theorem works_settle {loader : Nat} (h : Allows spared loader (session.loaders loader).loads.length session) :
    Works spared session (session.settle loader) := by
  rw [settle_eq]
  exact (works_pursueLoads h fun _ => List.mem_range.mp).trans (works_applyAll _ loader _)

end Session
end Insights
