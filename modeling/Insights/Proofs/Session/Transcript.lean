import Insights.Proofs.Loading.Gathering
import Insights.Proofs.Session.Pursuit

/-!
What a session has a loader go through, event by event. Taking loads as far as they go consists of events
that come of the loads themselves, and the engine hears exactly what the loads ask by these events, in their
order. Where imports are not held back all loads have ended afterwards, and everybody who waited for one was
told its outcome.
-/

namespace Insights

/-- The event comes of the loads themselves: by it nobody asks for a table, gives up, or takes tables off
the loaded ones. -/
def Event.isProgress : Event → Bool
  | .start _ | .reply _ _ | .retire _ | .resume _ => true
  | .ensure _ | .cancel _ | .invalidate _ | .invalidateAll => false

namespace Load

/-- A load that enters a phase asks what there is to ask in it, and nothing else. -/
theorem drop_asked_enter (load : Load) (phase : Phase) :
    (load.enter phase).asked.drop load.asked.length = (load.enter phase).request?.toList := by
  cases phase <;> simp [enter, request?, requestIn, table]

theorem start_of_begun {load : Load} (h : load.phase = .begun) : load.start = load.enter .probing := by
  rw [start, h]

theorem advance_of_fits {load : Load} {reply : Reply} {phase : Phase}
    (h : load.nextPhase? reply = some phase) : load.advance reply = load.enter phase := by
  rw [advance, h]

/-- Every phase that a load enters by a reply is nearer to its end. -/
theorem remaining_nextPhase? {load : Load} {reply : Reply} {phase : Phase}
    (h : load.nextPhase? reply = some phase) : phase.remaining < load.phase.remaining := by
  have habsent : load.absentPhase.remaining ≤ 3 := by
    unfold absentPhase
    split <;> simp [Phase.remaining]
  unfold nextPhase? at h
  split at h <;> simp_all [Phase.remaining, failedPhase] <;> grind [Phase.remaining]

/-- A load has not asked yet, waits for an answer, or has ended. -/
theorem begun_or_asking_or_ended (load : Load) : load.phase = .begun ∨
    (∃ request, load.request? = some request) ∨ ∃ outcome, load.outcome? = some outcome := by
  cases hphase : load.phase <;> simp [request?, requestIn, outcome?, hphase]

theorem outcome?_of_remaining {load : Load} (h : load.phase.remaining = 0) :
    ∃ outcome, load.outcome? = some outcome := by
  cases hphase : load.phase <;> simp_all [Phase.remaining, outcome?]

end Load

namespace Loader

variable {loader : Loader} {event : Event} {position : Nat} {load next : Load}

/-- What loads ask in the course of events, in order. -/
def requests (loader : Loader) (events : List Event) : List Request :=
  (observed asks loader events).map Prod.snd

theorem requests_append (loader : Loader) (early late : List Event) :
    loader.requests (early ++ late) = loader.requests early ++ (loader.run early).requests late := by
  induction early generalizing loader with
  | nil => rfl
  | cons event rest ih =>
    have hrest := ih (loader.step event)
    simp only [requests] at hrest ⊢
    simp only [List.cons_append, observed, List.map_append, hrest, List.append_assoc]
    rfl

/-- An event that takes no load forward makes nobody ask. -/
theorem asks_eq_nil (h : ∀ load position, Load.after load position event = load) :
    loader.asks event = [] := by
  rw [List.eq_nil_iff_forall_not_mem]
  rintro ⟨position, request⟩ hasked
  obtain ⟨next, hnext, hmember⟩ := mem_asks.mp hasked
  rcases loads_step_cases hnext with ⟨load, hload, rfl⟩ | ⟨dataset, -, -, rfl⟩
  · simp [askedBy, hload, h] at hmember
  · simp [Load.ofDataset] at hmember

/-- An event that changes one load makes only that one ask. -/
theorem asks_eq_of_set (hload : loader.loads[position]? = some load)
    (hstep : (loader.step event).loads = loader.loads.set position next) :
    loader.asks event =
      (next.asked.drop load.asked.length).map fun request => (position, request) := by
  obtain ⟨hlt, hfound⟩ := List.getElem?_eq_some_iff.mp hload
  obtain ⟨early, late, hloads, hposition, hset⟩ := @List.exists_of_set _ _ next _ hlt
  rw [hfound] at hloads
  have hnumbered : loader.loads.zipIdx =
      early.zipIdx ++ (load, position) :: late.zipIdx (position + 1) := by
    rw [hloads, List.zipIdx_append, List.zipIdx_cons, hposition, Nat.zero_add]
  -- the loads on either side ask nothing that they have not asked before
  have hstill : ∀ numbered : List (Load × Nat), numbered ⊆ loader.loads.zipIdx →
      (numbered.flatMap fun entry =>
        (entry.1.asked.drop (loader.askedBy entry.2).length).map fun request => (entry.2, request)) = [] := by
    intro numbered hsubset
    rw [List.flatMap_eq_nil_iff]
    rintro ⟨found, number⟩ hmember
    have hsame := List.mk_mem_zipIdx_iff_getElem?.mp (hsubset hmember)
    simp [askedBy, hsame]
  have hasks : loader.asks event = (loader.step event).loads.zipIdx.flatMap fun entry =>
      (entry.1.asked.drop (loader.askedBy entry.2).length).map fun request => (entry.2, request) := rfl
  rw [hasks, hstep, hset, List.zipIdx_append, List.zipIdx_cons, hposition, Nat.zero_add,
    List.flatMap_append, List.flatMap_cons, hstill early.zipIdx, hstill (late.zipIdx (position + 1))]
  · simp [askedBy, hload]
  · simp [hnumbered]
  · simp [hnumbered]

end Loader

namespace Session

variable {σ : Type} {loader position : Nat} {early late : List Event} {event : Event} {load : Load}
  {before middle after session : Session σ}

/-- One loader has gone through the events, and the engine has heard exactly what its loads asked by them.
Nothing else of the loaders and of the store has changed. -/
structure Follows (loader : Nat) (events : List Event) (before after : Session σ) : Prop where
  moved : after.loaders loader = (before.loaders loader).run events
  others : ∀ other, other ≠ loader → after.loaders other = before.loaders other
  store : after.store = before.store
  calls : after.engine.calls =
    before.engine.calls ++ ((before.loaders loader).requests events).filterMap Request.call?

theorem follows_of_same (hloaders : after.loaders = before.loaders) (hstore : after.store = before.store)
    (hcalls : after.engine.calls = before.engine.calls) : Follows loader [] before after where
  moved := congrFun hloaders loader
  others other _ := congrFun hloaders other
  store := hstore
  calls := hcalls.trans (List.append_nil _).symm

theorem Follows.trans (h : Follows loader early before middle) (h' : Follows loader late middle after) :
    Follows loader (early ++ late) before after where
  moved := by rw [h'.moved, h.moved, Loader.run, Loader.run, Loader.run, List.foldl_append]
  others other hother := (h'.others other hother).trans (h.others other hother)
  store := h'.store.trans h.store
  calls := by
    rw [h'.calls, h.calls, h.moved, Loader.requests_append, List.filterMap_append, List.append_assoc]

/-- An event that takes no load forward is not heard. -/
theorem follows_apply (session : Session σ) (loader : Nat)
    (h : ∀ load position, Load.after load position event = load) :
    Follows loader [event] session (session.apply loader event) where
  moved := by simp [apply, Loader.run]
  others other hother := by simp [apply, hother]
  store := rfl
  calls := by
    rw [Loader.requests, Loader.observed, Loader.asks_eq_nil h]
    exact (List.append_nil _).symm

theorem follows_applyAll (session : Session σ) (loader : Nat) {events : List Event}
    (h : ∀ event ∈ events, ∀ load position, Load.after load position event = load) :
    Follows loader events session (session.applyAll loader events) := by
  induction events generalizing session with
  | nil => exact follows_of_same rfl rfl rfl
  | cons event rest ih =>
    rw [List.forall_mem_cons] at h
    exact (follows_apply session loader h.1).trans (ih (session.apply loader event) h.2)

/-- A load that an event takes into a phase asks what it asks there, and that is heard. -/
theorem follows_forward {phase : Phase} (hload : session.load? loader position = some load)
    (hloads : ((session.loaders loader).step event).loads =
      (session.loaders loader).loads.set position (load.enter phase)) :
    Follows loader [event] session (session.forward loader position event) where
  moved := loaders_forward session loader position event
  others other hother := by
    rw [forward, loaders_recordRequest]
    simp [apply, hother]
  store := by
    rw [forward]
    cases ((session.apply loader event).load? loader position).bind Load.request? with
    | none => rfl
    | some request =>
      rw [recordRequest_some]
      cases request.call? <;> rfl
  calls := by
    have hasked : ((session.apply loader event).load? loader position).bind Load.request? =
        (load.enter phase).request? := by
      rw [load?_apply, hloads, List.getElem?_set_self (List.getElem?_eq_some_iff.mp hload).1]
      rfl
    rw [forward, hasked, calls_recordRequest, Loader.requests, Loader.observed, Loader.observed,
      Loader.asks_eq_of_set hload hloads, Load.drop_asked_enter]
    cases (load.enter phase).request? with
    | none => rfl
    | some request => cases hcall : request.call? <;> simp [hcall] <;> rfl

variable [ByteStore σ]

theorem follows_serve (session : Session σ) (loader : Nat) (request : Request) :
    Follows loader [] session (session.serve request).2 := by
  have hworks : Works (fun _ => False) session (session.serve request).2 :=
    works_serve session fun _ _ => id
  exact follows_of_same (loaders_serve session request) hworks.store (calls_serve session request)

/-- Whatever a load is answered fits to what it has asked. -/
theorem nextPhase?_serve (session : Session σ) {request : Request} (h : load.request? = some request) :
    ∃ phase, load.nextPhase? (session.serve request).1 = some phase := by
  cases hphase : load.phase <;> simp only [Load.request?, Load.requestIn, hphase, Option.some.injEq,
    reduceCtorEq] at h <;> subst h <;> simp only [serve, Load.nextPhase?, hphase]
  case probing =>
    rcases session.engine.answer (probeStatement load.table) with fault | rows
    · exact ⟨_, rfl⟩
    · cases hrows : rows.isEmpty <;> simp [Except.map, hrows]
  case dropping =>
    rcases session.engine.answer (dropStatement load.table) with fault | rows <;> exact ⟨_, rfl⟩
  case fetching =>
    rcases session.fetched load.dataset.storage.locator with fault | payload
    · exact ⟨_, rfl⟩
    · cases payload <;> exact ⟨_, rfl⟩
  case importing data =>
    rcases session.engine.fill load.table data with ⟨fault | done, engine⟩ <;> exact ⟨_, rfl⟩

/-! ### Taking loads as far as they go -/

/-- The loads of one loader go on, and the engine hears what they ask. -/
def Continues (loader : Nat) (before after : Session σ) : Prop :=
  ∃ events, (∀ event ∈ events, event.isProgress) ∧ Follows loader events before after

omit [ByteStore σ] in
theorem continues_self (session : Session σ) : Continues loader session session :=
  ⟨[], by simp, follows_of_same rfl rfl rfl⟩

omit [ByteStore σ] in
theorem Continues.trans (h : Continues loader before middle) (h' : Continues loader middle after) :
    Continues loader before after := by
  obtain ⟨early, hearly, hmiddle⟩ := h
  obtain ⟨late, hlate, hafter⟩ := h'
  refine ⟨early ++ late, fun event hmember => ?_, hmiddle.trans hafter⟩
  exact (List.mem_append.mp hmember).elim (hearly event) (hlate event)

theorem continues_pursueLoad (session : Session σ) (loader position : Nat) :
    Continues loader session (session.pursueLoad loader position) := by
  obtain ⟨steps, hsteps⟩ := session.exists_pursue loader position
  rw [hsteps]
  refine pursue_rel continues_self Continues.trans ?_ ?_ session steps
  · intro session load hload hbegun
    have hset : ((session.loaders loader).step (.start position)).loads =
        (session.loaders loader).loads.set position (load.enter .probing) := by
      have hfound : (session.loaders loader).loads[position]? = some load := hload
      simp only [Loader.step, List.modify_eq_set_getElem?, hfound, Option.map_eq_map, Option.map_some,
        Option.getD_some, Load.start_of_begun hbegun]
    exact ⟨[.start position], by simp [Event.isProgress], follows_forward hload hset⟩
  · intro session load request hload hrequest
    obtain ⟨phase, hphase⟩ := session.nextPhase?_serve hrequest
    have hserved : (session.serve request).2.load? loader position = some load := by
      rwa [load?, loaders_serve]
    have hset : (((session.serve request).2.loaders loader).step
        (.reply position (session.serve request).1)).loads =
          ((session.serve request).2.loaders loader).loads.set position (load.enter phase) := by
      have hfound : ((session.serve request).2.loaders loader).loads[position]? = some load := hserved
      simp only [Loader.step, Loader.reply, hfound, Load.advance_of_fits hphase]
    exact ⟨[.reply position (session.serve request).1], by simp [Event.isProgress],
      (follows_serve session loader request).trans (follows_forward hserved hset)⟩

theorem continues_pursueLoads (session : Session σ) (loader : Nat) (positions : List Nat) :
    Continues loader session
      (positions.foldl (fun s position => s.pursueLoad loader position) session) := by
  induction positions generalizing session with
  | nil => exact continues_self session
  | cons position rest ih => exact (continues_pursueLoad session loader position).trans (ih _)

theorem continues_settle (session : Session σ) (loader : Nat) :
    Continues loader session (session.settle loader) := by
  rw [settle_eq]
  refine (continues_pursueLoads session loader _).trans ⟨_, ?_, follows_applyAll _ loader ?_⟩
  · intro event hevent
    rcases Loader.mem_hearing hevent with ⟨_, rfl⟩ | ⟨_, rfl⟩ <;> rfl
  · intro event hevent
    rcases Loader.mem_hearing hevent with ⟨_, rfl⟩ | ⟨_, rfl⟩ <;> exact fun _ _ => rfl

/-! ### Where nothing is held back -/

omit [ByteStore σ] in
theorem held_forward (session : Session σ) (loader position : Nat) (event : Event) :
    (session.forward loader position event).held = session.held := by
  rw [forward]
  cases ((session.apply loader event).load? loader position).bind Load.request? with
  | none => rfl
  | some request =>
    rw [recordRequest_some]
    cases request.call? <;> rfl

/-- A load that is taken forward by as many steps as it has left comes to its end. -/
theorem ended_pursue {steps : Nat} (hheld : session.held = false)
    (hload : session.load? loader position = some load) (hsteps : load.phase.remaining ≤ steps) :
    ∃ next outcome, (session.pursue loader position steps).load? loader position = some next ∧
      next.outcome? = some outcome := by
  induction steps generalizing session load with
  | zero =>
    obtain ⟨outcome, houtcome⟩ := Load.outcome?_of_remaining (Nat.le_zero.mp hsteps)
    exact ⟨load, outcome, hload, houtcome⟩
  | succ steps ih =>
    rcases load.begun_or_asking_or_ended with hbegun | ⟨request, hrequest⟩ | ⟨outcome, houtcome⟩
    · rw [pursue_of_begun hload hbegun]
      refine @ih (load.enter .probing) _ ?_ ?_ ?_
      · rw [held_forward, hheld]
      · rw [load?_forward, Loader.loads_step hload, Load.after_start, Load.start_of_begun hbegun]
      · rw [hbegun] at hsteps
        exact Nat.le_of_succ_le_succ hsteps
    · obtain ⟨phase, hphase⟩ := session.nextPhase?_serve hrequest
      have hworks : Works (fun _ => False) session (session.serve request).2 :=
        works_serve session fun _ _ => id
      have hserved : (session.serve request).2.load? loader position = some load := by
        rwa [load?, loaders_serve]
      rw [pursue_of_request hload hrequest (isHeld_of_free hheld request)]
      refine @ih (load.enter phase) _ ?_ ?_ ?_
      · rw [held_forward, hworks.held, hheld]
      · rw [load?_forward, Loader.loads_step hserved, Load.after_reply, Load.advance_of_fits hphase]
      · exact Nat.le_of_lt_succ (Nat.lt_of_lt_of_le (Load.remaining_nextPhase? hphase) hsteps)
    · rw [pursue_of_ended hload houtcome]
      exact ⟨load, outcome, hload, houtcome⟩

omit [ByteStore σ] in
/-- A load that has ended stays as it is while others go on. -/
theorem Continues.ended (h : Continues loader before after) {outcome : Except Fault Unit}
    (hload : before.load? loader position = some load) (houtcome : load.outcome? = some outcome) :
    after.load? loader position = some load := by
  obtain ⟨events, -, hfollows⟩ := h
  rw [load?, hfollows.moved]
  exact Loader.loads_run_of_ended hload houtcome events

omit [ByteStore σ] in
/-- Nobody gives up while loads go on. -/
theorem Continues.uncancelled (h : Continues loader before after) :
    ∃ events, after.loaders loader = (before.loaders loader).run events ∧
      ∀ number, ∀ event ∈ events, event ≠ .cancel number := by
  obtain ⟨events, hprogress, hfollows⟩ := h
  refine ⟨events, hfollows.moved, fun number event hmember hcancel => ?_⟩
  have hevent := hprogress event hmember
  rw [hcancel] at hevent
  cases hevent

omit [ByteStore σ] in
theorem Continues.joined {one : Awaited} {dataset : Dataset} (h : Continues loader before after)
    (hjoined : one.Joined dataset (before.loaders loader)) : one.Joined dataset (after.loaders loader) := by
  obtain ⟨events, hafter, hkept⟩ := h.uncancelled
  rw [hafter]
  exact hjoined.run (hkept one.caller)

/-- Where imports are not held back, every load that is pursued comes to its end. -/
theorem ended_pursued {positions : List Nat} (hheld : session.held = false)
    (hload : session.load? loader position = some load) (hmember : position ∈ positions) :
    ∃ next outcome, (positions.foldl (fun s position => s.pursueLoad loader position) session).load? loader
      position = some next ∧ next.outcome? = some outcome := by
  induction positions generalizing session load with
  | nil => simp at hmember
  | cons first rest ih =>
    by_cases hfirst : first = position
    · subst hfirst
      obtain ⟨next, outcome, hnext, houtcome⟩ := ended_pursue hheld hload le_rfl
      have hpursued : (session.pursueLoad loader first).load? loader first = some next := by
        rw [pursueLoad, hload]
        exact hnext
      exact ⟨next, outcome, (continues_pursueLoads _ loader rest).ended hpursued houtcome, houtcome⟩
    · have hworks : Works (fun _ => False) session (session.pursueLoad loader first) :=
        works_pursueLoad (fun _ _ _ _ _ => id) (Nat.lt_succ_self first)
      have hkept := (session.pursues_pursueLoad loader first).others position (Ne.symm hfirst)
      exact ih (hworks.held.trans hheld) (hkept.trans hload)
        ((List.mem_cons.mp hmember).resolve_left (Ne.symm hfirst))

/-- Where imports are not held back, whoever has joined a load is told something when all loads are taken as
far as they go. -/
theorem told_settle {one : Awaited} {dataset : Dataset} (hheld : session.held = false)
    (h : one.Joined dataset (session.loaders loader)) :
    ∃ outcome, one.IsAt ((session.settle loader).loaders loader) (.answered outcome) := by
  rcases h with ⟨-, hserved⟩ | ⟨position, -, hshares⟩
  · obtain ⟨events, hafter, -⟩ := (continues_settle session loader).uncancelled
    exact ⟨_, hafter ▸ Loader.answered_run hserved events⟩
  have hpursued : Loader.Shares one.caller position dataset ((session.pursued loader).loaders loader) := by
    obtain ⟨events, hafter, hkept⟩ := (continues_pursueLoads session loader _).uncancelled
    rw [pursued, hafter]
    exact Loader.shares_run hshares (hkept one.caller)
  obtain ⟨load, hload, -, hcaller⟩ := hshares
  have hposition : position ∈ List.range (session.loaders loader).loads.length :=
    List.mem_range.mpr (List.getElem?_eq_some_iff.mp hload).1
  have hresumed : .resume one.caller ∈ (session.loaders loader).hearing := by
    rcases hcaller with hwaiting | ⟨_, _, hanswered⟩
    · exact Loader.resume_mem_hearing hwaiting
    · exact Loader.resume_mem_hearing hanswered
  obtain ⟨next, outcome, hnext, hended⟩ := ended_pursued hheld hload hposition
  refine ⟨outcome.map fun _ => dataset.table, ?_⟩
  rw [settle_eq, loaders_applyAll]
  exact Loader.answered_of_resumed hpursued hnext hended (Loader.not_cancel_hearing one.caller) hresumed

end Session
end Insights
