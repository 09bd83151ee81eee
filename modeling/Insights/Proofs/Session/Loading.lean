import Insights.Proofs.Loading.Renewal
import Insights.Session.Loading

/-!
How loading changes a session. Loaders change by their events alone, so the loaders of a session stay
such as events lead to, and whoever loads a dataset in it is told the table of that dataset. Which
datasets were asked for in between, and in which order, can be read off the events.
-/

namespace Insights

/-- The datasets that are asked for by events, in order. -/
def Loader.ensured (events : List Event) : List Dataset :=
  events.filterMap fun event =>
    match event with
    | .ensure dataset => some dataset
    | _ => none

/-- The events by which the callers of a loader hear of the loads that have ended. -/
def Loader.hearing (loader : Loader) : List Event :=
  (List.range loader.loads.length).map .retire ++ (List.range loader.callers.length).map .resume

namespace Session

variable {σ : Type} {loader : Nat} {first second : List Dataset} {before middle after session : Session σ}

/-- One loader has gone through events that ask for the datasets, and all other loaders are as before. -/
def Advances (loader : Nat) (datasets : List Dataset) (before after : Session σ) : Prop :=
  ∃ events, Loader.ensured events = datasets ∧
    after.loaders loader = (before.loaders loader).run events ∧
    ∀ other, other ≠ loader → after.loaders other = before.loaders other

theorem advances_of_loaders (h : after.loaders = before.loaders) : Advances loader [] before after := by
  refine ⟨[], rfl, ?_, ?_⟩
  · rw [h]
    rfl
  · intro other _
    rw [h]

theorem Advances.trans (hfirst : Advances loader first before middle)
    (hsecond : Advances loader second middle after) : Advances loader (first ++ second) before after := by
  obtain ⟨early, hearly, hmiddle, hothers⟩ := hfirst
  obtain ⟨late, hlate, hafter, hothers'⟩ := hsecond
  refine ⟨early ++ late, ?_, ?_, ?_⟩
  · rw [← hearly, ← hlate, Loader.ensured, List.filterMap_append]
    rfl
  · rw [hafter, hmiddle, Loader.run, Loader.run, Loader.run, List.foldl_append]
  · intro other hother
    rw [hothers' other hother, hothers other hother]

theorem advances_apply (session : Session σ) (loader : Nat) (event : Event) :
    Advances loader (Loader.ensured [event]) session (session.apply loader event) := by
  refine ⟨[event], rfl, ?_, ?_⟩
  · simp [apply, Loader.run]
  · intro other hother
    simp [apply, hother]

/-- Steps that ask for nothing ask for nothing together. -/
theorem advances_foldl {step : Session σ → Nat → Session σ}
    (h : ∀ session position, Advances loader [] session (step session position)) (positions : List Nat)
    (session : Session σ) : Advances loader [] session (positions.foldl step session) := by
  induction positions generalizing session with
  | nil => exact advances_of_loaders rfl
  | cons position rest ih => exact (h session position).trans (ih (step session position))

theorem loaders_applyAll (session : Session σ) (loader : Nat) (events : List Event) :
    (session.applyAll loader events).loaders loader = (session.loaders loader).run events := by
  induction events generalizing session with
  | nil => rfl
  | cons event rest ih =>
    rw [applyAll, List.foldl_cons]
    refine (ih (session.apply loader event)).trans ?_
    simp [apply, Loader.run]

theorem engine_applyAll (session : Session σ) (loader : Nat) (events : List Event) :
    (session.applyAll loader events).engine = session.engine := by
  induction events generalizing session with
  | nil => rfl
  | cons event rest ih => exact ih (session.apply loader event)

theorem loaders_recordRequest (session : Session σ) (request : Option Request) :
    (session.recordRequest request).loaders = session.loaders := by
  unfold recordRequest
  split <;> rfl

theorem advances_forward (session : Session σ) (loader position : Nat) {event : Event}
    (h : Loader.ensured [event] = []) :
    Advances loader [] session (session.forward loader position event) := by
  have happly := advances_apply session loader event
  rw [h] at happly
  exact happly.trans (advances_of_loaders (loaders_recordRequest _ _))

variable [ByteStore σ]

theorem loaders_serve (session : Session σ) (request : Request) :
    (session.serve request).2.loaders = session.loaders := by
  cases request <;> simp only [serve, onEngine]

/-- What holds between a session and itself, over the first step of a load and over an answered question of
it, and across two such steps holds between a session and what pursuing the load makes of it. -/
theorem pursue_rel {R : Session σ → Session σ → Prop} {loader position : Nat} (hself : ∀ s, R s s)
    (htrans : ∀ {first second third}, R first second → R second third → R first third)
    (hstart : ∀ s load, s.load? loader position = some load → load.phase = .begun →
      R s (s.forward loader position (.start position)))
    (hserve : ∀ s load request, s.load? loader position = some load → load.request? = some request →
      R s ((s.serve request).2.forward loader position (.reply position (s.serve request).1)))
    (session : Session σ) (steps : Nat) : R session (session.pursue loader position steps) := by
  induction steps generalizing session with
  | zero => exact hself session
  | succ steps ih =>
    unfold pursue
    split
    · exact hself session
    next load hload =>
      split
      next hphase => exact htrans (hstart session load hload hphase) (ih _)
      · exact hself session
      next request hrequest _ =>
        split
        · exact hself session
        · exact htrans (hserve session load request hload hrequest) (ih _)

theorem exists_pursue (session : Session σ) (loader position : Nat) :
    ∃ steps, session.pursueLoad loader position = session.pursue loader position steps := by
  unfold pursueLoad
  split
  · exact ⟨0, rfl⟩
  · exact ⟨_, rfl⟩

theorem advances_pursue (session : Session σ) (loader position steps : Nat) :
    Advances loader [] session (session.pursue loader position steps) := by
  refine pursue_rel (fun _ => advances_of_loaders rfl) Advances.trans ?_ ?_ session steps
  · intro session _ _ _
    exact advances_forward session loader position rfl
  · intro session load request _ _
    have hserved : Advances loader [] session (session.serve request).2 :=
      advances_of_loaders (loaders_serve session request)
    exact hserved.trans (advances_forward _ loader position rfl)

theorem advances_pursueLoad (session : Session σ) (loader position : Nat) :
    Advances loader [] session (session.pursueLoad loader position) := by
  obtain ⟨steps, hsteps⟩ := session.exists_pursue loader position
  rw [hsteps]
  exact advances_pursue session loader position steps

/-- The session after all loads of a loader were taken as far as they go. -/
def pursued (session : Session σ) (loader : Nat) : Session σ :=
  (List.range (session.loaders loader).loads.length).foldl
    (fun s position => s.pursueLoad loader position) session

theorem settle_eq (session : Session σ) (loader : Nat) :
    session.settle loader = (session.pursued loader).applyAll loader (session.loaders loader).hearing := by
  simp only [settle, pursued, Loader.hearing, applyAll, List.foldl_append, List.foldl_map]

theorem advances_settle (session : Session σ) (loader : Nat) :
    Advances loader [] session (session.settle loader) := by
  have hpursued : ∀ (session : Session σ) (positions : List Nat), Advances loader [] session
      (positions.foldl (fun s position => s.pursueLoad loader position) session) :=
    fun session positions => advances_foldl (fun s => advances_pursueLoad s loader) positions session
  have hretired : ∀ (session : Session σ) (positions : List Nat), Advances loader [] session
      (positions.foldl (fun s position => s.apply loader (.retire position)) session) :=
    fun session positions =>
      advances_foldl (fun s position => advances_apply s loader (.retire position)) positions session
  have hresumed : ∀ (session : Session σ) (callers : List Nat), Advances loader [] session
      (callers.foldl (fun s caller => s.apply loader (.resume caller)) session) :=
    fun session callers =>
      advances_foldl (fun s caller => advances_apply s loader (.resume caller)) callers session
  exact ((hpursued _ _).trans (hretired _ _)).trans (hresumed _ _)

omit [ByteStore σ]

/-- Every loader is as events lead to from the empty one. -/
def Reached (session : Session σ) : Prop :=
  ∀ loader, ∃ events, session.loaders loader = Loader.reached events

theorem reached_start (store : σ) : (start store).Reached := by
  intro loader
  exact ⟨[], rfl⟩

theorem Reached.advance (h : before.Reached) (hadvances : Advances loader first before after) :
    after.Reached := by
  obtain ⟨events, -, hloader, hothers⟩ := hadvances
  intro other
  obtain ⟨past, hpast⟩ := h other
  by_cases hother : other = loader
  · subst hother
    refine ⟨past ++ events, ?_⟩
    rw [hloader, hpast, Loader.reached, Loader.reached, Loader.run, Loader.run, Loader.run,
      List.foldl_append]
  · exact ⟨past, (hothers other hother).trans hpast⟩

theorem Reached.of_loaders (h : before.Reached) (hsame : after.loaders = before.loaders) : after.Reached := by
  intro loader
  rw [hsame]
  exact h loader

theorem answered_of_outcome {caller : Nat} {name : String}
    (h : session.outcome loader caller = .ok name) :
    (session.loaders loader).callers[caller]? = some (.answered (.ok name)) := by
  unfold outcome at h
  split at h
  · next outcome hcaller =>
    rw [hcaller, h]
  · cases h

end Session

namespace Action

open Session

variable {σ : Type} [ByteStore σ] {session : Session σ}

omit [ByteStore σ] in
theorem run_join (loader : Nat) (dataset : Dataset) (session : Session σ) :
    (join loader dataset).run session =
      ((session.loaders loader).callers.length, session.apply loader (.ensure dataset)) :=
  rfl

/-- Loading a dataset lets somebody ask for it, takes all loads as far as they go, and has the outcome
for that caller. -/
theorem run_ensureLoaded (loader : Nat) (dataset : Dataset) (session : Session σ) :
    (ensureLoaded loader dataset).run.run session =
      ((session.apply loader (.ensure dataset)).settle loader |>.outcome loader
          (session.loaders loader).callers.length,
        (session.apply loader (.ensure dataset)).settle loader) := by
  unfold ensureLoaded
  rw [ExceptT.run_bind, StateT.run_bind, ExceptT.run_lift, StateT.run_map, run_join]
  rfl

theorem advances_ensureLoaded (loader : Nat) (dataset : Dataset) (session : Session σ) :
    Advances loader [dataset] session ((ensureLoaded loader dataset).run.run session).2 := by
  rw [run_ensureLoaded]
  exact (advances_apply session loader (.ensure dataset)).trans (advances_settle _ loader)

/-- Whoever loads a dataset and is told a name is told that of the table of this dataset. -/
theorem ensureLoaded_ok {loader : Nat} {dataset : Dataset} {name : String} (hreached : session.Reached)
    (h : ((ensureLoaded loader dataset).run.run session).1 = .ok name) : name = dataset.table := by
  obtain ⟨past, hpast⟩ := hreached loader
  obtain ⟨events, -, hsettled, -⟩ := advances_settle (session.apply loader (.ensure dataset)) loader
  have happlied : (session.apply loader (.ensure dataset)).loaders loader =
      (Loader.reached past).step (.ensure dataset) := by
    simp [Session.apply, hpast]
  have hevents : ((session.apply loader (.ensure dataset)).settle loader).loaders loader =
      Loader.reached (past ++ .ensure dataset :: events) := by
    rw [hsettled, happlied]
    simp [Loader.reached, Loader.run]
  rw [run_ensureLoaded] at h
  have hanswer := answered_of_outcome h
  rw [hevents, hpast] at hanswer
  have hasked : Loader.Occurred (Loader.AsksAs (Loader.reached past).callers.length dataset)
      (past ++ .ensure dataset :: events) := ⟨past, .ensure dataset, events, rfl, ⟨rfl, rfl⟩, by simp⟩
  exact (Loader.settled_of_answered (Loader.idle_empty dataset.table) (Nat.zero_le _) hasked hanswer).1

end Action
end Insights
