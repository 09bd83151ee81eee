import Insights.Proofs.Pipeline.Template
import Insights.Proofs.Session.Loading

/-!
Statements that are made in a session. Making one asks for the joined datasets one after the other, no
further than it comes. If it succeeds, it gives the statement over tables that bear the names of their
datasets; and if all these datasets load, it ends as making that statement does.
-/

namespace Insights

namespace Action

open Session

variable {σ α β : Type} {loader : Nat} {first second : List Dataset}

theorem run_bind (action : Action σ α) (next : α → Action σ β) (session : Session σ) :
    (action >>= next).run.run session =
      match action.run.run session with
      | (.ok a, after) => (next a).run.run after
      | (.error fault, after) => (.error fault, after) := by
  rw [ExceptT.run_bind, StateT.run_bind]
  rcases hrun : action.run.run session with ⟨outcome, after⟩
  cases outcome with
  | error fault => rfl
  | ok a => rfl

section
variable [ByteStore σ]

/-- A relation between the datasets that an action asks for, the outcome that it has over tables that bear
the names of their datasets, and the action. It is kept when actions follow one another. -/
structure Tracks (loader : Nat)
    (P : ∀ {α : Type}, List Dataset → Except Fault α → Action σ α → Prop) : Prop where
  decided : ∀ {α : Type} (outcome : Except Fault α), P [] outcome (liftM outcome)
  loaded : ∀ dataset : Dataset, P [dataset] dataset.loaded (ensureLoaded loader dataset)
  bind : ∀ {α β : Type} {first second : List Dataset} {outcome : Except Fault α}
    {outcome' : α → Except Fault β} {action : Action σ α} {next : α → Action σ β},
    P first outcome action → (∀ a, P second (outcome' a) (next a)) →
      P (first ++ second) (outcome >>= outcome') (action >>= next)

namespace Tracks

variable {P : ∀ {α : Type}, List Dataset → Except Fault α → Action σ α → Prop}

theorem done (h : Tracks loader P) (a : α) : P [] (pure a) (pure a : Action σ α) :=
  h.decided (.ok a)

theorem mapM (h : Tracks loader P) {datasets : α → List Dataset} {outcome : α → Except Fault β}
    {action : α → Action σ β} (hall : ∀ a, P (datasets a) (outcome a) (action a)) (items : List α) :
    P (items.flatMap datasets) (items.mapM outcome) (items.mapM action) := by
  induction items with
  | nil => exact h.done []
  | cons item rest ih =>
    rw [List.mapM_cons, List.mapM_cons, List.flatMap_cons]
    apply h.bind (hall item)
    intro b
    rw [← List.append_nil (rest.flatMap datasets)]
    exact h.bind ih fun bs => h.done (b :: bs)

theorem joinClauses (h : Tracks loader P) (plan : Plan) :
    P (plan.joins.map (·.right)) (plan.joinClauses Dataset.loaded)
      (plan.joinClauses (ensureLoaded loader) : Action σ (List Sql.JoinClause)) := by
  have hjoin : ∀ join : DatasetJoin, P [join.right] _ _ := fun join =>
    h.bind (h.loaded join.right) fun table => h.decided (join.clause table)
  have hall := h.mapM hjoin plan.joins
  rwa [← List.map_eq_flatMap] at hall

theorem statement (h : Tracks loader P) (plan : Plan) (base : Value) :
    P (plan.joins.map (·.right)) (plan.statement base Dataset.loaded)
      (plan.statement base (ensureLoaded loader) : Action σ Sql.Statement) := by
  have hall : P ([] ++ ([] ++ (plan.joins.map (·.right) ++ ([] ++ ([] ++ ([] ++ ([] ++ [])))))))
      (plan.statement base Dataset.loaded)
      (plan.statement base (ensureLoaded loader) : Action σ Sql.Statement) := by
    unfold Plan.statement
    refine h.bind (h.decided plan.items) fun items => ?_
    refine h.bind (h.decided base.name) fun name => ?_
    refine h.bind (h.joinClauses plan) fun joins => ?_
    refine h.bind (h.decided (conditions plan.filters)) fun filters => ?_
    refine h.bind (h.decided (plan.groupColumns.mapM Value.name)) fun groups => ?_
    refine h.bind (h.decided (plan.limit.mapM Value.written)) fun limit => ?_
    refine h.bind (h.decided (plan.offset.mapM Value.written)) fun offset => ?_
    exact h.done _
  simpa using hall

end Tracks
end

/-! ### Actions that succeed -/

/-- The action asks a loader for datasets in order, for all of them when it succeeds, and then it has the
outcome given. -/
def Yields (loader : Nat) (datasets : List Dataset) (outcome : Except Fault α) (action : Action σ α) : Prop :=
  ∀ session : Session σ, ∃ asked, asked <+: datasets ∧
    Advances loader asked session (action.run.run session).2 ∧
    ∀ a, (action.run.run session).1 = .ok a →
      asked = datasets ∧ (session.Reached → outcome = .ok a)

theorem Yields.bind {outcome : Except Fault α} {outcome' : α → Except Fault β} {action : Action σ α}
    {next : α → Action σ β} (haction : Yields loader first outcome action)
    (hnext : ∀ a, Yields loader second (outcome' a) (next a)) :
    Yields loader (first ++ second) (outcome >>= outcome') (action >>= next) := by
  intro session
  obtain ⟨asked, hprefix, hadvances, hok⟩ := haction session
  rw [run_bind]
  rcases hrun : action.run.run session with ⟨result, after⟩
  rw [hrun] at hadvances hok
  cases result with
  | error fault => exact ⟨asked, hprefix.trans (List.prefix_append first second), hadvances, by simp⟩
  | ok a =>
    obtain ⟨rfl, houtcome⟩ := hok a rfl
    obtain ⟨later, hlater, hadvances', hok'⟩ := hnext a after
    refine ⟨asked ++ later, (List.prefix_append_right_inj asked).mpr hlater, hadvances.trans hadvances', ?_⟩
    intro b hb
    obtain ⟨rfl, houtcome'⟩ := hok' b hb
    refine ⟨rfl, ?_⟩
    intro hreached
    rw [houtcome hreached]
    exact houtcome' (hreached.advance hadvances)

/-- What is decided without the session asks for nothing. -/
theorem yields_liftM (outcome : Except Fault α) :
    Yields loader [] outcome (liftM outcome : Action σ α) := by
  intro session
  refine ⟨[], List.prefix_rfl, advances_of_loaders rfl, ?_⟩
  intro a ha
  exact ⟨rfl, fun _ => ha⟩

variable [ByteStore σ]

theorem yields_ensureLoaded (dataset : Dataset) :
    Yields loader [dataset] dataset.loaded (ensureLoaded loader dataset : Action σ String) := by
  intro session
  refine ⟨[dataset], List.prefix_rfl, advances_ensureLoaded loader dataset session, ?_⟩
  intro name hname
  refine ⟨rfl, ?_⟩
  intro hreached
  rw [ensureLoaded_ok hreached hname]
  rfl

theorem tracks_yields (loader : Nat) : @Tracks σ _ loader (Yields loader) where
  decided := yields_liftM
  loaded := yields_ensureLoaded
  bind := Yields.bind

/-! ### Datasets that load -/

/-- The datasets load when they are asked for one after the other. -/
def LoadsEach (loader : Nat) : List Dataset → Session σ → Prop
  | [], _ => True
  | dataset :: rest, session =>
    (∃ name, ((ensureLoaded loader dataset).run.run session).1 = .ok name) ∧
      LoadsEach loader rest ((ensureLoaded loader dataset).run.run session).2

/-- The session after datasets were asked for one after the other. -/
def ensureEach (loader : Nat) (datasets : List Dataset) (session : Session σ) : Session σ :=
  datasets.foldl (fun session dataset => ((ensureLoaded loader dataset).run.run session).2) session

theorem ensureEach_append (first second : List Dataset) (session : Session σ) :
    ensureEach loader (first ++ second) session =
      ensureEach loader second (ensureEach loader first session) :=
  List.foldl_append

theorem loadsEach_append {session : Session σ} :
    LoadsEach loader (first ++ second) session ↔
      LoadsEach loader first session ∧ LoadsEach loader second (ensureEach loader first session) := by
  induction first generalizing session with
  | nil => simp [LoadsEach, ensureEach]
  | cons dataset rest ih =>
    rw [List.cons_append, LoadsEach, LoadsEach, ih, and_assoc]
    rfl

/-- When the datasets load, the action has the outcome given, and if this is a success, the session has
only been asked for them. -/
def Relies (loader : Nat) (datasets : List Dataset) (outcome : Except Fault α) (action : Action σ α) : Prop :=
  ∀ session : Session σ, session.Reached → LoadsEach loader datasets session →
    (action.run.run session).1 = outcome ∧
      ∀ a, outcome = .ok a → (action.run.run session).2 = ensureEach loader datasets session

theorem reached_ensureEach {session : Session σ} (h : session.Reached) (datasets : List Dataset) :
    (ensureEach loader datasets session).Reached := by
  induction datasets generalizing session with
  | nil => exact h
  | cons dataset rest ih => exact ih (h.advance (advances_ensureLoaded loader dataset session))

theorem Relies.bind {outcome : Except Fault α} {outcome' : α → Except Fault β} {action : Action σ α}
    {next : α → Action σ β} (haction : Relies loader first outcome action)
    (hnext : ∀ a, Relies loader second (outcome' a) (next a)) :
    Relies loader (first ++ second) (outcome >>= outcome') (action >>= next) := by
  intro session hreached hloads
  obtain ⟨hfirst, hsecond⟩ := loadsEach_append.mp hloads
  obtain ⟨hresult, hafter⟩ := haction session hreached hfirst
  rw [run_bind]
  rcases hrun : action.run.run session with ⟨result, after⟩
  rw [hrun] at hresult hafter
  dsimp only at hresult hafter
  subst hresult
  cases result with
  | error fault =>
    refine ⟨rfl, ?_⟩
    intro b hb
    cases hb
  | ok a =>
    obtain rfl := hafter a rfl
    rw [ensureEach_append]
    exact hnext a _ (reached_ensureEach hreached first) hsecond

theorem relies_liftM (outcome : Except Fault α) :
    Relies loader [] outcome (liftM outcome : Action σ α) :=
  fun _ _ _ => ⟨rfl, fun _ _ => rfl⟩

theorem relies_ensureLoaded (dataset : Dataset) :
    Relies loader [dataset] dataset.loaded (ensureLoaded loader dataset : Action σ String) := by
  intro session hreached hloads
  obtain ⟨⟨name, hname⟩, -⟩ := hloads
  refine ⟨?_, fun _ _ => rfl⟩
  rw [hname, ensureLoaded_ok hreached hname]
  rfl

theorem tracks_relies (loader : Nat) : @Tracks σ _ loader (Relies loader) where
  decided := relies_liftM
  loaded := relies_ensureLoaded
  bind := Relies.bind

end Action
end Insights
