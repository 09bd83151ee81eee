import Insights.Proofs.Loading.Sharing

/-!
What stands behind an answer. From a moment on at which a table is neither loaded nor under way, nobody
who asks for it is told its name before a load of the table, begun after that moment, has ended well.
Such a load has asked whether the table exists, and its dataset was asked for after that moment.
-/

namespace Insights

theorem Load.asked_after (load : Load) (position : Nat) (event : Event) :
    load.asked <+: (load.after position event).asked := by
  have hentered : ∀ phase, load.asked <+: (load.enter phase).asked := by
    intro phase
    exact List.prefix_append _ _
  cases event with
  | start other =>
    simp only [after, start]
    split
    · split
      · exact hentered _
      · exact List.prefix_rfl
    · exact List.prefix_rfl
  | reply other reply =>
    simp only [after, advance]
    split
    · split
      · exact hentered _
      · exact List.prefix_rfl
    · exact List.prefix_rfl
  | _ => exact List.prefix_rfl

/-- A load that an event takes out of its beginning asks whether its table exists. -/
theorem Load.probes_of_begun {load : Load} {position : Nat} {event : Event} (h : load.phase = .begun)
    (hleft : (load.after position event).phase ≠ .begun) :
    .probe load.table ∈ (load.after position event).asked := by
  cases event with
  | start other =>
    by_cases hother : other = position
    · simp [after, hother, start, h, enter, requestIn]
    · simp [after, hother, h] at hleft
  | reply other reply =>
    have hsame : load.advance reply = load := by
      simp [advance, nextPhase?, h]
    simp [after, hsame, h] at hleft
  | _ => exact absurd h hleft

namespace Loader

variable {past events : List Event} {table : String} {first : Nat}

theorem reached_append_append (past events : List Event) (event : Event) :
    reached (past ++ (events ++ [event])) = (reached (past ++ events)).step event := by
  rw [← List.append_assoc, reached_append]

/-- A load that is not at its beginning any more has asked whether its table exists. -/
theorem probe_mem_asked (events : List Event) :
    ∀ load ∈ (reached events).loads, load.phase ≠ .begun → .probe load.table ∈ load.asked := by
  induction events using List.reverseRecOn with
  | nil => simp [reached, run, empty]
  | append_singleton events event ih =>
    rw [reached_append]
    intro next hmember hleft
    obtain ⟨position, hnext⟩ := List.mem_iff_getElem?.mp hmember
    rcases loads_step_cases hnext with ⟨load, hload, rfl⟩ | ⟨dataset, -, -, rfl⟩
    · rw [Load.table_after]
      by_cases hbegun : load.phase = .begun
      · exact Load.probes_of_begun hbegun hleft
      · apply (Load.asked_after load position event).subset
        exact ih load (List.mem_of_getElem? hload) hbegun
    · exact absurd rfl hleft

theorem length_loads_le (loader : Loader) (event : Event) :
    loader.loads.length ≤ (loader.step event).loads.length := by
  rcases length_loads_step loader event with hsame | ⟨dataset, hbegins⟩
  · exact Nat.le_of_eq hsame.symm
  · simp [loads_of_begins hbegins]

theorem length_loads_le_reached (past events : List Event) :
    (reached past).loads.length ≤ (reached (past ++ events)).loads.length := by
  induction events using List.reverseRecOn with
  | nil => simp
  | append_singleton events event ih =>
    rw [reached_append_append]
    exact Nat.le_trans ih (length_loads_le _ event)

/-- The dataset of a load that was begun after some events was asked for after them. -/
theorem ensure_mem_of_load {position : Nat} {load : Load}
    (hload : (reached (past ++ events)).loads[position]? = some load)
    (hnew : (reached past).loads.length ≤ position) : .ensure load.dataset ∈ events := by
  induction events using List.reverseRecOn generalizing load with
  | nil =>
    rw [List.append_nil] at hload
    have hlt := (List.getElem?_eq_some_iff.mp hload).1
    omega
  | append_singleton events event ih =>
    rw [reached_append_append] at hload
    rw [List.mem_append]
    rcases loads_step_cases hload with ⟨old, hold, rfl⟩ | ⟨dataset, hbegins, -, rfl⟩
    · rw [Load.dataset_after]
      exact Or.inl (ih hold)
    · obtain ⟨rfl, -⟩ := hbegins
      exact Or.inr (List.mem_singleton.mpr rfl)

/-! ### Loads that have ended well -/

/-- A load of the table at or behind a position has ended well. -/
def Settled (first : Nat) (table : String) (loader : Loader) : Prop :=
  ∃ position load, first ≤ position ∧ loader.loads[position]? = some load ∧ load.table = table ∧
    load.outcome? = some (.ok ())

theorem Settled.step {loader : Loader} (h : Settled first table loader) (event : Event) :
    Settled first table (loader.step event) := by
  obtain ⟨position, load, hfirst, hload, htable, hended⟩ := h
  exact ⟨position, load, hfirst, loads_step_of_ended hload hended event, htable, hended⟩

/-- A load that has ended well after an event had ended well before, or does so by the event. -/
theorem settled_step_cases {loader : Loader} {event : Event} (h : Settled first table (loader.step event)) :
    Settled first table loader ∨ Completes table loader event := by
  obtain ⟨position, next, hfirst, hnext, htable, hended⟩ := h
  rcases loads_step_cases hnext with ⟨load, hload, rfl⟩ | ⟨dataset, -, -, rfl⟩
  · rw [Load.table_after] at htable
    cases houtcome : load.outcome? with
    | none => exact Or.inr ⟨position, load, _, hload, hnext, htable, houtcome, hended⟩
    | some outcome =>
      rw [Load.after_of_ended houtcome] at hended
      exact Or.inl ⟨position, load, hfirst, hload, htable, hended⟩
  · cases hended

/-! ### From a moment at which a table is idle -/

/-- The table is neither loaded nor under way. -/
structure Idle (table : String) (loader : Loader) : Prop where
  notLoaded : table ∉ loader.loaded
  notInflight : loader.inflight.lookup table = none

theorem idle_empty (table : String) : Idle table (reached []) :=
  ⟨List.not_mem_nil, rfl⟩

/-- A table that is taken off the loaded ones while no load of it is under way is idle. -/
theorem idle_of_forgets {event : Event} (hforgets : Forgets table event)
    (hidle : (reached past).inflight.lookup table = none) : Idle table (reached (past ++ [event])) := by
  rw [reached_append]
  constructor
  · rw [mem_loaded_step]
    rintro (hcompletes | ⟨-, hkept⟩)
    · obtain ⟨position, reply, load, rfl, -⟩ := completes_iff.mp hcompletes
      exact hforgets
    · exact hkept hforgets
  · rw [Option.eq_none_iff_forall_ne_some]
    intro position hlookup
    rcases (lookup_step (registered_reached past) event table position).mp hlookup with
      ⟨dataset, ⟨rfl, -⟩, -⟩ | ⟨hold, -⟩
    · exact hforgets
    · rw [hidle] at hold
      cases hold

/-- Whoever asks for an idle table waits for a new load of it, the last one of the loader. -/
theorem Idle.ensure {loader : Loader} {dataset : Dataset} (h : Idle dataset.table loader) :
    Begins dataset loader (.ensure dataset) ∧
      (loader.step (.ensure dataset)).callers = loader.callers ++ [.waiting loader.loads.length] := by
  refine ⟨⟨rfl, h.notLoaded, h.notInflight⟩, ?_⟩
  rw [step, callers_ensure, welcome, if_neg h.notLoaded, h.notInflight]
  rfl

/-- A table stays idle as long as nobody asks for it. -/
theorem Idle.along (hidle : Idle table (reached past))
    (hunasked : ∀ dataset, .ensure dataset ∈ events → dataset.table ≠ table) :
    Idle table (reached (past ++ events)) := by
  induction events using List.reverseRecOn with
  | nil => simpa using hidle
  | append_singleton events event ih =>
    have hbefore : Idle table (reached (past ++ events)) :=
      ih fun dataset hasked => hunasked dataset (List.mem_append_left _ hasked)
    rw [reached_append_append]
    constructor
    · rw [mem_loaded_step]
      rintro (⟨position, load, next, hload, -, rfl, hopen, -⟩ | ⟨hold, -⟩)
      · -- whatever ends well was under way until then
        have hinflight := lookup_of_open hload hopen
        rw [hbefore.notInflight] at hinflight
        cases hinflight
      · exact hbefore.notLoaded hold
    · rw [Option.eq_none_iff_forall_ne_some]
      intro position hlookup
      rcases (lookup_step (registered_reached _) event table position).mp hlookup with
        ⟨dataset, ⟨rfl, -⟩, htable, -⟩ | ⟨hold, -⟩
      · exact hunasked dataset (by simp) htable
      · rw [hbefore.notInflight] at hold
        cases hold

/-- A load that is under way for a table that was idle was begun since. -/
theorem le_of_inflight (hidle : Idle table (reached past)) {position : Nat}
    (h : (reached (past ++ events)).inflight.lookup table = some position) :
    (reached past).loads.length ≤ position := by
  induction events using List.reverseRecOn with
  | nil =>
    rw [List.append_nil, hidle.notInflight] at h
    cases h
  | append_singleton events event ih =>
    rw [reached_append_append, lookup_step (registered_reached _)] at h
    rcases h with ⟨dataset, -, -, rfl⟩ | ⟨hold, -⟩
    · exact length_loads_le_reached past events
    · exact ih hold

/-- A load that has not ended of a table that was idle was begun since. -/
theorem le_of_open (hidle : Idle table (reached past)) {position : Nat} {load : Load}
    (hload : (reached (past ++ events)).loads[position]? = some load) (htable : load.table = table)
    (hopen : load.outcome? = none) : (reached past).loads.length ≤ position := by
  subst htable
  exact le_of_inflight hidle (lookup_of_open hload hopen)

theorem settled_of_loaded (hidle : Idle table (reached past))
    (h : table ∈ (reached (past ++ events)).loaded) :
    Settled (reached past).loads.length table (reached (past ++ events)) := by
  induction events using List.reverseRecOn with
  | nil =>
    rw [List.append_nil] at h
    exact absurd h hidle.notLoaded
  | append_singleton events event ih =>
    rw [reached_append_append] at h ⊢
    rcases (mem_loaded_step _ event table).mp h with hcompletes | ⟨hold, -⟩
    · obtain ⟨position, load, next, hload, hnext, htable, hopen, hended⟩ := hcompletes
      refine ⟨position, next, le_of_open hidle hload htable hopen, hnext, ?_, hended⟩
      rw [loads_step hload] at hnext
      rw [← Option.some.inj hnext, Load.table_after, htable]
    · exact (ih hold).step event

/-! ### Answers -/

/-- By the event somebody asks for the table of the dataset, as the caller with the number. -/
def AsksAs (number : Nat) (dataset : Dataset) (loader : Loader) (event : Event) : Prop :=
  event = .ensure dataset ∧ number = loader.callers.length

/-- A caller of a table waits for a load of the table behind a position, or such a load stands behind
the name that it was told. -/
def Backed (first : Nat) (table : String) (loader : Loader) : Caller → Prop
  | .waiting position =>
    first ≤ position ∧ ∃ load, loader.loads[position]? = some load ∧ load.table = table
  | .answered (.ok name) => name = table ∧ Settled first table loader
  | .answered (.error _) | .cancelled => True

theorem Backed.step {loader : Loader} {caller : Caller} (h : Backed first table loader caller)
    (number : Nat) (event : Event) :
    Backed first table (loader.step event) (caller.after loader.loads number event) := by
  cases caller with
  | cancelled =>
    rw [Caller.after_cancelled]
    trivial
  | answered outcome =>
    rw [Caller.after_answered]
    cases outcome with
    | error fault => trivial
    | ok name => exact ⟨h.1, h.2.step event⟩
  | waiting position =>
    obtain ⟨hfirst, load, hload, htable⟩ := h
    have hkept : Backed first table (loader.step event) (.waiting position) :=
      ⟨hfirst, _, loads_step hload event, (Load.table_after load position event).trans htable⟩
    cases event with
    | cancel other =>
      simp only [Caller.after]
      split
      · trivial
      · exact hkept
    | resume other =>
      simp only [Caller.after, Caller.hear, hload]
      split
      · cases houtcome : load.outcome? with
        | none => exact hkept
        | some outcome =>
          cases outcome with
          | error fault => trivial
          | ok done => exact ⟨htable, position, load, hfirst, hload, htable, houtcome⟩
      · exact hkept
    | _ => exact hkept

/-- Somebody who asks for a table that was idle is backed by a load that was begun since. -/
theorem backed_welcome (hidle : Idle table (reached past)) {dataset : Dataset}
    (htable : dataset.table = table) :
    Backed (reached past).loads.length table ((reached (past ++ events)).step (.ensure dataset))
      ((reached (past ++ events)).welcome dataset) := by
  subst htable
  unfold welcome
  split
  · next hloaded => exact ⟨rfl, (settled_of_loaded hidle hloaded).step _⟩
  · next hnew =>
    cases hlookup : (reached (past ++ events)).inflight.lookup dataset.table with
    | some position =>
      obtain ⟨load, hload, htable⟩ := registered_reached _ _ _ hlookup
      exact ⟨le_of_inflight hidle hlookup, _, loads_step hload _, (Load.table_after ..).trans htable⟩
    | none =>
      have hbegins : Begins dataset (reached (past ++ events)) (.ensure dataset) := ⟨rfl, hnew, hlookup⟩
      exact ⟨length_loads_le_reached past events, .ofDataset dataset, load_of_begins hbegins, rfl⟩

theorem exists_caller_of_asked {number : Nat} {dataset : Dataset}
    (h : Occurred (AsksAs number dataset) events) :
    ∃ caller, (reached events).callers[number]? = some caller := by
  induction events using List.reverseRecOn with
  | nil => exact absurd h not_occurred_nil
  | append_singleton events event ih =>
    rw [reached_append]
    rcases (occurred_append events event).mp h with hold | ⟨rfl, rfl⟩
    · obtain ⟨caller, hcaller⟩ := ih hold
      exact ⟨_, callers_step hcaller event⟩
    · exact ⟨(reached events).welcome dataset, by simp [step, callers_ensure]⟩

/-- Everybody who asks for a table since it was idle is backed by loads that were begun since. -/
theorem backed_of_asked (hidle : Idle table (reached past)) {number : Nat} {dataset : Dataset}
    (htable : dataset.table = table) (hnew : (reached past).callers.length ≤ number)
    (hasked : Occurred (AsksAs number dataset) (past ++ events)) :
    ∃ caller, (reached (past ++ events)).callers[number]? = some caller ∧
      Backed (reached past).loads.length table (reached (past ++ events)) caller := by
  induction events using List.reverseRecOn with
  | nil =>
    rw [List.append_nil] at hasked
    obtain ⟨caller, hcaller⟩ := exists_caller_of_asked hasked
    have hlt := (List.getElem?_eq_some_iff.mp hcaller).1
    omega
  | append_singleton events event ih =>
    rw [← List.append_assoc, occurred_append] at hasked
    rw [reached_append_append]
    rcases hasked with hold | ⟨rfl, rfl⟩
    · obtain ⟨caller, hcaller, hbacked⟩ := ih hold
      exact ⟨_, callers_step hcaller event, hbacked.step _ event⟩
    · refine ⟨(reached (past ++ events)).welcome dataset, ?_, backed_welcome hidle htable⟩
      simp [step, callers_ensure]

/-- Whoever asks for a table since it was idle and is told a name is told that of the table, and a load
of it that was begun since has ended well. -/
theorem settled_of_answered {number : Nat} {dataset : Dataset} {name : String}
    (hidle : Idle dataset.table (reached past)) (hnew : (reached past).callers.length ≤ number)
    (hasked : Occurred (AsksAs number dataset) (past ++ events))
    (hanswer : (reached (past ++ events)).callers[number]? = some (.answered (.ok name))) :
    name = dataset.table ∧
      Settled (reached past).loads.length dataset.table (reached (past ++ events)) := by
  obtain ⟨caller, hcaller, hbacked⟩ := backed_of_asked hidle rfl hnew hasked
  cases hanswer.symm.trans hcaller
  exact hbacked

end Loader
end Insights
