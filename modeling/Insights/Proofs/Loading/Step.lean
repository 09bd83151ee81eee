import Insights.Proofs.Loading.History
import Insights.Proofs.Value.Fields

/-!
What one event does to each part of a loader: to the loads, to the tables under way, and to the loaded
tables. Everything that holds along a run is derived from these statements.
-/

namespace Insights

namespace Load

theorem nextPhase?_of_ended {load : Load} {outcome : Except Fault Unit}
    (h : load.outcome? = some outcome) (reply : Reply) : load.nextPhase? reply = none := by
  unfold outcome? at h
  split at h
  · next hphase => simp [nextPhase?, hphase]
  · cases h

theorem advance_of_ended {load : Load} {outcome : Except Fault Unit}
    (h : load.outcome? = some outcome) (reply : Reply) : load.advance reply = load := by
  simp [advance, nextPhase?_of_ended h]

theorem start_of_ended {load : Load} {outcome : Except Fault Unit}
    (h : load.outcome? = some outcome) : load.start = load := by
  unfold outcome? at h
  split at h
  · next hphase => simp [start, hphase]
  · cases h

/-- A load asks for something only while it has not ended. -/
theorem outcome?_of_request {load : Load} {request : Request} (h : load.request? = some request) :
    load.outcome? = none := by
  cases hphase : load.phase <;> simp_all [request?, requestIn, outcome?]

theorem outcome?_start (load : Load) : load.start.outcome? = load.outcome? := by
  cases hphase : load.phase <;> simp [start, enter, outcome?, hphase]

theorem dataset_advance (load : Load) (reply : Reply) : (load.advance reply).dataset = load.dataset := by
  unfold advance
  split <;> rfl

theorem dataset_start (load : Load) : load.start.dataset = load.dataset := by
  unfold start
  split <;> rfl

/-- The load at a position after an event. -/
def after (load : Load) (position : Nat) : Event → Load
  | .start other => if other = position then load.start else load
  | .reply other reply => if other = position then load.advance reply else load
  | _ => load

theorem dataset_after (load : Load) (position : Nat) (event : Event) :
    (load.after position event).dataset = load.dataset := by
  cases event with
  | start other => simp only [after]; split <;> simp [dataset_start]
  | reply other reply => simp only [after]; split <;> simp [dataset_advance]
  | _ => rfl

theorem table_after (load : Load) (position : Nat) (event : Event) :
    (load.after position event).table = load.table := by
  simp [table, dataset_after]

/-- A load that has ended is not changed by anything any more. -/
theorem after_of_ended {load : Load} {outcome : Except Fault Unit}
    (h : load.outcome? = some outcome) (position : Nat) (event : Event) :
    load.after position event = load := by
  cases event with
  | start other => simp [after, start_of_ended h]
  | reply other reply => simp [after, advance_of_ended h]
  | _ => rfl

/-- So it keeps its outcome. -/
theorem outcome?_after {load : Load} {outcome : Except Fault Unit} (h : load.outcome? = some outcome)
    (position : Nat) (event : Event) : (load.after position event).outcome? = some outcome := by
  rw [after_of_ended h, h]

/-- A load that has not ended after an event had not ended before. -/
theorem open_of_after {load : Load} {position : Nat} {event : Event}
    (h : (load.after position event).outcome? = none) : load.outcome? = none := by
  cases houtcome : load.outcome? with
  | none => rfl
  | some outcome => cases (outcome?_after houtcome position event).symm.trans h

end Load

namespace Loader

/-- The event begins a load of the dataset: its table is asked for, is not loaded, and no load of it is
under way. -/
def Begins (dataset : Dataset) (loader : Loader) (event : Event) : Prop :=
  event = .ensure dataset ∧ dataset.table ∉ loader.loaded ∧ loader.inflight.lookup dataset.table = none

/-- The event tells a load that has ended that it is no longer under way. -/
def Retires (position : Nat) (loader : Loader) (event : Event) : Prop :=
  event = .retire position ∧ ∃ load, loader.loads[position]? = some load ∧ load.outcome?.isSome

/-- By the event a load of the table ends well. -/
def Completes (table : String) (loader : Loader) (event : Event) : Prop :=
  ∃ (position : Nat) (load next : Load), loader.loads[position]? = some load ∧
    (loader.step event).loads[position]? = some next ∧
    load.table = table ∧ load.outcome? = none ∧ next.outcome? = some (.ok ())

/-! ### The loads -/

theorem loads_ensure (loader : Loader) (dataset : Dataset) :
    (loader.ensure dataset).loads =
      if dataset.table ∉ loader.loaded ∧ loader.inflight.lookup dataset.table = none then
        loader.loads ++ [.ofDataset dataset]
      else loader.loads := by
  unfold ensure
  by_cases hloaded : dataset.table ∈ loader.loaded
  · simp [hloaded]
  · cases hlookup : loader.inflight.lookup dataset.table <;> simp [hloaded, hlookup]

/-- A load that is there stays at its position. -/
theorem loads_step {loader : Loader} {position : Nat} {load : Load}
    (h : loader.loads[position]? = some load) (event : Event) :
    (loader.step event).loads[position]? = some (load.after position event) := by
  cases event with
  | ensure dataset =>
    have hlt : position < loader.loads.length := (List.getElem?_eq_some_iff.mp h).1
    simp only [step, loads_ensure]
    split
    · rw [List.getElem?_append_left hlt, h]
      rfl
    · exact h
  | start other =>
    simp only [step, List.getElem?_modify, h, Load.after]
    split <;> simp_all
  | reply other reply =>
    simp only [step, Loader.reply, Load.after]
    by_cases hother : other = position
    · subst hother
      have hlt : other < loader.loads.length := (List.getElem?_eq_some_iff.mp h).1
      simp only [h, if_true]
      simp [hlt]
    · cases hload : loader.loads[other]? <;> simp [hother, h]
  | retire other =>
    simp only [step, retire, Load.after]
    cases hload : loader.loads[other]? with
    | none => exact h
    | some ended => simp only []; split <;> exact h
  | cancel caller => exact h
  | invalidate id => exact h
  | invalidateAll => exact h
  | resume caller => exact h

theorem loads_step_of_ended {loader : Loader} {position : Nat} {load : Load} {outcome : Except Fault Unit}
    (h : loader.loads[position]? = some load) (houtcome : load.outcome? = some outcome) (event : Event) :
    (loader.step event).loads[position]? = some load := by
  rw [loads_step h, Load.after_of_ended houtcome]

theorem loads_run_of_ended {loader : Loader} {position : Nat} {load : Load} {outcome : Except Fault Unit}
    (h : loader.loads[position]? = some load) (houtcome : load.outcome? = some outcome)
    (events : List Event) : (loader.run events).loads[position]? = some load := by
  induction events generalizing loader with
  | nil => exact h
  | cons event rest ih => exact ih (loads_step_of_ended h houtcome event)

theorem loads_of_begins {dataset : Dataset} {loader : Loader} {event : Event}
    (h : Begins dataset loader event) :
    (loader.step event).loads = loader.loads ++ [.ofDataset dataset] := by
  obtain ⟨rfl, hbegins⟩ := h
  simp [step, loads_ensure, hbegins]

theorem load_of_begins {dataset : Dataset} {loader : Loader} {event : Event}
    (h : Begins dataset loader event) :
    (loader.step event).loads[loader.loads.length]? = some (.ofDataset dataset) := by
  rw [loads_of_begins h, List.getElem?_concat_length]

theorem length_loads_step (loader : Loader) (event : Event) :
    (loader.step event).loads.length = loader.loads.length ∨
      ∃ dataset, Begins dataset loader event := by
  cases event with
  | ensure dataset =>
    simp only [step, loads_ensure]
    split
    · next hbegins => exact Or.inr ⟨dataset, rfl, hbegins⟩
    · exact Or.inl rfl
  | start other => simp [step]
  | reply other reply =>
    simp only [step, Loader.reply]
    cases loader.loads[other]? <;> simp
  | retire other =>
    simp only [step, retire]
    cases loader.loads[other]? with
    | none => exact Or.inl rfl
    | some load => simp only []; split <;> exact Or.inl rfl
  | cancel caller => exact Or.inl rfl
  | invalidate id => exact Or.inl rfl
  | invalidateAll => exact Or.inl rfl
  | resume caller => exact Or.inl rfl

/-- Every load after an event was there before, or is begun by it and stands behind all others. -/
theorem loads_step_cases {loader : Loader} {event : Event} {position : Nat} {next : Load}
    (h : (loader.step event).loads[position]? = some next) :
    (∃ load, loader.loads[position]? = some load ∧ next = load.after position event) ∨
      ∃ dataset, Begins dataset loader event ∧ position = loader.loads.length ∧
        next = .ofDataset dataset := by
  cases hload : loader.loads[position]? with
  | some load =>
    rw [loads_step hload event] at h
    exact Or.inl ⟨load, rfl, (Option.some.inj h).symm⟩
  | none =>
    have hge : loader.loads.length ≤ position := List.getElem?_eq_none_iff.mp hload
    have hlt : position < (loader.step event).loads.length := (List.getElem?_eq_some_iff.mp h).1
    rcases length_loads_step loader event with hlength | ⟨dataset, hbegins⟩
    · omega
    · rw [loads_of_begins hbegins] at h hlt
      have hposition : position = loader.loads.length := by
        simp at hlt
        omega
      subst hposition
      exact Or.inr ⟨dataset, hbegins, rfl, by simpa using h.symm⟩

/-! ### The tables under way -/

/-- Every table under way has a load of its own at its position. -/
def Registered (loader : Loader) : Prop :=
  ∀ table position, loader.inflight.lookup table = some position →
    ∃ load, loader.loads[position]? = some load ∧ load.table = table

theorem inflight_ensure (loader : Loader) (dataset : Dataset) :
    (loader.ensure dataset).inflight =
      if dataset.table ∉ loader.loaded ∧ loader.inflight.lookup dataset.table = none then
        Fields.put dataset.table loader.loads.length loader.inflight
      else loader.inflight := by
  unfold ensure
  by_cases hloaded : dataset.table ∈ loader.loaded
  · simp [hloaded]
  · cases hlookup : loader.inflight.lookup dataset.table <;> simp [hloaded, hlookup]

theorem inflight_retire {loader : Loader} {position : Nat} {load : Load}
    (h : loader.loads[position]? = some load) :
    (loader.retire position).inflight =
      if load.outcome?.isSome ∧ loader.inflight.lookup load.table = some position then
        loader.inflight.filter fun entry => entry.1 != load.table
      else loader.inflight := by
  simp only [retire, h, Bool.and_eq_true, beq_iff_eq]
  split <;> rfl

theorem lookup_ensure (loader : Loader) (dataset : Dataset) (table : String) (position : Nat) :
    (loader.ensure dataset).inflight.lookup table = some position ↔
      (Begins dataset loader (.ensure dataset) ∧ dataset.table = table ∧
        position = loader.loads.length) ∨ loader.inflight.lookup table = some position := by
  rw [inflight_ensure]
  split
  · next hbegins =>
    rw [Fields.lookup_put]
    split
    · next htable =>
      subst htable
      simp [Begins, hbegins.1, hbegins.2, @eq_comm _ position]
    · next htable =>
      have hother : dataset.table ≠ table := fun h => htable h.symm
      simp [hother]
  · next hkept =>
    constructor
    · exact Or.inr
    · rintro (⟨hbegins, -⟩ | h)
      · exact absurd hbegins.2 hkept
      · exact h

theorem lookup_retire {loader : Loader} (hregistered : Registered loader) (other : Nat)
    (table : String) (position : Nat) :
    (loader.retire other).inflight.lookup table = some position ↔
      loader.inflight.lookup table = some position ∧ ¬ Retires position loader (.retire other) := by
  cases hload : loader.loads[other]? with
  | none =>
    have hsame : loader.retire other = loader := by simp [retire, hload]
    have hkept : ¬ Retires position loader (.retire other) := by
      rintro ⟨hevent, load, hsome, -⟩
      cases hevent
      rw [hload] at hsome
      cases hsome
    simp [hsame, hkept]
  | some load =>
    have hretires : Retires position loader (.retire other) ↔
        other = position ∧ load.outcome?.isSome := by
      constructor
      · rintro ⟨hevent, found, hfound, hended⟩
        cases hevent
        cases hload.symm.trans hfound
        exact ⟨rfl, hended⟩
      · rintro ⟨rfl, hended⟩
        exact ⟨rfl, load, hload, hended⟩
    have htable : loader.inflight.lookup table = some other → table = load.table := by
      intro h
      obtain ⟨found, hfound, rfl⟩ := hregistered table other h
      cases hload.symm.trans hfound
      rfl
    rw [hretires, inflight_retire hload]
    split
    · next hended =>
      rw [Fields.lookup_erase]
      split
      · next hsame =>
        subst hsame
        simp [hended.1, hended.2]
      · next hother =>
        constructor
        · intro h
          refine ⟨h, ?_⟩
          rintro ⟨rfl, -⟩
          exact hother (htable h)
        · exact And.left
    · next hkept =>
      constructor
      · intro h
        refine ⟨h, ?_⟩
        rintro ⟨rfl, hended⟩
        cases htable h
        exact hkept ⟨hended, h⟩
      · exact And.left

/-- After an event a table is under way at a position if its load is begun by the event, or was under
way there before and is not retired by the event. -/
theorem lookup_step {loader : Loader} (hregistered : Registered loader) (event : Event)
    (table : String) (position : Nat) :
    (loader.step event).inflight.lookup table = some position ↔
      (∃ dataset, Begins dataset loader event ∧ dataset.table = table ∧
        position = loader.loads.length) ∨
      (loader.inflight.lookup table = some position ∧ ¬ Retires position loader event) := by
  cases event with
  | ensure dataset => simp [step, lookup_ensure, Begins, Retires]
  | retire other => simp [step, lookup_retire hregistered, Begins]
  | reply other reply =>
    have hsame : (loader.step (.reply other reply)).inflight = loader.inflight := by
      simp only [step, Loader.reply]
      cases loader.loads[other]? <;> rfl
    simp [hsame, Begins, Retires]
  | start other => simp [step, Begins, Retires]
  | cancel caller => simp [step, Begins, Retires]
  | invalidate id => simp [step, Begins, Retires]
  | invalidateAll => simp [step, Begins, Retires]
  | resume caller => simp [step, Begins, Retires]

/-! ### The loaded tables -/

/-- The event takes the table off the loaded ones: the table of a dataset with that name is no longer
known to be loaded, or no table at all. -/
def Forgets (table : String) : Event → Prop
  | .invalidate id => tableName id = table
  | .invalidateAll => True
  | _ => False

theorem mem_withLoaded {table added : String} {loaded : List String} :
    table ∈ withLoaded added loaded ↔ table = added ∨ table ∈ loaded := by
  unfold withLoaded
  split
  · next h =>
    have hmem : added ∈ loaded := by simpa using h
    constructor
    · exact Or.inr
    · rintro (rfl | hold)
      · exact hmem
      · exact hold
  · simp [or_comm]

/-- Only a reply lets a load end well. -/
theorem completes_iff {table : String} {loader : Loader} {event : Event} :
    Completes table loader event ↔
      ∃ position reply load, event = .reply position reply ∧
        loader.loads[position]? = some load ∧ load.table = table ∧ load.outcome? = none ∧
        (load.advance reply).outcome? = some (.ok ()) := by
  constructor
  · rintro ⟨position, load, next, hload, hnext, htable, hopen, hended⟩
    rw [loads_step hload event] at hnext
    cases hnext
    cases event with
    | reply other reply =>
      by_cases hother : other = position
      · subst hother
        exact ⟨other, reply, load, rfl, hload, htable, hopen, by simpa [Load.after] using hended⟩
      · simp [Load.after, hother, hopen] at hended
    | start other =>
      simp only [Load.after] at hended
      split at hended <;> simp [Load.outcome?_start, hopen] at hended
    | _ => simp [Load.after, hopen] at hended
  · rintro ⟨position, reply, load, rfl, hload, htable, hopen, hended⟩
    refine ⟨position, load, load.advance reply, hload, ?_, htable, hopen, hended⟩
    simp [loads_step hload, Load.after]

/-- After an event a table is loaded if a load of it ends well by the event, or if it was loaded before
and the event does not take it off. -/
theorem mem_loaded_step (loader : Loader) (event : Event) (table : String) :
    table ∈ (loader.step event).loaded ↔
      Completes table loader event ∨ (table ∈ loader.loaded ∧ ¬ Forgets table event) := by
  cases event with
  | reply position reply =>
    rw [completes_iff]
    simp only [step, Loader.reply, Forgets, not_false_eq_true, and_true]
    cases hload : loader.loads[position]? with
    | none =>
      constructor
      · exact Or.inr
      · rintro (⟨other, answer, load, hevent, hsome, -⟩ | h)
        · cases hevent
          rw [hload] at hsome
          cases hsome
        · exact h
    | some load =>
      simp only []
      split
      · next hopen hended =>
        rw [mem_withLoaded]
        simp [hload, hopen, hended, Load.table, Load.dataset_advance, eq_comm]
      · next hother =>
        constructor
        · exact Or.inr
        · rintro (⟨other, answer, found, hevent, hfound, -, hopen, hended⟩ | h)
          · cases hevent
            cases hload.symm.trans hfound
            exact absurd hended (hother () hopen)
          · exact h
  | ensure dataset =>
    have hsame : (loader.ensure dataset).loaded = loader.loaded := by
      simp only [ensure]
      split
      · rfl
      · split <;> rfl
    simp [completes_iff, step, hsame, Forgets]
  | retire position =>
    have hsame : (loader.retire position).loaded = loader.loaded := by
      unfold retire
      split
      · rfl
      · split <;> rfl
    simp [completes_iff, step, hsame, Forgets]
  | invalidate id => simp [completes_iff, step, Forgets, @eq_comm _ table]
  | invalidateAll => simp [completes_iff, step, Forgets]
  | start position => simp [completes_iff, step, Forgets]
  | cancel caller => simp [completes_iff, step, Forgets]
  | resume caller => simp [completes_iff, step, Forgets]

end Loader
end Insights
