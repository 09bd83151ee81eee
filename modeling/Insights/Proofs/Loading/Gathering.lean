import Insights.Loading.Gathering
import Insights.Proofs.Loading.Sharing

/-!
Waiting for several tables at once. Whoever is waited for stands to the load that it joined as any caller
does, whatever happens meanwhile: it waits for it, was cancelled, or has its outcome. All callers together
are done well only when each was told the name of its table, and they fail with the fault of one of their
loads.
-/

namespace Insights

namespace Awaited

variable {awaited : Awaited} {dataset : Dataset} {loader : Loader} {fault : Fault}

/-- The caller has come to the given state. -/
def IsAt (awaited : Awaited) (loader : Loader) (caller : Caller) : Prop :=
  loader.callers[awaited.caller]? = some caller

/-- The caller was told the table of the dataset. -/
abbrev Served (awaited : Awaited) (dataset : Dataset) (loader : Loader) : Prop :=
  awaited.IsAt loader (.answered (.ok dataset.table))

/-- How a caller that asked for the table of a dataset stands to the load that it joined. One that joined
none was told the name of the table at once. -/
def Stands (awaited : Awaited) (dataset : Dataset) (loader : Loader) : Prop :=
  match awaited.load with
  | none => awaited.Served dataset loader
  | some position => ∃ load, loader.loads[position]? = some load ∧ load.table = dataset.table ∧
      (awaited.IsAt loader (.waiting position) ∨ awaited.IsAt loader .cancelled ∨
        ∃ outcome, load.outcome? = some outcome ∧
          awaited.IsAt loader (.answered (outcome.map fun _ => dataset.table)))

/-- The caller was told at once, or shares the load that it joined: it was not cancelled. -/
def Joined (awaited : Awaited) (dataset : Dataset) (loader : Loader) : Prop :=
  awaited.load = none ∧ awaited.Served dataset loader ∨
    ∃ position, awaited.load = some position ∧ loader.Shares awaited.caller position dataset

theorem IsAt.unique {first second : Caller} (h : awaited.IsAt loader first)
    (h' : awaited.IsAt loader second) : first = second :=
  Option.some.inj (h.symm.trans h')

theorem IsAt.step {caller : Caller} (h : awaited.IsAt loader caller) (event : Event) :
    awaited.IsAt (loader.step event) (caller.after loader.loads awaited.caller event) :=
  Loader.callers_step h event

/-- A caller that was told something has come to its end. -/
theorem IsAt.step_answered {outcome : Except Fault String} (h : awaited.IsAt loader (.answered outcome))
    (event : Event) : awaited.IsAt (loader.step event) (.answered outcome) := by
  have hcaller := h.step event
  rwa [Caller.after_answered] at hcaller

/-- So has one that was cancelled. -/
theorem IsAt.step_cancelled (h : awaited.IsAt loader .cancelled) (event : Event) :
    awaited.IsAt (loader.step event) .cancelled := by
  have hcaller := h.step event
  rwa [Caller.after_cancelled] at hcaller

theorem Stands.step (h : awaited.Stands dataset loader) (event : Event) :
    awaited.Stands dataset (loader.step event) := by
  unfold Stands at h ⊢
  split at h
  · exact h.step_answered event
  next position _ =>
    obtain ⟨load, hload, htable, hcaller⟩ := h
    have htable' := (Load.table_after load position event).trans htable
    rcases hcaller with hwaiting | hcancelled | ⟨outcome, houtcome, hanswered⟩
    · by_cases hcancel : event = .cancel awaited.caller
      · refine ⟨_, Loader.loads_step hload event, htable', .inr (.inl ?_)⟩
        have hcaller := hwaiting.step event
        simpa [hcancel, Caller.after, Caller.cancel] using hcaller
      · have hshares : Loader.Shares awaited.caller position dataset loader :=
          ⟨load, hload, htable, .inl hwaiting⟩
        obtain ⟨next, hnext, hsame, hcaller⟩ := Loader.shares_step hshares hcancel
        exact ⟨next, hnext, hsame, hcaller.imp_right .inr⟩
    · exact ⟨_, Loader.loads_step hload event, htable', .inr (.inl (hcancelled.step_cancelled event))⟩
    · exact ⟨_, Loader.loads_step hload event, htable', .inr (.inr ⟨outcome,
        Load.outcome?_after houtcome position event, hanswered.step_answered event⟩)⟩

theorem Stands.run (h : awaited.Stands dataset loader) (events : List Event) :
    awaited.Stands dataset (loader.run events) := by
  induction events generalizing loader with
  | nil => exact h
  | cons event rest ih => exact ih (h.step event)

theorem Joined.run (h : awaited.Joined dataset loader) {events : List Event}
    (hkept : ∀ event ∈ events, event ≠ .cancel awaited.caller) :
    awaited.Joined dataset (loader.run events) := by
  rcases h with ⟨hnone, hserved⟩ | ⟨position, hjoined, hshares⟩
  · exact .inl ⟨hnone, Loader.answered_run hserved events⟩
  · exact .inr ⟨position, hjoined, Loader.shares_run hshares hkept⟩

theorem Joined.stands (h : awaited.Joined dataset loader) : awaited.Stands dataset loader := by
  rcases h with ⟨hnone, hserved⟩ | ⟨position, hjoined, load, hload, htable, hcaller⟩
  · simp only [Stands, hnone]
    exact hserved
  · simp only [Stands, hjoined]
    exact ⟨load, hload, htable, hcaller.imp_right .inr⟩

theorem Joined.not_cancelled (h : awaited.Joined dataset loader) : ¬ awaited.IsAt loader .cancelled := by
  intro hcancelled
  rcases h with ⟨-, hserved⟩ | ⟨position, -, load, -, -, hwaiting | ⟨outcome, -, hanswered⟩⟩
  · cases hcancelled.unique hserved
  · cases hcancelled.unique hwaiting
  · cases hcancelled.unique hanswered

/-- The caller was told of the fault, or was cancelled. -/
def Failed (awaited : Awaited) (fault : Fault) (loader : Loader) : Prop :=
  awaited.IsAt loader (.answered (.error fault)) ∨ awaited.IsAt loader .cancelled ∧ fault = .cancelled

theorem Failed.step (h : awaited.Failed fault loader) (event : Event) :
    awaited.Failed fault (loader.step event) := by
  rcases h with hanswered | ⟨hcancelled, hfault⟩
  · exact .inl (hanswered.step_answered event)
  · exact .inr ⟨hcancelled.step_cancelled event, hfault⟩

/-- A caller that was told a name was told that of its table. -/
theorem Stands.served {name : String} (h : awaited.Stands dataset loader)
    (htold : awaited.IsAt loader (.answered (.ok name))) : awaited.Served dataset loader := by
  unfold Stands at h
  split at h
  · exact h
  · obtain ⟨load, -, -, hwaiting | hcancelled | ⟨outcome, -, hanswered⟩⟩ := h
    · cases hwaiting.unique htold
    · cases hcancelled.unique htold
    · cases outcome with
      | error fault => cases hanswered.unique htold
      | ok done => exact hanswered

/-- A caller that was told of a fault joined a load of its table that ended with this fault. -/
theorem Stands.load_of_told (h : awaited.Stands dataset loader)
    (htold : awaited.IsAt loader (.answered (.error fault))) :
    ∃ position load, awaited.load = some position ∧ loader.loads[position]? = some load ∧
      load.table = dataset.table ∧ load.outcome? = some (.error fault) := by
  unfold Stands at h
  split at h
  · cases h.unique htold
  next position hjoined =>
    obtain ⟨load, hload, htable, hwaiting | hcancelled | ⟨outcome, houtcome, hanswered⟩⟩ := h
    · cases hwaiting.unique htold
    · cases hcancelled.unique htold
    · cases outcome with
      | error found =>
        cases hanswered.unique htold
        exact ⟨position, load, hjoined, hload, htable, houtcome⟩
      | ok done => cases hanswered.unique htold

/-- Nobody is served by a load that failed. -/
theorem Stands.not_served {position : Nat} {load : Load} (h : awaited.Stands dataset loader)
    (hjoined : awaited.load = some position) (hload : loader.loads[position]? = some load)
    (houtcome : load.outcome? = some (.error fault)) : ¬ awaited.Served dataset loader := by
  intro hserved
  simp only [Stands, hjoined] at h
  obtain ⟨found, hfound, -, hwaiting | hcancelled | ⟨outcome, hended, hanswered⟩⟩ := h
  · cases hwaiting.unique hserved
  · cases hcancelled.unique hserved
  · cases hload.symm.trans hfound
    cases houtcome.symm.trans hended
    cases hanswered.unique hserved

end Awaited

namespace Loader

/-- Somebody who asks for a table joins a load of it, unless it is loaded. -/
theorem joined_ensure {loader : Loader} (hregistered : Registered loader) (dataset : Dataset) :
    Awaited.Joined ⟨loader.callers.length, (loader.ensure dataset).waitedFor? loader.callers.length⟩
      dataset (loader.ensure dataset) := by
  have hcaller : (loader.ensure dataset).callers[loader.callers.length]? =
      some (loader.welcome dataset) := by
    simp [callers_ensure]
  cases hwelcome : loader.welcome dataset with
  | waiting position =>
    rw [hwelcome] at hcaller
    obtain ⟨load, hload, htable⟩ := load_of_joins hregistered ⟨rfl, rfl, hcaller⟩
    refine .inr ⟨position, ?_, load, hload, htable, .inl hcaller⟩
    simp only [waitedFor?, hcaller]
  | answered outcome =>
    have hloaded : outcome = .ok dataset.table := by
      unfold welcome at hwelcome
      split at hwelcome
      · cases hwelcome
        rfl
      · cases hwelcome
    rw [hwelcome, hloaded] at hcaller
    refine .inl ⟨?_, hcaller⟩
    simp only [waitedFor?, hcaller]
  | cancelled =>
    unfold welcome at hwelcome
    split at hwelcome <;> cases hwelcome

/-- All callers of datasets that are asked for one after the other have joined their loads. -/
theorem joined_awaited (past : List Event) (datasets : List Dataset) :
    List.Forall₂ (fun awaited dataset =>
        awaited.Joined dataset (reached (past ++ datasets.map .ensure)))
      ((reached past).awaited datasets) datasets := by
  induction datasets generalizing past with
  | nil => exact .nil
  | cons dataset rest ih =>
    have hnext : (reached past).ensure dataset = reached (past ++ [.ensure dataset]) :=
      (reached_append past (.ensure dataset)).symm
    have hkept : ∀ event ∈ rest.map Event.ensure, event ≠ .cancel (reached past).callers.length := by
      simp
    have hfirst := (joined_ensure (registered_reached past) dataset).run hkept
    have hrest := ih (past ++ [.ensure dataset])
    have hsplit : past ++ (dataset :: rest).map .ensure = past ++ [.ensure dataset] ++ rest.map .ensure :=
      List.append_cons past (.ensure dataset) (rest.map .ensure)
    rw [hnext, run_reached] at hfirst
    rw [hsplit, awaited, hnext]
    exact .cons hfirst hrest

/-! ### What all callers together have come to -/

theorem earliestFailure_mem {failures : List (Nat × Fault)} {fault : Fault}
    (h : earliestFailure failures = some fault) : ∃ count, (count, fault) ∈ failures := by
  obtain ⟨⟨count, found⟩, hhead, rfl⟩ := Option.map_eq_some_iff.mp h
  exact ⟨count, (List.mergeSort_perm failures _).mem_iff.mp (List.mem_of_head? hhead)⟩

theorem earliestFailure_eq_none {failures : List (Nat × Fault)} :
    earliestFailure failures = none ↔ failures = [] := by
  rw [earliestFailure, Option.map_eq_none_iff, List.head?_eq_none_iff]
  constructor
  · intro hsorted
    have hperm := List.mergeSort_perm failures fun a b => a.1 ≤ b.1
    rw [hsorted] at hperm
    exact hperm.symm.eq_nil
  · rintro rfl
    exact List.mergeSort_nil

variable {loader : Loader} {awaited : List Awaited} {fault : Fault}

theorem failure?_eq_some {one : Awaited} {count : Nat} (h : loader.failure? one = some (count, fault)) :
    one.Failed fault loader := by
  unfold failure? at h
  split at h
  · next hcaller =>
    cases h
    exact .inl hcaller
  · next hcaller =>
    cases h
    exact .inr ⟨hcaller, rfl⟩
  · cases h

/-- All callers are done well only when each was told a name. -/
theorem served_of_verdict? {done : Unit} (h : loader.verdict? awaited = some (.ok done)) :
    ∀ one ∈ awaited, ∃ name, one.IsAt loader (.answered (.ok name)) := by
  unfold verdict? at h
  split at h
  · cases h
  split at h
  next hall =>
    intro one hone
    have hserved := List.all_eq_true.mp hall one hone
    unfold isServed at hserved
    split at hserved
    next name hcaller => exact ⟨name, hcaller⟩
    next => cases hserved
  next => cases h

/-- They fail only with what one of them was told, or because one of them was cancelled. -/
theorem failed_of_verdict? (h : loader.verdict? awaited = some (.error fault)) :
    ∃ one ∈ awaited, one.Failed fault loader := by
  unfold verdict? at h
  split at h
  · next hfault =>
    cases h
    obtain ⟨count, hmember⟩ := earliestFailure_mem hfault
    obtain ⟨one, hone, hfailure⟩ := List.mem_filterMap.mp hmember
    exact ⟨one, hone, failure?_eq_some hfailure⟩
  · split at h <;> cases h

/-- As soon as one of them was told of a fault, they fail. -/
theorem verdict?_of_failed {one : Awaited} (hone : one ∈ awaited)
    (h : one.IsAt loader (.answered (.error fault))) :
    ∃ found, loader.verdict? awaited = some (.error found) := by
  have hfailure : loader.failure? one = some (loader.questions one, fault) := by
    rw [failure?, h]
  have hmember := List.mem_filterMap.mpr ⟨one, hone, hfailure⟩
  obtain ⟨found, hfound⟩ := Option.ne_none_iff_exists'.mp fun hnone =>
    List.ne_nil_of_mem hmember (earliestFailure_eq_none.mp hnone)
  exact ⟨found, by rw [verdict?, hfound]⟩

/-- As soon as all of them were told names, they are done. -/
theorem verdict?_of_served (h : ∀ one ∈ awaited, ∃ name, one.IsAt loader (.answered (.ok name))) :
    loader.verdict? awaited = some (.ok ()) := by
  have hnone : awaited.filterMap loader.failure? = [] := by
    refine List.filterMap_eq_nil_iff.mpr fun one hone => ?_
    obtain ⟨name, hcaller⟩ := h one hone
    rw [failure?, hcaller]
  have hall : awaited.all loader.isServed = true := by
    refine List.all_eq_true.mpr fun one hone => ?_
    obtain ⟨name, hcaller⟩ := h one hone
    rw [isServed, hcaller]
  rw [verdict?, hnone, earliestFailure_eq_none.mpr rfl, hall, if_pos rfl]

/-- When each of them was told something, it is known what they have come to. -/
theorem verdict?_of_told (h : ∀ one ∈ awaited, ∃ outcome, one.IsAt loader (.answered outcome)) :
    ∃ verdict, loader.verdict? awaited = some verdict := by
  by_cases hfailed : ∃ one ∈ awaited, ∃ fault, one.IsAt loader (.answered (.error fault))
  · obtain ⟨one, hone, fault, hcaller⟩ := hfailed
    obtain ⟨found, hfound⟩ := verdict?_of_failed hone hcaller
    exact ⟨.error found, hfound⟩
  · refine ⟨.ok (), verdict?_of_served fun one hone => ?_⟩
    obtain ⟨outcome, hcaller⟩ := h one hone
    cases outcome with
    | error fault => exact absurd ⟨one, hone, fault, hcaller⟩ hfailed
    | ok name => exact ⟨name, hcaller⟩

/-- A load that is waited for, of the table that was asked for, has ended with the fault. -/
def FailedFor (awaited : List Awaited) (needed : List Dataset) (fault : Fault) (loader : Loader) : Prop :=
  ∃ one dataset position load, (one, dataset) ∈ awaited.zip needed ∧ one.load = some position ∧
    loader.loads[position]? = some load ∧ load.table = dataset.table ∧
    load.outcome? = some (.error fault)

end Loader
end Insights
