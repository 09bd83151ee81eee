import Insights.Proofs.Loading.Step

/-!
Loads are not begun twice. Whatever the order of events, a load that has not been retired is the one
that is under way for its table, it is the only one of its table, and only such loads ask anything. In
an engine whose probes tell the truth and whose catalog nobody else changes, it follows that a table is
imported at most once.
-/

namespace Insights

/-- Whether a request is one that the load of a dataset makes: it names the table of the dataset, or
the key under which its payload is stored. -/
def Request.Serves (dataset : Dataset) : Request → Prop
  | .probe table | .drop table | .bulkImport table _ => table = dataset.table
  | .fetch key => key = dataset.storage.locator

namespace Load

theorem serves_of_requestIn {load : Load} {phase : Phase} {request : Request}
    (h : load.requestIn phase = some request) : request.Serves load.dataset := by
  cases phase <;> simp [requestIn] at h <;> subst h <;> rfl

/-- What a load asks by an event is for its own dataset, and it asks only while it has not ended. -/
theorem serves_of_mem_drop_asked {load : Load} {position : Nat} {event : Event} {request : Request}
    (h : request ∈ (load.after position event).asked.drop load.asked.length) :
    load.outcome? = none ∧ request.Serves load.dataset := by
  have hentered : ∀ phase, request ∈ (load.enter phase).asked.drop load.asked.length →
      request.Serves load.dataset := by
    intro phase hmember
    rw [enter, List.drop_left, Option.mem_toList] at hmember
    exact serves_of_requestIn hmember
  cases houtcome : load.outcome? with
  | some outcome => simp [after_of_ended houtcome] at h
  | none =>
    refine ⟨rfl, ?_⟩
    cases event with
    | start other =>
      simp only [after, start] at h
      split at h
      · split at h
        · exact hentered _ h
        · simp at h
      · simp at h
    | reply other reply =>
      simp only [after, advance] at h
      split at h
      · split at h
        · exact hentered _ h
        · simp at h
      · simp at h
    | _ => simp [after] at h

end Load

namespace Loader

/-- Everything that the load at a position has asked so far. -/
def askedBy (loader : Loader) (position : Nat) : List Request :=
  (loader.loads[position]?).elim [] Load.asked

/-- What is asked by an event, beyond what was asked before, with the positions of the loads that ask. -/
def asks (loader : Loader) (event : Event) : List (Nat × Request) :=
  (loader.step event).loads.zipIdx.flatMap fun (load, position) =>
    (load.asked.drop (loader.askedBy position).length).map fun request => (position, request)

theorem mem_asks {loader : Loader} {event : Event} {position : Nat} {request : Request} :
    (position, request) ∈ loader.asks event ↔
      ∃ next, (loader.step event).loads[position]? = some next ∧
        request ∈ next.asked.drop (loader.askedBy position).length := by
  simp only [asks, List.mem_flatMap, Prod.exists, List.mk_mem_zipIdx_iff_getElem?, List.mem_map,
    Prod.mk.injEq]
  constructor
  · rintro ⟨next, other, hnext, asked, hasked, rfl, rfl⟩
    exact ⟨next, hnext, hasked⟩
  · rintro ⟨next, hnext, hasked⟩
    exact ⟨next, position, hnext, request, hasked, rfl, rfl⟩

/-- Only a load that was there before and has not ended asks something, and it asks for its dataset. -/
theorem asker_of_mem_asks {loader : Loader} {event : Event} {position : Nat} {request : Request}
    (h : (position, request) ∈ loader.asks event) :
    ∃ load, loader.loads[position]? = some load ∧ load.outcome? = none ∧
      request.Serves load.dataset := by
  obtain ⟨next, hnext, hasked⟩ := mem_asks.mp h
  rcases loads_step_cases hnext with ⟨load, hload, rfl⟩ | ⟨dataset, hbegins, rfl, rfl⟩
  · have hbefore : loader.askedBy position = load.asked := by simp [askedBy, hload]
    rw [hbefore] at hasked
    exact ⟨load, hload, Load.serves_of_mem_drop_asked hasked⟩
  · simp [Load.ofDataset] at hasked

/-! ### Loads that have not been retired -/

/-- At the position stands a load of the table that has not been retired. -/
def Pending (table : String) (events : List Event) (position : Nat) : Prop :=
  (∃ load, (reached events).loads[position]? = some load ∧ load.table = table) ∧
    ¬ Occurred (Retires position) events

/-- A load that has been retired has ended, and stays so. -/
theorem ended_of_retired {events : List Event} {position : Nat}
    (h : Occurred (Retires position) events) :
    ∃ load, (reached events).loads[position]? = some load ∧ load.outcome?.isSome := by
  induction events using List.reverseRecOn with
  | nil => exact absurd h not_occurred_nil
  | append_singleton events event ih =>
    rw [reached_append]
    have hended : ∃ load, (reached events).loads[position]? = some load ∧ load.outcome?.isSome := by
      rcases (occurred_append events event).mp h with hold | ⟨-, hnew⟩
      · exact ih hold
      · exact hnew
    obtain ⟨load, hload, hsome⟩ := hended
    obtain ⟨outcome, houtcome⟩ := Option.isSome_iff_exists.mp hsome
    exact ⟨load, loads_step_of_ended hload houtcome event, hsome⟩

/-- The tables under way are those with a load that has not been retired, at the position of that
load. -/
theorem lookup_inflight_iff (events : List Event) (table : String) (position : Nat) :
    (reached events).inflight.lookup table = some position ↔ Pending table events position := by
  induction events using List.reverseRecOn generalizing table position with
  | nil => simp [Pending, reached, run, empty]
  | append_singleton events event ih =>
    have hregistered : Registered (reached events) := by
      intro table position h
      exact ((ih table position).mp h).1
    rw [reached_append, lookup_step hregistered, Pending, occurred_append, reached_append, ih]
    constructor
    · rintro (⟨dataset, hbegins, rfl, rfl⟩ | ⟨⟨⟨load, hload, htable⟩, hkept⟩, hnot⟩)
      · refine ⟨⟨.ofDataset dataset, ?_, rfl⟩, ?_⟩
        · simp [loads_of_begins hbegins]
        · rintro (hretired | ⟨hevent, -⟩)
          · obtain ⟨load, hload, -⟩ := ended_of_retired hretired
            simp at hload
          · cases hbegins.1.symm.trans hevent
      · refine ⟨⟨_, loads_step hload event, ?_⟩, ?_⟩
        · rw [Load.table_after, htable]
        · rintro (hretired | hretires)
          · exact hkept hretired
          · exact hnot hretires
    · rintro ⟨⟨next, hnext, htable⟩, hkept⟩
      rw [not_or] at hkept
      rcases loads_step_cases hnext with ⟨load, hload, rfl⟩ | ⟨dataset, hbegins, rfl, rfl⟩
      · rw [Load.table_after] at htable
        exact Or.inr ⟨⟨⟨load, hload, htable⟩, hkept.1⟩, hkept.2⟩
      · exact Or.inl ⟨dataset, hbegins, htable, rfl⟩

theorem registered_reached (events : List Event) : Registered (reached events) := by
  intro table position h
  exact ((lookup_inflight_iff events table position).mp h).1

/-- A load that has not ended is the one that is under way for its table. -/
theorem lookup_of_open {events : List Event} {position : Nat} {load : Load}
    (hload : (reached events).loads[position]? = some load) (hopen : load.outcome? = none) :
    (reached events).inflight.lookup load.table = some position := by
  rw [lookup_inflight_iff]
  refine ⟨⟨load, hload, rfl⟩, ?_⟩
  intro hretired
  obtain ⟨found, hfound, hended⟩ := ended_of_retired hretired
  cases hload.symm.trans hfound
  simp [hopen] at hended

/-- Two loads of one table that have not ended are one load. -/
theorem eq_of_open {events : List Event} {p q : Nat} {first second : Load}
    (hfirst : (reached events).loads[p]? = some first)
    (hsecond : (reached events).loads[q]? = some second) (htable : first.table = second.table)
    (hopen : first.outcome? = none) (hopen' : second.outcome? = none) : p = q := by
  have hp := lookup_of_open hfirst hopen
  have hq := lookup_of_open hsecond hopen'
  rw [htable, hq] at hp
  exact (Option.some.inj hp).symm

/-! ### Imports -/

/-- The table that an event is the successful import of. -/
def imported (loader : Loader) : Event → List String
  | .reply position (.imported (.ok _)) =>
    match loader.loads[position]? with
    | some load =>
      match load.phase with
      | .importing _ => [load.table]
      | _ => []
    | none => []
  | _ => []

/-- An engine whose probes do not fail and say whether the table exists, whose successful imports leave
a table behind, and whose catalog only changes in tables that are just being dropped or imported. -/
structure Truthful (loader : Loader) (before : Catalog) (event : Event) (after : Catalog) : Prop where
  probes : ∀ position result load, event = .reply position (.probed result) →
    loader.loads[position]? = some load → load.phase = .probing →
      result = .ok (decide (load.table ∈ before))
  imports : ∀ table ∈ loader.imported event, table ∈ after
  frame : ∀ table, (table ∈ before ↔ table ∈ after) ∨
    ∃ load ∈ loader.loads, load.request? = some (.drop table) ∨
      ∃ data, load.request? = some (.bulkImport table data)

end Loader

/-- Whether a load found its table absent and is about to fill it. -/
def Phase.isFilling : Phase → Bool
  | .dropping | .fetching | .importing _ => true
  | .begun | .probing | .ended _ => false

namespace Load

theorem table_of_drop {load : Load} {table : String} (h : load.request? = some (.drop table)) :
    load.table = table ∧ load.phase.isFilling := by
  cases hphase : load.phase <;> simp_all [request?, requestIn, Phase.isFilling]

theorem table_of_import {load : Load} {table : String} {data : Bytes}
    (h : load.request? = some (.bulkImport table data)) :
    load.table = table ∧ load.phase.isFilling := by
  cases hphase : load.phase <;> simp_all [request?, requestIn, Phase.isFilling]

/-- A load that does not fill its table yet does not begin to when its probe finds the table. -/
theorem not_isFilling_after {load : Load} {position : Nat} {event : Event}
    (h : load.phase.isFilling = false)
    (hfound : ∀ result, event = .reply position (.probed result) → load.phase = .probing →
      result = .ok true) :
    (load.after position event).phase.isFilling = false := by
  cases event with
  | start other =>
    simp only [after, start]
    split
    · split
      · rfl
      · exact h
    · exact h
  | reply other reply =>
    simp only [after, advance]
    split
    · next hother =>
      subst hother
      split
      · next phase hnext =>
        cases hphase : load.phase with
        | begun => simp [nextPhase?, hphase] at hnext
        | ended outcome => simp [nextPhase?, hphase] at hnext
        | probing =>
          cases reply with
          | probed result =>
            have hphases : phase = .ended (.ok ()) := by
              simpa [nextPhase?, hphase, hfound result rfl hphase, eq_comm] using hnext
            simp [enter, hphases, Phase.isFilling]
          | _ => simp [nextPhase?, hphase] at hnext
        | _ => simp [hphase, Phase.isFilling] at h
      · exact h
    · exact h
  | _ => exact h

theorem outcome?_of_isFilling {load : Load} (h : load.phase.isFilling = true) :
    load.outcome? = none := by
  cases hphase : load.phase <;> simp_all [Phase.isFilling, outcome?]

end Load

namespace Loader

/-- The table exists, and no load is about to fill it. -/
def Filled (table : String) (loader : Loader) (tables : Catalog) : Prop :=
  table ∈ tables ∧ ∀ load ∈ loader.loads, load.table = table → load.phase.isFilling = false

/-- No load of the table is about to fill it. -/
def Unfilled (table : String) (loader : Loader) : Prop :=
  ∀ load ∈ loader.loads, load.table = table → load.phase.isFilling = false

/-- When a load of the table ends well, none is about to fill the table any more. -/
theorem unfilled_of_completes {events : List Event} {event : Event} {table : String}
    (h : Completes table (reached events) event) :
    Unfilled table ((reached events).step event) := by
  obtain ⟨position, load, next, hload, hnext, htable, hopen, hended⟩ := h
  rw [loads_step hload] at hnext
  intro other hmember hsame
  obtain ⟨found, hfound⟩ := List.mem_iff_getElem?.mp hmember
  rcases loads_step_cases hfound with ⟨old, hold, rfl⟩ | ⟨dataset, -, -, rfl⟩
  · rw [Load.table_after] at hsame
    by_contra hfilling
    rw [Bool.not_eq_false] at hfilling
    have hstill := Load.outcome?_of_isFilling hfilling
    have hopen' : old.outcome? = none := Load.open_of_after hstill
    obtain rfl : found = position := eq_of_open hold hload (hsame.trans htable.symm) hopen' hopen
    cases hload.symm.trans hold
    rw [Option.some.inj hnext, hended] at hstill
    cases hstill
  · rfl

theorem imported_cases (loader : Loader) (event : Event) :
    loader.imported event = [] ∨
      ∃ position done load data, event = .reply position (.imported (.ok done)) ∧
        loader.loads[position]? = some load ∧ load.phase = .importing data ∧
        loader.imported event = [load.table] := by
  unfold imported
  split
  · next position done =>
    split
    · next load hload =>
      split
      · next data hphase => exact Or.inr ⟨position, done, load, data, rfl, hload, hphase, rfl⟩
      · exact Or.inl rfl
    · exact Or.inl rfl
  · exact Or.inl rfl

theorem completes_of_imported {loader : Loader} {event : Event} {table : String}
    (h : table ∈ loader.imported event) : Completes table loader event := by
  rcases imported_cases loader event with hnone | ⟨position, done, load, data, rfl, hload, hphase, hsome⟩
  · simp [hnone] at h
  · rw [hsome, List.mem_singleton] at h
    refine completes_iff.mpr ⟨position, .imported (.ok done), load, rfl, hload, h.symm, ?_, ?_⟩
    · simp [Load.outcome?, hphase]
    · simp [Load.advance, Load.nextPhase?, hphase, Load.enter, Load.outcome?]

/-- A load that is being imported into a table leaves the table filled. -/
theorem filled_of_imported {events : List Event} {before after : Catalog} {event : Event}
    {table : String} (hrule : Truthful (reached events) before event after)
    (himported : table ∈ (reached events).imported event) :
    Filled table ((reached events).step event) after :=
  ⟨hrule.imports table himported, unfilled_of_completes (completes_of_imported himported)⟩

/-- A table that is filled stays so, and nothing is imported into it. -/
theorem filled_step {events : List Event} {before after : Catalog} {event : Event} {table : String}
    (hrule : Truthful (reached events) before event after)
    (hfilled : Filled table (reached events) before) :
    Filled table ((reached events).step event) after ∧ table ∉ (reached events).imported event := by
  obtain ⟨hexists, hloads⟩ := hfilled
  refine ⟨⟨?_, ?_⟩, ?_⟩
  · rcases hrule.frame table with hsame | ⟨load, hmember, hdrop | ⟨data, himport⟩⟩
    · exact hsame.mp hexists
    · have htable := Load.table_of_drop hdrop
      simp [hloads load hmember htable.1] at htable
    · have htable := Load.table_of_import himport
      simp [hloads load hmember htable.1] at htable
  · intro next hmember htable
    obtain ⟨position, hnext⟩ := List.mem_iff_getElem?.mp hmember
    rcases loads_step_cases hnext with ⟨load, hload, rfl⟩ | ⟨dataset, -, -, rfl⟩
    · rw [Load.table_after] at htable
      subst htable
      apply Load.not_isFilling_after (hloads load (List.mem_of_getElem? hload) rfl)
      intro result hevent hphase
      simp [hrule.probes position result load hevent hload hphase, hexists]
    · rfl
  · intro himported
    rcases imported_cases (reached events) event with
      hnone | ⟨position, done, load, data, -, hload, hphase, hsome⟩
    · simp [hnone] at himported
    · rw [hsome, List.mem_singleton] at himported
      have hidle := hloads load (List.mem_of_getElem? hload) himported.symm
      simp [hphase, Phase.isFilling] at hidle

/-- In the course of events a table is imported at most once, and once it was it stays filled. -/
theorem imported_once {initial tables : Catalog} {events : List Event} (table : String)
    (h : Unfolds Truthful initial events tables) :
    (observed imported empty events).count table = 0 ∨
      ((observed imported empty events).count table = 1 ∧ Filled table (reached events) tables) := by
  induction h with
  | start => exact Or.inl rfl
  | @next events before after event _ hrule ih =>
    rw [observed_append, List.count_append, reached_append]
    change _ + ((reached events).imported event).count table = 0 ∨
      _ + ((reached events).imported event).count table = 1 ∧ _
    rcases ih with hnone | ⟨hone, hfilled⟩
    · by_cases himported : table ∈ (reached events).imported event
      · refine Or.inr ⟨?_, filled_of_imported hrule himported⟩
        rcases imported_cases (reached events) event with hempty | ⟨_, _, load, _, _, _, _, hsome⟩
        · simp [hempty] at himported
        · rw [hsome, List.mem_singleton] at himported
          subst himported
          simp [hnone, hsome]
      · exact Or.inl (by simp [hnone, List.count_eq_zero_of_not_mem himported])
    · obtain ⟨hstays, himported⟩ := filled_step hrule hfilled
      exact Or.inr ⟨by simp [hone, List.count_eq_zero_of_not_mem himported], hstays⟩

/-- Loads are single-flight. After any events from the empty loader, at most one load of a table has
not been retired; it is exactly the one that is under way for the table; and whatever is asked next is
asked by a load for its own table or payload while that load is under way. So with a truthful engine a
table is successfully imported at most once, whatever its catalog was at first. -/
theorem single_flight (events : List Event) (table : String) :
    (∀ p q, Pending table events p → Pending table events q → p = q) ∧
    (∀ p, Pending table events p ↔ (reached events).inflight.lookup table = some p) ∧
    (∀ event p request, (p, request) ∈ (reached events).asks event →
      ∃ load, (reached events).loads[p]? = some load ∧ request.Serves load.dataset ∧
        Pending load.table events p ∧
        (reached events).inflight.lookup load.table = some p ∧
        (reached (events ++ [event])).inflight.lookup load.table = some p) ∧
    (∀ initial tables, Unfolds Truthful initial events tables →
      (observed imported empty events).count table ≤ 1) := by
  refine ⟨?_, fun p => (lookup_inflight_iff events table p).symm, ?_, ?_⟩
  · intro p q hp hq
    rw [← lookup_inflight_iff] at hp hq
    exact Option.some.inj (hp.symm.trans hq)
  · intro event p request hasked
    obtain ⟨load, hload, hopen, hserves⟩ := asker_of_mem_asks hasked
    have hlookup := lookup_of_open hload hopen
    refine ⟨load, hload, hserves, (lookup_inflight_iff events load.table p).mp hlookup, hlookup, ?_⟩
    rw [reached_append, lookup_step (registered_reached events)]
    refine Or.inr ⟨hlookup, ?_⟩
    rintro ⟨-, found, hfound, hended⟩
    cases hload.symm.trans hfound
    simp [hopen] at hended
  · intro initial tables hunfolds
    rcases imported_once table hunfolds with hnone | ⟨hone, -⟩
    · omega
    · omega

/-- An event that is neither the reply to a probe nor a successful import is truthful when the catalog
stays as it is. -/
theorem truthful_of_still {loader : Loader} {event : Event} (tables : Catalog)
    (hprobe : ∀ position result, event ≠ .reply position (.probed result))
    (himport : loader.imported event = []) : Truthful loader tables event tables := by
  refine ⟨?_, ?_, fun table => Or.inl Iff.rfl⟩
  · intro position result load hevent
    exact absurd hevent (hprobe position result)
  · simp [himport]

/-- After such an event the catalog may be as it was. -/
theorem Unfolds.still {initial tables : Catalog} {events : List Event}
    (h : Unfolds Truthful initial events tables) (event : Event)
    (hprobe : ∀ position result, event ≠ .reply position (.probed result))
    (himport : (reached events).imported event = []) :
    Unfolds Truthful initial (events ++ [event]) tables :=
  h.next (truthful_of_still tables hprobe himport)

theorem truthful_sharedLoad : Unfolds Truthful [] sharedLoad ["df_a"] := by
  have before : Unfolds Truthful [] [] [] := .start
  have joined := before.still (.ensure sampleDataset) (by simp) rfl
  have shared := joined.still (.ensure sampleDataset) (by simp) rfl
  have started := shared.still (.start 0) (by simp) rfl
  have probed := @Unfolds.next Truthful [] _ [] [] (.reply 0 (.probed (.ok false))) started <| by
    refine ⟨?_, by decide +kernel, fun table => Or.inl Iff.rfl⟩
    intro position result load hevent
    cases hevent
    simp
  have cancelled := probed.still (.cancel 0) (by simp) rfl
  have dropped := cancelled.still (.reply 0 (.dropped (.ok ()))) (by simp) rfl
  have fetched := dropped.still (.reply 0 (.fetched (.ok (some [])))) (by simp) rfl
  have imported := @Unfolds.next Truthful [] _ [] ["df_a"] (.reply 0 (.imported (.ok ()))) fetched <| by
    refine ⟨by simp, by decide +kernel, ?_⟩
    intro table
    by_cases htable : table = "df_a"
    · subst htable
      refine Or.inr ⟨⟨sampleDataset, .importing [], _⟩, List.mem_singleton.mpr rfl, Or.inr ⟨[], rfl⟩⟩
    · simp [htable]
  exact (imported.still (.retire 0) (by simp) rfl).still (.resume 1) (by simp) rfl

/-- Two callers of one table share a load, and the table is imported once. -/
theorem single_flight_sharedLoad :
    Unfolds Truthful [] sharedLoad ["df_a"] ∧
      (0, Request.bulkImport "df_a" []) ∈
        (reached (sharedLoad.take 6)).asks (.reply 0 (.fetched (.ok (some [])))) ∧
      (reached (sharedLoad.take 6)).inflight.lookup "df_a" = some 0 ∧
      (observed imported empty sharedLoad).count "df_a" = 1 ∧
      (observed imported empty sharedLoad).count "df_a" ≤ 1 := by
  have hasked : (0, Request.bulkImport "df_a" []) ∈
      (reached (sharedLoad.take 6)).asks (.reply 0 (.fetched (.ok (some [])))) := by
    decide +kernel
  obtain ⟨load, hload, -, -, hlookup, -⟩ :=
    (single_flight (sharedLoad.take 6) "df_a").2.2.1 _ _ _ hasked
  refine ⟨truthful_sharedLoad, hasked, ?_, by decide +kernel, ?_⟩
  · cases hload
    exact hlookup
  · exact (single_flight sharedLoad "df_a").2.2.2 [] ["df_a"] truthful_sharedLoad

end Loader
end Insights
