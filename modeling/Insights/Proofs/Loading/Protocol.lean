import Insights.Proofs.Loading.Loaded
import Insights.Proofs.Loading.Renewal

/-!
The protocol of a load: what it asks after which replies, and how it ends. A table lists all that a load
can have heard and asked; every event keeps it, and what a load does is read off it. A load that fails
leaves nothing behind among the loaded tables and the tables under way, so the next caller of its table
begins anew.
-/

namespace Insights

/-- Whether a reply is of the kind that a request asks for. -/
def Reply.Answers : Reply → Request → Prop
  | .probed _, .probe _ | .dropped _, .drop _ | .fetched _, .fetch _ | .imported _, .bulkImport _ _ => True
  | _, _ => False

/-- The result of a probe that does not find the table: it is not there, or there was an outage. -/
def Missed : Except Fault Bool → Prop
  | .ok found => found = false
  | .error fault => fault.isOutage = true

/-- The reply tells of a fault behind the probe. -/
def Reply.Breaks (fault : Fault) (reply : Reply) : Prop :=
  reply = .dropped (.error fault) ∨ reply = .fetched (.error fault) ∨ reply = .imported (.error fault)

/-- Whether a load reports a fault as one of its own, with the wording of the cause. A fault of another
load has been worded already. -/
def Fault.IsWrapped (fault : Fault) : Prop :=
  (fault.isOutage ∨ fault.isInvalidity) ∧ ∀ table reason, fault ≠ .tableLoad table reason

theorem Fault.whileLoading_of_wrapped {fault : Fault} (h : fault.IsWrapped) (table : String) :
    fault.whileLoading table = .tableLoad table fault.message := by
  obtain ⟨hcaught, hforeign⟩ := h
  unfold whileLoading
  split
  · next other reason => exact absurd rfl (hforeign other reason)
  · rw [if_pos (by simpa using hcaught)]

theorem Fault.whileLoading_of_not_wrapped {fault : Fault} (h : ¬ fault.IsWrapped) (table : String) :
    fault.whileLoading table = fault := by
  unfold whileLoading
  split
  · rfl
  · next hforeign =>
    rw [if_neg]
    intro hcaught
    exact h ⟨by simpa using hcaught, hforeign⟩

namespace Load

/-- Everything that a load of a dataset asks for when it imports a payload. -/
def script (dataset : Dataset) (data : Bytes) : List Request :=
  [.probe dataset.table, .drop dataset.table, .fetch dataset.storage.locator,
    .bulkImport dataset.table data]

/-- The replies that a load at a position hears by an event. It listens to nothing that it has not asked
for. -/
def hears (load : Load) (position : Nat) : Event → List Reply
  | .reply other reply => if other = position ∧ (load.nextPhase? reply).isSome then [reply] else []
  | _ => []

/-- All that a load of a dataset can have heard and asked, and the phase that it is in then. -/
inductive Follows (dataset : Dataset) : List Reply → List Request → Phase → Prop
  | begun : Follows dataset [] [] .begun
  | probing : Follows dataset [] [.probe dataset.table] .probing
  | present : Follows dataset [.probed (.ok true)] [.probe dataset.table] (.ended (.ok ()))
  | unclear {fault : Fault} (hfault : fault.isOutage = false) :
      Follows dataset [.probed (.error fault)] [.probe dataset.table] (.ended (.error fault))
  | unsupported {result : Except Fault Bool} (hprobed : Missed result) (hkind : dataset.storage.kind ≠ .local) :
      Follows dataset [.probed result] [.probe dataset.table]
        (.ended (.error (.unsupportedStorage dataset.storage.kind.word)))
  | dropping {result : Except Fault Bool} (hprobed : Missed result) (hkind : dataset.storage.kind = .local) :
      Follows dataset [.probed result] [.probe dataset.table, .drop dataset.table] .dropping
  | undropped {result : Except Fault Bool} {fault : Fault} (hprobed : Missed result)
      (hkind : dataset.storage.kind = .local) :
      Follows dataset [.probed result, .dropped (.error fault)] [.probe dataset.table, .drop dataset.table]
        (.ended (.error (fault.whileLoading dataset.table)))
  | fetching {result : Except Fault Bool} (hprobed : Missed result) (hkind : dataset.storage.kind = .local) :
      Follows dataset [.probed result, .dropped (.ok ())]
        [.probe dataset.table, .drop dataset.table, .fetch dataset.storage.locator] .fetching
  | unfetched {result : Except Fault Bool} {fault : Fault} (hprobed : Missed result)
      (hkind : dataset.storage.kind = .local) :
      Follows dataset [.probed result, .dropped (.ok ()), .fetched (.error fault)]
        [.probe dataset.table, .drop dataset.table, .fetch dataset.storage.locator]
        (.ended (.error (fault.whileLoading dataset.table)))
  | missing {result : Except Fault Bool} (hprobed : Missed result) (hkind : dataset.storage.kind = .local) :
      Follows dataset [.probed result, .dropped (.ok ()), .fetched (.ok none)]
        [.probe dataset.table, .drop dataset.table, .fetch dataset.storage.locator]
        (.ended (.error (.tableLoad dataset.table (some (missingPayload dataset.storage.locator)))))
  | importing {result : Except Fault Bool} {data : Bytes} (hprobed : Missed result)
      (hkind : dataset.storage.kind = .local) :
      Follows dataset [.probed result, .dropped (.ok ()), .fetched (.ok (some data))] (script dataset data)
        (.importing data)
  | unimported {result : Except Fault Bool} {data : Bytes} {fault : Fault} (hprobed : Missed result)
      (hkind : dataset.storage.kind = .local) :
      Follows dataset [.probed result, .dropped (.ok ()), .fetched (.ok (some data)), .imported (.error fault)]
        (script dataset data) (.ended (.error (fault.whileLoading dataset.table)))
  | imported {result : Except Fault Bool} {data : Bytes} (hprobed : Missed result)
      (hkind : dataset.storage.kind = .local) :
      Follows dataset [.probed result, .dropped (.ok ()), .fetched (.ok (some data)), .imported (.ok ())]
        (script dataset data) (.ended (.ok ()))

/-- A load that has heard some replies is where the table says. -/
abbrev FollowsAfter (load : Load) (heard : List Reply) : Prop :=
  Follows load.dataset heard load.asked load.phase

theorem absentPhase_local {load : Load} (h : load.dataset.storage.kind = .local) :
    load.absentPhase = .dropping := by
  simp [absentPhase, h]

theorem absentPhase_unsupported {load : Load} (h : load.dataset.storage.kind ≠ .local) :
    load.absentPhase = .ended (.error (.unsupportedStorage load.dataset.storage.kind.word)) := by
  unfold absentPhase
  split
  · next hlocal => exact absurd hlocal h
  · rfl

/-- A probe that misses the table takes a load to its next question, or to the end. -/
theorem follows_absent {load : Load} {result : Except Fault Bool} (h : load.FollowsAfter [])
    (hphase : load.phase = .probing) (hprobed : Missed result) :
    (load.enter load.absentPhase).FollowsAfter [.probed result] := by
  obtain ⟨dataset, phase, asked⟩ := load
  change Follows dataset [] asked phase at h
  subst hphase
  cases h
  by_cases hkind : dataset.storage.kind = .local
  · rw [absentPhase_local hkind]
    exact .dropping hprobed hkind
  · rw [absentPhase_unsupported hkind]
    exact .unsupported hprobed hkind

/-- A reply that a load hears takes it to where the table says. -/
theorem follows_enter {load : Load} {heard : List Reply} {reply : Reply} {phase : Phase}
    (h : load.FollowsAfter heard) (hnext : load.nextPhase? reply = some phase) :
    (load.enter phase).FollowsAfter (heard ++ [reply]) := by
  obtain ⟨dataset, current, asked⟩ := load
  change Follows dataset heard asked current at h
  cases h with
  | probing =>
    cases reply with
    | probed result =>
      cases result with
      | ok found =>
        cases found with
        | true =>
          cases hnext
          exact .present
        | false =>
          cases hnext
          exact follows_absent .probing rfl rfl
      | error fault =>
        simp only [nextPhase?] at hnext
        split at hnext
        · next houtage =>
          cases hnext
          exact follows_absent .probing rfl houtage
        · next hclear =>
          cases hnext
          exact .unclear (by simpa using hclear)
    | _ => cases hnext
  | dropping hprobed hkind =>
    cases reply with
    | dropped result =>
      cases result with
      | ok done =>
        cases hnext
        exact .fetching hprobed hkind
      | error fault =>
        cases hnext
        exact .undropped hprobed hkind
    | _ => cases hnext
  | fetching hprobed hkind =>
    cases reply with
    | fetched payload =>
      cases payload with
      | ok found =>
        cases found with
        | some data =>
          cases hnext
          exact .importing hprobed hkind
        | none =>
          cases hnext
          exact .missing hprobed hkind
      | error fault =>
        cases hnext
        exact .unfetched hprobed hkind
    | _ => cases hnext
  | importing hprobed hkind =>
    cases reply with
    | imported result =>
      cases result with
      | ok done =>
        cases hnext
        exact .imported hprobed hkind
      | error fault =>
        cases hnext
        exact .unimported hprobed hkind
    | _ => cases hnext
  | _ => cases hnext

/-- A load that is started asks its first question, unless it has done so before. -/
theorem follows_start {load : Load} {heard : List Reply} (h : load.FollowsAfter heard) :
    load.start.FollowsAfter heard := by
  obtain ⟨dataset, phase, asked⟩ := load
  change Follows dataset heard asked phase at h
  cases hphase : phase with
  | begun =>
    subst hphase
    cases h
    exact .probing
  | _ =>
    subst hphase
    exact h

/-- No event takes a load off the table. -/
theorem follows_after {load : Load} {heard : List Reply} (h : load.FollowsAfter heard) (position : Nat)
    (event : Event) : (load.after position event).FollowsAfter (heard ++ load.hears position event) := by
  cases event with
  | reply other reply =>
    by_cases hother : other = position
    · subst hother
      cases hnext : load.nextPhase? reply with
      | none => simpa [after, advance, hears, hnext] using h
      | some phase => simpa [after, advance, hears, hnext] using follows_enter h hnext
    · simpa [after, hears, hother] using h
  | start other =>
    by_cases hother : other = position
    · simpa [after, hears, hother] using follows_start h
    · simpa [after, hears, hother] using h
  | _ => simpa [after, hears] using h

/-- What a load does after the replies that it has heard. -/
structure Conforms (load : Load) (heard : List Reply) : Prop where
  /-- It makes the calls of its script, in this order and nothing else. -/
  calls : ∃ data, load.asked <+: script load.dataset data
  /-- What it imports are the bytes that it has just fetched. -/
  imports : ∀ table data, .bulkImport table data ∈ load.asked →
    ∃ result, [.probed result, .dropped (.ok ()), .fetched (.ok (some data))] <+: heard
  /-- The replies answer its calls, one after the other. -/
  answers : List.Forall₂ Reply.Answers heard (load.asked.take heard.length)
  /-- It has ended as soon as every call was answered that it has made. -/
  ends : load.outcome?.isSome ↔ load.asked ≠ [] ∧ heard.length = load.asked.length
  /-- Until then it takes any answer to its last call. -/
  listens : load.outcome? = none → ∀ request, load.asked.getLast? = some request →
    ∀ reply, (load.nextPhase? reply).isSome ↔ reply.Answers request
  /-- Nothing follows a probe that finds the table. -/
  present : .probed (.ok true) ∈ heard → load.asked = [.probe load.table]
  /-- A probe that fails otherwise than by an outage ends the load with its fault. -/
  unclear : ∀ fault, .probed (.error fault) ∈ heard → fault.isOutage = false →
    load.asked = [.probe load.table] ∧ load.outcome? = some (.error fault)
  /-- A table that the probe missed is dropped if the dataset is stored locally. -/
  absent : ∀ result, .probed result ∈ heard → Missed result → load.dataset.storage.kind = .local →
    .drop load.table ∈ load.asked
  /-- Otherwise the load ends. -/
  unsupported : ∀ result, .probed result ∈ heard → Missed result → load.dataset.storage.kind ≠ .local →
    load.asked = [.probe load.table] ∧
      load.outcome? = some (.error (.unsupportedStorage load.dataset.storage.kind.word))
  /-- Without a payload there is no import. -/
  missing : .fetched (.ok none) ∈ heard →
    (∀ table data, .bulkImport table data ∉ load.asked) ∧
      load.outcome? = some (.error (.tableLoad load.table
        (some ("data not found in storage: " ++ load.dataset.storage.locator))))
  /-- A call that fails behind the probe ends the load with a fault that names the table and has the
  wording of the cause. -/
  wrapped : ∀ fault reply, reply ∈ heard → reply.Breaks fault → fault.IsWrapped →
    load.outcome? = some (.error (.tableLoad load.table fault.message))
  /-- Faults of other loads, and those of other kinds, are passed on as they are. -/
  unchanged : ∀ fault reply, reply ∈ heard → reply.Breaks fault → ¬ fault.IsWrapped →
    load.outcome? = some (.error fault)
  /-- It ends well exactly if the table was found or every step has succeeded. -/
  succeeds : load.outcome? = some (.ok ()) ↔ heard = [.probed (.ok true)] ∨
    ∃ result data, Missed result ∧ load.dataset.storage.kind = .local ∧
      heard = [.probed result, .dropped (.ok ()), .fetched (.ok (some data)), .imported (.ok ())]

section
variable {dataset : Dataset} {heard : List Reply} {asked : List Request} {phase : Phase}

/-- A call that fails behind the probe ends a load with what it makes of the fault. -/
theorem Follows.phase_of_breaks (h : Follows dataset heard asked phase) {fault : Fault} {reply : Reply}
    (hheard : reply ∈ heard) (hbreaks : reply.Breaks fault) :
    phase = .ended (.error (fault.whileLoading dataset.table)) := by
  rcases hbreaks with rfl | rfl | rfl <;> cases h <;> simp_all

/-- A load whose payload is not stored ends before it imports anything. -/
theorem Follows.phase_of_missing (h : Follows dataset heard asked phase)
    (hheard : .fetched (.ok none) ∈ heard) :
    asked = [.probe dataset.table, .drop dataset.table, .fetch dataset.storage.locator] ∧
      phase = .ended (.error (.tableLoad dataset.table (some (missingPayload dataset.storage.locator)))) := by
  cases h with
  | missing => exact ⟨rfl, rfl⟩
  | _ => simp at hheard

/-- What follows the probe depends on its result, and on where the dataset is stored. -/
theorem Follows.probed_cases (h : Follows dataset heard asked phase) {result : Except Fault Bool}
    (hheard : .probed result ∈ heard) :
    (result = .ok true ∧ asked = [.probe dataset.table]) ∨
    (∃ fault, result = .error fault ∧ fault.isOutage = false ∧ asked = [.probe dataset.table] ∧
      phase = .ended (.error fault)) ∨
    (Missed result ∧ dataset.storage.kind = .local ∧ .drop dataset.table ∈ asked) ∨
    (Missed result ∧ dataset.storage.kind ≠ .local ∧ asked = [.probe dataset.table] ∧
      phase = .ended (.error (.unsupportedStorage dataset.storage.kind.word))) := by
  cases h with
  | begun | probing => simp at hheard
  | present => simp_all
  | unclear hfault => simp_all
  | unsupported hprobed hkind => simp_all
  | _ hprobed hkind =>
    obtain rfl : result = _ := by simpa using hheard
    exact Or.inr (Or.inr (Or.inl ⟨hprobed, hkind, by simp [script]⟩))

end

theorem nextPhase?_isSome_iff {load : Load} {reply : Reply} :
    (load.nextPhase? reply).isSome ↔ ∃ request, load.request? = some request ∧ reply.Answers request := by
  unfold nextPhase? request? requestIn
  cases load.phase with
  | begun | ended outcome => simp
  | probing | dropping | fetching | importing data =>
    rcases reply with (_ | _ | _) | (_ | _) | (_ | _ | _) | (_ | _) <;> simp [Reply.Answers]

/-- A load that has asked something and not ended waits for the answer to its last call. -/
theorem getLast?_asked {load : Load} {heard : List Reply} (h : load.FollowsAfter heard)
    (hopen : load.outcome? = none) : load.asked.getLast? = load.request? := by
  obtain ⟨dataset, phase, asked⟩ := load
  change Follows dataset heard asked phase at h
  cases h <;> first | rfl | cases hopen

theorem conforms_of_follows {dataset : Dataset} {heard : List Reply} {asked : List Request} {phase : Phase}
    (h : Follows dataset heard asked phase) : Conforms ⟨dataset, phase, asked⟩ heard where
  calls := by cases h <;> simp [script]
  imports := by cases h <;> simp [script]
  answers := by cases h <;> simp [script, Reply.Answers]
  ends := by cases h <;> simp [script, outcome?]
  listens := by
    intro hopen request hrequest reply
    rw [getLast?_asked h hopen] at hrequest
    simp [nextPhase?_isSome_iff, hrequest]
  present := by
    intro hheard
    rcases h.probed_cases hheard with ⟨-, hasked⟩ | ⟨fault, hfault, -⟩ | ⟨hmissed, -⟩ | ⟨hmissed, -⟩
    · exact hasked
    · cases hfault
    · cases hmissed
    · cases hmissed
  unclear := by
    intro fault hheard hclear
    rcases h.probed_cases hheard with ⟨hfound, -⟩ | ⟨found, hfault, -, hasked, hphase⟩ |
      ⟨hmissed, -⟩ | ⟨hmissed, -⟩
    · cases hfound
    · cases hfault
      exact ⟨hasked, by rw [outcome?, hphase]⟩
    · cases hclear.symm.trans hmissed
    · cases hclear.symm.trans hmissed
  absent := by
    intro result hheard hmissed hkind
    rcases h.probed_cases hheard with ⟨rfl, -⟩ | ⟨fault, rfl, hclear, -⟩ | ⟨-, -, hasked⟩ | ⟨-, hother, -⟩
    · cases hmissed
    · cases hclear.symm.trans hmissed
    · exact hasked
    · exact absurd hkind hother
  unsupported := by
    intro result hheard hmissed hkind
    rcases h.probed_cases hheard with ⟨rfl, -⟩ | ⟨fault, rfl, hclear, -⟩ | ⟨-, hlocal, -⟩ |
      ⟨-, -, hasked, hphase⟩
    · cases hmissed
    · cases hclear.symm.trans hmissed
    · exact absurd hlocal hkind
    · exact ⟨hasked, by rw [outcome?, hphase]⟩
  missing := by
    intro hheard
    obtain ⟨rfl, hphase⟩ := h.phase_of_missing hheard
    exact ⟨by simp, by rw [outcome?, hphase]; rfl⟩
  wrapped := by
    intro fault reply hheard hbreaks hwrapped
    rw [← Fault.whileLoading_of_wrapped hwrapped, outcome?, h.phase_of_breaks hheard hbreaks]
    rfl
  unchanged := by
    intro fault reply hheard hbreaks hforeign
    rw [outcome?, h.phase_of_breaks hheard hbreaks, Fault.whileLoading_of_not_wrapped hforeign]
  succeeds := by
    cases h with
    | imported hprobed hkind => simp [outcome?, hprobed, hkind]
    | unsupported hprobed | dropping hprobed =>
      have hunfound : ∀ {result}, Missed result → result ≠ .ok true := by
        rintro result hmissed rfl
        cases hmissed
      simp [outcome?, hunfound hprobed]
    | _ => simp [outcome?]

end Load

namespace Loader

/-- The replies that the load at a position hears by an event. -/
def heard (position : Nat) (loader : Loader) (event : Event) : List Reply :=
  (loader.loads[position]?).elim [] fun load => load.hears position event

/-- All replies that the load at a position hears in the course of events. -/
def heardBy (position : Nat) (events : List Event) : List Reply :=
  observed (heard position) empty events

variable {events : List Event} {position : Nat} {load : Load}

theorem heardBy_append (position : Nat) (events : List Event) (event : Event) :
    heardBy position (events ++ [event]) = heardBy position events ++ heard position (reached events) event :=
  observed_append _ _ _ _

/-- A load that has not been begun has heard nothing. -/
theorem heardBy_of_length_le (h : (reached events).loads.length ≤ position) :
    heardBy position events = [] := by
  induction events using List.reverseRecOn with
  | nil => rfl
  | append_singleton events event ih =>
    rw [reached_append] at h
    have hbefore := Nat.le_trans (length_loads_le (reached events) event) h
    rw [heardBy_append, ih hbefore, heard, List.getElem?_eq_none hbefore]
    rfl

/-- Every load in every state stands on the table. -/
theorem follows_reached (hload : (reached events).loads[position]? = some load) :
    load.FollowsAfter (heardBy position events) := by
  induction events using List.reverseRecOn generalizing load with
  | nil => simp [reached, run, empty] at hload
  | append_singleton events event ih =>
    rw [reached_append] at hload
    rw [heardBy_append]
    rcases loads_step_cases hload with ⟨old, hold, rfl⟩ | ⟨dataset, hbegins, rfl, rfl⟩
    · simpa [heard, hold] using Load.follows_after (ih hold) position event
    · rw [heardBy_of_length_le (Nat.le_refl _), heard, List.getElem?_eq_none (Nat.le_refl _)]
      exact .begun

/-! ### After a load has failed -/

/-- Only a load that has ended well is under way for a loaded table. -/
theorem ended_well_of_loaded {table : String} (hloaded : table ∈ (reached events).loaded)
    (hinflight : (reached events).inflight.lookup table = some position) :
    ∃ load, (reached events).loads[position]? = some load ∧ load.outcome? = some (.ok ()) := by
  induction events using List.reverseRecOn with
  | nil => simp [reached, run, empty] at hloaded
  | append_singleton events event ih =>
    rw [reached_append] at hloaded hinflight ⊢
    have hbefore := (lookup_step (registered_reached events) event table position).mp hinflight
    rcases (mem_loaded_step _ event table).mp hloaded with
      ⟨found, load, next, hload, hnext, rfl, hopen, hended⟩ | ⟨hold, -⟩
    · have hlookup := lookup_of_open hload hopen
      rcases hbefore with ⟨dataset, ⟨-, -, hnone⟩, htable, -⟩ | ⟨hregistered, -⟩
      · rw [htable, hlookup] at hnone
        cases hnone
      · obtain rfl : found = position := Option.some.inj (hlookup.symm.trans hregistered)
        exact ⟨next, hnext, hended⟩
    · rcases hbefore with ⟨dataset, ⟨-, hnew, -⟩, rfl, -⟩ | ⟨hregistered, -⟩
      · exact absurd hold hnew
      · obtain ⟨load, hload, hended⟩ := ih hold hregistered
        exact ⟨load, loads_step_of_ended hload hended event, hended⟩

/-- While a load that has failed is still under way, its table is not loaded. -/
theorem not_loaded_of_failed (hload : (reached events).loads[position]? = some load) {fault : Fault}
    (hfailed : load.outcome? = some (.error fault))
    (hinflight : (reached events).inflight.lookup load.table = some position) :
    load.table ∉ (reached events).loaded := by
  intro hloaded
  obtain ⟨found, hfound, hended⟩ := ended_well_of_loaded hloaded hinflight
  cases hload.symm.trans hfound
  cases hfailed.symm.trans hended

/-- Once it is not, the table is idle. -/
theorem idle_of_failed (hload : (reached events).loads[position]? = some load) {fault : Fault}
    (hfailed : load.outcome? = some (.error fault))
    (hinflight : (reached events).inflight.lookup load.table = some position) :
    Idle load.table (reached (events ++ [.retire position])) := by
  rw [reached_append]
  constructor
  · rw [mem_loaded_step]
    rintro (hcompletes | ⟨hloaded, -⟩)
    · obtain ⟨other, reply, found, hevent, -⟩ := completes_iff.mp hcompletes
      cases hevent
    · exact not_loaded_of_failed hload hfailed hinflight hloaded
  · rw [Option.eq_none_iff_forall_ne_some]
    intro other hlookup
    rcases (lookup_step (registered_reached events) _ _ other).mp hlookup with
      ⟨dataset, ⟨hevent, -⟩, -⟩ | ⟨hold, hkept⟩
    · cases hevent
    · cases hinflight.symm.trans hold
      exact hkept ⟨rfl, load, hload, by simp [hfailed]⟩

/-- The next caller of a dataset waits for a load of its own, which begins with a probe. -/
structure Renews (dataset : Dataset) (loader : Loader) : Prop where
  idle : Idle dataset.table loader
  begins : (loader.step (.ensure dataset)).loads[loader.loads.length]? = some (.ofDataset dataset)
  waits : (loader.step (.ensure dataset)).callers[loader.callers.length]? =
    some (.waiting loader.loads.length)
  probes : ((loader.step (.ensure dataset)).step (.start loader.loads.length)).askedBy loader.loads.length =
    [.probe dataset.table]

theorem renews_of_idle {dataset : Dataset} {loader : Loader} (h : Idle dataset.table loader) :
    Renews dataset loader := by
  obtain ⟨hbegins, hcallers⟩ := h.ensure
  have hnew := load_of_begins hbegins
  refine ⟨h, hnew, ?_, ?_⟩
  · rw [hcallers, List.getElem?_concat_length]
  · rw [askedBy, loads_step hnew]
    simp [Load.after, Load.start, Load.ofDataset, Load.enter, Load.requestIn, Load.table]

/-- Every load keeps to the protocol, whatever it hears. When it has failed, its table is not loaded; and
once the load is no longer under way, the next caller of the table begins a fresh one. -/
theorem load_protocol (events : List Event) (position : Nat) (load : Load)
    (hload : (reached events).loads[position]? = some load) :
    load.Conforms (heardBy position events) ∧
    ∀ fault, load.outcome? = some (.error fault) → ¬ Occurred (Retires position) events →
      load.table ∉ (reached events).loaded ∧
      ∀ dataset later, dataset.table = load.table →
        (∀ other, .ensure other ∈ later → other.table ≠ load.table) →
          Renews dataset (reached (events ++ .retire position :: later)) := by
  refine ⟨Load.conforms_of_follows (follows_reached hload), ?_⟩
  intro fault hfailed hkept
  have hinflight : (reached events).inflight.lookup load.table = some position :=
    (lookup_inflight_iff events load.table position).mpr ⟨⟨load, hload, rfl⟩, hkept⟩
  refine ⟨not_loaded_of_failed hload hfailed hinflight, ?_⟩
  intro dataset later htable hunasked
  have hidle := (idle_of_failed hload hfailed hinflight).along hunasked
  rw [List.append_assoc, ← htable] at hidle
  exact renews_of_idle hidle

/-- The probe fails by an outage, and so does the drop after it. -/
def lockedTable : List Event :=
  [.ensure sampleDataset, .start 0, .reply 0 (.probed (.error (.system "down"))),
    .reply 0 (.dropped (.error (.system "locked")))]

/-- A load whose table cannot be dropped fails with a fault of that table, and the table is loaded anew
for whoever asks next. -/
theorem load_protocol_lockedTable :
    ∃ load, (reached lockedTable).loads[0]? = some load ∧
      load.asked = [.probe "df_a", .drop "df_a"] ∧
      load.outcome? = some (.error (.tableLoad "df_a" (some "locked"))) ∧
      "df_a" ∉ (reached lockedTable).loaded ∧
      Renews sampleDataset (reached (lockedTable ++ [.retire 0])) := by
  have hload : (reached lockedTable).loads[0]? = some ⟨sampleDataset,
      .ended (.error (.tableLoad "df_a" (some "locked"))), [.probe "df_a", .drop "df_a"]⟩ := rfl
  obtain ⟨-, hfailed⟩ := load_protocol lockedTable 0 _ hload
  have hkept : ¬ Occurred (Retires 0) lockedTable := ((lookup_inflight_iff lockedTable "df_a" 0).mp rfl).2
  obtain ⟨hunloaded, hrenews⟩ := hfailed _ rfl hkept
  exact ⟨_, hload, rfl, rfl, hunloaded, hrenews sampleDataset [] rfl (by simp)⟩

/-- The store fails with the fault of another table's load. -/
def foreignFault : List Event :=
  [.ensure sampleDataset, .start 0, .reply 0 (.probed (.ok false)), .reply 0 (.dropped (.ok ())),
    .reply 0 (.fetched (.error (.tableLoad "df_b" (some "gone"))))]

/-- Not every invalid value behind the probe is reported with its wording: a fault that another table's
load has worded is passed on as it is. -/
theorem failures_not_always_wrapped :
    ¬ ∀ (events : List Event) (position : Nat) (load : Load) (fault : Fault) (reply : Reply),
      (reached events).loads[position]? = some load → reply ∈ heardBy position events →
        reply.Breaks fault → (fault.isOutage ∨ fault.isInvalidity) →
          load.outcome? = some (.error (.tableLoad load.table fault.message)) := by
  intro hwrapped
  have hheard : heardBy 0 foreignFault = [.probed (.ok false), .dropped (.ok ()),
      .fetched (.error (.tableLoad "df_b" (some "gone")))] := rfl
  have hworded := hwrapped foreignFault 0 ⟨sampleDataset, .ended (.error (.tableLoad "df_b" (some "gone"))),
    [.probe "df_a", .drop "df_a", .fetch "k"]⟩ (.tableLoad "df_b" (some "gone"))
    (.fetched (.error (.tableLoad "df_b" (some "gone")))) rfl (by simp [hheard]) (.inr (.inl rfl)) (.inr rfl)
  exact absurd hworded (by decide +kernel)

end Loader
end Insights
