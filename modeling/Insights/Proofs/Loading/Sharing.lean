import Insights.Proofs.Loading.SingleFlight

/-!
What callers hear. Everybody who joined a load and is not cancelled hears the outcome of that very load
and keeps it. A caller that is cancelled touches nothing that others see: without the cancellation the
loads ask the same questions, the same tables are loaded and under way, and all other callers stand as
they do with it.
-/

namespace Insights

/-- A caller at a number after an event that meets it there. -/
def Caller.after (caller : Caller) (loads : List Load) (number : Nat) : Event → Caller
  | .cancel other => if other = number then caller.cancel else caller
  | .resume other => if other = number then caller.hear loads else caller
  | _ => caller

theorem Caller.after_answered (outcome : Except Fault String) (loads : List Load) (number : Nat)
    (event : Event) : (answered outcome).after loads number event = answered outcome := by
  cases event with
  | cancel other => simp [after, cancel]
  | resume other => simp [after, hear]
  | _ => rfl

theorem Caller.after_cancelled (loads : List Load) (number : Nat) (event : Event) :
    cancelled.after loads number event = cancelled := by
  cases event with
  | cancel other => simp [after, cancel]
  | resume other => simp [after, hear]
  | _ => rfl

namespace Loader

/-- What somebody who asks for the table of a dataset becomes. -/
def welcome (loader : Loader) (dataset : Dataset) : Caller :=
  if dataset.table ∈ loader.loaded then .answered (.ok dataset.table)
  else .waiting ((loader.inflight.lookup dataset.table).getD loader.loads.length)

theorem callers_ensure (loader : Loader) (dataset : Dataset) :
    (loader.ensure dataset).callers = loader.callers ++ [loader.welcome dataset] := by
  unfold ensure welcome
  by_cases hloaded : dataset.table ∈ loader.loaded
  · simp [hloaded]
  · cases hlookup : loader.inflight.lookup dataset.table <;> simp [hloaded, hlookup]

/-- A caller that is there keeps its number. -/
theorem callers_step {loader : Loader} {number : Nat} {caller : Caller}
    (h : loader.callers[number]? = some caller) (event : Event) :
    (loader.step event).callers[number]? = some (caller.after loader.loads number event) := by
  cases event with
  | ensure dataset =>
    have hlt : number < loader.callers.length := (List.getElem?_eq_some_iff.mp h).1
    simp only [step, callers_ensure]
    rw [List.getElem?_append_left hlt, h]
    rfl
  | cancel other =>
    simp only [step, List.getElem?_modify, h, Caller.after]
    split <;> rfl
  | resume other =>
    simp only [step, List.getElem?_modify, h, Caller.after]
    split <;> rfl
  | reply position reply =>
    have hsame : (loader.reply position reply).callers = loader.callers := by
      unfold Loader.reply
      split <;> rfl
    simp only [step, hsame, h, Caller.after]
  | retire position =>
    have hsame : (loader.retire position).callers = loader.callers := by
      simp only [retire]
      split
      · rfl
      · split <;> rfl
    simp only [step, hsame, h, Caller.after]
  | invalidate id => exact h
  | invalidateAll => exact h
  | start position => exact h

/-- An answer is kept whatever happens. -/
theorem answered_run {loader : Loader} {number : Nat} {outcome : Except Fault String}
    (h : loader.callers[number]? = some (.answered outcome)) (events : List Event) :
    (loader.run events).callers[number]? = some (.answered outcome) := by
  induction events generalizing loader with
  | nil => exact h
  | cons event rest ih =>
    apply ih
    rw [callers_step h, Caller.after_answered]

/-! ### Joining a load -/

/-- By the event somebody asks for the table of the dataset, and comes to wait for the load at the
position. -/
def Joins (number position : Nat) (dataset : Dataset) (loader : Loader) (event : Event) : Prop :=
  event = .ensure dataset ∧ number = loader.callers.length ∧
    (loader.step event).callers[number]? = some (.waiting position)

/-- A load that is joined is a load of the table that was asked for. -/
theorem load_of_joins {loader : Loader} (hregistered : Registered loader) {number position : Nat}
    {dataset : Dataset} {event : Event} (h : Joins number position dataset loader event) :
    ∃ load, (loader.step event).loads[position]? = some load ∧ load.table = dataset.table := by
  obtain ⟨rfl, rfl, hwaiting⟩ := h
  have hwelcome : loader.welcome dataset = .waiting position := by
    simpa [step, callers_ensure] using hwaiting
  unfold welcome at hwelcome
  split at hwelcome
  · cases hwelcome
  · next hnew =>
    cases hlookup : loader.inflight.lookup dataset.table with
    | some found =>
      obtain ⟨load, hload, htable⟩ := hregistered _ _ hlookup
      obtain rfl : found = position := by simpa [hlookup] using hwelcome
      refine ⟨_, loads_step hload (.ensure dataset), ?_⟩
      rw [Load.table_after, htable]
    | none =>
      obtain rfl : loader.loads.length = position := by simpa [hlookup] using hwelcome
      have hbegins : Begins dataset loader (.ensure dataset) := ⟨rfl, hnew, hlookup⟩
      exact ⟨.ofDataset dataset, load_of_begins hbegins, rfl⟩

/-- How a caller that joined a load and was not cancelled stands to it: it waits for the load, or it has
the outcome of the load for an answer. -/
def Shares (number position : Nat) (dataset : Dataset) (loader : Loader) : Prop :=
  ∃ load, loader.loads[position]? = some load ∧ load.table = dataset.table ∧
    (loader.callers[number]? = some (.waiting position) ∨
      ∃ outcome, load.outcome? = some outcome ∧
        loader.callers[number]? = some (.answered (outcome.map fun _ => dataset.table)))

theorem shares_step {number position : Nat} {dataset : Dataset} {loader : Loader} {event : Event}
    (h : Shares number position dataset loader) (hevent : event ≠ .cancel number) :
    Shares number position dataset (loader.step event) := by
  obtain ⟨load, hload, htable, hcaller⟩ := h
  refine ⟨_, loads_step hload event, (Load.table_after load position event).trans htable, ?_⟩
  rcases hcaller with hwaiting | ⟨outcome, houtcome, hanswered⟩
  · rw [callers_step hwaiting]
    cases event with
    | cancel other =>
      have hother : other ≠ number := by
        rintro rfl
        exact hevent rfl
      simp [Caller.after, hother]
    | resume other =>
      simp only [Caller.after, Caller.hear, hload, Load.after]
      split
      · cases houtcome : load.outcome? with
        | none => simp
        | some outcome => simp [htable]
      · simp
    | _ => simp [Caller.after]
  · rw [callers_step hanswered, Caller.after_answered, Load.after_of_ended houtcome]
    exact Or.inr ⟨outcome, houtcome, rfl⟩

theorem shares_run {number position : Nat} {dataset : Dataset} {loader : Loader} {events : List Event}
    (h : Shares number position dataset loader) (hkept : ∀ event ∈ events, event ≠ .cancel number) :
    Shares number position dataset (loader.run events) := by
  induction events generalizing loader with
  | nil => exact h
  | cons event rest ih =>
    rw [List.forall_mem_cons] at hkept
    exact ih (shares_step h hkept.1) hkept.2

theorem shares_of_joined {events : List Event} {number position : Nat} {dataset : Dataset}
    (h : Since (Joins number position dataset) (· = .cancel number) events) :
    Shares number position dataset (reached events) := by
  induction events using List.reverseRecOn with
  | nil => exact absurd h not_since_nil
  | append_singleton events event ih =>
    rw [reached_append]
    rcases (since_append events event).mp h with hjoins | ⟨hold, hkept⟩
    · obtain ⟨load, hload, htable⟩ := load_of_joins (registered_reached events) hjoins
      exact ⟨load, hload, htable, Or.inl hjoins.2.2⟩
    · exact shares_step (ih hold) hkept

/-- A caller that shares a load that has ended hears its outcome when it is resumed, and keeps it. -/
theorem answered_of_shares {number position : Nat} {dataset : Dataset} {loader : Loader} {load : Load}
    {outcome : Except Fault Unit} (h : Shares number position dataset loader)
    (hload : loader.loads[position]? = some load) (houtcome : load.outcome? = some outcome)
    (more : List Event) :
    (loader.run (.resume number :: more)).callers[number]? =
      some (.answered (outcome.map fun _ => dataset.table)) := by
  change ((loader.step (.resume number)).run more).callers[number]? = _
  apply answered_run
  obtain ⟨found, hfound, htable, hcaller⟩ := h
  cases hload.symm.trans hfound
  rcases hcaller with hwaiting | ⟨other, hother, hanswered⟩
  · rw [callers_step hwaiting]
    simp [Caller.after, Caller.hear, hload, houtcome, htable]
  · rw [callers_step hanswered, Caller.after_answered]
    cases houtcome.symm.trans hother
    rfl

/-! ### Cancellations struck out -/

/-- Two lists of callers that differ at most in callers that are cancelled in the first one. -/
structure Spared (full kept : List Caller) : Prop where
  count : kept.length = full.length
  same : ∀ number : Nat, full[number]? = some .cancelled ∨ kept[number]? = full[number]?

theorem Spared.append {full kept : List Caller} (h : Spared full kept) (caller : Caller) :
    Spared (full ++ [caller]) (kept ++ [caller]) := by
  refine ⟨by simp [h.count], ?_⟩
  intro number
  simp only [List.getElem?_append, h.count]
  split
  · exact h.same number
  · exact Or.inr rfl

/-- A change that leaves cancelled callers as they are is made on both sides alike. -/
theorem Spared.modify {full kept : List Caller} (h : Spared full kept) (number : Nat)
    {change : Caller → Caller} (hcancelled : change .cancelled = .cancelled) :
    Spared (full.modify number change) (kept.modify number change) := by
  refine ⟨by simp [h.count], ?_⟩
  intro other
  simp only [List.getElem?_modify]
  rcases h.same other with hgone | hsame
  · left
    rw [hgone]
    split <;> simp [hcancelled]
  · right
    rw [hsame]

theorem Spared.cancel {full kept : List Caller} (h : Spared full kept) (number : Nat) :
    Spared (full.modify number Caller.cancel) kept := by
  refine ⟨by simp [h.count], ?_⟩
  intro other
  simp only [List.getElem?_modify]
  rcases h.same other with hgone | hsame
  · left
    rw [hgone]
    split <;> rfl
  · rw [hsame]
    cases hcaller : full[other]? with
    | none => simp
    | some caller =>
      split
      · cases caller <;> simp [Caller.cancel]
      · simp

/-- Two loaders that differ at most in callers that are cancelled in the first one. -/
structure Agrees (full kept : Loader) : Prop where
  loaded : kept.loaded = full.loaded
  inflight : kept.inflight = full.inflight
  loads : kept.loads = full.loads
  callers : Spared full.callers kept.callers

/-- No event takes a caller's cancellation to another part of the loader. -/
theorem Agrees.step {full kept : Loader} (h : Agrees full kept) (event : Event) :
    Agrees (full.step event) (kept.step event) := by
  obtain ⟨loaded, inflight, loads, callers⟩ := full
  obtain ⟨loaded', inflight', loads', callers'⟩ := kept
  obtain ⟨rfl, rfl, rfl, hcallers⟩ := h
  simp only at hcallers
  cases event with
  | ensure dataset =>
    simp only [Loader.step, ensure]
    split
    · exact ⟨rfl, rfl, rfl, hcallers.append _⟩
    · split
      · exact ⟨rfl, rfl, rfl, hcallers.append _⟩
      · exact ⟨rfl, rfl, rfl, hcallers.append _⟩
  | cancel number => exact ⟨rfl, rfl, rfl, hcallers.modify number rfl⟩
  | resume number => exact ⟨rfl, rfl, rfl, hcallers.modify number rfl⟩
  | reply position reply =>
    simp only [Loader.step, Loader.reply]
    split
    · exact ⟨rfl, rfl, rfl, hcallers⟩
    · exact ⟨rfl, rfl, rfl, hcallers⟩
  | retire position =>
    simp only [Loader.step, retire]
    split
    · exact ⟨rfl, rfl, rfl, hcallers⟩
    · split
      · exact ⟨rfl, rfl, rfl, hcallers⟩
      · exact ⟨rfl, rfl, rfl, hcallers⟩
  | start position => exact ⟨rfl, rfl, rfl, hcallers⟩
  | invalidate id => exact ⟨rfl, rfl, rfl, hcallers⟩
  | invalidateAll => exact ⟨rfl, rfl, rfl, hcallers⟩

theorem Agrees.cancel {full kept : Loader} (h : Agrees full kept) (number : Nat) :
    Agrees (full.step (.cancel number)) kept :=
  ⟨h.loaded, h.inflight, h.loads, h.callers.cancel number⟩

/-- Loaders that agree ask the same. -/
theorem Agrees.asks {full kept : Loader} (h : Agrees full kept) (event : Event) :
    kept.asks event = full.asks event := by
  unfold Loader.asks askedBy
  rw [h.loads, (h.step event).loads]

theorem asks_cancel (loader : Loader) (number : Nat) : loader.asks (.cancel number) = [] := by
  rw [List.eq_nil_iff_forall_not_mem]
  rintro ⟨position, request⟩ hasked
  obtain ⟨next, hnext, hmember⟩ := mem_asks.mp hasked
  have hload : loader.loads[position]? = some next := hnext
  simp [askedBy, hload] at hmember

/-- A script of events, each with whether it is struck out. -/
abbrev Script := List (Event × Bool)

/-- All events of a script. -/
def Script.all (script : Script) : List Event :=
  script.map Prod.fst

/-- The events of a script that are not struck out. -/
def Script.remaining (script : Script) : List Event :=
  (script.filter fun entry => !entry.2).map Prod.fst

/-- Only cancellations are struck out. -/
def Script.StrikesCancellations (script : Script) : Prop :=
  ∀ entry ∈ script, entry.2 = true → ∃ caller, entry.1 = .cancel caller

/-- With and without the cancellations that are struck out, the loaders agree and the loads have asked
the same. -/
theorem agrees_of_struck (script : Script) (h : script.StrikesCancellations) :
    Agrees (reached script.all) (reached script.remaining) ∧
      observed asks empty script.remaining = observed asks empty script.all := by
  induction script using List.reverseRecOn with
  | nil => exact ⟨⟨rfl, rfl, rfl, rfl, fun _ => Or.inr rfl⟩, rfl⟩
  | append_singleton script entry ih =>
    obtain ⟨event, struck⟩ := entry
    have hbefore : Script.StrikesCancellations script := by
      intro entry hmember
      exact h entry (by simp [hmember])
    obtain ⟨hagrees, hasked⟩ := ih hbefore
    have hall : Script.all (script ++ [(event, struck)]) = Script.all script ++ [event] := by
      simp [Script.all]
    rw [hall, reached_append, observed_append]
    cases struck with
    | true =>
      obtain ⟨caller, hevent⟩ := h (event, true) (by simp) rfl
      simp only at hevent
      subst hevent
      have hremaining : Script.remaining (script ++ [(.cancel caller, true)]) = Script.remaining script := by
        simp [Script.remaining]
      rw [hremaining, asks_cancel, List.append_nil]
      exact ⟨hagrees.cancel caller, hasked⟩
    | false =>
      have hremaining :
          Script.remaining (script ++ [(event, false)]) = Script.remaining script ++ [event] := by
        simp [Script.remaining]
      rw [hremaining, reached_append, observed_append, hasked]
      refine ⟨hagrees.step event, ?_⟩
      change _ ++ (reached (Script.remaining script)).asks event = _ ++ (reached (Script.all script)).asks event
      rw [hagrees.asks event]

/-- Outcomes are shared, and cancelling is harmless. A caller that joined a load and was not cancelled
waits for it or has its outcome, the name of the table or the very fault of the load; once the load has
ended, it hears the outcome when it is resumed and keeps it. And when any cancellations are struck out
of a script of events, then at every point of the script the loads have asked the same in the same
order, the same tables are loaded and under way, all loads have come as far, and every caller that was
not cancelled stands as it did. -/
theorem shared_outcome_and_harmless_cancel :
    (∀ events number position dataset,
      Since (Joins number position dataset) (· = .cancel number) events →
      ∃ load, (reached events).loads[position]? = some load ∧ load.table = dataset.table ∧
        ((reached events).callers[number]? = some (.waiting position) ∨
          ∃ outcome, load.outcome? = some outcome ∧ (reached events).callers[number]? =
            some (.answered (outcome.map fun _ => dataset.table))) ∧
        ∀ outcome, load.outcome? = some outcome → ∀ more,
          (reached (events ++ .resume number :: more)).callers[number]? =
            some (.answered (outcome.map fun _ => dataset.table))) ∧
    (∀ script : Script, script.StrikesCancellations → ∀ n,
      let full := Script.all (script.take n)
      let kept := Script.remaining (script.take n)
      observed asks empty kept = observed asks empty full ∧
        (reached kept).loaded = (reached full).loaded ∧
        (reached kept).inflight = (reached full).inflight ∧
        (reached kept).loads = (reached full).loads ∧
        ∀ number : Nat, (reached full).callers[number]? ≠ some .cancelled →
          (reached kept).callers[number]? = (reached full).callers[number]?) := by
  constructor
  · intro events number position dataset hjoined
    have hshares := shares_of_joined hjoined
    obtain ⟨load, hload, htable, hcaller⟩ := hshares
    refine ⟨load, hload, htable, hcaller, ?_⟩
    intro outcome houtcome more
    rw [reached, run, List.foldl_append]
    exact answered_of_shares ⟨load, hload, htable, hcaller⟩ hload houtcome more
  · intro script hstrikes n
    have hpart : Script.StrikesCancellations (script.take n) :=
      fun entry hmember => hstrikes entry (List.mem_of_mem_take hmember)
    obtain ⟨hagrees, hasked⟩ := agrees_of_struck _ hpart
    refine ⟨hasked, hagrees.loaded, hagrees.inflight, hagrees.loads, ?_⟩
    intro number hspared
    rcases hagrees.callers.same number with hgone | hsame
    · exact absurd hgone hspared
    · exact hsame

/-- The second caller of a shared load hears that the load succeeded although the first one gave up, and
without that cancellation the same tables are loaded. -/
theorem shared_outcome_and_harmless_cancel_sharedLoad :
    let script := sharedLoad.map fun event =>
      (event, match event with | .cancel _ => true | _ => false)
    Since (Joins 1 0 sampleDataset) (· = .cancel 1) sharedLoad ∧
      (reached (sharedLoad ++ [.resume 1, .invalidateAll, .cancel 1])).callers[1]? =
        some (.answered (.ok "df_a")) ∧
      Script.StrikesCancellations script ∧
      (reached (Script.remaining (script.take 10))).loaded =
        (reached (Script.all (script.take 10))).loaded := by
  intro script
  have hjoined : Since (Joins 1 0 sampleDataset) (· = .cancel 1) sharedLoad :=
    ⟨[.ensure sampleDataset], .ensure sampleDataset, _, rfl, ⟨rfl, rfl, rfl⟩, by simp⟩
  have hstrikes : Script.StrikesCancellations script := by
    simp [Script.StrikesCancellations, script, sharedLoad]
  obtain ⟨load, hload, -, -, hheard⟩ :=
    shared_outcome_and_harmless_cancel.1 sharedLoad 1 0 sampleDataset hjoined
  have hended : (reached sharedLoad).loads[0]? = some ⟨sampleDataset, .ended (.ok ()), _⟩ := rfl
  cases hended.symm.trans hload
  refine ⟨hjoined, hheard (.ok ()) rfl [.invalidateAll, .cancel 1], hstrikes, ?_⟩
  exact (shared_outcome_and_harmless_cancel.2 script hstrikes 10).2.1

end Loader
end Insights
