import Insights.Proofs.Dataset.TableName
import Insights.Proofs.Loading.World

/-!
Whose rows a table holds. A load imports what was fetched where its own dataset is stored, so a table
only ever holds payloads of datasets that have this table. Those are the datasets whose ids differ at
most in hyphens and underscores, and such datasets are not kept apart.
-/

namespace Insights

/-- Only a payload that was fetched lets a load import, and it imports that one. -/
theorem Load.fetched_of_nextPhase? {load : Load} {reply : Reply} {data : Bytes}
    (h : load.nextPhase? reply = some (.importing data)) :
    load.phase = .fetching ∧ reply = .fetched (.ok (some data)) := by
  have habsent : load.absentPhase ≠ .importing data := by
    unfold absentPhase
    split <;> simp
  unfold nextPhase? at h
  split at h
  · cases h
  · exact absurd (Option.some.inj h) habsent
  · split at h
    · exact absurd (Option.some.inj h) habsent
    · cases h
  · cases h
  · cases h
  · next payload hphase =>
    cases h
    exact ⟨hphase, rfl⟩
  · cases h
  · cases h
  · cases h
  · cases h
  · cases h

/-- A load imports a payload after an event if it did so before, or has just fetched it. -/
theorem Load.importing_after_cases {load : Load} {position : Nat} {event : Event} {data : Bytes}
    (h : (load.after position event).phase = .importing data) :
    load.phase = .importing data ∨
      (load.phase = .fetching ∧ event = .reply position (.fetched (.ok (some data)))) := by
  cases event with
  | start other =>
    simp only [after, start] at h
    split at h
    · split at h
      · cases h
      · exact Or.inl h
    · exact Or.inl h
  | reply other reply =>
    by_cases hother : other = position
    · subst hother
      simp only [after, if_true, advance] at h
      split at h
      · next phase hnext =>
        obtain rfl : phase = .importing data := h
        obtain ⟨hphase, rfl⟩ := fetched_of_nextPhase? hnext
        exact Or.inr ⟨hphase, rfl⟩
      · exact Or.inl h
    · simp only [after, hother, if_false] at h
      exact Or.inl h
  | _ => exact Or.inl h

theorem Load.importing_of_request {load : Load} {table : String} {data : Bytes}
    (h : load.request? = some (.bulkImport table data)) :
    load.table = table ∧ load.phase = .importing data := by
  cases hphase : load.phase <;> simp_all [request?, requestIn]

namespace Loader

variable {events : List Event} {world : Nat → World}

/-- By the event a load of the dataset gets the payload that is stored where the dataset is. -/
def Fetches (dataset : Dataset) (data : Bytes) (loader : Loader) (event : Event) : Prop :=
  ∃ position load, event = .reply position (.fetched (.ok (some data))) ∧
    loader.loads[position]? = some load ∧ load.phase = .fetching ∧ load.dataset = dataset

/-- What a load imports it has fetched. -/
theorem fetched_of_importing (events : List Event) :
    ∀ load ∈ (reached events).loads, ∀ data, load.phase = .importing data →
      Occurred (Fetches load.dataset data) events := by
  induction events using List.reverseRecOn with
  | nil => simp [reached, run, empty]
  | append_singleton events event ih =>
    rw [reached_append]
    intro next hmember data hphase
    rw [occurred_append]
    obtain ⟨position, hnext⟩ := List.mem_iff_getElem?.mp hmember
    rcases loads_step_cases hnext with ⟨load, hload, rfl⟩ | ⟨dataset, -, -, rfl⟩
    · rw [Load.dataset_after]
      rcases Load.importing_after_cases hphase with hold | ⟨hfetching, hevent⟩
      · exact Or.inl (ih load (List.mem_of_getElem? hload) data hold)
      · exact Or.inr ⟨position, load, hevent, hload, hfetching, rfl⟩
    · cases hphase

theorem ensure_mem_of_mem_loads {load : Load} (h : load ∈ (reached events).loads) :
    .ensure load.dataset ∈ events := by
  obtain ⟨position, hload⟩ := List.mem_iff_getElem?.mp h
  have hload' : (reached ([] ++ events)).loads[position]? = some load := hload
  exact ensure_mem_of_load hload' (Nat.zero_le position)

/-- A table holds what was fetched for a dataset that has this table and that was asked for. -/
theorem source_of_held {table : String} {data : Bytes} (hempty : (world 0).held table = none)
    (hcourse : Along (Faithful table) [] events world)
    (hheld : (world events.length).held table = some data) :
    ∃ source : Dataset, source.table = table ∧ .ensure source ∈ events ∧
      Occurred (Fetches source data) events := by
  induction events using List.reverseRecOn with
  | nil =>
    rw [List.length_nil, hempty] at hheld
    cases hheld
  | append_singleton events event ih =>
    obtain ⟨hbefore, hrule⟩ := along_append.mp hcourse
    have hlater : ∀ source : Dataset, source.table = table → .ensure source ∈ events →
        Occurred (Fetches source data) events → ∃ source : Dataset, source.table = table ∧
          .ensure source ∈ events ++ [event] ∧ Occurred (Fetches source data) (events ++ [event]) := by
      intro source htable hasked hfetched
      exact ⟨source, htable, List.mem_append_left _ hasked, (occurred_append _ _).mpr (Or.inl hfetched)⟩
    rw [List.length_append, List.length_singleton] at hheld
    rcases hrule.frame with hsame | ⟨load, hmember, ⟨-, hgone⟩ | ⟨other, himport, hnew⟩⟩
    · rw [hsame] at hheld
      obtain ⟨source, htable, hasked, hfetched⟩ := ih hbefore hheld
      exact hlater source htable hasked hfetched
    · rw [hgone] at hheld
      cases hheld
    · rcases hnew with hgone | hnew
      · rw [hgone] at hheld
        cases hheld
      · obtain rfl : other = data := Option.some.inj (hnew.symm.trans hheld)
        obtain ⟨htable, hphase⟩ := Load.importing_of_request himport
        exact hlater load.dataset htable (ensure_mem_of_mem_loads hmember)
          (fetched_of_importing events load hmember other hphase)

/-- Where a load of a table has ended well, the table held something by then. -/
theorem held_of_settled {table : String} (hcourse : Along (Faithful table) [] events world)
    (h : Settled 0 table (reached events)) :
    ∃ n ≤ events.length, ∃ data, (world n).held table = some data := by
  induction events using List.reverseRecOn with
  | nil =>
    obtain ⟨position, load, -, hload, -⟩ := h
    simp [reached, run, empty] at hload
  | append_singleton events event ih =>
    obtain ⟨hbefore, hrule⟩ := along_append.mp hcourse
    rw [reached_append] at h
    rw [List.length_append, List.length_singleton]
    rcases settled_step_cases h with hold | hcompletes
    · obtain ⟨n, hn, hheld⟩ := ih hbefore hold
      exact ⟨n, Nat.le_succ_of_le hn, hheld⟩
    · obtain ⟨content, hkept⟩ := kept_of_completes hrule hcompletes
      exact ⟨events.length + 1, Nat.le_refl _, content, hkept.held⟩

/-- Datasets are kept apart as far as their tables are. Two datasets share a table exactly when their
ids differ at most in hyphens and underscores, so ids without underscores have tables of their own. From
an engine without tables on, whatever a table holds was fetched where a dataset of this table is stored
that was asked for. And who is told the name of a table asked for a dataset of this table, which by then
had held such a payload: one from the place of that dataset itself if all datasets with such ids that were
asked for are stored there. It still holds one if no probe has failed. -/
theorem datasets_isolated (events : List Event) (world : Nat → World)
    (hempty : ∀ table, (world 0).held table = none)
    (hcourse : ∀ table, Along (Faithful table) [] events world) :
    (∀ first second : Dataset, first.table = second.table ↔ IdsAlike first.id second.id) ∧
    Set.InjOn tableName {id | '_' ∉ id.toList} ∧
    (∀ n ≤ events.length, ∀ table data, (world n).held table = some data →
      ∃ source : Dataset, source.table = table ∧ .ensure source ∈ events.take n ∧
        Occurred (Fetches source data) (events.take n)) ∧
    (∀ number dataset name, Occurred (AsksAs number dataset) events →
      (reached events).callers[number]? = some (.answered (.ok name)) →
        name = dataset.table ∧
        (∃ n ≤ events.length, ∃ data, ∃ source : Dataset, (world n).held name = some data ∧
          .ensure source ∈ events.take n ∧ IdsAlike source.id dataset.id ∧
          Occurred (Fetches source data) (events.take n) ∧
          ((∀ other, .ensure other ∈ events → IdsAlike other.id dataset.id →
            other.storage.locator = dataset.storage.locator) →
              source.storage.locator = dataset.storage.locator)) ∧
        (Along (Attentive name) [] events world → ∃ data, (world events.length).held name = some data)) := by
  have hnames : ∀ first second : Dataset, first.table = second.table ↔ IdsAlike first.id second.id :=
    fun first second => tableName_eq_iff
  have hsources : ∀ n ≤ events.length, ∀ table data, (world n).held table = some data →
      ∃ source : Dataset, source.table = table ∧ .ensure source ∈ events.take n ∧
        Occurred (Fetches source data) (events.take n) := by
    intro n hn table data hheld
    apply source_of_held (hempty table) ((hcourse table).take n)
    rwa [List.length_take_of_le hn]
  refine ⟨hnames, injOn_tableName, hsources, ?_⟩
  intro number dataset name hasked hanswer
  obtain ⟨rfl, hsettled⟩ : name = dataset.table ∧ Settled 0 dataset.table (reached events) :=
    settled_of_answered (idle_empty dataset.table) (Nat.zero_le number) hasked hanswer
  refine ⟨rfl, ?_, ?_⟩
  · obtain ⟨n, hn, data, hheld⟩ := held_of_settled (hcourse dataset.table) hsettled
    obtain ⟨source, htable, hensure, hfetched⟩ := hsources n hn dataset.table data hheld
    have halike : IdsAlike source.id dataset.id := (hnames source dataset).mp htable
    refine ⟨n, hn, data, source, hheld, hensure, halike, hfetched, ?_⟩
    intro hplaces
    exact hplaces source (List.mem_of_mem_take hensure) halike
  · intro hattentive
    have hstart : ¬ Settled 0 dataset.table (reached []) := by
      rintro ⟨position, load, -, hload, -⟩
      simp [reached, run, empty] at hload
    obtain ⟨content, hkept⟩ := kept_of_settled hstart hattentive hsettled
    exact ⟨content, hkept.held⟩

/-- Two datasets whose ids differ in a hyphen only, stored in different places. -/
def hyphenated : Dataset :=
  ⟨"a-b", ⟨.local, "k1"⟩, [], none, 0⟩

def underscored : Dataset :=
  ⟨"a_b", ⟨.local, "k2"⟩, [], none, 0⟩

/-- The first one is loaded, and then the second one is asked for. -/
def alikeLoads : List Event :=
  [.ensure hyphenated, .start 0, .reply 0 (.probed (.ok false)), .reply 0 (.dropped (.ok ())),
    .reply 0 (.fetched (.ok (some [1]))), .reply 0 (.imported (.ok ())), .retire 0, .ensure underscored]

def alikeStored (key : String) : Option Bytes :=
  if key = "k1" then some [1] else if key = "k2" then some [2] else none

/-- Different payloads are stored for the two, and the sixth event imports the first one's. -/
def alikeWorld (n : Nat) : World :=
  if n < 6 then ⟨fun _ => none, alikeStored⟩
  else ⟨fun table => if table = "df_a_b" then some [1] else none, alikeStored⟩

theorem attentive_alikeLoads (table : String) : Along (Attentive table) [] alikeLoads alikeWorld := by
  refine Along.cons (attentive_of_still rfl (by simp)) ?_
  refine Along.cons (attentive_of_still rfl (by simp)) ?_
  refine Along.cons (attentive_probed rfl fun _ => rfl) ?_
  refine Along.cons (attentive_dropped (alikeWorld 0) _) ?_
  refine Along.cons (attentive_fetched rfl rfl) ?_
  refine Along.cons (attentive_imported rfl rfl rfl) ?_
  refine Along.cons (attentive_of_still rfl (by simp)) ?_
  refine Along.cons (attentive_of_still rfl (by simp)) ?_
  exact along_nil

theorem asked_underscored : Occurred (AsksAs 1 underscored) alikeLoads :=
  ⟨alikeLoads.take 7, .ensure underscored, [], rfl, ⟨rfl, rfl⟩, by simp⟩

/-- Whoever asks for the second of two datasets with alike ids is told a table that holds what was
fetched for the first one. -/
theorem datasets_isolated_alikeLoads :
    (∀ table, (alikeWorld 0).held table = none) ∧
      (∀ table, Along (Faithful table) [] alikeLoads alikeWorld) ∧ Occurred (AsksAs 1 underscored) alikeLoads ∧
      (reached alikeLoads).callers[1]? = some (.answered (.ok "df_a_b")) ∧
      (∃ n ≤ alikeLoads.length, ∃ data, ∃ source : Dataset, (alikeWorld n).held "df_a_b" = some data ∧
        .ensure source ∈ alikeLoads.take n ∧ IdsAlike source.id "a_b" ∧
        Occurred (Fetches source data) (alikeLoads.take n)) ∧
      ∃ data, (alikeWorld 8).held "df_a_b" = some data := by
  have hempty : ∀ table, (alikeWorld 0).held table = none := fun _ => rfl
  have hfaithful : ∀ table, Along (Faithful table) [] alikeLoads alikeWorld :=
    fun table => (attentive_alikeLoads table).mono Attentive.toFaithful
  have hanswer : (reached alikeLoads).callers[1]? = some (.answered (.ok "df_a_b")) := rfl
  obtain ⟨-, -, -, hanswers⟩ := datasets_isolated alikeLoads alikeWorld hempty hfaithful
  obtain ⟨-, ⟨n, hn, data, source, hheld, hensure, halike, hfetched, -⟩, hstill⟩ :=
    hanswers 1 underscored "df_a_b" asked_underscored hanswer
  exact ⟨hempty, hfaithful, asked_underscored, hanswer,
    ⟨n, hn, data, source, hheld, hensure, halike, hfetched⟩, hstill (attentive_alikeLoads _)⟩

/-- Datasets with different ids are not always kept apart: the rows of the first one are served as those
of the second one, of which nothing was ever fetched. -/
theorem alike_ids_share_rows :
    hyphenated.id ≠ underscored.id ∧ hyphenated.table = underscored.table ∧
      (∀ table, (alikeWorld 0).held table = none) ∧
      (∀ table, Along (Attentive table) [] alikeLoads alikeWorld) ∧
      Occurred (AsksAs 1 underscored) alikeLoads ∧
      (reached alikeLoads).callers[1]? = some (.answered (.ok underscored.table)) ∧
      (alikeWorld 8).held underscored.table = (alikeWorld 8).stored hyphenated.storage.locator ∧
      (alikeWorld 8).held underscored.table ≠ (alikeWorld 8).stored underscored.storage.locator ∧
      ∀ data, ¬ Occurred (Fetches underscored data) alikeLoads := by
  refine ⟨by decide, by decide, fun _ => rfl, attentive_alikeLoads, asked_underscored, rfl, rfl, ?_, ?_⟩
  · decide +kernel
  · rintro data ⟨before, event, after, hsplit, ⟨position, load, -, hload, -, hdataset⟩, -⟩
    have hasked : .ensure underscored ∈ before := by
      rw [← hdataset]
      exact ensure_mem_of_mem_loads (List.mem_of_getElem? hload)
    have hshort : before.length ≤ 7 := by
      have hlength := congrArg List.length hsplit
      simp only [alikeLoads, List.length_append, List.length_cons, List.length_nil] at hlength
      omega
    have hearly : before <+: alikeLoads.take 7 :=
      List.prefix_of_prefix_length_le ⟨_, hsplit.symm⟩ (List.take_prefix 7 _) hshort
    have hnever : .ensure underscored ∉ alikeLoads.take 7 := by
      simp [alikeLoads, hyphenated, underscored]
    exact hnever (hearly.subset hasked)

end Loader
end Insights
