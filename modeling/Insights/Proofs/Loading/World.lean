import Insights.Proofs.Loading.Loaded
import Insights.Proofs.Loading.Renewal

/-!
What surrounds a loader: the rows that the tables of an engine hold, and the payloads of a store. Both
change in the course of events. Payloads may be replaced by anybody at any time; tables are written by
loads only, each while it asks for that. This module says what may happen at one event, and what then
holds along a run: rows stay in a table once they were found there or imported.
-/

namespace Insights

structure World where
  /-- The payload that each table was made of. A table without one is not there. -/
  held : String → Option Bytes
  /-- The payload that is stored under each key. -/
  stored : String → Option Bytes

namespace Loader

/-- What an event may do about a table. Probes that answer tell whether the table is there, fetches that
succeed bring what is stored, and imports that succeed make the table of exactly the payload. The table
changes only while a load asks to drop it or to import it: it goes, or it comes to hold that payload,
whether or not the load hears of it. -/
structure Faithful (table : String) (loader : Loader) (before : World) (event : Event)
    (after : World) : Prop where
  probes : ∀ position found load, event = .reply position (.probed (.ok found)) →
    loader.loads[position]? = some load → load.table = table → load.phase = .probing →
      found = (before.held table).isSome
  fetches : ∀ position payload load, event = .reply position (.fetched (.ok payload)) →
    loader.loads[position]? = some load → load.table = table → load.phase = .fetching →
      payload = before.stored load.dataset.storage.locator
  imports : ∀ position done load data, event = .reply position (.imported (.ok done)) →
    loader.loads[position]? = some load → load.table = table → load.phase = .importing data →
      after.held table = some data
  frame : after.held table = before.held table ∨
    ∃ load ∈ loader.loads, (load.request? = some (.drop table) ∧ after.held table = none) ∨
      ∃ data, load.request? = some (.bulkImport table data) ∧
        (after.held table = none ∨ after.held table = some data)

/-- An event of a faithful world in which no probe for the table fails. -/
structure Attentive (table : String) (loader : Loader) (before : World) (event : Event)
    (after : World) : Prop extends Faithful table loader before event after where
  answers : ∀ position fault load, event = .reply position (.probed (.error fault)) →
    loader.loads[position]? = some load → load.table = table → load.phase ≠ .probing

/-- The worlds before and after each of some events that follow on past ones, when each event changes
the world only as a rule allows. -/
def Along (rule : Loader → World → Event → World → Prop) (past events : List Event)
    (world : Nat → World) : Prop :=
  ∀ n event, events[n]? = some event → rule (reached (past ++ events.take n)) (world n) event (world (n + 1))

section
variable {rule : Loader → World → Event → World → Prop} {past events : List Event} {event : Event}
  {world : Nat → World}

theorem along_nil : Along rule past [] world := by
  intro n event h
  simp at h

theorem Along.cons (hfirst : rule (reached past) (world 0) event (world 1))
    (hrest : Along rule (past ++ [event]) events fun n => world (n + 1)) :
    Along rule past (event :: events) world := by
  intro n later hn
  cases n with
  | zero =>
    obtain rfl : event = later := by simpa using hn
    simpa using hfirst
  | succ n =>
    have hlater := hrest n later (by simpa using hn)
    rwa [List.append_assoc] at hlater

theorem along_append : Along rule past (events ++ [event]) world ↔
    Along rule past events world ∧
      rule (reached (past ++ events)) (world events.length) event (world (events.length + 1)) := by
  constructor
  · intro h
    constructor
    · intro n earlier hn
      have hlt : n < events.length := (List.getElem?_eq_some_iff.mp hn).1
      have hrule := h n earlier (by rw [List.getElem?_append_left hlt, hn])
      rwa [List.take_append_of_le_length (Nat.le_of_lt hlt)] at hrule
    · have hrule := h events.length event (by simp)
      rwa [List.take_left] at hrule
  · rintro ⟨hold, hlast⟩ n later hn
    have hle : n ≤ events.length := by
      have hlt := (List.getElem?_eq_some_iff.mp hn).1
      rw [List.length_append, List.length_singleton] at hlt
      omega
    rw [List.take_append_of_le_length hle]
    rcases Nat.lt_or_eq_of_le hle with hlt | rfl
    · rw [List.getElem?_append_left hlt] at hn
      exact hold n later hn
    · obtain rfl : event = later := by simpa using hn
      rwa [List.take_length]

theorem Along.take (h : Along rule past events world) (n : Nat) :
    Along rule past (events.take n) world := by
  intro m earlier hm
  rw [List.getElem?_take] at hm
  split at hm
  · next hlt =>
    rw [List.take_take, Nat.min_eq_left (Nat.le_of_lt hlt)]
    exact h m earlier hm
  · cases hm

theorem Along.mono {rule' : Loader → World → Event → World → Prop} (h : Along rule past events world)
    (hrule : ∀ {loader before event after}, rule loader before event after →
      rule' loader before event after) : Along rule' past events world :=
  fun n event hn => hrule (h n event hn)

end

/-! ### Tables that keep their rows -/

variable {events : List Event} {event : Event} {before after : World} {table : String} {content : Bytes}

/-- The table holds the content, and no load is about to fill it. -/
structure Kept (table : String) (content : Bytes) (loader : Loader) (world : World) : Prop where
  held : world.held table = some content
  unfilled : Unfilled table loader

/-- A table that no load is about to fill is left alone. -/
theorem Faithful.held_of_unfilled {loader : Loader} (hrule : Faithful table loader before event after)
    (h : Unfilled table loader) : after.held table = before.held table := by
  rcases hrule.frame with hsame | ⟨load, hmember, ⟨hdrop, -⟩ | ⟨data, himport, -⟩⟩
  · exact hsame
  · have htable := Load.table_of_drop hdrop
    simp [h load hmember htable.1] at htable
  · have htable := Load.table_of_import himport
    simp [h load hmember htable.1] at htable

/-- While a load of the table has not ended, no other one is about to fill it. -/
theorem unfilled_of_open {position : Nat} {load : Load}
    (hload : (reached events).loads[position]? = some load) (htable : load.table = table)
    (hopen : load.outcome? = none) (hidle : load.phase.isFilling = false) :
    Unfilled table (reached events) := by
  intro other hmember hsame
  obtain ⟨found, hfound⟩ := List.mem_iff_getElem?.mp hmember
  by_contra hfilling
  rw [Bool.not_eq_false] at hfilling
  obtain rfl : found = position := eq_of_open hfound hload (hsame.trans htable.symm)
    (Load.outcome?_of_isFilling hfilling) hopen
  cases hload.symm.trans hfound
  simp [hidle] at hfilling

/-- When a load of the table ends well, the table is kept from then on. -/
theorem kept_of_completes (hrule : Faithful table (reached events) before event after)
    (h : Completes table (reached events) event) :
    ∃ content, Kept table content ((reached events).step event) after := by
  have hunfilled := unfilled_of_completes h
  obtain ⟨position, reply, load, rfl, hload, htable, hopen, hended⟩ := completes_iff.mp h
  rcases Load.ends_well_cases hopen hended with ⟨hphase, rfl⟩ | ⟨data, done, hphase, rfl⟩
  · have hthere := hrule.probes position true load rfl hload htable hphase
    obtain ⟨content, hcontent⟩ := Option.isSome_iff_exists.mp hthere.symm
    refine ⟨content, ?_, hunfilled⟩
    have hidle : load.phase.isFilling = false := by simp [hphase, Phase.isFilling]
    rw [hrule.held_of_unfilled (unfilled_of_open hload htable hopen hidle), hcontent]
  · exact ⟨data, hrule.imports position done load data rfl hload htable hphase, hunfilled⟩

/-- With probes that do not fail, a table that is kept stays so. -/
theorem Kept.step (hrule : Attentive table (reached events) before event after)
    (h : Kept table content (reached events) before) :
    Kept table content ((reached events).step event) after := by
  refine ⟨(hrule.held_of_unfilled h.unfilled).trans h.held, ?_⟩
  intro next hmember htable
  obtain ⟨position, hnext⟩ := List.mem_iff_getElem?.mp hmember
  rcases loads_step_cases hnext with ⟨load, hload, rfl⟩ | ⟨dataset, -, -, rfl⟩
  · rw [Load.table_after] at htable
    apply Load.not_isFilling_after (h.unfilled load (List.mem_of_getElem? hload) htable)
    intro result hevent hphase
    cases result with
    | error fault => exact absurd hphase (hrule.answers position fault load hevent hload htable)
    | ok found =>
      rw [hrule.probes position found load hevent hload htable hphase, h.held, Option.isSome_some]
  · rfl

/-- With probes that do not fail, a table is kept once a load of it has ended well. -/
theorem kept_of_settled {past : List Event} {world : Nat → World} {first : Nat}
    (hstart : ¬ Settled first table (reached past)) (hcourse : Along (Attentive table) past events world)
    (h : Settled first table (reached (past ++ events))) :
    ∃ content, Kept table content (reached (past ++ events)) (world events.length) := by
  induction events using List.reverseRecOn with
  | nil =>
    rw [List.append_nil] at h
    exact absurd h hstart
  | append_singleton events event ih =>
    obtain ⟨hbefore, hrule⟩ := along_append.mp hcourse
    rw [reached_append_append] at h ⊢
    rw [List.length_append, List.length_singleton]
    rcases settled_step_cases h with hold | hcompletes
    · obtain ⟨content, hkept⟩ := ih hbefore hold
      exact ⟨content, hkept.step hrule⟩
    · exact kept_of_completes hrule.toFaithful hcompletes

/-! ### Worlds that are attentive to one event -/

section
variable {loader : Loader} {position : Nat} {load : Load}

/-- An event that is no reply may change what is stored. -/
theorem attentive_of_still (hheld : after.held table = before.held table)
    (h : ∀ position reply, event ≠ .reply position reply) :
    Attentive table loader before event after where
  probes position _ _ hevent := absurd hevent (h position _)
  fetches position _ _ hevent := absurd hevent (h position _)
  imports position _ _ _ hevent := absurd hevent (h position _)
  frame := Or.inl hheld
  answers position _ _ hevent := absurd hevent (h position _)

theorem attentive_probed {world : World} {result : Except Fault Bool}
    (hload : loader.loads[position]? = some load)
    (hresult : load.table = table → result = .ok (world.held table).isSome) :
    Attentive table loader world (.reply position (.probed result)) world where
  probes other found asked hevent hasked htable _ := by
    simp only [Event.reply.injEq, Reply.probed.injEq] at hevent
    obtain ⟨rfl, rfl⟩ := hevent
    cases hload.symm.trans hasked
    exact Except.ok.inj (hresult htable)
  fetches _ _ _ hevent := by simp at hevent
  imports _ _ _ _ hevent := by simp at hevent
  frame := Or.inl rfl
  answers other fault asked hevent hasked htable := by
    simp only [Event.reply.injEq, Reply.probed.injEq] at hevent
    obtain ⟨rfl, rfl⟩ := hevent
    cases hload.symm.trans hasked
    cases hresult htable

/-- A table may be gone before it is dropped. -/
theorem attentive_dropped (world : World) (result : Except Fault Unit) :
    Attentive table loader world (.reply position (.dropped result)) world where
  probes _ _ _ hevent := by simp at hevent
  fetches _ _ _ hevent := by simp at hevent
  imports _ _ _ _ hevent := by simp at hevent
  frame := Or.inl rfl
  answers _ _ _ hevent := by simp at hevent

theorem attentive_fetched {world : World} {payload : Option Bytes}
    (hload : loader.loads[position]? = some load)
    (hpayload : payload = world.stored load.dataset.storage.locator) :
    Attentive table loader world (.reply position (.fetched (.ok payload))) world where
  probes _ _ _ hevent := by simp at hevent
  fetches other found asked hevent hasked _ _ := by
    simp only [Event.reply.injEq, Reply.fetched.injEq, Except.ok.injEq] at hevent
    obtain ⟨rfl, rfl⟩ := hevent
    cases hload.symm.trans hasked
    exact hpayload
  imports _ _ _ _ hevent := by simp at hevent
  frame := Or.inl rfl
  answers _ _ _ hevent := by simp at hevent

theorem attentive_imported {data : Bytes} {done : Unit} (hload : loader.loads[position]? = some load)
    (hphase : load.phase = .importing data)
    (hheld : after.held table = if table = load.table then some data else before.held table) :
    Attentive table loader before (.reply position (.imported (.ok done))) after where
  probes _ _ _ hevent := by simp at hevent
  fetches _ _ _ hevent := by simp at hevent
  imports other _ asked found hevent hasked htable hfound := by
    simp only [Event.reply.injEq] at hevent
    obtain ⟨rfl, -⟩ := hevent
    cases hload.symm.trans hasked
    cases hphase.symm.trans hfound
    rw [hheld, if_pos htable.symm]
  frame := by
    by_cases htable : table = load.table
    · rw [if_pos htable] at hheld
      subst htable
      refine Or.inr ⟨load, List.mem_of_getElem? hload, Or.inr ⟨data, ?_, Or.inr hheld⟩⟩
      simp [Load.request?, Load.requestIn, hphase]
    · rw [if_neg htable] at hheld
      exact Or.inl hheld
  answers _ _ _ hevent := by simp at hevent

end

end Loader
end Insights
