import Insights.Proofs.Loading.Isolation

/-!
What an invalidation brings. The next load of the table asks anew whether the table exists. A table that
has gone by then is made of the payload that is stored now; one that is still there is taken as it is,
although another payload may be stored by now.
-/

namespace Insights.Loader

variable {past events : List Event} {world : Nat → World} {table : String} {content : Bytes} {first : Nat}

/-- No load of the table at or behind a position has heard whether the table exists. -/
def Unheard (first : Nat) (table : String) (loader : Loader) : Prop :=
  ∀ position load, first ≤ position → loader.loads[position]? = some load → load.table = table →
    load.phase = .begun ∨ load.phase = .probing

theorem Unheard.not_settled {loader : Loader} (h : Unheard first table loader) :
    ¬ Settled first table loader := by
  rintro ⟨position, load, hfirst, hload, htable, hended⟩
  rcases h position load hfirst hload htable with hphase | hphase
  · simp [Load.outcome?, hphase] at hended
  · simp [Load.outcome?, hphase] at hended

/-- No load fills a table that was idle before any load of it has heard whether the table exists. -/
theorem Unheard.unfilled (h : Unheard (reached past).loads.length table (reached (past ++ events)))
    (hidle : Idle table (reached past)) : Unfilled table (reached (past ++ events)) := by
  intro load hmember htable
  obtain ⟨position, hload⟩ := List.mem_iff_getElem?.mp hmember
  by_contra hfilling
  rw [Bool.not_eq_false] at hfilling
  have hnew := le_of_open hidle hload htable (Load.outcome?_of_isFilling hfilling)
  rcases h position load hnew hload htable with hphase | hphase
  · simp [Phase.isFilling, hphase] at hfilling
  · simp [Phase.isFilling, hphase] at hfilling

/-- With probes that do not fail, a table that is kept stays so along a run. -/
theorem Kept.along (hcourse : Along (Attentive table) past events world)
    (h : Kept table content (reached past) (world 0)) :
    Kept table content (reached (past ++ events)) (world events.length) := by
  induction events using List.reverseRecOn with
  | nil => simpa using h
  | append_singleton events event ih =>
    obtain ⟨hbefore, hrule⟩ := along_append.mp hcourse
    rw [reached_append_append, List.length_append, List.length_singleton]
    exact (ih hbefore).step hrule

/-- If the table holds anything, or a load of it imports anything, that is fresh. -/
structure Awaits (table : String) (fresh : Bytes → Prop) (loader : Loader) (world : World) : Prop where
  held : ∀ data, world.held table = some data → fresh data
  importing : ∀ load ∈ loader.loads, load.table = table → ∀ data, load.phase = .importing data →
    fresh data

/-- A table goes on to await what is fresh while that is what its loads fetch. -/
theorem Awaits.step {fresh : Bytes → Prop} {loader : Loader} {before after : World} {event : Event}
    (hrule : Faithful table loader before event after) (h : Awaits table fresh loader before)
    (hstored : ∀ load ∈ loader.loads, load.table = table → load.phase = .fetching →
      ∀ data, before.stored load.dataset.storage.locator = some data → fresh data) :
    Awaits table fresh (loader.step event) after := by
  constructor
  · intro data hheld
    rcases hrule.frame with hsame | ⟨load, hmember, ⟨-, hgone⟩ | ⟨other, himport, hnew⟩⟩
    · rw [hsame] at hheld
      exact h.held data hheld
    · cases hgone.symm.trans hheld
    · rcases hnew with hgone | hnew
      · cases hgone.symm.trans hheld
      · obtain rfl : other = data := Option.some.inj (hnew.symm.trans hheld)
        obtain ⟨htable, hphase⟩ := Load.importing_of_request himport
        exact h.importing load hmember htable other hphase
  · intro next hmember htable data hphase
    obtain ⟨position, hnext⟩ := List.mem_iff_getElem?.mp hmember
    rcases loads_step_cases hnext with ⟨load, hload, rfl⟩ | ⟨dataset, -, -, rfl⟩
    · rw [Load.table_after] at htable
      have hold := List.mem_of_getElem? hload
      rcases Load.importing_after_cases hphase with himporting | ⟨hfetching, rfl⟩
      · exact h.importing load hold htable data himporting
      · apply hstored load hold htable hfetching
        exact (hrule.fetches position (some data) load rfl hload htable hfetching).symm
    · cases hphase

/-- At one of the events the payload was stored where a dataset is that has the table and was asked for. -/
def Offered (table : String) (asked : List Event) (count : Nat) (world : Nat → World) (data : Bytes) : Prop :=
  ∃ source : Dataset, source.table = table ∧ .ensure source ∈ asked ∧
    ∃ n < count, (world n).stored source.storage.locator = some data

theorem Offered.mono {asked asked' : List Event} {count count' : Nat} {data : Bytes}
    (h : Offered table asked count world data) (hasked : asked ⊆ asked') (hcount : count ≤ count') :
    Offered table asked' count' world data := by
  obtain ⟨source, htable, hensure, n, hn, hstored⟩ := h
  exact ⟨source, htable, hasked hensure, n, Nat.lt_of_lt_of_le hn hcount, hstored⟩

/-- A table that was idle and is gone before any new load of it has heard of that awaits what is offered
from then on. -/
theorem awaits_offered {between : List Event} (hidle : Idle table (reached past))
    (hunheard : Unheard (reached past).loads.length table (reached (past ++ between)))
    (hgone : (world 0).held table = none)
    (hcourse : Along (Faithful table) (past ++ between) events world) :
    Awaits table (Offered table (between ++ events) events.length world)
      (reached (past ++ between ++ events)) (world events.length) := by
  induction events using List.reverseRecOn with
  | nil =>
    rw [List.append_nil, List.append_nil]
    constructor
    · intro data hheld
      cases hgone.symm.trans hheld
    · intro load hmember htable data hphase
      have hunfilled := hunheard.unfilled hidle load hmember htable
      simp [hphase, Phase.isFilling] at hunfilled
  | append_singleton events event ih =>
    obtain ⟨hbefore, hrule⟩ := along_append.mp hcourse
    rw [reached_append_append, List.length_append, List.length_singleton]
    have hgrows : between ++ events ⊆ between ++ (events ++ [event]) := by
      rw [← List.append_assoc]
      exact List.subset_append_left _ _
    have hawaits := ih hbefore
    apply Awaits.step hrule
    · constructor
      · intro data hheld
        exact (hawaits.held data hheld).mono hgrows (Nat.le_succ _)
      · intro load hmember htable data hphase
        exact (hawaits.importing load hmember htable data hphase).mono hgrows (Nat.le_succ _)
    · intro load hmember htable hfetching data hstored
      obtain ⟨position, hload⟩ := List.mem_iff_getElem?.mp hmember
      rw [List.append_assoc] at hload
      have hopen : load.outcome? = none := by simp [Load.outcome?, hfetching]
      have hensure := ensure_mem_of_load hload (le_of_open hidle hload htable hopen)
      exact ⟨load.dataset, htable, hgrows hensure, events.length, Nat.lt_succ_self _, hstored⟩

/-- What an invalidation brings to a table of which no load is under way. Whoever asks for the table
after it and is told a name is told that of the table, and a load that was begun after the invalidation
has asked whether the table exists. If the table was gone before any such load heard of that, it holds a
payload that has been stored since for a dataset of this table: the one of the dataset asked for, if that
did not change and nobody asked for the same table stored elsewhere. If the table was there, it still
holds what it held, whatever is stored. -/
theorem held_after_invalidation {past between events : List Event} {invalidation : Event}
    {world : Nat → World} {dataset : Dataset} {number : Nat} {name : String}
    (hforgets : Forgets dataset.table invalidation)
    (hinflight : (reached past).inflight.lookup dataset.table = none)
    (hunheard : Unheard (reached (past ++ [invalidation])).loads.length dataset.table
      (reached (past ++ [invalidation] ++ between)))
    (hcourse : Along (Attentive dataset.table) (past ++ [invalidation] ++ between) events world)
    (hnew : (reached (past ++ [invalidation])).callers.length ≤ number)
    (hasked : Occurred (AsksAs number dataset) (past ++ [invalidation] ++ between ++ events))
    (hanswer : (reached (past ++ [invalidation] ++ between ++ events)).callers[number]? =
      some (.answered (.ok name))) :
    name = dataset.table ∧
    (∃ position load, (reached (past ++ [invalidation])).loads.length ≤ position ∧
      (reached (past ++ [invalidation] ++ between ++ events)).loads[position]? = some load ∧
      .probe name ∈ load.asked) ∧
    ((world 0).held name = none → ∃ data, (world events.length).held name = some data ∧
      Offered name (between ++ events) events.length world data ∧
      ∀ latest, (∀ n < events.length, (world n).stored dataset.storage.locator = some latest) →
        (∀ other, .ensure other ∈ between ++ events → other.table = name →
          other.storage.locator = dataset.storage.locator) → data = latest) ∧
    (∀ data, (world 0).held name = some data → (world events.length).held name = some data) := by
  have hidle : Idle dataset.table (reached (past ++ [invalidation])) := idle_of_forgets hforgets hinflight
  obtain ⟨rfl, hsettled⟩ : name = dataset.table ∧ Settled (reached (past ++ [invalidation])).loads.length
      dataset.table (reached (past ++ [invalidation] ++ between ++ events)) := by
    rw [List.append_assoc _ between] at hasked hanswer ⊢
    exact settled_of_answered hidle hnew hasked hanswer
  refine ⟨rfl, ?_, ?_, ?_⟩
  · obtain ⟨position, load, hfirst, hload, htable, hended⟩ := hsettled
    refine ⟨position, load, hfirst, hload, ?_⟩
    rw [← htable]
    apply probe_mem_asked _ load (List.mem_of_getElem? hload)
    intro hbegun
    simp [Load.outcome?, hbegun] at hended
  · intro hgone
    obtain ⟨data, hkept⟩ := kept_of_settled hunheard.not_settled hcourse hsettled
    have hawaits := awaits_offered hidle hunheard hgone (hcourse.mono Attentive.toFaithful)
    have hoffered := hawaits.held data hkept.held
    refine ⟨data, hkept.held, hoffered, ?_⟩
    intro latest hlatest hplaces
    obtain ⟨source, htable, hensure, n, hn, hstored⟩ := hoffered
    rw [hplaces source hensure htable, hlatest n hn] at hstored
    exact (Option.some.inj hstored).symm
  · intro data hthere
    exact (Kept.along hcourse ⟨hthere, hunheard.unfilled hidle⟩).held

/-- The table of a dataset is made of the first payload. -/
def firstLoad : List Event :=
  [.ensure sampleDataset, .start 0, .reply 0 (.probed (.ok false)), .reply 0 (.dropped (.ok ())),
    .reply 0 (.fetched (.ok (some [1]))), .reply 0 (.imported (.ok ())), .retire 0]

/-- Its dataset is asked for once more. -/
def secondLoad : List Event :=
  [.ensure sampleDataset, .start 1]

/-- The new load does not find the table. -/
def goneReplies : List Event :=
  [.reply 1 (.probed (.ok false)), .reply 1 (.dropped (.ok ())), .reply 1 (.fetched (.ok (some [2]))),
    .reply 1 (.imported (.ok ())), .resume 1]

/-- Another payload is stored now, and the fourth event imports it. -/
def goneWorld (n : Nat) : World :=
  if n < 4 then ⟨fun _ => none, fun _ => some [2]⟩
  else ⟨fun table => if table = "df_a" then some [2] else none, fun _ => some [2]⟩

theorem attentive_goneReplies :
    Along (Attentive "df_a") (firstLoad ++ [.invalidate "a"] ++ secondLoad) goneReplies goneWorld := by
  refine Along.cons (attentive_probed rfl fun _ => rfl) ?_
  refine Along.cons (attentive_dropped (goneWorld 0) _) ?_
  refine Along.cons (attentive_fetched rfl rfl) ?_
  refine Along.cons (attentive_imported rfl rfl rfl) ?_
  refine Along.cons (attentive_of_still rfl (by simp)) ?_
  exact along_nil

theorem stored_goneWorld (n : Nat) (key : String) : (goneWorld n).stored key = some [2] := by
  unfold goneWorld
  split <;> rfl

theorem unheard_secondLoad : Unheard 1 "df_a" (reached (firstLoad ++ [.invalidate "a"] ++ secondLoad)) := by
  intro position load hfirst hload _
  match position with
  | 0 => omega
  | 1 =>
    obtain rfl : Load.mk sampleDataset .probing [.probe "df_a"] = load := Option.some.inj hload
    exact Or.inr rfl
  | position + 2 => cases hload

/-- A table that is gone when its dataset is asked for after an invalidation holds the new payload in
the end. -/
theorem held_after_invalidation_goneReplies :
    Forgets sampleDataset.table (.invalidate "a") ∧ (reached firstLoad).inflight.lookup sampleDataset.table = none ∧
      Unheard 1 "df_a" (reached (firstLoad ++ [.invalidate "a"] ++ secondLoad)) ∧
      Along (Attentive "df_a") (firstLoad ++ [.invalidate "a"] ++ secondLoad) goneReplies goneWorld ∧
      (∀ n, (goneWorld n).stored "k" = some [2]) ∧
      (reached (firstLoad ++ [.invalidate "a"] ++ secondLoad ++ goneReplies)).callers[1]? =
        some (.answered (.ok "df_a")) ∧
      (goneWorld 0).held "df_a" = none ∧ (goneWorld 5).held "df_a" = some [2] := by
  have hforgets : Forgets sampleDataset.table (.invalidate "a") := rfl
  have hinflight : (reached firstLoad).inflight.lookup sampleDataset.table = none := rfl
  have hanswer : (reached (firstLoad ++ [.invalidate "a"] ++ secondLoad ++ goneReplies)).callers[1]? =
    some (.answered (.ok "df_a")) := rfl
  have hplaces : ∀ other, .ensure other ∈ secondLoad ++ goneReplies → other.table = sampleDataset.table →
      other.storage.locator = sampleDataset.storage.locator := by
    intro other hasked _
    obtain rfl : other = sampleDataset := by simpa [secondLoad, goneReplies] using hasked
    rfl
  have hasked : Occurred (AsksAs 1 sampleDataset)
      (firstLoad ++ [.invalidate "a"] ++ secondLoad ++ goneReplies) :=
    ⟨firstLoad ++ [.invalidate "a"], .ensure sampleDataset, .start 1 :: goneReplies, rfl, ⟨rfl, rfl⟩,
      by simp⟩
  obtain ⟨-, -, hgone, -⟩ := held_after_invalidation hforgets hinflight unheard_secondLoad
    attentive_goneReplies (Nat.le_refl 1) hasked hanswer
  obtain ⟨data, hheld, -, hlatest⟩ := hgone rfl
  obtain rfl := hlatest [2] (fun n _ => stored_goneWorld n "k") hplaces
  exact ⟨hforgets, hinflight, unheard_secondLoad, attentive_goneReplies,
    fun n => stored_goneWorld n "k", hanswer, rfl, hheld⟩

/-- The same, but the new load finds the table that the first one made. -/
def staleLoads : List Event :=
  firstLoad ++ [.invalidate "a"] ++ secondLoad ++ [.reply 1 (.probed (.ok true)), .resume 1]

/-- The sixth event imports the first payload, and the seventh one replaces it where it is stored. -/
def staleWorld (n : Nat) : World :=
  if n < 6 then ⟨fun _ => none, fun _ => some [1]⟩
  else ⟨fun table => if table = "df_a" then some [1] else none,
    fun _ => if n < 7 then some [1] else some [2]⟩

theorem attentive_staleLoads (table : String) : Along (Attentive table) [] staleLoads staleWorld := by
  refine Along.cons (attentive_of_still rfl (by simp)) ?_
  refine Along.cons (attentive_of_still rfl (by simp)) ?_
  refine Along.cons (attentive_probed rfl fun _ => rfl) ?_
  refine Along.cons (attentive_dropped (staleWorld 0) _) ?_
  refine Along.cons (attentive_fetched rfl rfl) ?_
  refine Along.cons (attentive_imported rfl rfl rfl) ?_
  refine Along.cons (attentive_of_still rfl (by simp)) ?_
  refine Along.cons (attentive_of_still rfl (by simp)) ?_
  refine Along.cons (attentive_of_still rfl (by simp)) ?_
  refine Along.cons (attentive_of_still rfl (by simp)) ?_
  refine Along.cons (attentive_probed rfl ?_) ?_
  · rintro rfl
    rfl
  refine Along.cons (attentive_of_still rfl (by simp)) ?_
  exact along_nil

/-- Rows that were imported before a payload was replaced are served after an invalidation. -/
theorem stale_rows_after_invalidation :
    (∀ table, (staleWorld 0).held table = none) ∧
      (∀ table, Along (Attentive table) [] staleLoads staleWorld) ∧
      staleLoads[7]? = some (.invalidate sampleDataset.id) ∧
      (reached (staleLoads.take 7)).inflight.lookup sampleDataset.table = none ∧
      (staleWorld 6).stored sampleDataset.storage.locator = some [1] ∧
      (∀ n, 7 ≤ n → (staleWorld n).stored sampleDataset.storage.locator = some [2]) ∧
      staleLoads[8]? = some (.ensure sampleDataset) ∧
      (reached staleLoads).callers[1]? = some (.answered (.ok sampleDataset.table)) ∧
      (staleWorld staleLoads.length).held sampleDataset.table = some [1] := by
  refine ⟨fun _ => rfl, attentive_staleLoads, rfl, rfl, rfl, ?_, rfl, rfl, rfl⟩
  intro n hn
  simp [staleWorld, Nat.not_lt.mpr hn, Nat.not_lt.mpr (Nat.le_trans (by decide : 6 ≤ 7) hn)]

end Insights.Loader
