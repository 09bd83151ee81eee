import Insights.Proofs.Loading.Gathering
import Insights.Proofs.Loading.Protocol
import Insights.Proofs.Loading.World

/-!
What a load that fails leaves behind in the engine. A load writes its own table only: it drops the table
before it fetches, and imports it anew at the end. A table that was there survives a failure unless the
probe missed it because of an outage and the drop after that succeeded.
-/

namespace Insights

namespace Load

/-- What a table holds after a drop or an import of it that a load hears to have succeeded. -/
def leaves (load : Load) (reply : Reply) : Option (Option Bytes) :=
  match load.phase, reply with
  | .dropping, .dropped (.ok _) => some none
  | .importing data, .imported (.ok _) => some (some data)
  | _, _ => none

theorem leaves_cases {load : Load} {reply : Reply} {content : Option Bytes}
    (h : load.leaves reply = some content) :
    (load.phase = .dropping ∧ reply = .dropped (.ok ()) ∧ content = none) ∨
      ∃ data, load.phase = .importing data ∧ reply = .imported (.ok ()) ∧ content = some data := by
  unfold leaves at h
  split at h
  · next hphase =>
    cases h
    exact Or.inl ⟨hphase, rfl, rfl⟩
  · next data done hphase =>
    cases h
    exact Or.inr ⟨data, hphase, rfl, rfl⟩
  · cases h

theorem ends_of_imported {load : Load} {data : Bytes} (hphase : load.phase = .importing data)
    (position : Nat) :
    (load.after position (.reply position (.imported (.ok ())))).outcome? = some (.ok ()) := by
  simp [after, advance, nextPhase?, hphase, enter, outcome?]

theorem mem_hears {load : Load} {position : Nat} {event : Event} {reply : Reply} :
    reply ∈ load.hears position event ↔
      event = .reply position reply ∧ (load.nextPhase? reply).isSome := by
  cases event with
  | reply other found =>
    simp only [hears]
    split
    · next h =>
      obtain ⟨rfl, hnext⟩ := h
      rw [List.mem_singleton, Event.reply.injEq]
      constructor
      · rintro rfl
        exact ⟨⟨rfl, rfl⟩, hnext⟩
      · rintro ⟨⟨-, rfl⟩, -⟩
        rfl
    · next h =>
      simp only [List.not_mem_nil, Event.reply.injEq, false_iff]
      rintro ⟨⟨rfl, rfl⟩, hnext⟩
      exact h ⟨rfl, hnext⟩
  | _ => simp [hears]

theorem phase_of_probed {load : Load} {result : Except Fault Bool}
    (h : (load.nextPhase? (.probed result)).isSome) : load.phase = .probing := by
  cases hphase : load.phase <;> simp_all [nextPhase?]

theorem phase_of_dropped {load : Load} {result : Except Fault Unit}
    (h : (load.nextPhase? (.dropped result)).isSome) : load.phase = .dropping := by
  cases hphase : load.phase <;> simp_all [nextPhase?]

end Load

namespace Loader

variable {events : List Event} {event : Event} {world : Nat → World} {table : String} {content : Bytes}
  {position : Nat} {load : Load}

/-- What the event leaves in the table, if it writes the table. -/
def leaves (table : String) (loader : Loader) : Event → Option (Option Bytes)
  | .reply position reply =>
    (loader.loads[position]?).bind fun load => if load.table = table then load.leaves reply else none
  | _ => none

/-- The load by which the event writes the table, if it does. -/
def writers (table : String) (loader : Loader) (event : Event) : List Nat :=
  match event with
  | .reply position _ => if (loader.leaves table event).isSome then [position] else []
  | _ => []

/-- An event in an engine whose probes tell whether the table is there if they tell anything, and whose
table nothing writes but the drops and imports of loads that succeed. -/
structure Undisturbed (table : String) (loader : Loader) (before : World) (event : Event)
    (after : World) : Prop where
  probes : ∀ position found load, event = .reply position (.probed (.ok found)) →
    loader.loads[position]? = some load → load.table = table → load.phase = .probing →
      found = (before.held table).isSome
  tables : after.held table = (loader.leaves table event).getD (before.held table)

/-- Only a load that has not ended writes its table. -/
theorem leaves_eq_some {loader : Loader} {left : Option Bytes}
    (h : loader.leaves table event = some left) :
    ∃ position reply load, event = .reply position reply ∧ loader.loads[position]? = some load ∧
      load.table = table ∧ load.outcome? = none ∧ load.leaves reply = some left := by
  unfold leaves at h
  split at h
  · next position reply =>
    obtain ⟨load, hload, hleft⟩ := Option.bind_eq_some_iff.mp h
    split at hleft
    · next htable =>
      refine ⟨position, reply, load, rfl, hload, htable, ?_, hleft⟩
      rcases Load.leaves_cases hleft with ⟨hphase, -⟩ | ⟨data, hphase, -⟩
      · simp [Load.outcome?, hphase]
      · simp [Load.outcome?, hphase]
    · cases hleft
  · cases h

/-- The replies tell that the table is not there: the probe did not find it, or it was dropped. -/
def Emptied (heard : List Reply) : Prop :=
  heard.head? = some (.probed (.ok false)) ∨ .dropped (.ok ()) ∈ heard

/-- Replies tell that only because of the last one, or have told it before. -/
theorem emptied_append {heard : List Reply} (h : Emptied (heard ++ load.hears position event)) :
    Emptied heard ∨
      (event = .reply position (.probed (.ok false)) ∧ load.phase = .probing) ∨
      (event = .reply position (.dropped (.ok ())) ∧ load.phase = .dropping) := by
  rcases h with hhead | hmember
  · cases heard with
    | cons first rest => exact Or.inl (Or.inl hhead)
    | nil =>
      obtain ⟨hevent, hnext⟩ := Load.mem_hears.mp (List.mem_of_head? hhead)
      exact Or.inr (Or.inl ⟨hevent, Load.phase_of_probed hnext⟩)
  · rcases List.mem_append.mp hmember with hold | hnew
    · exact Or.inl (Or.inr hold)
    · obtain ⟨hevent, hnext⟩ := Load.mem_hears.mp hnew
      exact Or.inr (Or.inr ⟨hevent, Load.phase_of_dropped hnext⟩)

theorem not_emptied_nil : ¬ Emptied [] := by
  simp [Emptied]

theorem leaves_of_dropped {loader : Loader} (hload : loader.loads[position]? = some load)
    (htable : load.table = table) (hphase : load.phase = .dropping) :
    loader.leaves table (.reply position (.dropped (.ok ()))) = some none := by
  simp [leaves, hload, htable, Load.leaves, hphase]

theorem heard_of_load {loader : Loader} (hload : loader.loads[position]? = some load) (event : Event) :
    heard position loader event = load.hears position event := by
  simp [heard, hload]

/-- The table of a load that is under way and has not ended well is not there, once the load was told so
or has dropped it. -/
theorem absent_of_emptied (hcourse : Along (Undisturbed table) [] events world)
    (hinflight : (reached events).inflight.lookup table = some position)
    (hload : (reached events).loads[position]? = some load) (hunended : load.outcome? ≠ some (.ok ()))
    (hemptied : Emptied (heardBy position events)) : (world events.length).held table = none := by
  induction events using List.reverseRecOn generalizing load with
  | nil => exact absurd hemptied not_emptied_nil
  | append_singleton events event ih =>
    obtain ⟨hbefore, hrule⟩ := along_append.mp hcourse
    rw [reached_append] at hinflight hload
    rw [heardBy_append] at hemptied
    rw [List.length_append, List.length_singleton, hrule.tables, List.nil_append]
    rcases loads_step_cases hload with ⟨old, hold, rfl⟩ | ⟨dataset, -, rfl, rfl⟩
    · have hregistered : (reached events).inflight.lookup table = some position := by
        rcases (lookup_step (registered_reached events) event table position).mp hinflight with
          ⟨_, _, _, rfl⟩ | ⟨hregistered, -⟩
        · simp at hold
        · exact hregistered
      have htable : old.table = table := by
        obtain ⟨found, hfound, htable⟩ := registered_reached events _ _ hregistered
        cases hold.symm.trans hfound
        exact htable
      have hunended' : old.outcome? ≠ some (.ok ()) := fun hended =>
        hunended (Load.outcome?_after hended position event)
      rw [heard_of_load hold] at hemptied
      cases hleft : (reached events).leaves table event with
      | some left =>
        -- only the load that is under way writes the table
        obtain ⟨other, reply, writer, rfl, hwriter, hsame, hopen, hleaves⟩ := leaves_eq_some hleft
        have hlookup := lookup_of_open hwriter hopen
        rw [hsame, hregistered] at hlookup
        cases hlookup
        cases hold.symm.trans hwriter
        rcases Load.leaves_cases hleaves with ⟨-, -, rfl⟩ | ⟨data, hphase, rfl, -⟩
        · rfl
        · exact absurd (Load.ends_of_imported hphase position) hunended
      | none =>
        rcases emptied_append hemptied with hearlier | ⟨rfl, hphase⟩ | ⟨rfl, hphase⟩
        · exact ih hbefore hregistered hold hunended' hearlier
        · have hfound := hrule.probes position false old rfl hold htable hphase
          simpa using hfound
        · cases (leaves_of_dropped hold htable hphase).symm.trans hleft
    · rw [heardBy_of_length_le (Nat.le_refl _), heard, List.getElem?_eq_none (Nat.le_refl _)] at hemptied
      exact absurd hemptied not_emptied_nil

/-! ### From a call on -/

variable {start later : List Event}

/-- Since some events, the load at a position has dropped its table. The probe had missed the table because
of an outage. -/
structure Loses (position : Nat) (start later : List Event) : Prop where
  outage : ∃ cause : Fault, cause.isOutage = true ∧
    (heardBy position (start ++ later)).head? = some (.probed (.error cause))
  dropped : .dropped (.ok ()) ∈ observed (heard position) (reached start) later

/-- What is heard by the last of some events comes last. -/
theorem heard_since_append (hload : (reached (start ++ later)).loads[position]? = some load) :
    observed (heard position) (reached start) (later ++ [event]) =
      observed (heard position) (reached start) later ++ load.hears position event := by
  rw [observed_append, run_reached, heard_of_load hload]

theorem heardBy_append_append (hload : (reached (start ++ later)).loads[position]? = some load) :
    heardBy position (start ++ (later ++ [event])) =
      heardBy position (start ++ later) ++ load.hears position event := by
  rw [← List.append_assoc, heardBy_append, heard_of_load hload]

theorem Loses.append (h : Loses position start later)
    (hload : (reached (start ++ later)).loads[position]? = some load) :
    Loses position start (later ++ [event]) := by
  obtain ⟨⟨cause, houtage, hhead⟩, hdropped⟩ := h
  refine ⟨⟨cause, houtage, ?_⟩, ?_⟩
  · rw [heardBy_append_append hload]
    rw [List.head?_append, hhead]
    rfl
  · rw [heard_since_append hload]
    exact List.mem_append_left _ hdropped

/-- How a table with some content stands to the load of it that a caller waits for: it has kept the content,
or it was lost and is gone until the load ends well. -/
def Stays (table : String) (content : Bytes) (position : Nat) (start later : List Event) (world : World)
    (load : Load) : Prop :=
  (.dropped (.ok ()) ∉ observed (heard position) (reached start) later ∧ world.held table = some content ∧
    (load.outcome? = none → ¬ Emptied (heardBy position (start ++ later)))) ∨
  (Loses position start later ∧ (load.outcome? ≠ some (.ok ()) → world.held table = none))

/-- A load that drops its table was told that the table is there, or had an outage. -/
theorem outage_of_dropping (hload : (reached events).loads[position]? = some load)
    (hphase : load.phase = .dropping) (hunemptied : ¬ Emptied (heardBy position events)) :
    ∃ cause : Fault, cause.isOutage = true ∧
      (heardBy position events).head? = some (.probed (.error cause)) := by
  have hfollows := follows_reached hload
  obtain ⟨dataset, phase, asked⟩ := load
  change Load.Follows dataset _ asked phase at hfollows
  subst hphase
  generalize heardBy position events = heard at hfollows hunemptied ⊢
  cases hfollows with
  | @dropping result hmissed hkind =>
    cases result with
    | ok found => exact absurd (Or.inl (by rw [show found = false from hmissed]; rfl)) hunemptied
    | error cause => exact ⟨cause, hmissed, rfl⟩

/-- A load that imports a table has dropped it. -/
theorem emptied_of_importing (hload : (reached events).loads[position]? = some load) {data : Bytes}
    (hphase : load.phase = .importing data) : Emptied (heardBy position events) := by
  have hfollows := follows_reached hload
  obtain ⟨dataset, phase, asked⟩ := load
  change Load.Follows dataset _ asked phase at hfollows
  subst hphase
  generalize heardBy position events = heard at hfollows ⊢
  cases hfollows with
  | importing => exact Or.inr (by simp)

theorem Stays.step {before after : World}
    (hload : (reached (start ++ later)).loads[position]? = some load) (htable : load.table = table)
    (hrule : Undisturbed table (reached (start ++ later)) before event after)
    (halone : ∀ other ∈ writers table (reached (start ++ later)) event, other = position)
    (h : Stays table content position start later before load) :
    Stays table content position start (later ++ [event]) after (load.after position event) := by
  cases hleft : (reached (start ++ later)).leaves table event with
  | some left =>
    obtain ⟨other, reply, writer, rfl, hwriter, -, hopen, hleaves⟩ := leaves_eq_some hleft
    obtain rfl : other = position := halone other (by simp [writers, hleft])
    cases hload.symm.trans hwriter
    rcases Load.leaves_cases hleaves with ⟨hphase, rfl, rfl⟩ | ⟨data, hphase, rfl, -⟩
    · have hgone : after.held table = none := by rw [hrule.tables, hleft]; rfl
      rcases h with ⟨-, -, hunemptied⟩ | ⟨hloses, -⟩
      · obtain ⟨cause, houtage, hhead⟩ := outage_of_dropping hload hphase (hunemptied hopen)
        refine Or.inr ⟨⟨⟨cause, houtage, ?_⟩, ?_⟩, fun _ => hgone⟩
        · rw [heardBy_append_append hload, List.head?_append, hhead]
          rfl
        · rw [heard_since_append hload]
          exact List.mem_append_right _ (Load.mem_hears.mpr ⟨rfl, by simp [Load.nextPhase?, hphase]⟩)
      · exact Or.inr ⟨hloses.append hload, fun _ => hgone⟩
    · rcases h with ⟨-, -, hunemptied⟩ | ⟨hloses, -⟩
      · exact absurd (emptied_of_importing hload hphase) (hunemptied hopen)
      · exact Or.inr ⟨hloses.append hload, absurd (Load.ends_of_imported hphase other)⟩
  | none =>
    have hkept : after.held table = before.held table := by rw [hrule.tables, hleft]; rfl
    have hundropped : ¬ (event = .reply position (.dropped (.ok ())) ∧ load.phase = .dropping) := by
      rintro ⟨rfl, hphase⟩
      cases (leaves_of_dropped hload htable hphase).symm.trans hleft
    rcases h with ⟨hbefore, hheld, hunemptied⟩ | ⟨hloses, hgone⟩
    · refine Or.inl ⟨?_, hkept.trans hheld, ?_⟩
      · rw [heard_since_append hload, List.mem_append]
        rintro (hold | hnew)
        · exact hbefore hold
        · obtain ⟨hevent, hnext⟩ := Load.mem_hears.mp hnew
          exact hundropped ⟨hevent, Load.phase_of_dropped hnext⟩
      · intro hopen hemptied
        rw [heardBy_append_append hload] at hemptied
        rcases emptied_append hemptied with hold | ⟨rfl, hphase⟩ | hdropped
        · exact hunemptied (Load.open_of_after hopen) hold
        · have hfound := hrule.probes position false load rfl hload htable hphase
          simp [hheld] at hfound
        · exact hundropped hdropped
    · refine Or.inr ⟨hloses.append hload, fun hunended => hkept.trans (hgone fun hended => ?_)⟩
      exact hunended (Load.outcome?_after hended position event)

/-- A table with some content stays so along a run in which no load but the one at the position writes it. -/
theorem stays_run (hcourse : Along (Undisturbed table) [] (start ++ later) world)
    (hload : (reached start).loads[position]? = some load) (htable : load.table = table)
    (hheld : (world start.length).held table = some content)
    (halone : ∀ other ∈ observed (writers table) (reached start) later, other = position) :
    ∃ last, (reached (start ++ later)).loads[position]? = some last ∧ last.table = table ∧
      Stays table content position start later (world (start ++ later).length) last := by
  induction later using List.reverseRecOn with
  | nil =>
    simp only [List.append_nil] at hcourse ⊢
    refine ⟨load, hload, htable, Or.inl ⟨List.not_mem_nil, hheld, ?_⟩⟩
    intro hopen hemptied
    have hinflight := lookup_of_open hload hopen
    rw [htable] at hinflight
    rw [List.append_nil] at hemptied
    have habsent := absent_of_emptied hcourse hinflight hload (by simp [hopen]) hemptied
    cases hheld.symm.trans habsent
  | append_singleton later event ih =>
    rw [← List.append_assoc, along_append] at hcourse
    rw [observed_append, run_reached] at halone
    obtain ⟨last, hlast, hsame, hstays⟩ :=
      ih hcourse.1 fun other hother => halone other (List.mem_append_left _ hother)
    rw [← List.append_assoc, reached_append, List.length_append, List.length_singleton]
    refine ⟨_, loads_step hlast event, (Load.table_after ..).trans hsame, ?_⟩
    exact hstays.step hlast hsame hcourse.2 fun other hother => halone other (List.mem_append_right _ hother)

/-- A table that no event writes keeps what it holds. -/
theorem held_of_unwritten (hcourse : Along (Undisturbed table) [] (start ++ later) world)
    (hunwritten : observed (writers table) (reached start) later = []) :
    (world (start ++ later).length).held table = (world start.length).held table := by
  induction later using List.reverseRecOn with
  | nil => simp
  | append_singleton later event ih =>
    rw [← List.append_assoc, along_append] at hcourse
    rw [observed_append, run_reached, List.append_eq_nil_iff] at hunwritten
    obtain ⟨hbefore, hlast⟩ := hunwritten
    have hleaves : (reached (start ++ later)).leaves table event = none := by
      rw [Option.eq_none_iff_forall_ne_some]
      intro left hleft
      obtain ⟨position, reply, load, rfl, -⟩ := leaves_eq_some hleft
      simp [writers, hleft] at hlast
    rw [← List.append_assoc, List.length_append, List.length_singleton]
    refine Eq.trans ?_ (ih hcourse.1 hbefore)
    simpa [hleaves] using hcourse.2.tables

/-- A load that writes a table is a load of it. -/
theorem load_of_writer {other : Nat} (h : other ∈ observed (writers table) (reached start) later) :
    ∃ load, (reached (start ++ later)).loads[other]? = some load ∧ load.table = table := by
  induction later using List.reverseRecOn with
  | nil => simp [observed] at h
  | append_singleton later event ih =>
    rw [observed_append, run_reached, List.mem_append] at h
    rw [← List.append_assoc, reached_append]
    rcases h with hold | hnew
    · obtain ⟨load, hload, htable⟩ := ih hold
      exact ⟨_, loads_step hload event, (Load.table_after ..).trans htable⟩
    · unfold writers at hnew
      split at hnew
      · next position reply =>
        split at hnew
        · next hsome =>
          obtain rfl : other = position := by simpa using hnew
          obtain ⟨left, hleft⟩ := Option.isSome_iff_exists.mp hsome
          obtain ⟨_, _, load, hevent, hload, htable, -⟩ := leaves_eq_some hleft
          cases hevent
          exact ⟨_, loads_step hload _, (Load.table_after ..).trans htable⟩
        · simp at hnew
      · simp at hnew

/-- Somebody asks for a dataset after past events. -/
abbrev asking (past : List Event) (dataset : Dataset) : List Event :=
  past ++ [.ensure dataset]

/-- The caller with the number was told of a fault, or was cancelled. -/
def Raises (number : Nat) (loader : Loader) : Prop :=
  (∃ fault, loader.callers[number]? = some (.answered (.error fault))) ∨
    loader.callers[number]? = some .cancelled

/-- Whoever is not told the name of its table has waited for a load of it, and was told how that ended. -/
theorem load_of_raises {past : List Event} {dataset : Dataset}
    (hraised : Raises (reached past).callers.length (reached (asking past dataset ++ later))) :
    ∃ position first last,
      ((reached past).ensure dataset).waitedFor? (reached past).callers.length = some position ∧
      ((reached (asking past dataset)).loads[position]? = some first ∧ first.table = dataset.table) ∧
      ((reached (asking past dataset ++ later)).loads[position]? = some last ∧
        last.table = dataset.table) ∧
      ∀ fault, (reached (asking past dataset ++ later)).callers[(reached past).callers.length]? =
        some (.answered (.error fault)) → last.outcome? = some (.error fault) := by
  have hstands := (joined_ensure (registered_reached past) dataset).stands
  have hafter := hstands.run later
  have hstep : (reached past).ensure dataset = reached (asking past dataset) :=
    (reached_append past (.ensure dataset)).symm
  rw [hstep] at hstands hafter ⊢
  rw [run_reached] at hafter
  cases hwaited : (reached (asking past dataset)).waitedFor? (reached past).callers.length with
  | none =>
    -- who waits for nothing was told the name at once
    simp only [Awaited.Stands, hwaited] at hafter
    rcases hraised with ⟨fault, htold⟩ | hcancelled
    · cases Option.some.inj (hafter.symm.trans htold)
    · cases Option.some.inj (hafter.symm.trans hcancelled)
  | some position =>
    obtain ⟨first, hfirst, htable, -⟩ := by simpa only [Awaited.Stands, hwaited] using hstands
    obtain ⟨last, hlast, htable', -⟩ := by simpa only [Awaited.Stands, hwaited] using hafter
    refine ⟨position, first, last, rfl, ⟨hfirst, htable⟩, ⟨hlast, htable'⟩, ?_⟩
    intro fault htold
    obtain ⟨found, load, hjoined, hload, -, hfailed⟩ := hafter.load_of_told htold
    cases hwaited.symm.trans hjoined
    cases hlast.symm.trans hload
    exact hfailed

/-- A call that fails, or is cancelled, leaves the tables as they were. Every table that was there when
somebody asked for a dataset still holds the same, if no load but the one that was waited for has written
it. The exception is the table of the dataset itself: it is lost exactly when an outage kept the probe from
finding it and it was dropped since, and it is gone then until the load ends well. -/
theorem failed_load_spares_tables (past later : List Event) (dataset : Dataset) (world : Nat → World)
    (hcourse : ∀ table, Along (Undisturbed table) [] (asking past dataset ++ later) world)
    (hraised : Raises (reached past).callers.length (reached (asking past dataset ++ later))) :
    ∃ position load,
      ((reached past).ensure dataset).waitedFor? (reached past).callers.length = some position ∧
      (reached (asking past dataset ++ later)).loads[position]? = some load ∧
      load.table = dataset.table ∧
      (∀ fault, (reached (asking past dataset ++ later)).callers[(reached past).callers.length]? =
        some (.answered (.error fault)) → load.outcome? = some (.error fault)) ∧
      ∀ table content, (world past.length).held table = some content →
        (∀ other ∈ observed (writers table) (reached (asking past dataset)) later, other = position) →
          (¬ (table = dataset.table ∧ Loses position (asking past dataset) later) →
            (world (asking past dataset ++ later).length).held table = some content) ∧
          (table = dataset.table → Loses position (asking past dataset) later →
            load.outcome? ≠ some (.ok ()) →
              (world (asking past dataset ++ later).length).held table = none) := by
  obtain ⟨position, first, load, hwaited, ⟨hfirst, htable⟩, ⟨hload, hsame⟩, htold⟩ :=
    load_of_raises hraised
  refine ⟨position, load, hwaited, hload, hsame, htold, ?_⟩
  intro table content hheld halone
  have hstart : (world (asking past dataset).length).held table = some content := by
    -- asking writes nothing by itself
    have hasked := (hcourse table).take (asking past dataset).length
    rw [List.take_left] at hasked
    exact (held_of_unwritten hasked rfl).trans hheld
  by_cases hown : table = dataset.table
  · subst hown
    obtain ⟨last, hlast, -, hstays⟩ := stays_run (hcourse _) hfirst htable hstart halone
    cases hload.symm.trans hlast
    rcases hstays with ⟨hundropped, hkept, -⟩ | ⟨hloses, hgone⟩
    · exact ⟨fun _ => hkept, fun _ hloses => absurd hloses.dropped hundropped⟩
    · exact ⟨fun hkept => absurd ⟨rfl, hloses⟩ hkept, fun _ _ => hgone⟩
  · have hunwritten : observed (writers table) (reached (asking past dataset)) later = [] := by
      rw [List.eq_nil_iff_forall_not_mem]
      intro other hother
      obtain ⟨found, hfound, hforeign⟩ := load_of_writer hother
      rw [halone other hother, hload] at hfound
      cases hfound
      exact hown (hforeign.symm.trans hsame)
    refine ⟨fun _ => (held_of_unwritten (hcourse table) hunwritten).trans hstart, ?_⟩
    exact fun hsame => absurd hsame hown

/-! ### A table that is lost -/

section
variable {loader : Loader} {before after : World} {reply : Reply}

/-- An event by which no load hears of success at its table disturbs no table that stays as it is. -/
theorem undisturbed_of_still (hprobe : ∀ position found, event ≠ .reply position (.probed (.ok found)))
    (hleaves : loader.leaves table event = none) (hheld : after.held table = before.held table) :
    Undisturbed table loader before event after where
  probes position found _ hevent := absurd hevent (hprobe position found)
  tables := by rw [hleaves, hheld]; rfl

theorem leaves_eq_none (hload : loader.loads[position]? = some load)
    (h : load.table = table → load.leaves reply = none) :
    loader.leaves table (.reply position reply) = none := by
  simpa [leaves, hload] using h

end

/-- The probe fails, so the table is dropped; and then there is no payload to import. -/
def lossyLoad : List Event :=
  [.start 0, .reply 0 (.probed (.error (.system "down"))), .reply 0 (.dropped (.ok ())),
    .reply 0 (.fetched (.ok none)), .retire 0, .resume 0]

/-- Two tables are there at first. The fourth event drops one of them. -/
def lossyWorld (n : Nat) : World :=
  if n < 4 then ⟨fun table => if table = "df_a" then some [1] else if table = "df_b" then some [2] else none,
    fun _ => none⟩
  else ⟨fun table => if table = "df_b" then some [2] else none, fun _ => none⟩

theorem undisturbed_lossyLoad (table : String) :
    Along (Undisturbed table) [] (asking [] sampleDataset ++ lossyLoad) lossyWorld := by
  refine Along.cons (undisturbed_of_still (by simp) rfl rfl) ?_
  refine Along.cons (undisturbed_of_still (by simp) rfl rfl) ?_
  refine Along.cons (undisturbed_of_still (by simp) (leaves_eq_none rfl fun _ => rfl) rfl) ?_
  refine Along.cons ⟨by simp, ?_⟩ ?_
  · by_cases htable : table = "df_a"
    · subst htable
      rfl
    · rw [leaves_eq_none rfl fun hsame => absurd hsame.symm htable]
      simp [lossyWorld, htable]
  refine Along.cons (undisturbed_of_still (by simp) (leaves_eq_none rfl fun _ => rfl) rfl) ?_
  refine Along.cons (undisturbed_of_still (by simp) rfl rfl) ?_
  refine Along.cons (undisturbed_of_still (by simp) rfl rfl) ?_
  exact along_nil

theorem writers_lossyLoad (table : String) :
    ∀ other ∈ observed (writers table) (reached (asking [] sampleDataset)) lossyLoad, other = 0 := by
  intro other hother
  obtain ⟨load, hload, -⟩ := load_of_writer hother
  exact Nat.lt_one_iff.mp (List.getElem?_eq_some_iff.mp hload).1

/-- The call fails. The table that it asked for was there and is gone; the other one is still there. -/
theorem failed_load_spares_tables_lossyLoad :
    (∀ table, Along (Undisturbed table) [] (asking [] sampleDataset ++ lossyLoad) lossyWorld) ∧
      Raises 0 (reached (asking [] sampleDataset ++ lossyLoad)) ∧
      (lossyWorld 0).held "df_b" = some [2] ∧ (lossyWorld 7).held "df_b" = some [2] ∧
      (lossyWorld 0).held "df_a" = some [1] ∧ (lossyWorld 7).held "df_a" = none := by
  have hraised : Raises 0 (reached (asking [] sampleDataset ++ lossyLoad)) := Or.inl ⟨_, rfl⟩
  obtain ⟨position, load, hwaited, hload, -, htold, htables⟩ :=
    failed_load_spares_tables [] lossyLoad sampleDataset lossyWorld undisturbed_lossyLoad hraised
  obtain rfl : 0 = position := Option.some.inj hwaited
  have hloses : Loses 0 (asking [] sampleDataset) lossyLoad := by
    have hheard : observed (heard 0) (reached (asking [] sampleDataset)) lossyLoad =
      [.probed (.error (.system "down")), .dropped (.ok ()), .fetched (.ok none)] := rfl
    refine ⟨⟨.system "down", rfl, rfl⟩, ?_⟩
    rw [hheard]
    simp
  have hfailed := htold _ rfl
  refine ⟨undisturbed_lossyLoad, hraised, rfl, ?_, rfl, ?_⟩
  · refine (htables "df_b" [2] rfl (writers_lossyLoad "df_b")).1 ?_
    rintro ⟨hsame, -⟩
    exact absurd hsame (by decide +kernel)
  · exact (htables "df_a" [1] rfl (writers_lossyLoad "df_a")).2 rfl hloses (by simp [hfailed])

/-- Not every table survives a failure, even if only the load that was waited for writes tables. -/
theorem failed_load_loses_table :
    ¬ ∀ (past later : List Event) (dataset : Dataset) (world : Nat → World),
      (∀ table, Along (Undisturbed table) [] (asking past dataset ++ later) world) →
        Raises (reached past).callers.length (reached (asking past dataset ++ later)) →
          (∀ table, ∀ other ∈ observed (writers table) (reached (asking past dataset)) later,
            ((reached past).ensure dataset).waitedFor? (reached past).callers.length = some other) →
              ∀ table content, (world past.length).held table = some content →
                (world (asking past dataset ++ later).length).held table = some content := by
  intro hspared
  have halone : ∀ table, ∀ other ∈ observed (writers table) (reached (asking [] sampleDataset)) lossyLoad,
      ((reached []).ensure sampleDataset).waitedFor? (reached []).callers.length = some other := by
    intro table other hother
    rw [writers_lossyLoad table other hother]
    rfl
  have hkept := hspared [] lossyLoad sampleDataset lossyWorld undisturbed_lossyLoad (Or.inl ⟨_, rfl⟩)
    halone "df_a" [1] rfl
  cases hkept

end Loader
end Insights
