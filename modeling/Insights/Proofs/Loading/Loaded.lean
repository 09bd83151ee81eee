import Insights.Proofs.Loading.SingleFlight

/-!
What it means that a table is loaded. A table is among the loaded ones exactly when a load of it has
ended well and it has not been taken off since. While it is, no load of it is under way, and it exists
in any engine whose probes find no table that is not there and whose tables go only when a load drops
them. Probes may fail, or miss a table that is there.
-/

namespace Insights

theorem Load.absentPhase_ne (load : Load) : load.absentPhase ≠ .ended (.ok ()) := by
  unfold absentPhase
  split <;> simp

theorem Load.failedPhase_ne (load : Load) (fault : Fault) : load.failedPhase fault ≠ .ended (.ok ()) := by
  simp [failedPhase]

/-- A load ends well by a probe that finds its table, or by an import that succeeds. -/
theorem Load.ends_well_cases {load : Load} {reply : Reply} (hopen : load.outcome? = none)
    (hended : (load.advance reply).outcome? = some (.ok ())) :
    (load.phase = .probing ∧ reply = .probed (.ok true)) ∨
      ∃ data done, load.phase = .importing data ∧ reply = .imported (.ok done) := by
  have hnext : load.nextPhase? reply = some (.ended (.ok ())) := by
    unfold advance at hended
    split at hended
    · next phase hphase =>
      rw [hphase]
      cases phase <;> simp_all [enter, outcome?]
    · simp [hopen] at hended
  unfold nextPhase? at hnext
  split at hnext
  · next hphase => exact Or.inl ⟨hphase, rfl⟩
  · exact absurd (Option.some.inj hnext) load.absentPhase_ne
  · -- an outage is taken for an absent table, and any other fault ends the load badly
    split at hnext
    · exact absurd (Option.some.inj hnext) load.absentPhase_ne
    · simp at hnext
  · simp at hnext
  · exact absurd (Option.some.inj hnext) (load.failedPhase_ne _)
  · simp at hnext
  · exact absurd (Option.some.inj hnext) (load.failedPhase_ne _)
  · exact absurd (Option.some.inj hnext) (load.failedPhase_ne _)
  · next data done hphase => exact Or.inr ⟨data, done, hphase, rfl⟩
  · exact absurd (Option.some.inj hnext) (load.failedPhase_ne _)
  · simp at hnext

namespace Loader

/-- An engine whose probes find a table only if it exists, whose successful imports leave a table
behind, and whose tables go only while a load drops them. -/
structure Sound (loader : Loader) (before : Catalog) (event : Event) (after : Catalog) : Prop where
  probes : ∀ position load, event = .reply position (.probed (.ok true)) →
    loader.loads[position]? = some load → load.phase = .probing → load.table ∈ before
  imports : ∀ table ∈ loader.imported event, table ∈ after
  drops : ∀ table ∈ before, table ∉ after → ∃ load ∈ loader.loads, load.request? = some (.drop table)

/-- While a table is loaded, every load of it has ended. -/
theorem ended_of_loaded {events : List Event} {table : String}
    (h : table ∈ (reached events).loaded) :
    ∀ load ∈ (reached events).loads, load.table = table → load.outcome?.isSome := by
  induction events using List.reverseRecOn with
  | nil => simp [reached, run, empty] at h
  | append_singleton events event ih =>
    rw [reached_append] at h ⊢
    intro next hmember htable
    obtain ⟨position, hnext⟩ := List.mem_iff_getElem?.mp hmember
    have hloaded := (mem_loaded_step (reached events) event table).mp h
    rcases loads_step_cases hnext with ⟨load, hload, rfl⟩ | ⟨dataset, hbegins, -, rfl⟩
    · rw [Load.table_after] at htable
      cases houtcome : load.outcome? with
      | some outcome => simp [Load.after_of_ended houtcome, houtcome]
      | none =>
        rcases hloaded with ⟨other, ending, ended, hending, hended, htables, hopen, hwell⟩ | ⟨hold, -⟩
        · obtain rfl : other = position :=
            eq_of_open hending hload (htables.trans htable.symm) hopen houtcome
          cases hnext.symm.trans hended
          simp [hwell]
        · have hstill := ih hold load (List.mem_of_getElem? hload) htable
          simp [houtcome] at hstill
    · obtain ⟨rfl, hnew, -⟩ := hbegins
      rcases hloaded with hcompletes | ⟨hold, -⟩
      · obtain ⟨position, reply, load, hevent, -⟩ := completes_iff.mp hcompletes
        cases hevent
      · subst htable
        exact absurd hold hnew

/-- With a sound engine every loaded table exists. -/
theorem exists_of_loaded {initial tables : Catalog} {events : List Event} {table : String}
    (hunfolds : Unfolds Sound initial events tables) (h : table ∈ (reached events).loaded) :
    table ∈ tables := by
  induction hunfolds with
  | start => simp [reached, run, empty] at h
  | @next events before after event _ hrule ih =>
    -- A table that is there stays there unless an open load of it drops it.
    have hstays : table ∈ before → (∀ load ∈ (reached events).loads,
        load.table = table → load.request? ≠ some (.drop table)) → table ∈ after := by
      intro hthere hundropped
      by_contra hgone
      obtain ⟨load, hmember, hdrop⟩ := hrule.drops table hthere hgone
      exact hundropped load hmember (Load.table_of_drop hdrop).1 hdrop
    rw [reached_append, mem_loaded_step] at h
    rcases h with hcompletes | ⟨hold, -⟩
    · obtain ⟨position, reply, load, rfl, hload, htable, hopen, hended⟩ := completes_iff.mp hcompletes
      rcases Load.ends_well_cases hopen hended with ⟨hphase, rfl⟩ | ⟨data, done, hphase, rfl⟩
      · subst htable
        apply hstays (hrule.probes position load rfl hload hphase)
        intro other hmember htables hdrop
        obtain ⟨found, hfound⟩ := List.mem_iff_getElem?.mp hmember
        obtain rfl := eq_of_open hfound hload htables (Load.outcome?_of_request hdrop) hopen
        cases hload.symm.trans hfound
        simp [Load.request?, Load.requestIn, hphase] at hdrop
      · apply hrule.imports
        simp [imported, hload, hphase, htable]
    · apply hstays (ih hold)
      intro load hmember htable hdrop
      have hended := ended_of_loaded hold load hmember htable
      simp [Load.outcome?_of_request hdrop] at hended

/-- The loaded tables are known exactly. After any events a table is loaded if and only if a load of it
has ended well and neither an invalidation of its dataset nor one of all tables came after that. While
it is loaded, every load of it that was ever begun has ended; and with a sound engine it exists. -/
theorem loaded_iff_and_sound (events : List Event) (table : String) :
    (table ∈ (reached events).loaded ↔ Since (Completes table) (Forgets table) events) ∧
    (table ∈ (reached events).loaded →
      ∀ load ∈ (reached events).loads, load.table = table → load.outcome?.isSome) ∧
    (∀ initial tables, Unfolds Sound initial events tables → table ∈ (reached events).loaded →
      table ∈ tables) := by
  refine ⟨?_, ended_of_loaded, fun initial tables => exists_of_loaded⟩
  induction events using List.reverseRecOn with
  | nil => simp [not_since_nil, reached, run, empty]
  | append_singleton events event ih =>
    rw [reached_append, mem_loaded_step, since_append, ih]

/-- An event that is neither a probe that finds a table nor a successful import is sound when the
catalog stays as it is. -/
theorem sound_of_still {loader : Loader} {event : Event} (tables : Catalog)
    (hprobe : ∀ position, event ≠ .reply position (.probed (.ok true)))
    (himport : loader.imported event = []) : Sound loader tables event tables := by
  refine ⟨?_, by simp [himport], ?_⟩
  · intro position load hevent
    exact absurd hevent (hprobe position)
  · intro table hthere hgone
    exact absurd hthere hgone

/-- The table is there from the first, but the probe misses it, so it is dropped and imported anew. -/
theorem sound_sharedLoad : Unfolds Sound ["df_a"] sharedLoad ["df_a"] := by
  have joined := @Unfolds.next Sound ["df_a"] _ _ ["df_a"] (.ensure sampleDataset) .start
    (sound_of_still _ (by simp) rfl)
  have shared := @Unfolds.next Sound ["df_a"] _ _ ["df_a"] (.ensure sampleDataset) joined
    (sound_of_still _ (by simp) rfl)
  have started := @Unfolds.next Sound ["df_a"] _ _ ["df_a"] (.start 0) shared
    (sound_of_still _ (by simp) rfl)
  have missed := @Unfolds.next Sound ["df_a"] _ _ ["df_a"] (.reply 0 (.probed (.ok false))) started
    (sound_of_still _ (by simp) rfl)
  have cancelled := @Unfolds.next Sound ["df_a"] _ _ ["df_a"] (.cancel 0) missed
    (sound_of_still _ (by simp) rfl)
  have dropped := @Unfolds.next Sound ["df_a"] _ _ [] (.reply 0 (.dropped (.ok ()))) cancelled <| by
    refine ⟨by simp, by decide +kernel, ?_⟩
    intro table hthere _
    obtain rfl : table = "df_a" := by simpa using hthere
    exact ⟨⟨sampleDataset, .dropping, _⟩, List.mem_singleton.mpr rfl, rfl⟩
  have fetched := @Unfolds.next Sound ["df_a"] _ _ [] (.reply 0 (.fetched (.ok (some [])))) dropped
    (sound_of_still _ (by simp) rfl)
  have imported := @Unfolds.next Sound ["df_a"] _ _ ["df_a"] (.reply 0 (.imported (.ok ()))) fetched
    ⟨by simp, by decide +kernel, by simp⟩
  have retired := @Unfolds.next Sound ["df_a"] _ _ ["df_a"] (.retire 0) imported
    (sound_of_still _ (by simp) rfl)
  exact @Unfolds.next Sound ["df_a"] _ _ ["df_a"] (.resume 1) retired
    (sound_of_still _ (by simp) rfl)

/-- The table of a load that ended well is loaded and exists, until it is invalidated. -/
theorem loaded_iff_and_sound_sharedLoad :
    Since (Completes "df_a") (Forgets "df_a") sharedLoad ∧
      ¬ Since (Completes "df_a") (Forgets "df_a") (sharedLoad ++ [.invalidate "a"]) ∧
      Unfolds Sound ["df_a"] sharedLoad ["df_a"] ∧ "df_a" ∈ (reached sharedLoad).loaded ∧
      "df_a" ∈ ["df_a"] := by
  have hloaded : "df_a" ∈ (reached sharedLoad).loaded := by decide +kernel
  have hforgotten : "df_a" ∉ (reached (sharedLoad ++ [.invalidate "a"])).loaded := by decide +kernel
  refine ⟨(loaded_iff_and_sound sharedLoad "df_a").1.mp hloaded, ?_, sound_sharedLoad, hloaded, ?_⟩
  · intro hsince
    exact hforgotten ((loaded_iff_and_sound (sharedLoad ++ [.invalidate "a"]) "df_a").1.mpr hsince)
  · exact (loaded_iff_and_sound sharedLoad "df_a").2.2 ["df_a"] ["df_a"] sound_sharedLoad hloaded

end Loader
end Insights
