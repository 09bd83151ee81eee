import Insights.Proofs.Session.Pursuit
import Insights.Proofs.Session.Statement

/-!
Tables that are probed anew. When a table that is idle is asked for, a load of it begins, and the first thing
that the engine hears about the table is its probe. This holds of loading one dataset or several at once,
and it is kept when actions that load datasets follow one another.
-/

namespace Insights

namespace Loader

variable {past events : List Event} {table : String} {datasets : List Dataset}

theorem loads_run_ensure {loader : Loader} {position : Nat} {load : Load}
    (h : loader.loads[position]? = some load) (datasets : List Dataset) :
    (loader.run (datasets.map .ensure)).loads[position]? = some load := by
  induction datasets generalizing loader with
  | nil => exact h
  | cons dataset rest ih => exact ih (loads_step h (.ensure dataset))

/-- Where an idle table is asked for among others, a load of it begins behind all its open loads. -/
theorem begun_of_asked (hidle : Idle table (reached past))
    (hasked : ∃ dataset ∈ datasets, dataset.table = table) :
    ∃ (position : Nat) (load : Load),
      (reached (past ++ datasets.map .ensure)).loads[position]? = some load ∧
      load.phase = .begun ∧ load.table = table ∧
      ∀ other < position, ∀ found : Load, (reached (past ++ datasets.map .ensure)).loads[other]? = some found →
        found.outcome? = none → found.table ≠ table := by
  induction datasets generalizing past with
  | nil => simp at hasked
  | cons dataset rest ih =>
    have hsplit : past ++ (dataset :: rest).map .ensure = past ++ [.ensure dataset] ++ rest.map .ensure :=
      List.append_cons past (.ensure dataset) (rest.map .ensure)
    by_cases htable : dataset.table = table
    · have hidle' : Idle dataset.table (reached past) := htable ▸ hidle
      have hnew : (reached (past ++ [.ensure dataset])).loads[(reached past).loads.length]? =
          some (.ofDataset dataset) := by
        rw [reached_append]
        exact load_of_begins hidle'.ensure.1
      refine ⟨(reached past).loads.length, .ofDataset dataset, ?_, rfl, htable, ?_⟩
      · rw [hsplit, ← run_reached]
        exact loads_run_ensure hnew rest
      · intro other hlt found hfound hopen hsame
        exact absurd (le_of_open hidle hfound hsame hopen) (Nat.not_le.mpr hlt)
    · rw [hsplit]
      refine ih (hidle.along fun other hother => ?_) ?_
      · obtain rfl : other = dataset := by simpa using hother
        exact htable
      · obtain ⟨other, hother, hsame⟩ := hasked
        rcases List.mem_cons.mp hother with rfl | hlater
        · exact absurd hsame htable
        · exact ⟨other, hlater, hsame⟩

end Loader

namespace Session

variable {σ : Type} {table : String} {sent : List EngineCall} {loader position : Nat}
  {before middle after session : Session σ} {datasets asked : List Dataset}

/-- Between the two sessions loads called the engine, and then something was sent to it. The first that it
heard about the table was a probe. -/
def Reprobes (table : String) (sent : List EngineCall) (before after : Session σ) : Prop :=
  ∃ early late : List Request, (∀ request ∈ early, ¬ request.Names table) ∧
    after.engine.calls = before.engine.calls ++
      ((early ++ .probe table :: late).filterMap Request.call? ++ sent)

/-- Between the two sessions loads called the engine, but not about the table, and then something was sent
to it. -/
def Ignores (table : String) (sent : List EngineCall) (before after : Session σ) : Prop :=
  ∃ requests : List Request, (∀ request ∈ requests, ¬ request.Names table) ∧
    after.engine.calls = before.engine.calls ++ (requests.filterMap Request.call? ++ sent)

theorem Works.ignores (h : Works (· = table) before after) : Ignores table [] before after := by
  obtain ⟨requests, hnames, hcalls⟩ := h.calls
  refine ⟨requests, fun request hrequest hnamed => hnames request hrequest table hnamed rfl, ?_⟩
  rw [hcalls, List.append_nil]

/-- Work on other tables may come before. -/
theorem Works.reprobes (h : Works (· = table) before middle) (h' : Reprobes table sent middle after) :
    Reprobes table sent before after := by
  obtain ⟨requests, hnames, hmiddle⟩ := h.calls
  obtain ⟨early, late, hearly, hafter⟩ := h'
  refine ⟨requests ++ early, late, ?_, ?_⟩
  · intro request hrequest hnamed
    rcases List.mem_append.mp hrequest with hmember | hmember
    · exact hnames request hmember table hnamed rfl
    · exact hearly request hmember hnamed
  · rw [hafter, hmiddle]
    simp only [List.filterMap_append, List.append_assoc]

/-- Any work may come behind. -/
theorem Reprobes.works {spared : String → Prop} (h : Reprobes table [] before middle)
    (h' : Works spared middle after) : Reprobes table [] before after := by
  obtain ⟨early, late, hearly, hmiddle⟩ := h
  obtain ⟨requests, -, hafter⟩ := h'.calls
  refine ⟨early, late ++ requests, hearly, ?_⟩
  rw [hafter, hmiddle, List.append_nil, List.append_nil, List.append_assoc, ← List.filterMap_append,
    List.append_assoc, List.cons_append]

theorem Reprobes.sends (h : Reprobes table [] before middle)
    (hsent : after.engine.calls = middle.engine.calls ++ sent) : Reprobes table sent before after := by
  obtain ⟨early, late, hearly, hmiddle⟩ := h
  refine ⟨early, late, hearly, ?_⟩
  rw [hsent, hmiddle, List.append_nil, List.append_assoc]

theorem Ignores.sends (h : Ignores table [] before middle)
    (hsent : after.engine.calls = middle.engine.calls ++ sent) : Ignores table sent before after := by
  obtain ⟨requests, hnames, hmiddle⟩ := h
  refine ⟨requests, hnames, ?_⟩
  rw [hsent, hmiddle, List.append_nil, List.append_assoc]

variable [ByteStore σ]

/-- Taking a load that has begun as far as it goes probes its table at once. -/
theorem reprobes_pursueLoad {load : Load} (hload : session.load? loader position = some load)
    (hphase : load.phase = .begun) :
    Reprobes load.table [] session (session.pursueLoad loader position) := by
  have hbegun : Stage loader position session load [] session :=
    ⟨hload, (List.append_nil _).symm, works_self session⟩
  have hpursued : session.pursueLoad loader position = session.pursue loader position 5 := by
    simp only [pursueLoad, hload, hphase]
    rfl
  have hstart : load.start = load.enter .probing := by
    rw [Load.start, hphase]
  obtain ⟨first, hfirst, hprobing, -⟩ := hbegun.begin hphase hstart 4
  have hprobed : Reprobes load.table [] session first :=
    ⟨[], [], by simp, by rw [hprobing.calls]; rfl⟩
  have hrest : Works (fun _ => False) first (first.pursue loader position 4) :=
    works_pursue (fun _ _ _ _ _ => id) (Nat.lt_succ_self position) 4
  rw [hpursued, hfirst]
  exact hprobed.works hrest

/-- So does taking all loads as far as they go, if no open load of the table comes before. -/
theorem reprobes_settle {load : Load} (hload : session.load? loader position = some load)
    (hphase : load.phase = .begun) (hallows : Allows (· = load.table) loader position session) :
    Reprobes load.table [] session (session.settle loader) := by
  obtain ⟨bound, hbound⟩ : ∃ bound, (session.loaders loader).loads.length = bound := ⟨_, rfl⟩
  have hlt : position < bound := hbound ▸ (List.getElem?_eq_some_iff.mp hload).1
  obtain ⟨early, late, hsplit⟩ := List.append_of_mem (List.mem_range.mpr hlt)
  have hordered : (early ++ position :: late).Pairwise (· < ·) := hsplit ▸ List.pairwise_lt_range
  have hearly : ∀ other ∈ early, other < position := fun other hother =>
    (List.pairwise_append.mp hordered).2.2 other hother position List.mem_cons_self
  have hlate : ∀ other ∈ late, other < bound := fun other hother => by
    rw [← List.mem_range, hsplit]
    exact List.mem_append_right _ (List.mem_cons_of_mem _ hother)
  have hkept := (untouched_of_pursued session loader fun hmember =>
    Nat.lt_irrefl position (hearly position hmember)).1
  have hprobed := reprobes_pursueLoad (hkept.trans hload) hphase
  have hrest : ∀ session : Session σ, Works (fun _ => False) session
      (late.foldl (fun s position => s.pursueLoad loader position) session) :=
    fun session => works_pursueLoads (fun _ _ _ _ _ => id) hlate
  have hheard : ∀ session : Session σ, ∀ events,
      Works (fun _ => False) session (session.applyAll loader events) :=
    fun session => works_applyAll session loader
  rw [settle_eq, pursued, hbound, hsplit, List.foldl_append, List.foldl_cons]
  exact (works_pursueLoads hallows hearly).reprobes ((hprobed.works (hrest _)).works (hheard _ _))

/-- The session after datasets were asked for at once and all loads were taken as far as they go. -/
def askedAll (loader : Nat) (datasets : List Dataset) (session : Session σ) : Session σ :=
  (session.applyAll loader (datasets.map .ensure)).settle loader

/-- Whether an idle table is probed depends on whether it is among the tables that are asked for. -/
theorem idle_askedAll {past : List Event} (hpast : session.loaders loader = Loader.reached past)
    (hidle : Loader.Idle table (Loader.reached past)) (datasets : List Dataset) :
    ((∃ dataset ∈ datasets, dataset.table = table) →
      Reprobes table [] session (session.askedAll loader datasets)) ∧
    ((∀ dataset ∈ datasets, dataset.table ≠ table) →
      Works (· = table) session (session.askedAll loader datasets)) := by
  obtain ⟨asked, hasked⟩ : ∃ asked, session.applyAll loader (datasets.map .ensure) = asked := ⟨_, rfl⟩
  have hloader : asked.loaders loader = Loader.reached (past ++ datasets.map .ensure) := by
    rw [← hasked, loaders_applyAll, hpast, Loader.run_reached]
  have happlied : Works (· = table) session asked := hasked ▸ works_applyAll session loader _
  rw [askedAll, hasked]
  constructor
  · intro hamong
    obtain ⟨position, load, hload, hphase, rfl, hearlier⟩ := Loader.begun_of_asked hidle hamong
    rw [← hloader] at hload hearlier
    exact happlied.reprobes (reprobes_settle hload hphase hearlier)
  · intro hunasked
    have hstill : Loader.Idle table (asked.loaders loader) := by
      rw [hloader]
      refine hidle.along fun dataset hmember => ?_
      obtain ⟨other, hother, hsame⟩ := List.mem_map.mp hmember
      obtain rfl : other = dataset := by simpa using hsame
      exact hunasked other hother
    refine happlied.trans (works_settle fun position _ load hload hopen hsame => ?_)
    subst hsame
    rw [load?, hloader] at hload
    have hinflight := Loader.lookup_of_open hload hopen
    rw [← hloader, hstill.notInflight] at hinflight
    cases hinflight

omit [ByteStore σ] in
/-- A table stays idle as long as nobody asks for it. -/
theorem Advances.idle (h : Advances loader asked before after) {past : List Event}
    (hpast : before.loaders loader = Loader.reached past) (hidle : Loader.Idle table (Loader.reached past))
    (hunasked : ∀ dataset ∈ asked, dataset.table ≠ table) :
    ∃ later, after.loaders loader = Loader.reached later ∧ Loader.Idle table (Loader.reached later) := by
  obtain ⟨events, rfl, hafter, -⟩ := h
  refine ⟨past ++ events, ?_, hidle.along fun dataset hmember => hunasked dataset ?_⟩
  · rw [hafter, hpast, Loader.run_reached]
  · exact List.mem_filterMap.mpr ⟨_, hmember, rfl⟩

end Session

namespace Action

open Session

variable {σ α β : Type} {table : String} {loader : Nat} {first second : List Dataset}

/-- The action asks a loader for datasets in order, for all of them when it succeeds. An idle table is probed
anew by it if it is among the tables that are asked for, and is left alone otherwise. -/
def ProbesAnew (table : String) (loader : Nat) (datasets : List Dataset) (action : Action σ α) : Prop :=
  ∀ session : Session σ, Works (fun _ => False) session (action.run.run session).2 ∧
    ∃ asked, asked <+: datasets ∧ Advances loader asked session (action.run.run session).2 ∧
      (∀ a, (action.run.run session).1 = .ok a → asked = datasets) ∧
      ∀ past, session.loaders loader = Loader.reached past → Loader.Idle table (Loader.reached past) →
        ((∃ dataset ∈ asked, dataset.table = table) →
          Reprobes table [] session (action.run.run session).2) ∧
        ((∀ dataset ∈ asked, dataset.table ≠ table) →
          Works (· = table) session (action.run.run session).2)

theorem ProbesAnew.bind {action : Action σ α} {next : α → Action σ β}
    (haction : ProbesAnew table loader first action) (hnext : ∀ a, ProbesAnew table loader second (next a)) :
    ProbesAnew table loader (first ++ second) (action >>= next) := by
  intro session
  obtain ⟨hworks, asked, hprefix, hadvances, hall, hidle⟩ := haction session
  rw [run_bind]
  rcases hrun : action.run.run session with ⟨result, middle⟩
  rw [hrun] at hworks hadvances hall hidle
  cases result with
  | error fault =>
    exact ⟨hworks, asked, hprefix.trans (List.prefix_append first second), hadvances, by simp, hidle⟩
  | ok a =>
    obtain rfl := hall a rfl
    obtain ⟨hworks', later, hlater, hadvances', hall', hidle'⟩ := hnext a middle
    refine ⟨hworks.trans hworks', asked ++ later, (List.prefix_append_right_inj asked).mpr hlater,
      hadvances.trans hadvances', fun b hb => by rw [hall' b hb], ?_⟩
    intro past hpast hstart
    obtain ⟨hprobed, hspared⟩ := hidle past hpast hstart
    by_cases hamong : ∃ dataset ∈ asked, dataset.table = table
    · refine ⟨fun _ => (hprobed hamong).works hworks', fun hunasked => ?_⟩
      obtain ⟨dataset, hdataset, htable⟩ := hamong
      exact absurd htable (hunasked dataset (List.mem_append_left _ hdataset))
    · -- the table is still idle when the second action begins
      have hunasked : ∀ dataset ∈ asked, dataset.table ≠ table := fun dataset hdataset htable =>
        hamong ⟨dataset, hdataset, htable⟩
      obtain ⟨middlePast, hmiddle, hstill⟩ := hadvances.idle hpast hstart hunasked
      obtain ⟨hprobed', hspared'⟩ := hidle' middlePast hmiddle hstill
      constructor
      · rintro ⟨dataset, hdataset, htable⟩
        rcases List.mem_append.mp hdataset with hearly | hlate
        · exact absurd htable (hunasked dataset hearly)
        · exact (hspared hunasked).reprobes (hprobed' ⟨dataset, hlate, htable⟩)
      · intro hnone
        exact (hspared hunasked).trans
          (hspared' fun dataset hdataset => hnone dataset (List.mem_append_right _ hdataset))

theorem probesAnew_liftM (outcome : Except Fault α) :
    ProbesAnew table loader [] (liftM outcome : Action σ α) := by
  intro session
  refine ⟨works_self session, [], List.prefix_rfl, advances_of_loaders rfl, fun _ _ => rfl, ?_⟩
  exact fun _ _ _ => ⟨by simp, fun _ => works_self session⟩

variable [ByteStore σ]

theorem run_ensureLoaded_askedAll (dataset : Dataset) (session : Session σ) :
    ((ensureLoaded loader dataset).run.run session).2 = session.askedAll loader [dataset] := by
  rw [run_ensureLoaded]
  rfl

theorem probesAnew_ensureLoaded (dataset : Dataset) :
    ProbesAnew table loader [dataset] (ensureLoaded loader dataset : Action σ String) := by
  intro session
  have hworks : Works (fun _ => False) session ((ensureLoaded loader dataset).run.run session).2 := by
    rw [run_ensureLoaded]
    exact (works_apply session loader _).trans (works_settle fun _ _ _ _ _ => id)
  refine ⟨hworks, [dataset], List.prefix_rfl, advances_ensureLoaded loader dataset session,
    fun _ _ => rfl, ?_⟩
  intro past hpast hidle
  rw [run_ensureLoaded_askedAll]
  exact idle_askedAll hpast hidle [dataset]

theorem tracks_probesAnew (table : String) (loader : Nat) :
    @Tracks σ _ loader fun datasets _ action => ProbesAnew table loader datasets action where
  decided := probesAnew_liftM
  loaded := probesAnew_ensureLoaded
  bind := ProbesAnew.bind

end Action
end Insights
