import Insights.Proofs.Decode.Checked
import Insights.Session.Builder

/-!
What is accepted as settings. Settings that are accepted are what they were checked for: their path is in
normal form and their previews show at least one row. So they are accepted again as they are, whatever the
environment says, and a preview for which no number is given always has a limit.
-/

namespace Insights

/-! ### The normal form of a path -/

namespace Path

variable {path part : List Char}

theorem parts_eq_splitOn (separator : Char) (path : List Char) :
    parts separator path = path.splitOn separator := by
  induction path with
  | nil => rfl
  | cons c rest ih =>
    rw [parts, ih, List.splitOn_cons_eq_if_modifyHead]
    by_cases hc : c = separator
    · simp [hc]
    · simp only [hc, if_false, beq_iff_eq]
      cases hrest : rest.splitOn separator with
      | nil => exact absurd hrest (List.splitOn_ne_nil separator rest)
      | cons part others => rfl

theorem not_mem_parts : ∀ part ∈ parts '/' path, '/' ∉ part := by
  induction path with
  | nil => simp [parts]
  | cons c rest ih =>
    rw [parts]
    split
    · simpa using ih
    next hc =>
      split
      · simpa using Ne.symm hc
      next part others hrest =>
        rw [hrest, List.forall_mem_cons] at ih
        refine List.forall_mem_cons.mpr ⟨?_, ih.2⟩
        simpa [Ne.symm hc] using ih.1

/-- The parts of a path that its normal form keeps. -/
def kept (path : List Char) : List (List Char) :=
  (parts '/' path).filter fun part => !part.isEmpty && part != ['.']

/-- They are the parts of what they are put together to. -/
theorem kept_intercalate (path : List Char) : kept (['/'].intercalate (kept path)) = kept path := by
  have hkept : (kept path).filter (fun part => !part.isEmpty && part != ['.']) = kept path := by
    simp [kept, List.filter_filter]
  by_cases hnone : kept path = []
  · rw [hnone]
    rfl
  have hparts : parts '/' (['/'].intercalate (kept path)) = kept path := by
    rw [parts_eq_splitOn]
    exact List.splitOn_intercalate '/' (fun part hpart => not_mem_parts part (List.mem_filter.mp hpart).1) hnone
  rw [kept, hparts, hkept]

/-- What they are put together to begins with no separator. -/
theorem takeWhile_intercalate (path : List Char) :
    (['/'].intercalate (kept path)).takeWhile (· = '/') = [] := by
  cases hkept : kept path with
  | nil => rfl
  | cons first rest =>
    obtain ⟨hmember, hfirst⟩ : first ∈ parts '/' path ∧ (!first.isEmpty && first != ['.']) = true :=
      List.mem_filter.mp (hkept ▸ List.mem_cons_self : first ∈ kept path)
    cases first with
    | nil => simp at hfirst
    | cons c others =>
      have hc : c ≠ '/' := fun hc => not_mem_parts _ hmember (hc ▸ List.mem_cons_self)
      cases rest with
      | nil => simp [hc]
      | cons next rest => simp [List.intercalate_cons_cons, hc]

theorem root_cases (path : List Char) : root path = [] ∨ root path = ['/'] ∨ root path = ['/', '/'] := by
  unfold root
  split
  · exact .inl rfl
  · exact .inr (.inr rfl)
  · exact .inr (.inl rfl)

theorem kept_separator (path : List Char) : kept ('/' :: path) = kept path := by
  simp [kept, parts]

theorem normal_of_ne_nil (h : root path ++ ['/'].intercalate (kept path) ≠ []) :
    normal path = root path ++ ['/'].intercalate (kept path) := by
  rw [normal]
  split
  next hnil => exact absurd hnil h
  · rfl

/-- The normal form of a path is its own normal form. -/
theorem normal_normal (path : List Char) : normal (normal path) = normal path := by
  by_cases hnil : root path ++ ['/'].intercalate (kept path) = []
  · have hdot : normal path = ['.'] := by
      rw [normal]
      split
      · rfl
      next hne => exact absurd hnil hne
    rw [hdot]
    rfl
  have hbody := takeWhile_intercalate path
  have hsame : root (normal path) = root path ∧ kept (normal path) = kept path := by
    rw [normal_of_ne_nil hnil]
    rcases root_cases path with hroot | hroot | hroot <;> rw [hroot]
    · exact ⟨by simp [root, hbody], kept_intercalate path⟩
    · exact ⟨by simp [root, hbody], (kept_separator _).trans (kept_intercalate path)⟩
    · exact ⟨by simp [root, hbody],
        ((kept_separator _).trans (kept_separator _)).trans (kept_intercalate path)⟩
  have hagain : root (normal path) ++ ['/'].intercalate (kept (normal path)) ≠ [] := by
    rwa [hsame.1, hsame.2]
  rw [normal_of_ne_nil hagain, hsame.1, hsame.2, normal_of_ne_nil hnil]

end Path

/-! ### Settings -/

namespace Settings

variable {settings : Settings} {given environment : Fields Value}

/-- What settings that are accepted were checked for. -/
structure Wellformed (settings : Settings) : Prop where
  storageDir : Path.normal settings.storageDir.toList = settings.storageDir.toList
  previewRows : 1 ≤ settings.previewRows

theorem wellformed_defaults : defaults.Wellformed where
  storageDir := by decide
  previewRows := by decide

/-- A setting is its default, or what some value was accepted as. -/
theorem setting_accepted {α : Type} {name : String} {default a : α} {check : Value → Checked α}
    (h : setting given environment name default check = .accepted a) :
    a = default ∨ ∃ value, check value = .accepted a := by
  unfold setting at h
  split at h
  next value _ => exact .inr ⟨value, Checked.under_accepted.mp h⟩
  · exact .inl (Checked.accepted.inj h).symm

/-- A value that is given counts. -/
theorem setting_given {α : Type} {name : String} {default a : α} {check : Value → Checked α} {value : Value}
    (hgiven : given.lookup name = some value) (hcheck : check value = .accepted a) :
    setting given environment name default check = .accepted a := by
  have hvalue : value? given environment name = some value := by
    rw [value?, hgiven]
    rfl
  rw [setting, hvalue]
  exact Checked.under_accepted.mpr hcheck

theorem normal_of_checkPath {value : Value} {dir : String} (h : checkPath value = .accepted dir) :
    Path.normal dir.toList = dir.toList := by
  unfold checkPath at h
  split at h
  · cases h
    rw [String.toList_ofList, Path.normal_normal]
  · cases h

theorem positive_of_checkRows {value : Value} {rows : Int} (h : checkRows value = .accepted rows) :
    1 ≤ rows := by
  unfold checkRows at h
  cases hvalue : Check.integer value with
  | refused issues =>
    rw [hvalue] at h
    cases h
  | accepted n =>
    rw [hvalue, Checked.andThen] at h
    split at h
    next hpositive =>
      cases h
      exact hpositive
    · cases h

theorem wellformed_of_check (h : check given environment = .accepted settings) : settings.Wellformed := by
  obtain ⟨_, rows, hlevel, hrows, rfl⟩ := Checked.seq_accepted h
  obtain ⟨_, level, hdatabase, -, rfl⟩ := Checked.seq_accepted hlevel
  obtain ⟨_, database, hfirst, -, rfl⟩ := Checked.seq_accepted hdatabase
  obtain ⟨dir, hdir, rfl⟩ := Checked.map_accepted hfirst
  constructor
  · rcases setting_accepted hdir with rfl | ⟨value, hvalue⟩
    · exact wellformed_defaults.storageDir
    · exact normal_of_checkPath hvalue
  · rcases setting_accepted hrows with rfl | ⟨value, hvalue⟩
    · exact wellformed_defaults.previewRows
    · exact positive_of_checkRows hvalue

/-- Settings as values that are given. -/
def asGiven (settings : Settings) : Fields Value :=
  [(storageDirName, .text settings.storageDir), (databasePathName, .text settings.databasePath),
    (logLevelName, .text settings.logLevel), (previewRowsName, .integer settings.previewRows)]

/-- Settings that are accepted are accepted again as they are, whatever the environment says. -/
theorem check_asGiven (h : check given environment = .accepted settings) (environment : Fields Value) :
    check settings.asGiven environment = .accepted settings := by
  obtain ⟨hdir, hrows⟩ := wellformed_of_check h
  have hpath : checkPath (.text settings.storageDir) = .accepted settings.storageDir := by
    rw [checkPath, hdir, String.ofList_toList]
  have hcount : checkRows (.integer settings.previewRows) = .accepted settings.previewRows :=
    if_pos hrows
  refine Checked.seq_eq (Checked.seq_eq (Checked.seq_eq (Checked.map_eq ?_) ?_) ?_) ?_
  · exact setting_given rfl hpath
  · exact setting_given rfl rfl
  · exact setting_given rfl rfl
  · exact setting_given rfl hcount

end Settings

/-- A preview for which no number is given is limited to the rows of the settings, at least one. -/
theorem Builder.plan_previewed {settings : Settings} {given environment : Fields Value}
    (h : Settings.check given environment = .accepted settings) (builder : Builder) :
    ∃ n : Int, 1 ≤ n ∧
      (builder.previewed settings .null).plan = { builder.plan with limit := some (.integer n) } := by
  refine ⟨settings.previewRows, (Settings.wellformed_of_check h).previewRows, ?_⟩
  rw [plan, previewed, add, Plan.ofOperations, List.foldl_append]
  rfl

end Insights
