import Mathlib.Data.List.Forall2
import Insights.Value.Cell

/-!
How a computation that may fail succeeds: each of its steps does, with the results that it was made from.
-/

namespace Insights

variable {ε α β γ : Type}

theorem bind_eq_ok {x : Except ε α} {f : α → Except ε β} {b : β} :
    x >>= f = .ok b ↔ ∃ a, x = .ok a ∧ f a = .ok b := by
  cases x with
  | error e => simp [bind, Except.bind]
  | ok a => simp [bind, Except.bind]

theorem map_eq_ok {x : Except ε α} {f : α → β} {b : β} :
    x.map f = .ok b ↔ ∃ a, x = .ok a ∧ f a = b := by
  cases x with
  | error e => simp [Except.map]
  | ok a => simp [Except.map]

theorem fmap_eq_ok {x : Except ε α} {f : α → β} {b : β} :
    f <$> x = .ok b ↔ ∃ a, x = .ok a ∧ f a = b :=
  map_eq_ok

theorem pure_eq_ok {a b : α} : (pure a : Except ε α) = .ok b ↔ a = b := by
  simp [pure, Except.pure]

theorem orFault_eq_ok {fault : Fault} {x : Option α} {a : α} : orFault fault x = .ok a ↔ x = some a := by
  cases x <;> simp [orFault]

theorem eq_of_writable {n m : Int} (h : writable n = .ok m) : m = n := by
  unfold writable at h
  split at h
  · exact (Except.ok.inj h).symm
  · cases h

theorem eq_of_written {value written : Value} (h : value.written = .ok written) : written = value := by
  unfold Value.written at h
  split at h
  · exact (Except.ok.inj h).symm
  · cases h

theorem forall₂_of_mapM {f : α → Except ε β} {items : List α} {results : List β}
    (h : items.mapM f = .ok results) : List.Forall₂ (fun a b => f a = .ok b) items results := by
  induction items generalizing results with
  | nil =>
    rw [List.mapM_nil, pure_eq_ok] at h
    subst h
    exact .nil
  | cons item rest ih =>
    rw [List.mapM_cons, bind_eq_ok] at h
    obtain ⟨first, hfirst, h⟩ := h
    rw [bind_eq_ok] at h
    obtain ⟨others, hothers, h⟩ := h
    rw [pure_eq_ok] at h
    subst h
    exact .cons hfirst (ih hothers)

theorem mapM_of_forall₂ {f : α → Except ε β} {items : List α} {results : List β}
    (h : List.Forall₂ (fun a b => f a = .ok b) items results) : items.mapM f = .ok results := by
  induction h with
  | nil => rfl
  | cons hfirst _ ih =>
    rw [List.mapM_cons, hfirst, ih]
    rfl

theorem mapM_eq_map {f : α → Except ε β} {g : α → β} {items : List α} (h : ∀ a ∈ items, f a = .ok (g a)) :
    items.mapM f = .ok (items.map g) := by
  induction items with
  | nil => rfl
  | cons item rest ih =>
    rw [List.forall_mem_cons] at h
    obtain ⟨hfirst, hrest⟩ := h
    rw [List.mapM_cons, hfirst, ih hrest]
    rfl

/-- What two views agree on for all items that are related, they agree on for whole lists. -/
theorem map_eq_map_of_forall₂ {R : α → β → Prop} {items : List α} {items' : List β}
    (h : List.Forall₂ R items items') {view : α → γ} {view' : β → γ}
    (hview : ∀ a b, R a b → view' b = view a) : items'.map view' = items.map view := by
  induction h with
  | nil => rfl
  | cons hfirst _ ih => rw [List.map_cons, List.map_cons, ih, hview _ _ hfirst]

/-- What related items have from items for which something holds holds for all of them. -/
theorem forall_of_forall₂ {R : α → β → Prop} {items : List α} {items' : List β} (h : List.Forall₂ R items items')
    {P : α → Prop} {Q : β → Prop} (hQ : ∀ b ∈ items', Q b) (hP : ∀ a b, R a b → Q b → P a) :
    ∀ a ∈ items, P a := by
  induction h with
  | nil => simp
  | cons hfirst _ ih =>
    rw [List.forall_mem_cons] at hQ ⊢
    exact ⟨hP _ _ hfirst hQ.1, ih hQ.2⟩

theorem map_eq_map_of_mapM {f : α → Except ε β} {items : List α} {results : List β}
    (h : items.mapM f = .ok results) {view : α → γ} {view' : β → γ}
    (hview : ∀ a b, f a = .ok b → view' b = view a) : results.map view' = items.map view :=
  map_eq_map_of_forall₂ (forall₂_of_mapM h) hview

/-- Computations that are the same for related items are the same for whole lists. -/
theorem mapM_eq_mapM_of_forall₂ {R : α → β → Prop} {items : List α} {items' : List β}
    (h : List.Forall₂ R items items') {f : α → Except ε γ} {f' : β → Except ε γ}
    (hf : ∀ a b, R a b → f' b = f a) : items'.mapM f' = items.mapM f := by
  induction h with
  | nil => rfl
  | cons hfirst _ ih => rw [List.mapM_cons, List.mapM_cons, ih, hf _ _ hfirst]

theorem forall_of_mapM {f : α → Except ε β} {items : List α} {results : List β}
    (h : items.mapM f = .ok results) {P : β → Prop} (hP : ∀ a b, f a = .ok b → P b) :
    ∀ b ∈ results, P b := by
  have hall := forall₂_of_mapM h
  clear h
  induction hall with
  | nil => simp
  | cons hfirst _ ih => exact List.forall_mem_cons.mpr ⟨hP _ _ hfirst, ih⟩

/-- What holds of the results of single items holds of a list of results when it holds of its items. -/
theorem forall_iff_of_mapM {f : α → Except ε β} {items : List α} {results : List β}
    (h : items.mapM f = .ok results) {P : α → Prop} {Q : β → Prop}
    (hiff : ∀ a b, f a = .ok b → (Q b ↔ P a)) : (∀ b ∈ results, Q b) ↔ ∀ a ∈ items, P a := by
  have hall := forall₂_of_mapM h
  clear h
  induction hall with
  | nil => simp
  | cons hfirst _ ih =>
    rw [List.forall_mem_cons, List.forall_mem_cons]
    exact and_congr (hiff _ _ hfirst) ih

theorem getElem?_of_mapM {f : α → Except ε β} {items : List α} {results : List β}
    (h : items.mapM f = .ok results) {position : Nat} {a : α} (ha : items[position]? = some a) :
    ∃ b, results[position]? = some b ∧ f a = .ok b := by
  have hall := forall₂_of_mapM h
  clear h
  induction hall generalizing position with
  | nil => simp at ha
  | cons hfirst _ ih =>
    cases position with
    | zero =>
      obtain rfl : _ = a := by simpa using ha
      exact ⟨_, rfl, hfirst⟩
    | succ position => exact ih ha

theorem mapM_eq_some {f : α → Option β} {items : List α} {results : List β} :
    items.mapM f = some results ↔ List.Forall₂ (fun a b => f a = some b) items results := by
  induction items generalizing results with
  | nil => simp [eq_comm]
  | cons item rest ih =>
    rw [List.mapM_cons, List.forall₂_cons_left_iff]
    simp only [Option.bind_eq_bind, Option.bind_eq_some_iff, Option.pure_def, Option.some.injEq, ih]
    constructor
    · rintro ⟨first, hfirst, others, hothers, rfl⟩
      exact ⟨first, others, hfirst, hothers, rfl⟩
    · rintro ⟨first, others, hfirst, hothers, rfl⟩
      exact ⟨first, hfirst, others, hothers, rfl⟩

theorem isSome_mapM (f : α → Option β) (items : List α) :
    (items.mapM f).isSome = items.all fun a => (f a).isSome := by
  induction items with
  | nil => rfl
  | cons item rest ih =>
    rw [List.mapM_cons, List.all_cons, ← ih]
    cases f item <;> cases rest.mapM f <;> rfl

/-- A list of computations succeeds when each of them does. -/
theorem exists_mapM_iff {f : α → Except ε β} {items : List α} :
    (∃ results, items.mapM f = .ok results) ↔ ∀ a ∈ items, ∃ b, f a = .ok b := by
  induction items with
  | nil => simp [pure_eq_ok]
  | cons item rest ih =>
    rw [List.forall_mem_cons, ← ih, List.mapM_cons]
    simp only [bind_eq_ok, pure_eq_ok]
    constructor
    · rintro ⟨results, first, hfirst, others, hothers, -⟩
      exact ⟨⟨first, hfirst⟩, others, hothers⟩
    · rintro ⟨⟨first, hfirst⟩, others, hothers⟩
      exact ⟨first :: others, first, hfirst, others, hothers, rfl⟩

/-- The first computation that fails decides the fault. -/
theorem mapM_eq_error {f : α → Except ε β} {before : List α} {a : α} {e : ε}
    (hbefore : ∀ b ∈ before, ∃ c, f b = .ok c) (h : f a = .error e) (after : List α) :
    (before ++ a :: after).mapM f = .error e := by
  induction before with
  | nil =>
    rw [List.nil_append, List.mapM_cons, h]
    rfl
  | cons first rest ih =>
    rw [List.forall_mem_cons] at hbefore
    obtain ⟨⟨c, hc⟩, hrest⟩ := hbefore
    rw [List.cons_append, List.mapM_cons, hc, ih hrest]
    rfl

/-- A second list of computations that goes along with a first one step by step: it succeeds when the
first does, and with the same results when each step has the same result. -/
theorem mapM_along {α' : Type} {f : α → Except ε β} {g : α' → Except ε β} {items : List α}
    {items' : List α'} {R : β → β → Prop} {same : α → Prop}
    (h : List.Forall₂ (fun a a' => ∀ b, f a = .ok b → ∃ b', g a' = .ok b' ∧ R b b' ∧ (b' = b ↔ same a))
      items items') {results : List β} (hresults : items.mapM f = .ok results) :
    ∃ results', items'.mapM g = .ok results' ∧ List.Forall₂ R results results' ∧
      (results' = results ↔ ∀ a ∈ items, same a) := by
  induction h generalizing results with
  | nil =>
    rw [List.mapM_nil, pure_eq_ok] at hresults
    subst hresults
    exact ⟨[], rfl, .nil, by simp⟩
  | cons hfirst _ ih =>
    rw [List.mapM_cons, bind_eq_ok] at hresults
    obtain ⟨first, hf, hresults⟩ := hresults
    obtain ⟨others, hothers, hresults⟩ := bind_eq_ok.mp hresults
    rw [pure_eq_ok] at hresults
    subst hresults
    obtain ⟨first', hg, hR, hsame⟩ := hfirst first hf
    obtain ⟨others', hg', hall, hsames⟩ := ih hothers
    refine ⟨first' :: others', ?_, .cons hR hall, ?_⟩
    · rw [List.mapM_cons, hg, bind_eq_ok]
      exact ⟨first', rfl, bind_eq_ok.mpr ⟨others', hg', rfl⟩⟩
    · rw [List.cons.injEq, hsame, hsames, List.forall_mem_cons]

end Insights
