import Insights.Value.Basic

/-!
Named values as a map: what a name is looked up as when a value is put in its place or when a name is
taken out, and the fields of a list without repeated names told by these look-ups.
-/

namespace Insights.Fields

variable {α : Type}

theorem lookup_cons (name first : String) (value : α) (rest : Fields α) :
    List.lookup name ((first, value) :: rest) =
      if name = first then some value else rest.lookup name := by
  by_cases h : name = first
  · simp [h]
  · have hne : (name == first) = false := by simpa using h
    simp [List.lookup_cons, hne, h]

theorem lookup_map {β : Type} (f : α → β) (name : String) (fields : Fields α) :
    List.lookup name (fields.map fun (name, value) => (name, f value)) = (fields.lookup name).map f := by
  induction fields with
  | nil => rfl
  | cons field rest ih =>
    rw [List.map_cons, lookup_cons, lookup_cons, ih]
    split <;> rfl

theorem lookup_put (name other : String) (value : α) (fields : Fields α) :
    (Fields.put name value fields).lookup other =
      if other = name then some value else fields.lookup other := by
  induction fields with
  | nil => simp [Fields.put, lookup_cons]
  | cons field rest ih =>
    obtain ⟨first, kept⟩ := field
    by_cases hfirst : first = name
    · subst hfirst
      by_cases h : other = first <;> simp [Fields.put, lookup_cons, h]
    · simp only [Fields.put, hfirst, if_false, lookup_cons, ih]
      split
      · next h => simp [h, hfirst]
      · rfl

theorem lookup_erase (name other : String) (fields : Fields α) :
    (fields.filter fun field => field.1 != name).lookup other =
      if other = name then none else fields.lookup other := by
  induction fields with
  | nil => simp
  | cons field rest ih =>
    obtain ⟨first, kept⟩ := field
    by_cases hfirst : first = name
    · subst hfirst
      simp only [List.filter_cons, bne_self_eq_false, Bool.false_eq_true, if_false, lookup_cons, ih]
      split <;> rfl
    · have hkept : (first != name) = true := by simpa using hfirst
      simp only [List.filter_cons, hkept, if_true, lookup_cons, ih]
      split
      · next h => simp [h, hfirst]
      · rfl

theorem mem_of_lookup {name : String} {value : α} {fields : Fields α}
    (h : fields.lookup name = some value) : (name, value) ∈ fields := by
  induction fields with
  | nil => simp at h
  | cons field rest ih =>
    obtain ⟨first, kept⟩ := field
    rw [lookup_cons] at h
    split at h
    · next heq => cases h; simp [heq]
    · exact List.mem_cons_of_mem _ (ih h)

/-- Where no name is repeated, each field is what its name is looked up as. -/
theorem lookup_of_mem {name : String} {value : α} {fields : Fields α}
    (hnodup : (fields.map Prod.fst).Nodup) (h : (name, value) ∈ fields) :
    fields.lookup name = some value := by
  induction fields with
  | nil => simp at h
  | cons field rest ih =>
    obtain ⟨first, kept⟩ := field
    rw [List.map_cons, List.nodup_cons] at hnodup
    rw [lookup_cons]
    rcases List.mem_cons.mp h with heq | hrest
    · cases heq; simp
    · have hne : name ≠ first := by
        rintro rfl
        exact hnodup.1 (List.mem_map.mpr ⟨_, hrest, rfl⟩)
      rw [if_neg hne, ih hnodup.2 hrest]

theorem mem_names_put (name other : String) (value : α) (fields : Fields α) :
    other ∈ (Fields.put name value fields).map Prod.fst ↔
      other = name ∨ other ∈ fields.map Prod.fst := by
  induction fields with
  | nil => simp [Fields.put]
  | cons field rest ih =>
    obtain ⟨first, kept⟩ := field
    by_cases hfirst : first = name
    · simp [Fields.put, hfirst]
    · simp only [Fields.put, hfirst, if_false, List.map_cons, List.mem_cons, ih]
      exact or_left_comm

theorem mem_put {name : String} {value : α} {entry : String × α} {fields : Fields α}
    (h : entry ∈ Fields.put name value fields) : entry.2 = value ∨ entry ∈ fields := by
  induction fields with
  | nil => exact .inl (congrArg Prod.snd (List.mem_singleton.mp h))
  | cons field rest ih =>
    obtain ⟨first, kept⟩ := field
    by_cases hfirst : first = name
    · rw [Fields.put, if_pos hfirst, List.mem_cons] at h
      rcases h with rfl | hrest
      · exact .inl rfl
      · exact .inr (List.mem_cons_of_mem _ hrest)
    · rw [Fields.put, if_neg hfirst, List.mem_cons] at h
      rcases h with rfl | hrest
      · exact .inr List.mem_cons_self
      · exact (ih hrest).imp_right (List.mem_cons_of_mem _)

theorem nodup_put {name : String} {value : α} {fields : Fields α}
    (hnodup : (fields.map Prod.fst).Nodup) :
    ((Fields.put name value fields).map Prod.fst).Nodup := by
  induction fields with
  | nil => simp [Fields.put]
  | cons field rest ih =>
    obtain ⟨first, kept⟩ := field
    rw [List.map_cons, List.nodup_cons] at hnodup
    by_cases hfirst : first = name
    · subst hfirst
      rw [Fields.put, if_pos rfl, List.map_cons, List.nodup_cons]
      exact hnodup
    · rw [Fields.put, if_neg hfirst, List.map_cons, List.nodup_cons, mem_names_put]
      exact ⟨not_or.mpr ⟨hfirst, hnodup.1⟩, ih hnodup.2⟩

theorem nodup_filter {fields : Fields α} (hnodup : (fields.map Prod.fst).Nodup)
    (keep : String × α → Bool) : ((fields.filter keep).map Prod.fst).Nodup :=
  hnodup.sublist (List.filter_sublist.map Prod.fst)

end Insights.Fields
