import Mathlib.Data.List.Forall2
import Mathlib.Data.Set.Function
import Insights.Dataset.Basic
import Insights.Proofs.Text.Quoted

/-!
Which datasets share a table. The name of a table keeps everything of a dataset's id but the difference
between hyphens and underscores, so ids that hold no underscores, as generated ones do, have tables of
their own. The statements about a table keep its whole name.
-/

namespace Insights

/-- Two characters that the name of a table does not tell apart. -/
def CharsAlike (c d : Char) : Prop :=
  c = d ∨ (c ∈ ['-', '_'] ∧ d ∈ ['-', '_'])

/-- Two ids that differ at most in having hyphens for underscores. -/
def IdsAlike (first second : String) : Prop :=
  List.Forall₂ CharsAlike first.toList second.toList

theorem charsAlike_iff {c d : Char} :
    CharsAlike c d ↔ (if c = '-' then '_' else c) = if d = '-' then '_' else d := by
  unfold CharsAlike
  by_cases hc : c = '-'
  · subst hc
    by_cases hd : d = '-'
    · simp [hd]
    · simp [hd, Ne.symm hd, eq_comm]
  · by_cases hd : d = '-'
    · subst hd
      simp [hc]
    · simp only [List.mem_cons, hc, hd, List.not_mem_nil, or_false, false_or, if_false]
      constructor
      · rintro (h | ⟨rfl, rfl⟩)
        · exact h
        · rfl
      · exact Or.inl

/-- Two datasets have one table exactly when their ids differ at most in hyphens and underscores. -/
theorem tableName_eq_iff {first second : String} :
    tableName first = tableName second ↔ IdsAlike first second := by
  have hnames : tableName first = tableName second ↔
      (first.toList.map fun c => if c = '-' then '_' else c) =
        second.toList.map fun c => if c = '-' then '_' else c := by
    rw [← String.toList_inj, tableName, tableName, String.toList_append, String.toList_append,
      String.toList_ofList, String.toList_ofList, List.append_cancel_left_eq]
  have halike : CharsAlike =
      fun c d => (if c = '-' then '_' else c) = if d = '-' then '_' else d := by
    funext c d
    exact propext charsAlike_iff
  rw [hnames, IdsAlike, ← List.forall₂_eq_eq_eq, List.forall₂_map_left_iff, List.forall₂_map_right_iff,
    halike]

theorem eq_of_charsAlike {c d : Char} (hc : c ≠ '_') (hd : d ≠ '_') (h : CharsAlike c d) : c = d := by
  rcases h with rfl | ⟨hc', hd'⟩
  · rfl
  · simp only [List.mem_cons, hc, hd, List.not_mem_nil, or_false] at hc' hd'
    rw [hc', hd']

/-- Ids without underscores have tables of their own. -/
theorem injOn_tableName : Set.InjOn tableName {id | '_' ∉ id.toList} := by
  intro first hfirst second hsecond hname
  have halike : List.Forall₂ CharsAlike first.toList second.toList := tableName_eq_iff.mp hname
  have hsame : first.toList = second.toList := by
    rw [Set.mem_ofPred_eq] at hfirst hsecond
    generalize first.toList = cs at halike hfirst
    generalize second.toList = ds at halike hsecond
    induction halike with
    | nil => rfl
    | cons hhead _ ih =>
      rw [List.mem_cons, not_or] at hfirst hsecond
      rw [eq_of_charsAlike (Ne.symm hfirst.1) (Ne.symm hsecond.1) hhead, ih hfirst.2 hsecond.2]
  exact String.toList_inj.mp hsame

/-! ### The statements about a table -/

theorem Sql.quoteName_injective : Function.Injective Sql.quoteName := by
  intro name other h
  exact String.toList_injective (Text.quoted_injective '"' (String.ofList_injective h))

theorem Sql.quoteText_injective : Function.Injective Sql.quoteText := by
  intro text other h
  exact String.toList_injective (Text.quoted_injective '\'' (String.ofList_injective h))

theorem dropStatement_injective : Function.Injective dropStatement := by
  intro table other h
  exact Sql.quoteName_injective ((String.append_right_inj dropStart).mp h)

theorem probeStatement_injective : Function.Injective probeStatement := by
  intro table other h
  have hquoted := (String.append_right_inj probeStart).mp ((String.append_left_inj " LIMIT 1").mp h)
  exact Sql.quoteText_injective hquoted

end Insights
