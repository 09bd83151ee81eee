import Insights.Text.Quoted

/-!
Which texts begin with a quoted one. A quoted text ends at the first quote that is not doubled, so its end is
known without a look at more than one character behind it; and what stands between its quotes tells the text that
was written. Nothing else is read as a quoted text.
-/

namespace Insights.Text

variable {quote : Char} {text inside rest : List Char}

/-- Reads a quoted text with its opening quote: what was written, and what follows the closing quote. -/
def readQuoted (quote : Char) : List Char → Option (List Char × List Char)
  | [] => none
  | c :: rest => if c = quote then scan quote rest else none

/-- What was read is doubled in the text, and the quote behind it is a single one. -/
theorem eq_doubled_of_scan (h : scan quote text = some (inside, rest)) :
    text = doubled quote inside ++ quote :: rest ∧ rest.head? ≠ some quote := by
  -- the text may go on with the closing quote (case5, or case2 at its end), a doubled one (case4), or another
  -- character (case6)
  fun_induction scan quote text generalizing inside with
  | case1 | case3 => cases h
  | case2 =>
    obtain ⟨rfl, rfl⟩ : [] = inside ∧ [] = rest := by simpa using h
    exact ⟨rfl, by simp⟩
  | case4 behind ih =>
    obtain ⟨⟨read, after⟩, hread, heq⟩ := Option.map_eq_some_iff.mp h
    obtain ⟨rfl, rfl⟩ : quote :: read = inside ∧ after = rest := by simpa using heq
    obtain ⟨rfl, hafter⟩ := ih hread
    exact ⟨by simp [doubled], hafter⟩
  | case5 d behind hd =>
    obtain ⟨rfl, rfl⟩ : [] = inside ∧ d :: behind = rest := by simpa using h
    exact ⟨rfl, by simpa using hd⟩
  | case6 c d behind hc ih =>
    obtain ⟨⟨read, after⟩, hread, heq⟩ := Option.map_eq_some_iff.mp h
    obtain ⟨rfl, rfl⟩ : c :: read = inside ∧ after = rest := by simpa using heq
    obtain ⟨htext, hafter⟩ := ih hread
    exact ⟨by simp [doubled, hc, htext], hafter⟩

/-- The reader finds what was written exactly where it was written, and not in front of a further quote. -/
theorem readQuoted_eq_some_iff :
    readQuoted quote text = some (inside, rest) ↔
      text = quoted quote inside ++ rest ∧ rest.head? ≠ some quote := by
  have hquoted : quoted quote inside ++ rest = quote :: (doubled quote inside ++ quote :: rest) := by
    simp [quoted]
  rw [hquoted]
  constructor
  · intro h
    cases text with
    | nil => cases h
    | cons c behind =>
      obtain ⟨rfl, hscan⟩ : c = quote ∧ scan quote behind = some (inside, rest) := by
        simpa [readQuoted] using h
      obtain ⟨rfl, hrest⟩ := eq_doubled_of_scan hscan
      exact ⟨rfl, hrest⟩
  · rintro ⟨rfl, hrest⟩
    rw [readQuoted, if_pos rfl, scan_doubled quote inside rest hrest]

/-- A quoted text can be read back from the front of any text unless one more quote follows it. -/
theorem readQuoted_quoted_iff :
    readQuoted quote (quoted quote inside ++ rest) = some (inside, rest) ↔ rest.head? ≠ some quote := by
  rw [readQuoted_eq_some_iff, and_iff_right rfl]

theorem quoted_injective (quote : Char) : Function.Injective (quoted quote) := by
  intro text other h
  have hread (s : List Char) : readQuoted quote (quoted quote s ++ []) = some (s, []) :=
    readQuoted_quoted_iff.mpr (by simp)
  have hsame := hread text
  rw [h, hread other, Option.some.injEq, Prod.mk.injEq] at hsame
  exact hsame.1.symm

end Insights.Text
