import Mathlib.Data.List.TakeWhile
import Mathlib.Tactic.IntervalCases
import Insights.Text.Character

/-!
What upper case keeps. Texts that differ in the case of letters A-Z only have the same upper case, blanks
and parentheses stay as they are, and nothing else becomes a parenthesis. Trimming takes off the blanks
around a text and no other character of it.
-/

namespace Insights.Text

variable {text other before after : List Char} {c : Char}

/-- The two texts differ at most in the case of letters A-Z. -/
def SameLetters (text other : List Char) : Prop :=
  text.map Char.toLower = other.map Char.toLower

instance : Decidable (SameLetters text other) :=
  inferInstanceAs (Decidable (_ = _))

def AllBlank (text : List Char) : Prop :=
  ∀ c ∈ text, isBlank c = true

instance : Decidable (AllBlank text) :=
  List.decidableBAll (fun c => isBlank c = true) text

/-! ### Upper case -/

/-- What the upper case of a character can be. -/
theorem upperOf_cases (c : Char) :
    (∃ codes, (c.toNat, codes) ∈ upperExpansions ∧ upperOf c = codes.map Char.ofNat) ∨
      (∃ run ∈ upperRuns, run.first ≤ c.toNat ∧ upperOf c = [Char.ofNat (c.toNat + run.shift).toNat]) ∨
      upperOf c = [c] := by
  unfold upperOf
  split
  · next codes hcodes =>
    obtain ⟨before, after, hentries, -⟩ := List.lookup_eq_some_iff.mp hcodes
    exact .inl ⟨codes, by simp [hentries], rfl⟩
  split
  · next run hrun =>
    have hholds := List.find?_some hrun
    simp only [CaseRun.holds, Bool.and_eq_true, decide_eq_true_eq] at hholds
    exact .inr (.inl ⟨run, List.mem_of_find?_eq_some hrun, hholds.1.1, rfl⟩)
  · exact .inr (.inr rfl)

theorem upper_append (text other : List Char) : upper (text ++ other) = upper text ++ upper other :=
  List.flatMap_append

theorem upper_eq_self (h : ∀ c ∈ text, upperOf c = [c]) : upper text = text := by
  induction text with
  | nil => rfl
  | cons c text ih =>
    rw [List.forall_mem_cons] at h
    rw [upper, List.flatMap_cons, h.1]
    exact congrArg (c :: ·) (ih h.2)

/-- Nothing that comes before the letter a has another upper case. -/
theorem upperOf_of_lt (h : c.toNat < 97) : upperOf c = [c] := by
  have hexpansions : ∀ entry ∈ upperExpansions, 97 ≤ entry.1 := by decide +kernel
  have hruns : ∀ run ∈ upperRuns, 97 ≤ run.first := by decide +kernel
  rcases upperOf_cases c with ⟨codes, hmem, -⟩ | ⟨run, hmem, hfirst, -⟩ | hself
  · exact absurd h (Nat.not_lt.mpr (hexpansions _ hmem))
  · exact absurd h (Nat.not_lt.mpr (Nat.le_trans (hruns run hmem) hfirst))
  · exact hself

theorem upperOf_toLower (c : Char) : upperOf c.toLower = upperOf c := by
  by_cases hcapital : 65 ≤ c.toNat ∧ c.toNat ≤ 90
  · obtain ⟨hlow, hhigh⟩ := hcapital
    rw [upperOf_of_lt (Nat.lt_of_le_of_lt hhigh (by decide)), ← Char.ofNat_toNat c]
    generalize c.toNat = code at hlow hhigh
    interval_cases code <;> decide +kernel
  · rw [show c.toLower = c from dif_neg hcapital]

theorem upper_eq_of_sameLetters (h : SameLetters text other) : upper text = upper other := by
  have hlower : ∀ text : List Char, upper (text.map Char.toLower) = upper text := by
    intro text
    rw [upper, upper, List.flatMap_map]
    simp only [upperOf_toLower]
  rw [← hlower text, h, hlower]

theorem upperOf_of_isBlank (h : isBlank c = true) : upperOf c = [c] := by
  have hranges : whiteSpaceRanges.any (fun range => range.1 ≤ c.toNat && c.toNat ≤ range.2) = true ∨
      0x1C ≤ c.toNat ∧ c.toNat ≤ 0x1F := by
    simpa [isBlank, isWhiteSpace] using h
  simp only [whiteSpaceRanges, List.any_cons, List.any_nil, Bool.or_eq_true, Bool.and_eq_true,
    decide_eq_true_eq, Bool.false_eq_true, or_false] at hranges
  rw [← Char.ofNat_toNat c]
  generalize c.toNat = code at hranges
  rcases hranges with (h | h | h | h | h | h | h | h | h | h) | h
  all_goals
    obtain ⟨hlow, hhigh⟩ := h
    interval_cases code <;> decide +kernel

theorem upper_of_allBlank (h : AllBlank text) : upper text = text :=
  upper_eq_self fun c hc => upperOf_of_isBlank (h c hc)

theorem ofNat_ne_parenthesis {code : Nat} (h : 40 < code) : Char.ofNat code ≠ '(' := by
  intro heq
  by_cases hvalid : code.isValidChar
  · have hchar : Char.ofNat code = Char.ofNatAux code hvalid := dif_pos hvalid
    have hcode : (Char.ofNatAux code hvalid).toNat = 40 := by rw [← hchar, heq]; rfl
    exact absurd hcode (Nat.ne_of_gt h)
  · have hchar : Char.ofNat code = Char.ofNat 0 := dif_neg hvalid
    exact absurd (hchar.symm.trans heq) (by decide)

/-- Only a parenthesis has a parenthesis in its upper case. -/
theorem parenthesis_mem_upperOf (h : '(' ∈ upperOf c) : c = '(' := by
  have hexpansions : ∀ entry ∈ upperExpansions, ∀ code ∈ entry.2, 40 < code := by decide +kernel
  have hruns : ∀ run ∈ upperRuns, 40 < (run.first : Int) + run.shift := by decide +kernel
  rcases upperOf_cases c with ⟨codes, hmem, hupper⟩ | ⟨run, hmem, hfirst, hupper⟩ | hself
  · rw [hupper] at h
    obtain ⟨code, hcode, heq⟩ := List.mem_map.mp h
    exact absurd heq (ofNat_ne_parenthesis (hexpansions _ hmem code hcode))
  · rw [hupper, List.mem_singleton] at h
    have hshift := hruns run hmem
    have hcode : 40 < ((c.toNat : Int) + run.shift).toNat := by omega
    exact absurd h.symm (ofNat_ne_parenthesis hcode)
  · rw [hself, List.mem_singleton] at h
    exact h.symm

theorem parenthesis_mem_upper : '(' ∈ upper text ↔ '(' ∈ text := by
  rw [upper, List.mem_flatMap]
  constructor
  · rintro ⟨c, hc, hmem⟩
    rwa [parenthesis_mem_upperOf hmem] at hc
  · intro hmem
    exact ⟨'(', hmem, by rw [upperOf_of_lt (by decide)]; exact List.mem_singleton_self '('⟩

/-! ### Trimming -/

theorem trim_append_left (h : AllBlank before) (text : List Char) : trim (before ++ text) = trim text := by
  rw [trim, trim, trimBy, trimBy, List.dropWhile_append_of_pos h]

theorem trim_append_right (h : AllBlank after) (text : List Char) : trim (text ++ after) = trim text := by
  have hreverse : ∀ c ∈ after.reverse, isBlank c = true := fun c hc => h c (List.mem_reverse.mp hc)
  rw [trim, trim, trimBy, trimBy, List.dropWhile_append]
  split
  · next hempty =>
    rw [List.isEmpty_iff.mp hempty, List.dropWhile_eq_nil_iff.mpr h]
  · rw [List.reverse_append, List.dropWhile_append_of_pos hreverse]

theorem trim_surrounded (hbefore : AllBlank before) (hafter : AllBlank after) (text : List Char) :
    trim (before ++ text ++ after) = trim text := by
  rw [trim_append_right hafter, trim_append_left hbefore]

theorem mem_trim (hmem : c ∈ text) (h : isBlank c = false) : c ∈ trim text := by
  have hkept : ∀ {text : List Char}, c ∈ text → c ∈ text.dropWhile isBlank := by
    intro text hmem
    rw [← List.takeWhile_append_dropWhile (p := isBlank) (l := text), List.mem_append] at hmem
    refine hmem.resolve_left fun hblank => ?_
    rw [List.mem_takeWhile_imp hblank] at h
    cases h
  exact List.mem_reverse.mpr (hkept (List.mem_reverse.mpr (hkept hmem)))

end Insights.Text
