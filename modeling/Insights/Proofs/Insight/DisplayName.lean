import Mathlib.Data.List.Infix
import Mathlib.Data.List.TakeWhile
import Mathlib.Tactic.IntervalCases
import Insights.Insight.DisplayName

/-!
Where a name is cut when it is shown. It is cut at the first place where a unique id begins, perhaps behind
one separator, with nothing but the rest of the last line behind it; a line feed at the very end stays. So
a name of one line is shown as a beginning of itself in which no unique id is left, or as it is when it
begins with one.
-/

namespace Insights

theorem Text.isHexDigit_iff {c : Char} :
    Text.isHexDigit c = true ↔ c ∈ "0123456789abcdefABCDEF".toList := by
  constructor
  · intro h
    have hcode : 48 ≤ c.toNat ∧ c.toNat ≤ 57 ∨ 97 ≤ c.toNat ∧ c.toNat ≤ 102 ∨
        65 ≤ c.toNat ∧ c.toNat ≤ 70 := by
      unfold isHexDigit hexValue? at h
      split at h
      · next hdigit => exact .inl hdigit
      split at h
      · next hsmall => exact .inr (.inl hsmall)
      split at h
      · next hcapital => exact .inr (.inr hcapital)
      · cases h
    rw [← Char.ofNat_toNat c]
    rcases hcode with ⟨hlow, hhigh⟩ | ⟨hlow, hhigh⟩ | ⟨hlow, hhigh⟩
    all_goals
      generalize c.toNat = code at hlow hhigh
      interval_cases code <;> decide
  · intro h
    have hall : "0123456789abcdefABCDEF".toList.all Text.isHexDigit = true := by decide +kernel
    exact List.all_eq_true.mp hall c h

/-- A unique id: groups of 8, 4, 4, 4 and 12 hexadecimal digits with hyphens between them. -/
def IsUuid (text : List Char) : Prop :=
  ∃ groups : List (List Char), groups.map List.length = [8, 4, 4, 4, 12] ∧
    (∀ group ∈ groups, ∀ c ∈ group, c ∈ "0123456789abcdefABCDEF".toList) ∧
    text = ['-'].intercalate groups

/-- From this position on a text has, perhaps behind one separator, a unique id, and then no line feed but
perhaps a last one. -/
def MarkedAt (text : List Char) (position : Nat) : Prop :=
  ∃ separator uuid rest, text.drop position = separator ++ uuid ++ rest ∧
    separator.length ≤ 1 ∧ (∀ c ∈ separator, isNameSeparator c = true) ∧ IsUuid uuid ∧
    '\n' ∉ rest.dropLast

/-- The first position of a text that is marked. -/
def FirstMark (text : List Char) (position : Nat) : Prop :=
  MarkedAt text position ∧ ∀ earlier < position, ¬ MarkedAt text earlier

/-- The line feed at the end of a text, if there is one. -/
def finalLineFeed (text : List Char) : List Char :=
  if text.getLast? = some '\n' then ['\n'] else []

variable {text rest kept : List Char} {c : Char} {position : Nat}

/-! ### Finding a unique id -/

theorem isHexDigits_iff {length : Nat} :
    (decide ((text.take length).length = length) && (text.take length).all Text.isHexDigit) = true ↔
      ∃ digits rest, digits.length = length ∧ (∀ c ∈ digits, Text.isHexDigit c = true) ∧
        text = digits ++ rest := by
  rw [Bool.and_eq_true, decide_eq_true_iff, List.all_eq_true]
  constructor
  · rintro ⟨hlength, hdigits⟩
    exact ⟨text.take length, text.drop length, hlength, hdigits, (List.take_append_drop _ _).symm⟩
  · rintro ⟨digits, rest, rfl, hdigits, rfl⟩
    rw [List.take_left]
    exact ⟨rfl, hdigits⟩

/-- What follows groups of digits follows such groups. -/
theorem exists_of_afterGroups? {lengths : List Nat} (h : afterGroups? lengths text = some rest) :
    ∃ groups : List (List Char), groups.map List.length = lengths ∧
      (∀ group ∈ groups, ∀ c ∈ group, Text.isHexDigit c = true) ∧
      text = ['-'].intercalate groups ++ rest := by
  fun_induction afterGroups? lengths text with
  | case1 text => exact ⟨[], rfl, by simp, by simpa using h⟩
  | case2 length text hdigits =>
    obtain ⟨digits, rest', hlength, hhex, rfl⟩ := isHexDigits_iff.mp hdigits
    obtain rfl : rest' = rest := by simpa [← hlength] using h
    exact ⟨[digits], by simp [hlength], by simpa using hhex, by simp⟩
  | case4 length groups text hmore hdigits after hafter ih =>
    obtain ⟨digits, rest', hlength, hhex, rfl⟩ := isHexDigits_iff.mp hdigits
    obtain rfl : rest' = '-' :: after := by simpa [← hlength] using hafter
    obtain ⟨others, hlengths, hothers, rfl⟩ := ih h
    obtain ⟨second, others, rfl⟩ : ∃ second more, others = second :: more := by
      cases others with
      | nil => exact (hmore (by simpa using hlengths.symm)).elim
      | cons second more => exact ⟨second, more, rfl⟩
    refine ⟨digits :: second :: others, by simp [hlength, ← hlengths], ?_, ?_⟩
    · exact List.forall_mem_cons.mpr ⟨hhex, hothers⟩
    · rw [List.intercalate_cons_cons]
      simp
  | case3 | case5 | case6 => cases h

theorem afterGroups?_groups {groups : List (List Char)}
    (h : ∀ group ∈ groups, ∀ c ∈ group, Text.isHexDigit c = true) (rest : List Char) :
    afterGroups? (groups.map List.length) (['-'].intercalate groups ++ rest) = some rest := by
  induction groups with
  | nil => simp [afterGroups?]
  | cons digits others ih =>
    rw [List.forall_mem_cons] at h
    obtain ⟨hhex, hothers⟩ := h
    cases others with
    | nil =>
      rw [List.map_cons, List.map_nil, List.intercalate_singleton, afterGroups?,
        if_pos (isHexDigits_iff.mpr ⟨digits, rest, rfl, hhex, rfl⟩), List.drop_left]
    | cons second more =>
      have htext : ['-'].intercalate (digits :: second :: more) ++ rest =
          digits ++ '-' :: (['-'].intercalate (second :: more) ++ rest) := by
        rw [List.intercalate_cons_cons]
        simp
      rw [htext, List.map_cons, List.map_cons, afterGroups?,
        if_pos (isHexDigits_iff.mpr ⟨digits, _, rfl, hhex, rfl⟩), List.drop_left]
      · exact ih hothers
      · exact List.cons_ne_nil _ _

theorem isUuid_iff {uuid : List Char} :
    IsUuid uuid ↔ ∃ groups : List (List Char), groups.map List.length = uuidGroups ∧
      (∀ group ∈ groups, ∀ c ∈ group, Text.isHexDigit c = true) ∧ uuid = ['-'].intercalate groups := by
  simp only [IsUuid, uuidGroups, Text.isHexDigit_iff]

theorem isNameSeparator_of_isHexDigit (h : Text.isHexDigit c = true) : isNameSeparator c = false := by
  have hall : "0123456789abcdefABCDEF".toList.all (!isNameSeparator ·) = true := by decide +kernel
  simpa using List.all_eq_true.mp hall c (Text.isHexDigit_iff.mp h)

theorem IsUuid.exists_cons {uuid : List Char} (h : IsUuid uuid) :
    ∃ first others, uuid = first :: others ∧ Text.isHexDigit first = true := by
  obtain ⟨groups, hlengths, hhex, rfl⟩ := isUuid_iff.mp h
  obtain ⟨digits, more, rfl, hdigits, hmore⟩ := List.map_eq_cons_iff.mp hlengths
  obtain ⟨second, more, rfl, -, -⟩ := List.map_eq_cons_iff.mp hmore
  obtain ⟨first, others, rfl⟩ := List.exists_cons_of_length_eq_add_one hdigits
  rw [List.intercalate_cons_cons]
  exact ⟨first, _, rfl, hhex _ List.mem_cons_self first List.mem_cons_self⟩

theorem IsUuid.no_lineFeed {uuid : List Char} (h : IsUuid uuid) : '\n' ∉ uuid := by
  obtain ⟨groups, -, hhex, rfl⟩ := isUuid_iff.mp h
  clear h
  induction groups with
  | nil => simp
  | cons digits others ih =>
    rw [List.forall_mem_cons] at hhex
    obtain ⟨hdigits, hothers⟩ := hhex
    have hfirst : '\n' ∉ digits := fun hmem => absurd (hdigits _ hmem) (by decide)
    cases others with
    | nil => rwa [List.intercalate_singleton]
    | cons second more =>
      rw [List.intercalate_cons_cons]
      simpa [hfirst] using ih hothers

theorem afterUuid?_eq_some : afterUuid? text = some rest ↔
    ∃ separator uuid, text = separator ++ uuid ++ rest ∧ separator.length ≤ 1 ∧
      (∀ c ∈ separator, isNameSeparator c = true) ∧ IsUuid uuid := by
  have hgroups : ∀ {text}, afterGroups? uuidGroups text = some rest ↔
      ∃ uuid, text = uuid ++ rest ∧ IsUuid uuid := by
    intro text
    constructor
    · intro h
      obtain ⟨groups, hlengths, hhex, rfl⟩ := exists_of_afterGroups? h
      exact ⟨_, rfl, isUuid_iff.mpr ⟨groups, hlengths, hhex, rfl⟩⟩
    · rintro ⟨uuid, rfl, huuid⟩
      obtain ⟨groups, hlengths, hhex, rfl⟩ := isUuid_iff.mp huuid
      rw [← hlengths]
      exact afterGroups?_groups hhex rest
  constructor
  · intro h
    cases text with
    | nil => cases h
    | cons c text =>
      simp only [afterUuid?] at h
      split at h
      · next hseparator =>
        obtain ⟨uuid, rfl, huuid⟩ := hgroups.mp h
        exact ⟨[c], uuid, rfl, by simp, by simpa using hseparator, huuid⟩
      · obtain ⟨uuid, htext, huuid⟩ := hgroups.mp h
        exact ⟨[], uuid, htext, by simp, by simp, huuid⟩
  · rintro ⟨separator, uuid, rfl, hlength, hseparator, huuid⟩
    match separator with
    | [] =>
      obtain ⟨first, others, rfl, hfirst⟩ := huuid.exists_cons
      have hother : ¬ isNameSeparator first = true := by simp [isNameSeparator_of_isHexDigit hfirst]
      simp only [List.nil_append, List.cons_append, afterUuid?, if_neg hother]
      exact hgroups.mpr ⟨_, rfl, huuid⟩
    | [c] =>
      simp only [List.cons_append, List.nil_append, afterUuid?, if_pos (hseparator c List.mem_cons_self)]
      exact hgroups.mpr ⟨_, rfl, huuid⟩
    | _ :: _ :: _ => simp at hlength

/-! ### Cutting a text -/

theorem lineEnd?_eq (rest : List Char) :
    lineEnd? rest = if '\n' ∈ rest.dropLast then none else some (finalLineFeed rest) := by
  by_cases hmem : '\n' ∈ rest
  · obtain ⟨line, after, rfl, hline⟩ := List.eq_append_cons_of_mem hmem
    have hdrop : (line ++ '\n' :: after).dropWhile (· ≠ '\n') = '\n' :: after := by
      rw [List.dropWhile_append_of_pos (by simpa using fun c hc => ne_of_mem_of_not_mem hc hline)]
      simp
    rw [lineEnd?, hdrop, List.dropLast_append_cons]
    cases after with
    | nil => simp [hline, finalLineFeed]
    | cons c after => simp
  · have hdrop : rest.dropWhile (· ≠ '\n') = [] := by
      rw [List.dropWhile_eq_nil_iff]
      simpa using fun c hc => ne_of_mem_of_not_mem hc hmem
    have hlast : rest.getLast? ≠ some '\n' := fun hlast => hmem (List.mem_of_getLast? hlast)
    rw [lineEnd?, hdrop, if_neg fun h => hmem (List.mem_of_mem_dropLast h), finalLineFeed, if_neg hlast]

theorem finalLineFeed_behind {separator uuid : List Char} (h : IsUuid uuid) :
    finalLineFeed (separator ++ uuid ++ rest) = finalLineFeed rest := by
  have hlast : (separator ++ uuid ++ rest).getLast? = some '\n' ↔ rest.getLast? = some '\n' := by
    cases rest with
    | nil =>
      obtain ⟨first, others, rfl, -⟩ := h.exists_cons
      rw [List.append_nil, List.getLast?_append_of_ne_nil _ (List.cons_ne_nil _ _)]
      simpa using fun hlast => h.no_lineFeed (List.mem_of_getLast? hlast)
    | cons c rest => rw [List.getLast?_append_of_ne_nil _ (List.cons_ne_nil _ _)]
  simp only [finalLineFeed, hlast]

/-- What is kept of a marked text is the line feed at its end. -/
theorem kept_eq_some :
    (afterUuid? text).bind lineEnd? = some kept ↔ MarkedAt text 0 ∧ kept = finalLineFeed text := by
  rw [Option.bind_eq_some_iff]
  constructor
  · rintro ⟨rest, hafter, hkept⟩
    obtain ⟨separator, uuid, rfl, hlength, hseparator, huuid⟩ := afterUuid?_eq_some.mp hafter
    rw [lineEnd?_eq] at hkept
    split at hkept
    · cases hkept
    · next hrest =>
      rw [finalLineFeed_behind huuid]
      exact ⟨⟨separator, uuid, rest, rfl, hlength, hseparator, huuid, hrest⟩, (Option.some.inj hkept).symm⟩
  · rintro ⟨⟨separator, uuid, rest, htext, hlength, hseparator, huuid, hrest⟩, rfl⟩
    obtain rfl : text = separator ++ uuid ++ rest := htext
    refine ⟨rest, afterUuid?_eq_some.mpr ⟨separator, uuid, rfl, hlength, hseparator, huuid⟩, ?_⟩
    rw [lineEnd?_eq, if_neg hrest, finalLineFeed_behind huuid]

theorem markedAt_zero_iff : MarkedAt text 0 ↔ ((afterUuid? text).bind lineEnd?).isSome = true := by
  simp [Option.isSome_iff_exists, kept_eq_some]

instance : Decidable (MarkedAt text position) :=
  decidable_of_iff (((afterUuid? (text.drop position)).bind lineEnd?).isSome = true) markedAt_zero_iff.symm

instance : Decidable (FirstMark text position) :=
  inferInstanceAs (Decidable (_ ∧ _))

theorem MarkedAt.lt_length (h : MarkedAt text position) : position < text.length := by
  obtain ⟨separator, uuid, rest, htext, -, -, huuid, -⟩ := h
  obtain ⟨first, others, rfl, -⟩ := huuid.exists_cons
  by_contra hlength
  rw [List.drop_eq_nil_of_le (Nat.le_of_not_lt hlength)] at htext
  simp at htext

theorem withoutUuid_of_unmarked (h : ∀ position, ¬ MarkedAt text position) : withoutUuid text = text := by
  induction text with
  | nil => rfl
  | cons c text ih =>
    have hnone : (afterUuid? (c :: text)).bind lineEnd? = none := by
      rw [← Option.not_isSome_iff_eq_none, ← markedAt_zero_iff]
      exact h 0
    simp only [withoutUuid, hnone, ih fun position => h (position + 1)]

theorem withoutUuid_of_firstMark (h : FirstMark text position) :
    withoutUuid text = text.take position ++ finalLineFeed text := by
  induction text generalizing position with
  | nil => exact absurd h.1.lt_length (Nat.not_lt_zero _)
  | cons c text ih =>
    obtain ⟨hmarked, hfirst⟩ := h
    cases position with
    | zero => simp only [withoutUuid, kept_eq_some.mpr ⟨hmarked, rfl⟩, List.take_zero, List.nil_append]
    | succ position =>
      have hnone : (afterUuid? (c :: text)).bind lineEnd? = none := by
        rw [← Option.not_isSome_iff_eq_none, ← markedAt_zero_iff]
        exact hfirst 0 (Nat.succ_pos position)
      have hrest : FirstMark text position :=
        ⟨hmarked, fun earlier hearlier => hfirst (earlier + 1) (Nat.succ_lt_succ hearlier)⟩
      have hlonger : finalLineFeed (c :: text) = finalLineFeed text := by
        obtain ⟨d, others, rfl⟩ := List.exists_cons_of_length_pos (Nat.zero_lt_of_lt hrest.1.lt_length)
        simp only [finalLineFeed, List.getLast?_cons_cons]
      simp only [withoutUuid, hnone, ih hrest, hlonger, List.take_succ_cons, List.cons_append]

theorem exists_firstMark (h : MarkedAt text position) : ∃ first ≤ position, FirstMark text first :=
  ⟨Nat.find ⟨position, h⟩, Nat.find_min' _ h, Nat.find_spec ⟨position, h⟩, fun _ => Nat.find_min _⟩

/-! ### Names of one line -/

/-- In a text without line feeds a unique id is all that makes a mark. -/
theorem markedAt_of_infix (hline : '\n' ∉ text) (h : ∃ uuid, IsUuid uuid ∧ uuid <:+: text) :
    ∃ position, MarkedAt text position := by
  obtain ⟨uuid, huuid, before, after, rfl⟩ := h
  refine ⟨before.length, [], uuid, after, ?_, by simp, by simp, huuid, fun hmem => hline ?_⟩
  · rw [List.append_assoc, List.drop_left, List.nil_append]
  · exact List.mem_append_right _ (List.mem_of_mem_dropLast hmem)

/-- There, what marks a beginning of the text marks the text. -/
theorem MarkedAt.of_take {length : Nat} (hline : '\n' ∉ text) (h : MarkedAt (text.take length) position) :
    MarkedAt text position := by
  have hlt : position ≤ (text.take length).length := Nat.le_of_lt h.lt_length
  obtain ⟨separator, uuid, rest, htext, hlength, hseparator, huuid, -⟩ := h
  have hdrop : text.drop position = separator ++ uuid ++ (rest ++ text.drop length) := by
    rw [← List.append_assoc, ← htext, ← List.drop_append_of_le_length hlt, List.take_append_drop]
  refine ⟨separator, uuid, rest ++ text.drop length, hdrop, hlength, hseparator, huuid, fun hmem => hline ?_⟩
  apply List.mem_of_mem_drop (i := position)
  rw [hdrop]
  exact List.mem_append_right _ (List.mem_of_mem_dropLast hmem)

/-- Nothing marks what stands before the first mark. -/
theorem FirstMark.unmarked_take (hline : '\n' ∉ text) (h : FirstMark text position) (other : Nat) :
    ¬ MarkedAt (text.take position) other := by
  intro hmarked
  have hlt : other < position :=
    Nat.lt_of_lt_of_le hmarked.lt_length (List.length_take_le position text)
  exact h.2 other hlt (hmarked.of_take hline)

/-! ### Names as they are shown -/

theorem displayName_of_firstMark {name : String} (h : FirstMark name.toList position) :
    displayName name =
      if name.toList.take position ++ finalLineFeed name.toList = [] then name
      else String.ofList (name.toList.take position ++ finalLineFeed name.toList) := by
  rw [displayName, withoutUuid_of_firstMark h]
  split
  · next hnone => rw [if_pos hnone]
  · next hsome => rw [if_neg hsome]

theorem displayName_of_unmarked {name : String} (h : ∀ position, ¬ MarkedAt name.toList position) :
    displayName name = name := by
  rw [displayName, withoutUuid_of_unmarked h]
  split
  · rfl
  · exact String.ofList_toList

/-- A name of one line is shown as it is, when nothing marks it or its very beginning does, or else as the
part before its first mark. -/
theorem displayName_of_line {name : String} (hline : '\n' ∉ name.toList) :
    (displayName name = name ∧ ((∀ position, ¬ MarkedAt name.toList position) ∨ MarkedAt name.toList 0)) ∨
      ∃ position, FirstMark name.toList position ∧ name.toList.take position ≠ [] ∧
        displayName name = String.ofList (name.toList.take position) := by
  by_cases hmarked : ∃ position, MarkedAt name.toList position
  · obtain ⟨position, hposition⟩ := hmarked
    obtain ⟨first, -, hfirst⟩ := exists_firstMark hposition
    have hlast : finalLineFeed name.toList = [] := if_neg fun hlast => hline (List.mem_of_getLast? hlast)
    have hshown := displayName_of_firstMark hfirst
    rw [hlast, List.append_nil] at hshown
    by_cases hnone : name.toList.take first = []
    · have hzero : first = 0 := by
        rcases List.take_eq_nil_iff.mp hnone with hzero | hempty
        · exact hzero
        · exact absurd hfirst.1.lt_length (by simp [hempty])
      rw [if_pos hnone] at hshown
      exact .inl ⟨hshown, .inr (hzero ▸ hfirst.1)⟩
    · rw [if_neg hnone] at hshown
      exact .inr ⟨first, hfirst, hnone, hshown⟩
  · rw [not_exists] at hmarked
    exact .inl ⟨displayName_of_unmarked hmarked, .inl hmarked⟩

/-- A name is cut at its first mark, unless nothing is left of it. A name of one line is thus shown as a
beginning of itself that is not empty unless the name is, that is shown as it is, and that holds a unique
id only if the name begins with one, perhaps behind one separator. -/
theorem displayName_cut_at_firstMark (name : String) :
    (∀ position, FirstMark name.toList position →
      displayName name =
        if name.toList.take position ++ finalLineFeed name.toList = [] then name
        else String.ofList (name.toList.take position ++ finalLineFeed name.toList)) ∧
    ((∀ position, ¬ MarkedAt name.toList position) → displayName name = name) ∧
    ('\n' ∉ name.toList →
      (displayName name).toList <+: name.toList ∧ (name ≠ "" → displayName name ≠ "") ∧
      displayName (displayName name) = displayName name ∧
      ((∃ uuid, IsUuid uuid ∧ uuid <:+: (displayName name).toList) → MarkedAt name.toList 0)) := by
  refine ⟨fun _ => displayName_of_firstMark, displayName_of_unmarked, fun hline => ?_⟩
  rcases displayName_of_line hline with ⟨hshown, hmarks⟩ | ⟨position, hfirst, hkept, hshown⟩
  · rw [hshown]
    refine ⟨List.prefix_rfl, id, hshown, fun huuid => ?_⟩
    obtain ⟨position, hposition⟩ := markedAt_of_infix hline huuid
    exact hmarks.resolve_left fun hunmarked => hunmarked position hposition
  · have hunmarked : ∀ other, ¬ MarkedAt (displayName name).toList other := by
      rw [hshown, String.toList_ofList]
      exact hfirst.unmarked_take hline
    have hbeginning : (displayName name).toList <+: name.toList := by
      rw [hshown, String.toList_ofList]
      exact List.take_prefix position name.toList
    refine ⟨hbeginning, fun _ hempty => hkept ?_, displayName_of_unmarked hunmarked, fun huuid => ?_⟩
    · rw [← String.toList_ofList (l := name.toList.take position), ← hshown, hempty]
      rfl
    · obtain ⟨other, hother⟩ := markedAt_of_infix (fun hmem => hline (hbeginning.subset hmem)) huuid
      exact absurd hother (hunmarked other)

/-- The name of an upload, with capitals in its id and with a second id behind the first. -/
def uploadName : String :=
  "data_1234567A-1234-1234-1234-12345678901f (copy 12345678-1234-1234-1234-123456789012).csv"

theorem displayName_cut_at_firstMark_uploadName :
    (FirstMark uploadName.toList 4 ∧ displayName uploadName = "data") ∧
      ((∀ position, ¬ MarkedAt "orders".toList position) ∧ displayName "orders" = "orders") ∧
      ('\n' ∉ uploadName.toList ∧ displayName (displayName uploadName) = displayName uploadName) := by
  have hfirst : FirstMark uploadName.toList 4 := by decide +kernel
  have hunmarked : ∀ position, ¬ MarkedAt "orders".toList position := by
    intro position hmarked
    have hnone : ∀ position < 6, ¬ MarkedAt "orders".toList position := by decide +kernel
    exact hnone position hmarked.lt_length hmarked
  have hline : '\n' ∉ uploadName.toList := by decide +kernel
  have hkept : uploadName.toList.take 4 ++ finalLineFeed uploadName.toList = "data".toList := by decide +kernel
  refine ⟨⟨hfirst, ?_⟩, ⟨hunmarked, (displayName_cut_at_firstMark "orders").2.1 hunmarked⟩, hline,
    ((displayName_cut_at_firstMark uploadName).2.2 hline).2.2.1⟩
  rw [(displayName_cut_at_firstMark uploadName).1 4 hfirst, hkept]
  rfl

-- A line feed at the very end stays, even if nothing else does.
example : displayName "12345678-1234-1234-1234-123456789abc.csv\n" = "\n" := by decide +kernel

end Insights
