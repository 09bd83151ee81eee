import Insights.Json.Reader
import Insights.Proofs.Number.Shortest
import Insights.Proofs.Sql.Numeral

/-!
Numbers in JSON text. The text of a number reads back to the number: an integer has neither a point nor an
exponent, and a binary number has one of them and digits that are rounded to it.
-/

namespace Insights

open Sql (IsDigits)

variable {text digits : List Char}

/-! ### Digits -/

theorem asciiDigitValue?_of_isDigit {c : Char} (h : c.isDigit = true) :
    Text.asciiDigitValue? c = some (c.toNat - '0'.toNat) := by
  simp only [Char.isDigit, Bool.and_eq_true, decide_eq_true_eq] at h
  exact if_pos h

theorem natural?_of_isDigit (h : ∀ c ∈ digits, c.isDigit = true) :
    Text.natural? digits = some (Nat.ofDigitChars 10 digits 0) := by
  have hfold : ∀ n, digits.foldlM (fun n c => (Text.asciiDigitValue? c).map (10 * n + ·)) n =
      some (Nat.ofDigitChars 10 digits n) := by
    induction digits with
    | nil => simp
    | cons c rest ih =>
      intro n
      rw [List.forall_mem_cons] at h
      rw [List.foldlM_cons, asciiDigitValue?_of_isDigit h.1, Nat.ofDigitChars_cons]
      exact ih h.2 _
  exact hfold 0

theorem ofDigitChars_digitsOf (n : Nat) : Nat.ofDigitChars 10 (digitsOf n) 0 = n :=
  Nat.ofDigitChars_ten_toDigits

theorem isDigits_paddedDigits (width n : Nat) : IsDigits (paddedDigits width n) :=
  (Sql.isDigits_digitsOf n).behind_zeros _

theorem ofDigitChars_paddedDigits (width n : Nat) : Nat.ofDigitChars 10 (paddedDigits width n) 0 = n := by
  rw [paddedDigits, zeros, Nat.ofDigitChars_append, Nat.ofDigitChars_replicate_zero]
  simpa using ofDigitChars_digitsOf n

theorem head?_digitChar : ∀ n < 10, n ≠ 0 → [Nat.digitChar n].head? ≠ some '0' := by
  decide

/-- The digits of a number other than zero do not begin with a zero. -/
theorem head?_digitsOf {n : Nat} (hn : n ≠ 0) : (digitsOf n).head? ≠ some '0' := by
  induction n using Nat.strong_induction_on with
  | _ n ih =>
    rw [digitsOf, Nat.toDigits_eq_if (by decide)]
    split
    next hlt => exact head?_digitChar n hlt hn
    next hge =>
      rw [List.head?_append_of_ne_nil _ Nat.toDigits_ne_nil]
      exact ih (n / 10) (by omega) (by omega)

/-! ### Texts of numbers -/

/-- The whole part of a number: digits without a superfluous zero in front. -/
structure IsWhole (text : List Char) : Prop where
  digits : IsDigits text
  tidy : text.length = 1 ∨ text.head? ≠ some '0'

/-- A text of a number that has a point or an exponent, and the decimal that it spells. -/
inductive Spells : List Char → ScaledDigits → Prop where
  | point {whole fraction : List Char} (hwhole : IsWhole whole) (hfraction : IsDigits fraction) :
      Spells (whole ++ '.' :: fraction) ⟨Nat.ofDigitChars 10 (whole ++ fraction) 0, -fraction.length⟩
  | power {whole fraction power : List Char} (hwhole : IsWhole whole)
      (hfraction : ∀ c ∈ fraction, c.isDigit = true) (negative : Bool) (hpower : IsDigits power) :
      Spells (whole ++ (if fraction.isEmpty then [] else '.' :: fraction) ++
          'e' :: (if negative then '-' else '+') :: power)
        ⟨Nat.ofDigitChars 10 (whole ++ fraction) 0,
          withSign negative (Nat.ofDigitChars 10 power 0) - fraction.length⟩

theorem isWhole_zero : IsWhole ['0'] :=
  ⟨Sql.isDigits_zero, .inl rfl⟩

theorem IsWhole.prefix_of_digitsOf {n k : Nat} (hn : n ≠ 0) (hk : 0 < k) : IsWhole ((digitsOf n).take k) := by
  refine ⟨(Sql.isDigits_digitsOf n).take hk, .inr ?_⟩
  rw [List.head?_take, if_neg (by omega)]
  exact head?_digitsOf hn

theorem IsWhole.before_zeros {n : Nat} (hn : n ≠ 0) (k : Nat) : IsWhole (digitsOf n ++ zeros k) := by
  refine ⟨(Sql.isDigits_digitsOf n).before_zeros k, .inr ?_⟩
  rw [List.head?_append_of_ne_nil _ (Sql.isDigits_digitsOf n).1]
  exact head?_digitsOf hn

theorem ofDigitChars_before_zeros (n k : Nat) :
    Nat.ofDigitChars 10 (digitsOf n ++ zeros k) 0 = n * 10 ^ k := by
  rw [zeros, Nat.ofDigitChars_append, Nat.ofDigitChars_replicate_zero, ofDigitChars_digitsOf, Nat.mul_comm]

theorem ofDigitChars_behind_zeros (n k : Nat) :
    Nat.ofDigitChars 10 (zeros k ++ digitsOf n) 0 = n := by
  rw [zeros, Nat.ofDigitChars_append, Nat.ofDigitChars_replicate_zero]
  simpa using ofDigitChars_digitsOf n

/-- All digits stand behind the point. -/
theorem spells_positional_behind (n : Nat) {whole : Int} (hwhole : whole ≤ 0) :
    ∃ d : ScaledDigits, Spells (positional (digitsOf n) whole) d ∧
      d.value = n * 10 ^ (whole - (digitsOf n).length) := by
  have hdigits := Sql.isDigits_digitsOf n
  have htext : positional (digitsOf n) whole = ['0'] ++ '.' :: (zeros (-whole).toNat ++ digitsOf n) := by
    simp only [positional, if_pos hwhole]
    rfl
  have hzeros : ['0'] ++ (zeros (-whole).toNat ++ digitsOf n) =
      zeros ((-whole).toNat + 1) ++ digitsOf n := rfl
  have hexponent : -((zeros (-whole).toNat ++ digitsOf n).length : Int) = whole - (digitsOf n).length := by
    rw [List.length_append, zeros, List.length_replicate]
    omega
  rw [htext]
  refine ⟨_, .point isWhole_zero (hdigits.behind_zeros _), ?_⟩
  rw [ScaledDigits.value, hzeros, ofDigitChars_behind_zeros, hexponent]

/-- All digits stand before the point, with zeros between. -/
theorem spells_positional_before {n : Nat} (hn : n ≠ 0) (k : Nat) :
    ∃ d : ScaledDigits, Spells (positional (digitsOf n) ((digitsOf n).length + k)) d ∧
      d.value = n * 10 ^ k := by
  have hlength : 0 < (digitsOf n).length := List.length_pos_of_ne_nil (Sql.isDigits_digitsOf n).1
  have hwhole : ¬ ((digitsOf n).length + k : Int) ≤ 0 := by omega
  have hplaces : ((digitsOf n).length + k : Int).toNat = (digitsOf n).length + k := by omega
  have hback : (digitsOf n).length ≤ (digitsOf n).length + k := Nat.le_add_right _ _
  have htext : positional (digitsOf n) ((digitsOf n).length + k) = digitsOf n ++ zeros k ++ '.' :: ['0'] := by
    simp only [positional, if_neg hwhole, hplaces, List.drop_of_length_le hback,
      List.take_of_length_le hback, Nat.add_sub_cancel_left]
    rfl
  have hzeros : digitsOf n ++ zeros k ++ ['0'] = digitsOf n ++ zeros (k + 1) := by
    rw [List.append_assoc]
    exact congrArg _ List.replicate_succ'.symm
  rw [htext]
  refine ⟨_, .point (.before_zeros hn _) Sql.isDigits_zero, ?_⟩
  rw [ScaledDigits.value, hzeros, ofDigitChars_before_zeros]
  push_cast
  rw [List.length_singleton, Nat.cast_one, zpow_neg_one, pow_succ]
  field_simp

/-- The point stands among the digits. -/
theorem spells_positional_among {n k : Nat} (hn : n ≠ 0) (hk : 0 < k) (hlt : k < (digitsOf n).length) :
    ∃ d : ScaledDigits, Spells (positional (digitsOf n) k) d ∧
      d.value = n * 10 ^ (k - (digitsOf n).length : Int) := by
  have hrest : (digitsOf n).drop k ≠ [] := by
    rw [Ne, List.drop_eq_nil_iff]
    omega
  have htext : positional (digitsOf n) k = (digitsOf n).take k ++ '.' :: (digitsOf n).drop k := by
    have hwhole : ¬ (k : Int) ≤ 0 := by omega
    have hzeros : k - (digitsOf n).length = 0 := by omega
    simp only [positional, if_neg hwhole, Int.toNat_natCast, List.isEmpty_iff, hrest, if_false, hzeros]
    simp [zeros]
  have hexponent : -(((digitsOf n).drop k).length : Int) = k - (digitsOf n).length := by
    rw [List.length_drop]
    omega
  rw [htext]
  refine ⟨_, .point (.prefix_of_digitsOf hn hk) ((Sql.isDigits_digitsOf n).drop hrest), ?_⟩
  rw [ScaledDigits.value, List.take_append_drop, ofDigitChars_digitsOf, hexponent]

theorem spells_positional {n : Nat} (hn : n ≠ 0) (exponent : Int) :
    ∃ d : ScaledDigits, Spells (positional (digitsOf n) (exponent + (digitsOf n).length)) d ∧
      d.value = n * 10 ^ exponent := by
  rcases le_or_gt (exponent + (digitsOf n).length) 0 with hsmall | hlarge
  · simpa using spells_positional_behind n hsmall
  · rcases le_or_gt 0 exponent with hback | hinside
    · obtain ⟨k, rfl⟩ := Int.eq_ofNat_of_zero_le hback
      rw [add_comm]
      simpa using spells_positional_before hn k
    · obtain ⟨k, hk⟩ := Int.eq_ofNat_of_zero_le hlarge.le
      have hexponent : exponent = k - (digitsOf n).length := by omega
      rw [hk, hexponent]
      exact spells_positional_among hn (by omega) (by omega)

theorem withSign_natAbs (n : Int) : withSign (decide (n < 0)) n.natAbs = n := by
  simp only [withSign, decide_eq_true_eq]
  split <;> omega

theorem spells_withExponent {n : Nat} (hn : n ≠ 0) (width : Nat) (exponent : Int) :
    ∃ d : ScaledDigits, Spells (withExponent width (digitsOf n) (exponent + (digitsOf n).length - 1)) d ∧
      d.value = n * 10 ^ exponent := by
  have hdigits := Sql.isDigits_digitsOf n
  have hlength : 0 < (digitsOf n).length := List.length_pos_of_ne_nil hdigits.1
  generalize hleading : exponent + ((digitsOf n).length : Int) - 1 = leading
  have htext : withExponent width (digitsOf n) leading =
      (digitsOf n).take 1 ++ (if ((digitsOf n).drop 1).isEmpty then [] else '.' :: (digitsOf n).drop 1) ++
        'e' :: (if decide (leading < 0) then '-' else '+') :: paddedDigits width leading.natAbs := by
    simp only [withExponent, decide_eq_true_eq]
  have hexponent : leading - ((digitsOf n).drop 1).length = exponent := by
    rw [List.length_drop]
    omega
  rw [htext]
  refine ⟨_, .power (.prefix_of_digitsOf hn Nat.one_pos)
    (fun c hc => hdigits.2 c (List.mem_of_mem_drop hc)) _ (isDigits_paddedDigits _ _), ?_⟩
  rw [ScaledDigits.value, List.take_append_drop, ofDigitChars_digitsOf, ofDigitChars_paddedDigits,
    withSign_natAbs, hexponent]

/-- A layout spells a decimal that is equal to the one laid out. -/
theorem spells_digits (layout : NumberLayout) (d : ScaledDigits) :
    ∃ read : ScaledDigits, Spells (layout.digits d) read ∧ read.value = d.value := by
  simp only [NumberLayout.digits]
  split
  next hzero =>
    refine ⟨_, .point isWhole_zero Sql.isDigits_zero, ?_⟩
    rw [ScaledDigits.value_eq_zero.mpr hzero, ScaledDigits.value_eq_zero]
    rfl
  next hne =>
    split
    · have hwhole : d.exponent + (digitsOf d.digits).length - 1 + 1 =
          d.exponent + (digitsOf d.digits).length := by omega
      rw [hwhole]
      exact spells_positional hne d.exponent
    · exact spells_withExponent hne layout.exponentWidth d.exponent

/-! ### Reading -/

theorem cutAt_of_forall {stop : Char → Bool} (h : ∀ c ∈ text, stop c = false) :
    Text.cutAt stop text = (text, none) := by
  have hdrop : text.dropWhile (!stop ·) = [] := List.dropWhile_eq_nil_iff.mpr (by simpa using h)
  rw [Text.cutAt, hdrop]

theorem cutAt_append {stop : Char → Bool} (h : ∀ c ∈ text, stop c = false) {mark : Char}
    (hmark : stop mark = true) (rest : List Char) :
    Text.cutAt stop (text ++ mark :: rest) = (text, some rest) := by
  have hall : ∀ c ∈ text, (!stop c) = true := by simpa using h
  have hdrop : (text ++ mark :: rest).dropWhile (!stop ·) = mark :: rest := by
    rw [List.dropWhile_append_of_pos hall]
    simp [hmark]
  have htake : (text ++ mark :: rest).takeWhile (!stop ·) = text := by
    rw [List.takeWhile_append_of_pos hall]
    simp [hmark]
  simp only [Text.cutAt, hdrop, htake]

theorem ne_of_isDigit {c d : Char} (hc : c.isDigit = true) (hd : d.isDigit = false) : c ≠ d := by
  rintro rfl
  rw [hc] at hd
  cases hd

theorem not_isPowerMark {c : Char} (h : c.isDigit = true) :
    (decide (c = 'e') || decide (c = 'E')) = false := by
  have he := ne_of_isDigit (d := 'e') h rfl
  have hE := ne_of_isDigit (d := 'E') h rfl
  simp [he, hE]

/-- The parts into which the text of a number falls. -/
structure HasParts (text whole : List Char) (fraction power : Option (List Char)) : Prop where
  cuts : ∃ mantissa, Text.cutAt (fun c => c = 'e' || c = 'E') text = (mantissa, power) ∧
    Text.cutAt (· = '.') mantissa = (whole, fraction)
  whole : IsWhole whole
  fraction : fraction ≠ some []
  unsigned : text.head? ≠ some '-'

variable {whole : List Char} {fraction power : Option (List Char)}

theorem number?_of_parts (h : HasParts text whole fraction power) (negative : Bool) :
    Json.number? (if negative then '-' :: text else text) =
      if fraction = none ∧ power = none then
        (Text.natural? whole).bind fun n =>
          if fitsDigitLimit (withSign negative n) then some (.integer (withSign negative n)) else none
      else (Text.scaledDigits? text).map fun d => .float (.ofDecimal negative d.digits d.exponent) := by
  obtain ⟨⟨mantissa, hpower, hpoint⟩, hwhole, hfraction, hunsigned⟩ := h
  have hempty : whole.isEmpty = false := by simpa using hwhole.digits.1
  have htidy : (whole.length != 1 && whole.head? == some '0') = false := by
    have := hwhole.tidy
    simp only [Bool.and_eq_false_iff, bne_eq_false_iff_eq, beq_eq_false_iff_ne]
    exact this
  have hplaces : (fraction == some []) = false := by simpa using hfraction
  cases negative with
  | true =>
    simp only [Json.number?, if_true, hpower, hpoint, hempty, htidy, hplaces]
    cases fraction <;> cases power <;> simp [Option.map_eq_bind]
  | false =>
    have hsign : ∀ rest, text ≠ '-' :: rest := by
      rintro rest rfl
      exact hunsigned rfl
    simp only [Json.number?, Bool.false_eq_true, if_false, hpower, hpoint, hempty, htidy, hplaces]
    cases fraction <;> cases power <;> simp [Option.map_eq_bind]

theorem scaledDigits?_of_parts (h : HasParts text whole fraction power)
    (hdigits : ∀ c ∈ fraction.getD [], c.isDigit = true) :
    Text.scaledDigits? text = ((power.map Text.signedInteger?).getD (some 0)).map fun shift =>
      ⟨Nat.ofDigitChars 10 (whole ++ fraction.getD []) 0, shift - (fraction.getD []).length⟩ := by
  obtain ⟨⟨mantissa, hpower, hpoint⟩, hwhole, -, -⟩ := h
  have hempty : (whole ++ fraction.getD []).isEmpty = false := by simp [hwhole.digits.1]
  have hall : ∀ c ∈ whole ++ fraction.getD [], c.isDigit = true :=
    List.forall_mem_append.mpr ⟨hwhole.digits.2, hdigits⟩
  simp only [Text.scaledDigits?, hpower, hpoint, hempty, natural?_of_isDigit hall]
  cases power <;> simp [Option.map_eq_bind]

theorem signedInteger?_of_isDigits {digits : List Char} (h : IsDigits digits) (negative : Bool) :
    Text.signedInteger? ((if negative then '-' else '+') :: digits) =
      some (withSign negative (Nat.ofDigitChars 10 digits 0)) := by
  have hempty : digits.isEmpty = false := by simpa using h.1
  cases negative <;> simp [Text.signedInteger?, Text.cutSign, hempty, natural?_of_isDigit h.2]

theorem head?_of_isDigits {digits : List Char} (h : IsDigits digits) (rest : List Char) :
    (digits ++ rest).head? ≠ some '-' := by
  rw [List.head?_append_of_ne_nil _ h.1]
  intro hhead
  exact absurd (h.2 _ (List.mem_of_mem_head? hhead)) (by decide)

theorem HasParts.of_digits (h : IsWhole text) : HasParts text text none none := by
  have hpower : ∀ c ∈ text, (decide (c = 'e') || decide (c = 'E')) = false := fun c hc =>
    not_isPowerMark (h.digits.2 c hc)
  have hpoint : ∀ c ∈ text, decide (c = '.') = false := fun c hc =>
    decide_eq_false (ne_of_isDigit (h.digits.2 c hc) rfl)
  have hunsigned := head?_of_isDigits h.digits []
  rw [List.append_nil] at hunsigned
  exact ⟨⟨text, cutAt_of_forall hpower, cutAt_of_forall hpoint⟩, h, by simp, hunsigned⟩

theorem cutAt_point {whole : List Char} (h : IsDigits whole) (fraction : List Char) :
    Text.cutAt (· = '.') (whole ++ (if fraction.isEmpty then [] else '.' :: fraction)) =
      (whole, if fraction.isEmpty then none else some fraction) := by
  have hpoint : ∀ c ∈ whole, decide (c = '.') = false := fun c hc =>
    decide_eq_false (ne_of_isDigit (h.2 c hc) rfl)
  split
  · rw [List.append_nil]
    exact cutAt_of_forall hpoint
  · exact cutAt_append hpoint (by decide) fraction

theorem not_isPowerMark_mantissa {whole fraction : List Char} (h : IsDigits whole)
    (hfraction : ∀ c ∈ fraction, c.isDigit = true) :
    ∀ c ∈ whole ++ (if fraction.isEmpty then [] else '.' :: fraction),
      (decide (c = 'e') || decide (c = 'E')) = false := by
  intro c hc
  rcases List.mem_append.mp hc with hc | hc
  · exact not_isPowerMark (h.2 c hc)
  · split at hc
    · cases hc
    · rcases List.mem_cons.mp hc with rfl | hc
      · decide
      · exact not_isPowerMark (hfraction c hc)

theorem HasParts.of_point {whole fraction : List Char} (h : IsWhole whole) (hfraction : IsDigits fraction) :
    HasParts (whole ++ '.' :: fraction) whole (some fraction) none := by
  have hempty : ¬ fraction.isEmpty := by simpa using hfraction.1
  have hpower := not_isPowerMark_mantissa h.digits hfraction.2
  have hpoint := cutAt_point h.digits fraction
  rw [if_neg hempty] at hpower hpoint
  rw [if_neg hempty] at hpoint
  exact ⟨⟨_, cutAt_of_forall hpower, hpoint⟩, h, by simpa using hfraction.1, head?_of_isDigits h.digits _⟩

theorem HasParts.of_power {whole fraction : List Char} (h : IsWhole whole)
    (hfraction : ∀ c ∈ fraction, c.isDigit = true) (power : List Char) :
    HasParts (whole ++ (if fraction.isEmpty then [] else '.' :: fraction) ++ 'e' :: power) whole
      (if fraction.isEmpty then none else some fraction) (some power) := by
  have hmark : (decide ('e' = 'e') || decide ('e' = 'E')) = true := by decide
  have hpower := cutAt_append (not_isPowerMark_mantissa h.digits hfraction) hmark power
  refine ⟨⟨_, hpower, cutAt_point h.digits fraction⟩, h, ?_, ?_⟩
  · split <;> simp_all
  · rw [List.append_assoc]
    exact head?_of_isDigits h.digits _

/-- The text of a number with a point or an exponent is read as the number nearest to the decimal that it
spells. -/
theorem number?_of_spells {d : ScaledDigits} (h : Spells text d) (negative : Bool) :
    Json.number? (if negative then '-' :: text else text) =
      some (.float (.ofDecimal negative d.digits d.exponent)) := by
  cases h with
  | point hwhole hfraction =>
    have hparts := HasParts.of_point hwhole hfraction
    rw [number?_of_parts hparts, scaledDigits?_of_parts hparts hfraction.2]
    simp
  | @power whole fraction power hwhole hfraction minus hpower =>
    have hparts := HasParts.of_power hwhole hfraction ((if minus then '-' else '+') :: power)
    have hplaces : (if fraction.isEmpty then none else some fraction).getD [] = fraction := by
      split <;> simp_all
    rw [number?_of_parts hparts, scaledDigits?_of_parts hparts (by rwa [hplaces]), hplaces]
    simp [signedInteger?_of_isDigits hpower]

theorem isWhole_digitsOf (n : Nat) : IsWhole (digitsOf n) := by
  by_cases hn : n = 0
  · rw [hn]
    exact isWhole_zero
  · exact ⟨Sql.isDigits_digitsOf n, .inr (head?_digitsOf hn)⟩

/-- An integer is read from its digits unless it has too many of them. -/
theorem number?_integerDigits (n : Int) :
    Json.number? (integerDigits n) = if fitsDigitLimit n then some (.integer n) else none := by
  have hsigned : integerDigits n =
      if decide (n < 0) then '-' :: digitsOf n.natAbs else digitsOf n.natAbs := by
    simp [integerDigits]
  rw [hsigned, number?_of_parts (.of_digits (isWhole_digitsOf n.natAbs)), if_pos ⟨rfl, rfl⟩,
    natural?_of_isDigit (Sql.isDigits_digitsOf _).2, ofDigitChars_digitsOf, Option.bind_some, withSign_natAbs]

theorem number?_finite (negative : Bool) (x : Magnitude) :
    Json.number? (jsonLayout.finite negative x) = some (.float (.finite negative x)) := by
  obtain ⟨d, hspells, hvalue⟩ := spells_digits jsonLayout x.shortest
  rw [← Binary64.ofDecimal_eq hvalue negative]
  exact number?_of_spells hspells negative

end Insights
