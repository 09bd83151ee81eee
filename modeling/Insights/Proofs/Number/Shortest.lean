import Mathlib.Data.List.TakeWhile
import Insights.Proofs.Number.Rounding

/-!
The decimals that read back to a binary number. A decimal that lies in the interval of a magnitude is
rounded to it, however its digits are split between the coefficient and the exponent, and the shortest
decimal lies there.
-/

namespace Insights

/-- The number that scaled digits stand for. -/
def ScaledDigits.value (d : ScaledDigits) : ℚ :=
  d.digits * 10 ^ d.exponent

namespace ScaledDigits

variable {d : ScaledDigits}

theorem value_mul (d : ScaledDigits) :
    d.value * 10 ^ (-d.exponent).toNat = d.digits * 10 ^ d.exponent.toNat := by
  obtain ⟨n, h | h⟩ := d.exponent.eq_nat_or_neg
  · simp [value, h]
  · simp [value, h]

theorem value_eq_zero : d.value = 0 ↔ d.digits = 0 := by
  have hpower : (10 : ℚ) ^ d.exponent ≠ 0 := zpow_ne_zero _ (by norm_num)
  simp [value, hpower]

/-- Digits and the zeros behind them. -/
theorem eq_mul_of_toDigits {n k : Nat} {front : List Char}
    (h : Nat.toDigits 10 n = front ++ List.replicate k '0') : n = n / 10 ^ k * 10 ^ k := by
  have hn : n = Nat.ofDigitChars 10 front 0 * 10 ^ k := by
    rw [← Nat.ofDigitChars_ten_toDigits (n := n), h, Nat.ofDigitChars_append,
      Nat.ofDigitChars_replicate_zero, Nat.mul_comm]
  rw [hn, Nat.mul_div_cancel _ (by positivity)]

theorem takeWhile_zeros (text : List Char) :
    text.takeWhile (· == '0') = List.replicate (text.takeWhile (· == '0')).length '0' := by
  apply List.eq_replicate_of_mem
  intro c hc
  simpa using List.mem_takeWhile_imp hc

theorem value_strip (d : ScaledDigits) : d.strip.value = d.value := by
  simp only [strip]
  split
  · rfl
  · generalize hk : (((Nat.toDigits 10 d.digits).reverse).takeWhile (· == '0')).length = k
    have hsplit : Nat.toDigits 10 d.digits =
        ((Nat.toDigits 10 d.digits).reverse.dropWhile (· == '0')).reverse ++ List.replicate k '0' := by
      have hreverse := List.takeWhile_append_dropWhile (p := (· == '0')) (l := (Nat.toDigits 10 d.digits).reverse)
      rw [takeWhile_zeros, hk] at hreverse
      have := congrArg List.reverse hreverse
      simpa using this.symm
    have hdigits := eq_mul_of_toDigits hsplit
    have hcast : (d.digits : ℚ) = (d.digits / 10 ^ k : Nat) * 10 ^ k := by exact_mod_cast hdigits
    simp only [value, Nat.pow_eq]
    rw [hcast, zpow_add₀ (by norm_num), zpow_natCast]
    ring

end ScaledDigits

namespace Magnitude

variable {x : Magnitude} {d : ScaledDigits}

/-- A quarter of the last place of a magnitude. -/
def quarter (x : Magnitude) : ℚ :=
  2 ^ ((x.exponent : ℤ) - 1076)

theorem quarter_pos (x : Magnitude) : 0 < x.quarter := by
  unfold quarter
  positivity

theorem quarter_mul (x : Magnitude) : x.quarter * x.interval.unitDivisor = x.interval.unitDividend := by
  simp only [quarter, interval, Nat.pow_eq, Nat.cast_pow, Nat.cast_ofNat]
  rcases Nat.le_total 1076 x.exponent with h | h
  · obtain ⟨k, hk⟩ := Nat.exists_eq_add_of_le h
    simp [hk]
  · obtain ⟨k, hk⟩ := Nat.exists_eq_add_of_le h
    have hexponent : (x.exponent : ℤ) - 1076 = -(k : ℤ) := by omega
    have hbelow : x.exponent - 1076 = 0 := by omega
    have habove : 1076 - x.exponent = k := by omega
    rw [hexponent, hbelow, habove, zpow_neg, zpow_natCast, pow_zero]
    exact inv_mul_cancel₀ (by positivity)

/-- The numbers that round to a magnitude: those between the ends of its interval, and the ends as well
when the mantissa is even. -/
structure Rounds (x : Magnitude) (v : ℚ) : Prop where
  low : x.interval.low * x.quarter ≤ v
  high : v ≤ x.interval.high * x.quarter
  inside : x.mantissa % 2 = 1 → x.interval.low * x.quarter ≠ v ∧ v ≠ x.interval.high * x.quarter

/-- The two numbers that are compared when a decimal is looked for in an interval. -/
theorem holds_terms (x : Magnitude) (d : ScaledDigits) : ∃ k : ℚ, 0 < k ∧
    ((d.digits * 10 ^ d.exponent.toNat * x.interval.unitDivisor : Nat) : ℚ) = d.value * k ∧
    ∀ n : Nat, ((n * (x.interval.unitDividend * 10 ^ (-d.exponent).toNat) : Nat) : ℚ) =
      n * x.quarter * k := by
  have hdivisor : 0 < x.interval.unitDivisor := Nat.two_pow_pos _
  refine ⟨x.interval.unitDivisor * 10 ^ (-d.exponent).toNat, by positivity, ?_, ?_⟩
  · have := d.value_mul
    push_cast
    rw [← this]
    ring
  · intro n
    have := x.quarter_mul
    push_cast
    rw [← this]
    ring

theorem rounds_of_holds (h : x.interval.holds d = true) : x.Rounds d.value := by
  obtain ⟨k, hk, hpoint, hunit⟩ := x.holds_terms d
  have hle : ∀ n : Nat, n * (x.interval.unitDividend * 10 ^ (-d.exponent).toNat) ≤
      d.digits * 10 ^ d.exponent.toNat * x.interval.unitDivisor ↔ n * x.quarter ≤ d.value := by
    intro n
    rw [← Nat.cast_le (α := ℚ), hpoint, hunit, mul_le_mul_iff_left₀ hk]
  have hge : ∀ n : Nat, d.digits * 10 ^ d.exponent.toNat * x.interval.unitDivisor ≤
      n * (x.interval.unitDividend * 10 ^ (-d.exponent).toNat) ↔ d.value ≤ n * x.quarter := by
    intro n
    rw [← Nat.cast_le (α := ℚ), hpoint, hunit, mul_le_mul_iff_left₀ hk]
  have hclosed : x.interval.closed = (x.mantissa % 2 == 0) := rfl
  simp only [RoundingInterval.holds, Nat.pow_eq, hclosed, beq_iff_eq] at h
  split at h
  next heven =>
    simp only [Bool.and_eq_true, decide_eq_true_eq, hle, hge] at h
    exact ⟨h.1, h.2, fun hodd => absurd hodd (by omega)⟩
  next =>
    simp only [Bool.and_eq_true, decide_eq_true_eq, ← not_le, hle, hge] at h
    exact ⟨(not_le.mp h.1).le, (not_le.mp h.2).le, fun _ => ⟨(not_le.mp h.1).ne, (not_le.mp h.2).ne⟩⟩

theorem value_exact (x : Magnitude) : x.exact.value = 4 * x.mantissa * x.quarter := by
  simp only [exact, quotient, quarter, ScaledDigits.value, Nat.pow_eq]
  rcases Nat.le_total 1074 x.exponent with h | h
  · obtain ⟨k, hk⟩ := Nat.exists_eq_add_of_le h
    have hexponent : (x.exponent : ℤ) - 1076 = k - 2 := by omega
    rw [if_pos h, hexponent, zpow_sub₀ (by norm_num), zpow_natCast, hk]
    simp
    ring
  · obtain ⟨k, hk⟩ := Nat.exists_eq_add_of_le h
    have hexponent : (x.exponent : ℤ) - 1076 = -(k : ℤ) - 2 := by omega
    have hbelow : 1074 - x.exponent = k := by omega
    have hten : (10 : ℚ) ^ k = 2 ^ k * 5 ^ k := by rw [← mul_pow]; norm_num
    have hmantissa : (if 1074 ≤ x.exponent then (x.mantissa * 2 ^ (x.exponent - 1074), 1)
        else (x.mantissa, 2 ^ (1074 - x.exponent))).1 = x.mantissa := by
      split
      next hge =>
        have hzero : x.exponent - 1074 = 0 := by omega
        simp [hzero]
      next => rfl
    rw [hmantissa, hbelow, hexponent, zpow_sub₀ (by norm_num), zpow_neg, zpow_neg, zpow_natCast, zpow_natCast, hten]
    push_cast
    field_simp

theorem rounds_exact (hx : x.mantissa ≠ 0) : x.Rounds x.exact.value := by
  have hquarter := x.quarter_pos
  have hlow : x.interval.low < 4 * x.mantissa := by
    simp only [interval]
    split <;> omega
  have hhigh : 4 * x.mantissa < x.interval.high := by
    simp only [interval]
    omega
  have hbelow : x.interval.low * x.quarter < x.exact.value := by
    rw [value_exact]
    gcongr
    exact_mod_cast hlow
  have habove : x.exact.value < x.interval.high * x.quarter := by
    rw [value_exact]
    gcongr
    exact_mod_cast hhigh
  exact ⟨hbelow.le, habove.le, fun _ => ⟨hbelow.ne, habove.ne⟩⟩

theorem holds_of_onGrid? {i : RoundingInterval} {exponent : ℤ} (h : i.onGrid? exponent = some d) :
    i.holds d = true := by
  unfold RoundingInterval.onGrid? at h
  extract_lets _ _ below nearest other at h
  split at h
  next hnearest =>
    obtain rfl := Option.some.inj h
    exact hnearest
  next =>
    split at h
    next hother =>
      obtain rfl := Option.some.inj h
      exact hother
    next => cases h

theorem rounds_shortest (hx : x.mantissa ≠ 0) : x.Rounds x.shortest.value := by
  simp only [shortest, if_neg hx, ScaledDigits.value_strip]
  generalize hfound : List.findSome? _ _ = found
  cases found with
  | none => exact rounds_exact hx
  | some d =>
    obtain ⟨n, -, hgrid⟩ := List.exists_of_findSome?_eq_some hfound
    exact rounds_of_holds (holds_of_onGrid? hgrid)

theorem value_shortest_zero (hx : x.mantissa = 0) : x.shortest.value = 0 := by
  simp [shortest, hx, ScaledDigits.value]

theorem eq_zero_of_mantissa (hx : x.mantissa = 0) : x = zero := by
  obtain ⟨mantissa, exponent, hlt, hle, hnormal⟩ := x
  obtain rfl : mantissa = 0 := hx
  obtain rfl : exponent = 0 := by omega
  rfl

end Magnitude

/-! ### Reading -/

section Reading

variable {x : Magnitude} {d : ScaledDigits}

theorem Magnitude.quarter_mul_pow (x : Magnitude) {places : Nat} (h : 1074 = places) :
    x.quarter * (4 * 2 ^ places) = 2 ^ x.exponent := by
  have hexponent : (x.exponent : ℤ) = (x.exponent : ℤ) - 1076 + (2 + places : Nat) := by omega
  have hfour : (4 : ℚ) * 2 ^ places = 2 ^ (2 + places) := by
    rw [pow_add]
    norm_num
  rw [quarter, hfour, ← zpow_natCast, ← zpow_natCast, ← zpow_add₀ (by norm_num), ← hexponent]

theorem Magnitude.Rounds.roundsScaled (h : x.Rounds d.value) :
    x.RoundsScaled (d.digits * 10 ^ d.exponent.toNat * 2 ^ 1074) (10 ^ (-d.exponent).toNat) := by
  generalize hplaces : 1074 = places
  obtain ⟨hlow, hhigh, hinside⟩ := h
  have hk : (0 : ℚ) < 4 * 2 ^ places * 10 ^ (-d.exponent).toNat := by positivity
  have hpoint : ((4 * (d.digits * 10 ^ d.exponent.toNat * 2 ^ places) : Nat) : ℚ) =
      d.value * (4 * 2 ^ places * 10 ^ (-d.exponent).toNat) := by
    have := d.value_mul
    push_cast
    rw [← this]
    ring
  have hend : ∀ n : Nat, ((n * (10 ^ (-d.exponent).toNat * 2 ^ x.exponent) : Nat) : ℚ) =
      n * x.quarter * (4 * 2 ^ places * 10 ^ (-d.exponent).toNat) := by
    intro n
    have := x.quarter_mul_pow hplaces
    push_cast
    rw [← this]
    ring
  constructor
  · rw [← Nat.cast_le (α := ℚ), hpoint, hend]
    gcongr
  · rw [← Nat.cast_le (α := ℚ), hpoint, hend]
    gcongr
  · intro hodd
    obtain ⟨hne, hne'⟩ := hinside hodd
    constructor
    · rw [← Nat.cast_inj (R := ℚ) |>.ne, hpoint, hend]
      exact fun heq => hne (mul_right_cancel₀ hk.ne' heq)
    · rw [← Nat.cast_inj (R := ℚ) |>.ne, hpoint, hend]
      exact fun heq => hne' (mul_right_cancel₀ hk.ne' heq)

theorem Magnitude.low_pos (hx : x.mantissa ≠ 0) : 0 < x.interval.low := by
  simp only [interval]
  split <;> omega

theorem Magnitude.Rounds.digits_ne_zero (hx : x.mantissa ≠ 0) (h : x.Rounds d.value) : d.digits ≠ 0 := by
  have hquarter := x.quarter_pos
  have hlow : (0 : ℚ) < x.interval.low := by exact_mod_cast low_pos hx
  have hpos : 0 < d.value := lt_of_lt_of_le (by positivity) h.low
  intro hzero
  exact hpos.ne' (ScaledDigits.value_eq_zero.mpr hzero)

theorem decimalLength_bounds {n : Nat} (hn : n ≠ 0) :
    10 ^ (decimalLength n - 1) ≤ n ∧ n < 10 ^ decimalLength n := by
  have hpos : 0 < decimalLength n := Nat.length_toDigits_pos
  constructor
  · by_cases hone : decimalLength n - 1 = 0
    · rw [hone, pow_zero]
      omega
    · by_contra hlt
      have hshort := (Nat.length_toDigits_le_iff (by norm_num) (by omega)).mpr (not_le.mp hlt)
      simp only [decimalLength] at *
      omega
  · exact (Nat.length_toDigits_le_iff (by norm_num) hpos).mp le_rfl

theorem pow_le_pow_of_nat {a b : Nat} (h : 2 ^ a ≤ 10 ^ b) : (2 : ℚ) ^ a ≤ 10 ^ b := by
  exact_mod_cast h

theorem Magnitude.Rounds.ge (hx : x.mantissa ≠ 0) (h : x.Rounds d.value) :
    (10 : ℚ) ^ (-(330 : Nat) : ℤ) ≤ d.value := by
  have hlow : (1 : ℚ) ≤ x.interval.low := by exact_mod_cast low_pos hx
  calc
    (10 : ℚ) ^ (-(330 : Nat) : ℤ) = (10 ^ 330)⁻¹ := by rw [zpow_neg, zpow_natCast]
    _ ≤ (2 ^ 1076)⁻¹ := inv_anti₀ (by positivity) (pow_le_pow_of_nat (by decide +kernel))
    _ = 2 ^ (-(1076 : Nat) : ℤ) := by rw [zpow_neg, zpow_natCast]
    _ ≤ x.quarter := zpow_le_zpow_right₀ (by norm_num) (by omega)
    _ ≤ x.interval.low * x.quarter := le_mul_of_one_le_left x.quarter_pos.le hlow
    _ ≤ d.value := h.low

theorem Magnitude.Rounds.le (h : x.Rounds d.value) : d.value ≤ (10 : ℚ) ^ (309 : Nat) := by
  have hexponent := x.exponent_le
  have hlt := x.mantissa_lt
  have hhigh : (x.interval.high : ℚ) ≤ 2 ^ (55 : ℤ) := by
    have : x.interval.high ≤ 2 ^ 55 := by
      simp only [interval]
      omega
    exact_mod_cast this
  calc
    d.value ≤ x.interval.high * x.quarter := h.high
    _ ≤ 2 ^ (55 : ℤ) * 2 ^ (969 : ℤ) := by
        have : x.quarter ≤ 2 ^ (969 : ℤ) := zpow_le_zpow_right₀ (by norm_num) (by omega)
        have := x.quarter_pos.le
        gcongr
    _ = 2 ^ ((1024 : Nat) : ℤ) := by rw [← zpow_add₀ (by norm_num)]; rfl
    _ = 2 ^ 1024 := zpow_natCast _ _
    _ ≤ 10 ^ 309 := pow_le_pow_of_nat (by decide +kernel)

/-- The decimals that round to a magnitude lie within the range in which decimals are looked at. -/
theorem Magnitude.Rounds.leading (hx : x.mantissa ≠ 0) (h : x.Rounds d.value) :
    -330 ≤ decimalLength d.digits + d.exponent ∧ decimalLength d.digits + d.exponent ≤ 310 := by
  have hdigits := h.digits_ne_zero hx
  obtain ⟨hlower, hupper⟩ := decimalLength_bounds hdigits
  have hlength : 0 < decimalLength d.digits := Nat.length_toDigits_pos
  have hbelow : (10 : ℚ) ^ ((decimalLength d.digits - 1 : Nat) + d.exponent) ≤ d.value := by
    rw [zpow_add₀ (by norm_num), zpow_natCast, ScaledDigits.value]
    gcongr
    exact_mod_cast hlower
  have habove : d.value < (10 : ℚ) ^ (decimalLength d.digits + d.exponent) := by
    rw [zpow_add₀ (by norm_num), zpow_natCast, ScaledDigits.value]
    gcongr
    exact_mod_cast hupper
  constructor
  · have := (zpow_lt_zpow_iff_right₀ (by norm_num)).mp ((h.ge hx).trans_lt habove)
    omega
  · have hle := hbelow.trans h.le
    rw [← zpow_natCast] at hle
    have := (zpow_le_zpow_iff_right₀ (by norm_num)).mp hle
    omega

theorem Binary64.nearest_of {dividend divisor : Nat} (h : Magnitude.nearest? dividend divisor = some x)
    (negative : Bool) : Binary64.nearest negative dividend divisor = .finite negative x := by
  rw [nearest, h]
  rfl

/-- Every decimal that lies in the interval of a magnitude is read as it. -/
theorem Binary64.ofDecimal_of_rounds (hx : x.mantissa ≠ 0) (h : x.Rounds d.value) (negative : Bool) :
    Binary64.ofDecimal negative d.digits d.exponent = .finite negative x := by
  obtain ⟨hlow, hhigh⟩ := h.leading hx
  have hsmall : ¬ (d.digits = 0 ∨ decimalLength d.digits + d.exponent < -330) := by
    rw [not_or, not_lt]
    exact ⟨h.digits_ne_zero hx, hlow⟩
  have hnearest := Magnitude.nearest?_of_roundsScaled (by positivity) h.roundsScaled
  simp only [ofDecimal, Nat.pow_eq]
  rw [if_neg hsmall, if_neg (not_lt.mpr hhigh)]
  exact nearest_of hnearest negative

/-- Every decimal that is equal to the shortest one of a magnitude is read as it. -/
theorem Binary64.ofDecimal_eq {d : ScaledDigits} (h : d.value = x.shortest.value) (negative : Bool) :
    Binary64.ofDecimal negative d.digits d.exponent = .finite negative x := by
  by_cases hx : x.mantissa = 0
  · rw [Magnitude.value_shortest_zero hx] at h
    have hdigits := ScaledDigits.value_eq_zero.mp h
    simp only [ofDecimal]
    rw [if_pos (.inl hdigits), Magnitude.eq_zero_of_mantissa hx]
  · apply ofDecimal_of_rounds hx
    rw [h]
    exact Magnitude.rounds_shortest hx

end Reading
end Insights
