import Mathlib.Algebra.Order.Field.Power
import Mathlib.Data.Rat.Cast.Order
import Mathlib.Tactic.FieldSimp
import Mathlib.Tactic.Linarith
import Mathlib.Tactic.NormNum
import Mathlib.Tactic.Ring
import Insights.Number.Shortest

/-!
Reading a binary number from decimal digits. Every rational that lies in the interval of a magnitude is
rounded to that magnitude, so digits that lie there read back to it; in particular the shortest digits do.
-/

namespace Insights

/-- A number within half a divisor of a multiple has the multiple's factor as quotient, or the one before. -/
theorem div_eq_or_succ_eq {dividend divisor n : Nat} (hdivisor : 0 < divisor)
    (hlow : 2 * (n * divisor) ≤ 2 * dividend + divisor)
    (hhigh : 2 * dividend ≤ 2 * (n * divisor) + divisor) :
    n = dividend / divisor ∨ n = dividend / divisor + 1 := by
  have hbelow : dividend / divisor < n + 1 := by
    rw [Nat.div_lt_iff_lt_mul hdivisor, Nat.succ_mul]
    omega
  have habove : n ≤ dividend / divisor + 1 := by
    rw [← Nat.add_div_right dividend hdivisor, Nat.le_div_iff_mul_le hdivisor]
    omega
  omega

/-- The nearest integer, from the two halves around it. At a half the integer must be even. -/
theorem nearestQuotient_eq {dividend divisor n : Nat} (hdivisor : 0 < divisor)
    (hlow : 2 * (n * divisor) ≤ 2 * dividend + divisor)
    (hhigh : 2 * dividend ≤ 2 * (n * divisor) + divisor)
    (htie : n % 2 = 1 →
      2 * (n * divisor) ≠ 2 * dividend + divisor ∧ 2 * dividend ≠ 2 * (n * divisor) + divisor) :
    nearestQuotient dividend divisor = n := by
  have hsplit : dividend / divisor * divisor + dividend % divisor = dividend := Nat.div_add_mod' _ _
  have hcases := div_eq_or_succ_eq hdivisor hlow hhigh
  simp only [nearestQuotient]
  generalize dividend / divisor = q at *
  generalize dividend % divisor = r at *
  rcases hcases with rfl | rfl
  · have hhalf : ¬ divisor < 2 * r := by omega
    split_ifs with hbelow heven
    · rfl
    · rfl
    · have := (htie (by omega)).2
      omega
  · have hnext : (q + 1) * divisor = q * divisor + divisor := Nat.succ_mul _ _
    have hhalf : ¬ 2 * r < divisor := by omega
    split_ifs with habove heven
    · rfl
    · have := (htie (by omega)).1
      omega
    · rfl

namespace Magnitude

variable {x : Magnitude}

theorem ofParts?_self (x : Magnitude) : ofParts? x.mantissa x.exponent = some x := by
  rw [ofParts?, dif_pos ⟨x.mantissa_lt, x.exponent_le, x.normal⟩]

theorem nearest?_of {dividend divisor exponent mantissa : Nat}
    (hexponent : (dividend * 2 ^ 1074 / divisor).log2 + 1 - 53 = exponent)
    (hmantissa : nearestQuotient (dividend * 2 ^ 1074) (divisor * 2 ^ exponent) = mantissa) :
    nearest? dividend divisor =
      if mantissa = 9007199254740992 then ofParts? 4503599627370496 (exponent + 1)
      else ofParts? mantissa exponent := by
  rw [nearest?]
  generalize 1074 = places at *
  subst hexponent
  subst hmantissa
  rfl

/-- A quotient that rounds to a magnitude, in naturals: four times the dividend, counted in the least
place, lies between the ends of the interval. -/
structure RoundsScaled (x : Magnitude) (scaled divisor : Nat) : Prop where
  low : x.interval.low * (divisor * 2 ^ x.exponent) ≤ 4 * scaled
  high : 4 * scaled ≤ x.interval.high * (divisor * 2 ^ x.exponent)
  inside : x.mantissa % 2 = 1 → x.interval.low * (divisor * 2 ^ x.exponent) ≠ 4 * scaled ∧
    4 * scaled ≠ x.interval.high * (divisor * 2 ^ x.exponent)

/-- The exponent that is found for a quotient between two powers of two. -/
theorem exponent_eq {scaled divisor exponent : Nat} (hdivisor : 0 < divisor)
    (hlow : 2 ^ 52 * (divisor * 2 ^ exponent) ≤ scaled ∨ exponent = 0)
    (hhigh : scaled < 2 ^ 53 * (divisor * 2 ^ exponent)) :
    (scaled / divisor).log2 + 1 - 53 = exponent := by
  have hbelow : scaled / divisor < 2 ^ (53 + exponent) := by
    rw [Nat.div_lt_iff_lt_mul hdivisor]
    calc
      scaled < 2 ^ 53 * (divisor * 2 ^ exponent) := hhigh
      _ = 2 ^ (53 + exponent) * divisor := by ring
  rcases hlow with hlow | rfl
  · have habove : 2 ^ (52 + exponent) ≤ scaled / divisor := by
      rw [Nat.le_div_iff_mul_le hdivisor]
      calc
        2 ^ (52 + exponent) * divisor = 2 ^ 52 * (divisor * 2 ^ exponent) := by ring
        _ ≤ scaled := hlow
    have hpos : scaled / divisor ≠ 0 := by
      have := Nat.two_pow_pos (52 + exponent)
      omega
    have hlog : (scaled / divisor).log2 = 52 + exponent := by
      rw [Nat.log2_eq_iff hpos]
      refine ⟨habove, ?_⟩
      rwa [show 52 + exponent + 1 = 53 + exponent by omega]
    omega
  · have hlog : (scaled / divisor).log2 < 53 := by
      by_cases hzero : scaled / divisor = 0
      · rw [hzero]
        decide
      · rwa [Nat.log2_lt hzero]
    omega

/-- A quotient in the interval, counted in units of the magnitude, has its mantissa as nearest integer. -/
theorem RoundsScaled.quotient_eq {scaled divisor : Nat} (hdivisor : 0 < divisor)
    (hrounds : x.RoundsScaled scaled divisor) :
    nearestQuotient scaled (divisor * 2 ^ x.exponent) = x.mantissa := by
  have hunit : 0 < divisor * 2 ^ x.exponent := Nat.mul_pos hdivisor (Nat.two_pow_pos _)
  obtain ⟨hlow, hhigh, hinside⟩ := hrounds
  generalize divisor * 2 ^ x.exponent = unit at *
  have hlowEnd : 4 * (x.mantissa * unit) ≤ x.interval.low * unit + 2 * unit := by
    calc
      4 * (x.mantissa * unit) = 4 * x.mantissa * unit := by ring
      _ ≤ (x.interval.low + 2) * unit := by
        apply Nat.mul_le_mul_right
        simp only [interval]
        split <;> omega
      _ = x.interval.low * unit + 2 * unit := by ring
  have hhighEnd : x.interval.high * unit = 4 * (x.mantissa * unit) + 2 * unit := by
    simp only [interval]
    ring
  have hodd : x.mantissa % 2 = 1 → x.interval.low * unit + 2 * unit = 4 * (x.mantissa * unit) := by
    intro hodd
    have hlow : x.interval.low + 2 = 4 * x.mantissa := by
      simp only [interval]
      split <;> omega
    rw [← Nat.add_mul, hlow]
    ring
  apply nearestQuotient_eq hunit
  · omega
  · omega
  · intro h
    have := hodd h
    have := hinside h
    omega

/-- The magnitude is found where the quotient is not below the least number with its exponent. -/
theorem nearest?_of_exponent {dividend divisor : Nat} (hdivisor : 0 < divisor)
    (hrounds : x.RoundsScaled (dividend * 2 ^ 1074) divisor)
    (hexponent : (dividend * 2 ^ 1074 / divisor).log2 + 1 - 53 = x.exponent) :
    nearest? dividend divisor = some x := by
  have hlt := x.mantissa_lt
  rw [nearest?_of hexponent (hrounds.quotient_eq hdivisor), if_neg (by omega), ofParts?_self]

/-- A quotient in the interval is below the numbers with the next exponent. -/
theorem RoundsScaled.lt {scaled divisor : Nat} (hdivisor : 0 < divisor)
    (hrounds : x.RoundsScaled scaled divisor) : scaled < 2 ^ 53 * (divisor * 2 ^ x.exponent) := by
  have hunit : 0 < divisor * 2 ^ x.exponent := Nat.mul_pos hdivisor (Nat.two_pow_pos _)
  have hlt := x.mantissa_lt
  have hend : x.interval.high < 4 * 2 ^ 53 := by
    simp only [interval]
    omega
  have : 4 * scaled < 4 * (2 ^ 53 * (divisor * 2 ^ x.exponent)) := by
    calc
      4 * scaled ≤ x.interval.high * (divisor * 2 ^ x.exponent) := hrounds.high
      _ < 4 * 2 ^ 53 * (divisor * 2 ^ x.exponent) := Nat.mul_lt_mul_of_pos_right hend hunit
      _ = 4 * (2 ^ 53 * (divisor * 2 ^ x.exponent)) := by ring
  omega

/-- Only a power of two has a part of its interval below the numbers with its exponent. -/
theorem RoundsScaled.mantissa_eq {scaled divisor : Nat} (hrounds : x.RoundsScaled scaled divisor)
    (hexponent : x.exponent ≠ 0) (hbelow : scaled < 2 ^ 52 * (divisor * 2 ^ x.exponent)) :
    x.mantissa = 2 ^ 52 := by
  have hnormal : 2 ^ 52 ≤ x.mantissa := x.normal.resolve_left hexponent
  by_contra hne
  have hlow := hrounds.low
  have : 4 * (2 ^ 52 * (divisor * 2 ^ x.exponent)) ≤ x.interval.low * (divisor * 2 ^ x.exponent) := by
    rw [← Nat.mul_assoc]
    apply Nat.mul_le_mul_right
    simp only [interval]
    split <;> omega
  omega

/-- A power of two is found from below: the quotient is rounded up, out of the next lower exponent. -/
theorem nearest?_of_lower {dividend divisor lower : Nat} (hdivisor : 0 < divisor)
    (hmantissa : x.mantissa = 2 ^ 52) (hlower : x.exponent = lower + 1)
    (hrounds : x.RoundsScaled (dividend * 2 ^ 1074) divisor)
    (hbelow : dividend * 2 ^ 1074 < 2 ^ 52 * (divisor * 2 ^ x.exponent)) :
    nearest? dividend divisor = some x := by
  have hdouble : divisor * 2 ^ x.exponent = 2 * (divisor * 2 ^ lower) := by
    rw [hlower, pow_succ]
    ring
  have hhalf : 0 < divisor * 2 ^ lower := Nat.mul_pos hdivisor (Nat.two_pow_pos _)
  have hlowEnd : x.interval.low = 2 ^ 54 - 1 := by
    simp [interval, hmantissa, hlower]
  have hlow := hrounds.low
  rw [hlowEnd, hdouble] at hlow
  rw [hdouble] at hbelow
  have hexponent : (dividend * 2 ^ 1074 / divisor).log2 + 1 - 53 = lower := by
    apply exponent_eq hdivisor
    · omega
    · omega
  have hquotient : nearestQuotient (dividend * 2 ^ 1074) (divisor * 2 ^ lower) = 2 ^ 53 := by
    apply nearestQuotient_eq hhalf
    · omega
    · omega
    · intro h
      exact absurd h (by decide)
  have hself := ofParts?_self x
  rw [hmantissa, hlower] at hself
  rw [nearest?_of hexponent hquotient, if_pos (by decide)]
  exact hself

/-- Every quotient in the interval of a magnitude other than zero is rounded to it. -/
theorem nearest?_of_roundsScaled {dividend divisor : Nat} (hdivisor : 0 < divisor)
    (hrounds : x.RoundsScaled (dividend * 2 ^ 1074) divisor) : nearest? dividend divisor = some x := by
  by_cases hleast : 2 ^ 52 * (divisor * 2 ^ x.exponent) ≤ dividend * 2 ^ 1074 ∨ x.exponent = 0
  · exact nearest?_of_exponent hdivisor hrounds (exponent_eq hdivisor hleast (hrounds.lt hdivisor))
  · rw [not_or, not_le] at hleast
    obtain ⟨hbelow, hpositive⟩ := hleast
    obtain ⟨lower, hlower⟩ := Nat.exists_eq_succ_of_ne_zero hpositive
    exact nearest?_of_lower hdivisor (hrounds.mantissa_eq hpositive hbelow) hlower hrounds hbelow

end Magnitude
end Insights
