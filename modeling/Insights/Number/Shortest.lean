import Insights.Number.Binary64

/-!
The shortest decimal of a binary number: the fewest digits that read back to it, and among those of
that length the nearest. The search is exact. For one digit, two digits and so on it takes the two
neighbours of the value on that decimal grid and asks whether they lie in the interval of reals that
round to the value.
-/

namespace Insights

/-- A decimal `digits * 10 ^ exponent`. -/
structure ScaledDigits where
  digits : Nat
  exponent : Int
deriving DecidableEq, Repr

/-- The interval of reals that round to a magnitude, in quarters of its last place. The gap below a
power of two is half as wide as the gap above it. -/
structure RoundingInterval where
  low : Nat
  value : Nat
  high : Nat
  /-- Whether the two ends round to the magnitude as well. -/
  closed : Bool
  /-- A quarter of the last place, as a quotient. -/
  unitDividend : Nat
  unitDivisor : Nat

def Magnitude.interval (x : Magnitude) : RoundingInterval where
  low := 4 * x.mantissa - (if x.mantissa = 4503599627370496 ∧ 0 < x.exponent then 1 else 2)
  value := 4 * x.mantissa
  high := 4 * x.mantissa + 2
  closed := x.mantissa % 2 == 0
  unitDividend := Nat.pow 2 (x.exponent - 1076)
  unitDivisor := Nat.pow 2 (1076 - x.exponent)

/-- Whether `digits * 10 ^ exponent` lies in the interval, by cross-multiplication. -/
def RoundingInterval.holds (i : RoundingInterval) (d : ScaledDigits) : Bool :=
  let point := d.digits * Nat.pow 10 d.exponent.toNat * i.unitDivisor
  let unit := i.unitDividend * Nat.pow 10 (-d.exponent).toNat
  if i.closed then i.low * unit ≤ point && point ≤ i.high * unit
  else i.low * unit < point && point < i.high * unit

/-- The point of the grid `10 ^ exponent` that lies in the interval; of two such points the nearer one,
and of two equally near the even one. -/
def RoundingInterval.onGrid? (i : RoundingInterval) (exponent : Int) : Option ScaledDigits :=
  let dividend := i.value * i.unitDividend * Nat.pow 10 (-exponent).toNat
  let divisor := i.unitDivisor * Nat.pow 10 exponent.toNat
  let below := dividend / divisor
  let nearest := nearestQuotient dividend divisor
  let other := if nearest = below then below + 1 else below
  if i.holds ⟨nearest, exponent⟩ then some ⟨nearest, exponent⟩
  else if i.holds ⟨other, exponent⟩ then some ⟨other, exponent⟩
  else none

/-- The least `k` with `x < 10 ^ k`, for a magnitude other than zero. -/
def Magnitude.decimalScale (x : Magnitude) : Int :=
  (decimalLength (x.quotient.1 * Nat.pow 10 400 / x.quotient.2) : Int) - 400

/-- Moves the zeros at the end of the digits into the exponent. -/
def ScaledDigits.strip (d : ScaledDigits) : ScaledDigits :=
  let trailing := (((Nat.toDigits 10 d.digits).reverse).takeWhile (· == '0')).length
  if d.digits = 0 then d else ⟨d.digits / Nat.pow 10 trailing, d.exponent + trailing⟩

/-- The decimal that is equal to a magnitude. -/
def Magnitude.exact (x : Magnitude) : ScaledDigits :=
  ⟨x.quotient.1 * Nat.pow 5 (1074 - x.exponent), -((1074 - x.exponent : Nat) : Int)⟩

/-- The shortest decimal of a magnitude. Seventeen digits always suffice; should none of the grids hold
a point, the exact value stands in. -/
def Magnitude.shortest (x : Magnitude) : ScaledDigits :=
  if x.mantissa = 0 then ⟨0, 0⟩
  else
    let scale := x.decimalScale
    let found := (List.range 17).findSome? fun (n : Nat) => x.interval.onGrid? (scale - (n + 1 : Nat))
    (found.getD x.exact).strip

end Insights
