/-!
Binary floating-point numbers of 64 bits, as exact data: a sign and a natural mantissa times a power
of two. Everything is integer arithmetic, so a number read from decimal digits is the nearest one by
definition, and no property rests on the machine's own arithmetic.
-/

namespace Insights

/-- A finite magnitude, `mantissa * 2 ^ exponent * 2 ^ (-1074)`. The mantissa is below `2 ^ 53`, and not
below `2 ^ 52` unless the exponent is the least one, so each magnitude has one representation. -/
structure Magnitude where
  mantissa : Nat
  exponent : Nat
  mantissa_lt : mantissa < 9007199254740992
  exponent_le : exponent ≤ 2045
  normal : exponent = 0 ∨ 4503599627370496 ≤ mantissa
deriving DecidableEq

/-- A number of 64 bits. There is one value that is not a number. -/
inductive Binary64 where
  | finite (negative : Bool) (magnitude : Magnitude)
  | infinite (negative : Bool)
  | nan
deriving DecidableEq

def Magnitude.zero : Magnitude :=
  ⟨0, 0, by decide, by decide, .inl rfl⟩

/-- A natural with the sign that the flag asks for. -/
def withSign (negative : Bool) (n : Nat) : Int :=
  if negative then -(n : Int) else n

/-- The magnitude with the given parts, if they are those of one. -/
def Magnitude.ofParts? (mantissa exponent : Nat) : Option Magnitude :=
  if h : mantissa < 9007199254740992 ∧ exponent ≤ 2045 ∧ (exponent = 0 ∨ 4503599627370496 ≤ mantissa) then
    some ⟨mantissa, exponent, h.1, h.2.1, h.2.2⟩
  else none

/-- The integer nearest to a quotient; of two equally near the even one. -/
def nearestQuotient (dividend divisor : Nat) : Nat :=
  let q := dividend / divisor
  let r := dividend % divisor
  if 2 * r < divisor then q
  else if divisor < 2 * r then q + 1
  else if q % 2 = 0 then q else q + 1

/-- The magnitude nearest to a quotient of naturals, ties to even, or nothing when the quotient is too
large for one. The exponent is the least that leaves at most 53 bits before the point. -/
def Magnitude.nearest? (dividend divisor : Nat) : Option Magnitude :=
  let scaled := dividend * Nat.pow 2 1074
  let exponent := (scaled / divisor).log2 + 1 - 53
  let mantissa := nearestQuotient scaled (divisor * Nat.pow 2 exponent)
  if mantissa = 9007199254740992 then ofParts? 4503599627370496 (exponent + 1) else ofParts? mantissa exponent

/-- The number nearest to a quotient of naturals. -/
def Binary64.nearest (negative : Bool) (dividend divisor : Nat) : Binary64 :=
  ((Magnitude.nearest? dividend divisor).map (.finite negative)).getD (.infinite negative)

/-- The number of decimal digits of a natural. -/
def decimalLength (n : Nat) : Nat :=
  (Nat.toDigits 10 n).length

/-- The number nearest to `digits * 10 ^ exponent`. Beyond 10^310 every decimal is infinite and below
10^(-330) every one is zero, so no large power is computed there. -/
def Binary64.ofDecimal (negative : Bool) (digits : Nat) (exponent : Int) : Binary64 :=
  let leading := decimalLength digits + exponent
  if digits = 0 ∨ leading < -330 then .finite negative .zero
  else if 310 < leading then .infinite negative
  else .nearest negative (digits * Nat.pow 10 exponent.toNat) (Nat.pow 10 (-exponent).toNat)

/-- The magnitude as a quotient of naturals whose divisor is a power of two. -/
def Magnitude.quotient (x : Magnitude) : Nat × Nat :=
  if 1074 ≤ x.exponent then (x.mantissa * Nat.pow 2 (x.exponent - 1074), 1)
  else (x.mantissa, Nat.pow 2 (1074 - x.exponent))

/-- The magnitude with its fraction cut off. -/
def Magnitude.truncate (x : Magnitude) : Nat :=
  x.quotient.1 / x.quotient.2

def Magnitude.isWhole (x : Magnitude) : Bool :=
  x.quotient.1 % x.quotient.2 == 0

/-- The number nearest to one more than the given one. -/
def Binary64.succ : Binary64 → Binary64
  | .finite negative x =>
    let (dividend, divisor) := x.quotient
    let sum : Int := withSign negative dividend + divisor
    .nearest (sum < 0) sum.natAbs divisor
  | x => x

def Binary64.isFinite : Binary64 → Bool
  | .finite _ _ => true
  | _ => false

end Insights
