import Insights.Number.Layout
import Insights.Text.Character

/-!
Decimal numbers that keep their digits: a sign, a coefficient and an exponent, so that 1.5 and 1.50
are different values. A decimal is written positionally unless its exponent is positive or its leading
digit stands below 0.000001.
-/

namespace Insights

inductive Decimal where
  | finite (negative : Bool) (coefficient : Nat) (exponent : Int)
  | infinite (negative : Bool)
  | nan (negative signaling : Bool)
deriving DecidableEq, Repr

def Decimal.isFinite : Decimal → Bool
  | .finite _ _ _ => true
  | _ => false

/-- The digits of a finite decimal, with its point or its exponent. -/
def Decimal.unsignedDigits (coefficient : Nat) (exponent : Int) : List Char :=
  let digits := digitsOf coefficient
  let whole : Int := exponent + digits.length
  if exponent ≤ 0 ∧ -6 < whole then
    if exponent = 0 then digits
    else if whole ≤ 0 then '0' :: '.' :: (zeros (-whole).toNat ++ digits)
    else digits.take whole.toNat ++ '.' :: digits.drop whole.toNat
  else
    let fraction := digits.drop 1
    let leading := whole - 1
    digits.take 1 ++ (if fraction.isEmpty then [] else '.' :: fraction) ++
      'E' :: (if leading < 0 then '-' else '+') :: digitsOf leading.natAbs

def Decimal.text : Decimal → List Char
  | .finite negative coefficient exponent =>
    let digits := unsignedDigits coefficient exponent
    if negative then '-' :: digits else digits
  | .infinite false => "Infinity".toList
  | .infinite true => "-Infinity".toList
  | .nan negative signaling =>
    (if negative then ['-'] else []) ++ (if signaling then "sNaN" else "NaN").toList

/-- The binary number nearest to a decimal. A signaling value has none. -/
def Decimal.toBinary64? : Decimal → Option Binary64
  | .finite negative coefficient exponent => some (.ofDecimal negative coefficient exponent)
  | .infinite negative => some (.infinite negative)
  | .nan _ false => some .nan
  | .nan _ true => none

/-- The integer part of a finite decimal, with its sign. No power beyond the coefficient's own length
is computed for a negative exponent. -/
def Decimal.truncated (negative : Bool) (coefficient : Nat) (exponent : Int) : Int :=
  if coefficient = 0 ∨ decimalLength coefficient + exponent ≤ 0 then 0
  else withSign negative (coefficient * Nat.pow 10 exponent.toNat / Nat.pow 10 (-exponent).toNat)

/-- The count of digits to which a decimal that was computed is rounded. -/
def decimalPrecision : Nat := 28

/-- A coefficient rounded to the precision of computed decimals, of two equally near ones to the even
one. -/
def Decimal.rounded (negative : Bool) (coefficient : Nat) (exponent : Int) : Decimal :=
  let excess := decimalLength coefficient - decimalPrecision
  let nearest := nearestQuotient coefficient (Nat.pow 10 excess)
  if nearest = Nat.pow 10 decimalPrecision ∧ 0 < excess then
    .finite negative (nearest / 10) (exponent + excess + 1)
  else .finite negative nearest (exponent + excess)

/-- The sum of one and a decimal, rounded. -/
def Decimal.onePlus (negative : Bool) (coefficient : Nat) (exponent : Int) : Decimal :=
  let places := (-exponent).toNat
  let sum : Int :=
    withSign negative (coefficient * Nat.pow 10 exponent.toNat) + (Nat.pow 10 places : Nat)
  rounded (sum < 0) sum.natAbs (-places)

/-- A decimal times a power of ten. -/
def Decimal.shifted (places : Int) : Decimal → Decimal
  | .finite negative coefficient exponent => .finite negative coefficient (exponent + places)
  | d => d

/-- Twice the precision. A decimal that is farther from one than this many places only decides on which
side of a rounded value a sum with one lies. -/
def roundingReach : Int := 2 * decimalPrecision

/-- The sum of one and a decimal, rounded. Exponents out of reach are replaced by ones within it, so no
power beyond the coefficient's own length is computed. -/
def Decimal.succFinite (negative : Bool) (coefficient : Nat) (exponent : Int) : Decimal :=
  if coefficient = 0 then onePlus negative 0 (max (min exponent 0) (-roundingReach))
  else if decimalLength coefficient + exponent < -roundingReach then onePlus negative 1 (-roundingReach)
  else if roundingReach < exponent then
    (onePlus negative coefficient roundingReach).shifted (exponent - roundingReach)
  else onePlus negative coefficient exponent

/-- Why a computation with decimals has no result. -/
inductive DecimalTrouble where
  /-- A signaling value takes part. -/
  | signaling
  /-- The result is too great. -/
  | overflow
deriving DecidableEq, Repr

/-- The greatest exponent that the leading digit of a computed decimal may have. -/
def greatestExponent : Int := 999999

/-- A computed decimal, unless it is too great. -/
def Decimal.inRange : Decimal → Except DecimalTrouble Decimal
  | .finite negative coefficient exponent =>
    if greatestExponent < exponent + decimalLength coefficient - 1 then .error .overflow
    else .ok (.finite negative coefficient exponent)
  | d => .ok d

/-- One more than a decimal. -/
def Decimal.succ : Decimal → Except DecimalTrouble Decimal
  | .finite negative coefficient exponent => (succFinite negative coefficient exponent).inRange
  | .nan _ true => .error .signaling
  | d => .ok d

/-- Whether a finite decimal has no fraction. A coefficient with fewer digits than there are places has
one, unless it is zero. -/
def Decimal.isWhole (coefficient : Nat) (exponent : Int) : Bool :=
  coefficient == 0 || (decimalLength coefficient + exponent > 0 &&
    coefficient % Nat.pow 10 (-exponent).toNat == 0)

namespace Text

/-- The characters before the first of a kind, and those after it if there is one. -/
def cutAt (stop : Char → Bool) (text : List Char) : List Char × Option (List Char) :=
  match text.dropWhile (!stop ·) with
  | [] => (text, none)
  | _ :: rest => (text.takeWhile (!stop ·), some rest)

/-- A sign and what follows it. -/
def cutSign : List Char → Bool × List Char
  | '-' :: rest => (true, rest)
  | '+' :: rest => (false, rest)
  | text => (false, text)

/-- The natural that a run of digits 0-9 stands for. The empty run stands for zero. -/
def natural? (digits : List Char) : Option Nat :=
  digits.foldlM (fun n c => (asciiDigitValue? c).map (10 * n + ·)) 0

/-- A sign and a run of digits that is not empty. -/
def signedInteger? (text : List Char) : Option Int :=
  let (negative, digits) := cutSign text
  if digits.isEmpty then none else (natural? digits).map (withSign negative)

/-- A decimal without sign: digits with an optional point among them and an optional exponent. -/
def scaledDigits? (text : List Char) : Option ScaledDigits := do
  let (number, power) := cutAt (fun c => c = 'e' || c = 'E') text
  let (whole, fraction) := cutAt (· = '.') number
  let digits := whole ++ fraction.getD []
  if digits.isEmpty then none
  let shift ← match power with
    | none => some 0
    | some power => signedInteger? power
  return ⟨← natural? digits, shift - (fraction.getD []).length⟩

end Text

def Decimal.read? (text : List Char) : Option Decimal :=
  let (negative, rest) := Text.cutSign text
  let name := Text.lowerLatin rest
  if name = "nan".toList then some (.nan negative false)
  else if name = "snan".toList then some (.nan negative true)
  else if name = "inf".toList ∨ name = "infinity".toList then some (.infinite negative)
  else (Text.scaledDigits? rest).map fun d => .finite negative d.digits d.exponent

/-- Reads a binary number from decimal digits, or from one of the words for a value that is not finite. -/
def Binary64.read? (text : List Char) : Option Binary64 :=
  let (negative, rest) := Text.cutSign text
  let name := Text.lowerLatin rest
  if name = "nan".toList then some .nan
  else if name = "inf".toList ∨ name = "infinity".toList then some (.infinite negative)
  else (Text.scaledDigits? rest).map fun d => .ofDecimal negative d.digits d.exponent

end Insights
