import Insights.Number.Shortest

/-!
How the digits of a number are laid out as text: positionally, or with one digit before the point and
an exponent. The two layouts of the library differ in where positional writing ends at the small end
and in the width of the exponent.
-/

namespace Insights

/-- The decisions of a layout of decimal digits. -/
structure NumberLayout where
  /-- Numbers whose leading digit stands at an exponent from here on are written positionally, -/
  plainFrom : Int
  /-- as long as that exponent is below this one. -/
  plainBelow : Int
  /-- The least number of digits of a written exponent. -/
  exponentWidth : Nat

/-- A number in a statement or in a shown value: positional from 0.0001 up to below 10^16, and at least
two digits of exponent. -/
def shownLayout : NumberLayout := ⟨-4, 16, 2⟩

/-- A number in a JSON document: positional from 0.00001 up to below 10^16. -/
def jsonLayout : NumberLayout := ⟨-5, 16, 1⟩

def digitsOf (n : Nat) : List Char :=
  Nat.toDigits 10 n

def zeros (n : Nat) : List Char :=
  List.replicate n '0'

/-- A natural with at least `width` digits. -/
def paddedDigits (width n : Nat) : List Char :=
  zeros (width - decimalLength n) ++ digitsOf n

def integerDigits (n : Int) : List Char :=
  if n < 0 then '-' :: digitsOf n.natAbs else digitsOf n.natAbs

/-- The digits with the point after the first `whole` of them, padded with zeros on either side where
the digits do not reach, and with at least one digit after the point. -/
def positional (digits : List Char) (whole : Int) : List Char :=
  if whole ≤ 0 then '0' :: '.' :: (zeros (-whole).toNat ++ digits)
  else
    let front := digits.take whole.toNat
    let back := digits.drop whole.toNat
    front ++ zeros (whole.toNat - digits.length) ++ '.' :: (if back.isEmpty then ['0'] else back)

/-- The digits with the point after the first one, and the exponent of that digit. -/
def withExponent (width : Nat) (digits : List Char) (exponent : Int) : List Char :=
  let fraction := digits.drop 1
  digits.take 1 ++ (if fraction.isEmpty then [] else '.' :: fraction) ++
    'e' :: (if exponent < 0 then '-' else '+') :: paddedDigits width exponent.natAbs

def NumberLayout.digits (layout : NumberLayout) (d : ScaledDigits) : List Char :=
  let digits := digitsOf d.digits
  let leading := d.exponent + digits.length - 1
  if d.digits = 0 then ['0', '.', '0']
  else if layout.plainFrom ≤ leading ∧ leading < layout.plainBelow then positional digits (leading + 1)
  else withExponent layout.exponentWidth digits leading

/-- The text of a finite number. The sign of a negative zero is written. -/
def NumberLayout.finite (layout : NumberLayout) (negative : Bool) (magnitude : Magnitude) : List Char :=
  let digits := layout.digits magnitude.shortest
  if negative then '-' :: digits else digits

/-- The text of a number in a statement or a shown value. -/
def Binary64.shown : Binary64 → List Char
  | .finite negative magnitude => shownLayout.finite negative magnitude
  | .infinite false => "inf".toList
  | .infinite true => "-inf".toList
  | .nan => "nan".toList

example : (Binary64.ofDecimal false 1 (-1)).shown = "0.1".toList := by decide +kernel
example : (Binary64.ofDecimal false 30000000000000004 (-17)).shown = "0.30000000000000004".toList := by
  decide +kernel
example : (Binary64.ofDecimal false 1 16).shown = "1e+16".toList := by decide +kernel
example : (Binary64.ofDecimal true 5 (-324)).shown = "-5e-324".toList := by decide +kernel

end Insights
