import Insights.Number.Decimal
import Insights.Text.Character

/-!
Integers read from text. Two readings are in use. A cell that is to be counted holds one sign, a run of
digits, and white space around them; which characters are digits and which are white space depends on
what the cell is. A field of a document holds the digits 0-9, perhaps behind superfluous zeros and
before a fraction of zeros. In both, single underscores may stand between digits, and a number with more
than a fixed count of digits is refused.
-/

namespace Insights

/-- What a text comes to that is read as an integer. -/
inductive WholeReading where
  | value (n : Int)
  | unreadable
  /-- More digits than are read. -/
  | tooLong (digits : Nat)
deriving DecidableEq, Repr

/-- The greatest count of digits that is read or written. -/
def digitLimit : Nat := 4300

/-- Whether an integer has no more digits than are read or written. -/
@[irreducible]
def fitsDigitLimit (n : Int) : Bool :=
  n.natAbs < Nat.pow 10 digitLimit

theorem fitsDigitLimit_iff {n : Int} : fitsDigitLimit n = true ↔ n.natAbs < Nat.pow 10 digitLimit := by
  unfold fitsDigitLimit
  exact decide_eq_true_iff

namespace Text

def underscore : Char := '_'

/-- Whether two underscores stand side by side. -/
def hasUnderscorePair : List Char → Bool
  | c :: d :: rest => (c == underscore && d == underscore) || hasUnderscorePair (d :: rest)
  | _ => false

/-- Whether underscores only stand singly, and between other characters. -/
def isGrouped (text : List Char) : Bool :=
  text.head? != some underscore && text.getLast? != some underscore && !hasUnderscorePair text

/-- The number that decimal digits of some script stand for, the most significant first. -/
def ofDigits (digits : List Nat) : Nat :=
  digits.foldl (fun n digit => 10 * n + digit) 0

/-! ### Cells -/

/-- The integer of a cell: white space, a sign, digits, white space. The length of the digits is looked
at before what follows them. -/
def cellInteger (isSpace : Char → Bool) (digit? : Char → Option Nat) (text : List Char) : WholeReading :=
  let (negative, text) := cutSign (text.dropWhile isSpace)
  let inRun := fun c => c == underscore || (digit? c).isSome
  let run := text.takeWhile inRun
  let digits := run.filterMap digit?
  if !isGrouped run then .unreadable
  else if digitLimit < digits.length then .tooLong digits.length
  else if digits.isEmpty || !(text.dropWhile inRun).all isSpace then .unreadable
  else .value (withSign negative (ofDigits digits))

/-! ### Fields -/

def isAsciiDigit (c : Char) : Bool :=
  (asciiDigitValue? c).isSome

/-- What remains of a number behind zeros, of which `last` is the last character. Underscores count as
zeros here. The last character is kept when nothing or a point follows. -/
def afterZeros? (last : Char) : List Char → Option (List Char)
  | [] => some [last]
  | c :: rest =>
    if c = '0' || c = underscore then afterZeros? c rest
    else if c = '-' || isAsciiDigit c then some (c :: rest)
    else if c = '.' then some (last :: c :: rest)
    else none

/-- A number without superfluous zeros in front. A minus sign may stand behind them. -/
def withoutZeros? : List Char → Option (List Char)
  | [] => none
  | c :: rest =>
    if c = '0' then afterZeros? c rest
    else if c = '-' || isAsciiDigit c then some (c :: rest)
    else none

/-- A number without the sign in front, with whether that was a minus sign. No minus sign may follow a
plus sign. -/
def unsigned? : List Char → Option (Bool × List Char)
  | '+' :: '-' :: _ => none
  | '+' :: rest => some (false, rest)
  | '-' :: rest => some (true, rest)
  | text => some (false, text)

/-- A number without a fraction that consists of zeros. -/
def withoutFraction (text : List Char) : List Char :=
  match cutAt (· = '.') text with
  | (whole, some places) => if !places.isEmpty && places.all (· = '0') then whole else text
  | _ => text

/-- A number without the underscores between its digits. -/
def ungrouped (text : List Char) : List Char :=
  if isGrouped text then text.filter (· ≠ underscore) else text

/-- A text without a minus sign in front, with whether it had one. -/
def cutMinus : List Char → Bool × List Char
  | '-' :: rest => (true, rest)
  | text => (false, text)

/-- A minus sign and digits without a superfluous zero, and not too many of them. -/
def plainInteger? (text : List Char) : Option Int :=
  let (negative, digits) := cutMinus text
  if digits = ['0'] then some 0
  else if digits.isEmpty || digits.head? = some '0' || digitLimit < digits.length then none
  else (natural? digits).map (withSign negative)

/-- The form of a number that is read: without white space around it, without superfluous zeros in front
and behind, and without underscores. A minus sign stays in front of it. -/
def tidied? (text : List Char) : Option (List Char) := do
  let (negative, number) ← unsigned? (trimBy isWhiteSpace text)
  let number := ungrouped (withoutFraction (← withoutZeros? number))
  return if negative then '-' :: number else number

/-- The digits with which a text begins, behind a minus sign that may stand there. A leading zero is not
counted among the digits of a number, so a text that begins with one has none. -/
def leadingDigits (text : List Char) : List Char :=
  let digits := (cutMinus text).2.takeWhile isAsciiDigit
  if digits.head? = some '0' then [] else digits

/-- The integer of a field of a document. A text that begins with too many digits is refused for its
length, whatever follows; a number that turns out to be too long only once it is tidied is not read. -/
def fieldInteger (text : List Char) : WholeReading :=
  let length := (leadingDigits text).length
  if digitLimit < length then .tooLong length
  else
    match (tidied? text).bind plainInteger? with
    | some n => .value n
    | none => .unreadable

example : fieldInteger " 1_0.0 ".toList = .value 10 := by decide +kernel
example : fieldInteger "1_".toList = .unreadable ∧ fieldInteger "5.".toList = .unreadable := by
  decide +kernel
example : fieldInteger "0_-_5".toList = .value (-5) ∧ fieldInteger "0-05".toList = .unreadable := by
  decide +kernel
example : fieldInteger "-0__3".toList = .value (-3) ∧ fieldInteger "-_3".toList = .unreadable := by
  decide +kernel

end Text
end Insights
