import Insights.Fault
import Insights.Value.Basic

/-!
What is made of a value where a value of one kind or a key is asked for.
-/

namespace Insights

/-! ### Values in a place of one kind

What a place that takes a value of one kind makes of a value of any kind: the items of what should be a
list, the text of what should be a name, the integer that a counting cell stands for. -/

/-- Lets a choice that may be absent fail with a fault. -/
def orFault {α : Type} (fault : Fault) : Option α → Except Fault α
  | some a => .ok a
  | none => .error fault

/-- The items of a value that is gone through one by one. A text has its characters as items, an object
its names, a byte string its bytes. -/
def Value.items (value : Value) : Except Fault (List Value) :=
  match value.native with
  | .list items => .ok items
  | .text s => .ok (s.toList.map fun c => .text (String.singleton c))
  | .object fields => .ok (fields.map fun field => .text field.1)
  | .bytes b => .ok (b.map fun byte => .integer byte.toNat)
  | _ => .error .wrongKind

/-- The item of a value at a position. An object has items by name only. -/
def Value.item (position : Nat) : Value → Except Fault Value
  | .object _ => .error (.missingKey (.integer position))
  | value => do orFault .noSuchPosition (← value.items)[position]?

/-- A value in the place of a text. Bytes come close to a text but are none. -/
def Value.asText (value : Value) : Except Fault String :=
  match value.native with
  | .text s => .ok s
  | .bytes _ => .error .wrongKind
  | _ => .error .notText

/-- A value in the place of a name in a statement. Moments and days come as close to one as bytes do. -/
def Value.name : Value → Except Fault String
  | .timestamp _ | .date _ => .error .wrongKind
  | value => value.asText

/-- Whether a value holds nothing: null, false, zero, or an empty text, byte string, list or object. -/
def Value.isEmpty (value : Value) : Bool :=
  match value.native with
  | .null => true
  | .boolean b => !b
  | .integer n => n == 0
  | .float (.finite _ magnitude) => magnitude.mantissa == 0
  | .decimal (.finite _ coefficient _) => coefficient == 0
  | .text s => s.isEmpty
  | .bytes b => b.isEmpty
  | .list items => items.isEmpty
  | .object fields => fields.isEmpty
  | _ => false

/-- The integer that was read from a value, or the fault of reading it. -/
def WholeReading.orFault (value : Value) : WholeReading → Except Fault Int
  | .value n => .ok n
  | .unreadable => .error (.unreadableInteger value)
  | .tooLong digits => .error (.overlongInteger digits)

/-! ### Integers that are written -/

/-- An integer that is to be written. -/
def writable (n : Int) : Except Fault Int :=
  if fitsDigitLimit n then .ok n else .error .unwritableInteger

/-- Whether every integer in a value can be written. -/
def Value.isPrintable (value : Value) : Bool :=
  value.everywhere fun
    | .integer n => fitsDigitLimit n
    | _ => true

/-- A value that is to be written. -/
def Value.written (value : Value) : Except Fault Value :=
  if value.isPrintable then .ok value else .error .unwritableInteger

/-- The integer that a cell stands for. Fractions are cut off, and a text is read. -/
def Value.wholeNumber (value : Value) : Except Fault Int :=
  match value.native with
  | .boolean b => .ok (if b then 1 else 0)
  | .integer n => .ok n
  | .float (.finite negative magnitude) => .ok (withSign negative magnitude.truncate)
  | .float (.infinite _) => .error .outOfRange
  | .float .nan => .error (.notANumber "float NaN")
  | .decimal (.finite negative coefficient exponent) =>
    .ok (Decimal.truncated negative coefficient exponent)
  | .decimal (.infinite _) => .error .outOfRange
  | .decimal (.nan _ _) => .error (.notANumber "NaN")
  | .text s => (Text.cellInteger Text.isWhiteSpace Text.digitValue? s.toList).orFault value
  | .bytes b =>
    (Text.cellInteger Text.isAsciiSpace Text.asciiDigitValue?
      (b.map fun byte => Char.ofNat byte.toNat)).orFault (.bytes (b.take shownLength))
  | _ => .error .wrongKind

/-! ### Keys

Values as keys. Numbers that are equal are one key, whatever their kinds and their digits, and so are
moments with an offset that fall together. Any other value is a key by itself, except that lists, objects
and signaling numbers are none. -/

/-- What a value stands for as a key. -/
inductive Key where
  | number (d : Decimal)
  /-- Microseconds of universal time since the beginning of the calendar. -/
  | moment (instant : Int)
  | itself (value : Value)
deriving DecidableEq

/-- A decimal without zeros at the end of its coefficient. Equal decimals have the same form. -/
def Decimal.reduced : Decimal → Decimal
  | .finite negative coefficient exponent =>
    if coefficient = 0 then .finite false 0 0
    else
      let stripped := ScaledDigits.strip ⟨coefficient, exponent⟩
      .finite negative stripped.digits stripped.exponent
  | d => d

/-- The decimal that is equal to a binary number. -/
def Binary64.exact : Binary64 → Decimal
  | .finite negative magnitude => .finite negative magnitude.exact.digits magnitude.exact.exponent
  | .infinite negative => .infinite negative
  | .nan => .nan false false

/-- What a decimal stands for as a key. -/
def Decimal.key? : Decimal → Option Key
  | .nan _ true => none
  | .nan negative false => some (.itself (.decimal (.nan negative false)))
  | d => some (.number d.reduced)

/-- What a moment stands for as a key. One without an offset is only equal to itself. -/
def Timestamp.key (t : Timestamp) : Key :=
  match t.offset with
  | none => .itself (.timestamp t)
  | some seconds => .moment (t.wall - seconds * microsPerSecond)

/-- What a value stands for as a key, if it can be one. -/
def Value.key? (value : Value) : Option Key :=
  match value.native with
  | .boolean b => (Decimal.finite false (if b then 1 else 0) 0).key?
  | .integer n => (Decimal.finite (n < 0) n.natAbs 0).key?
  | .float .nan => some (.itself (.float .nan))
  | .float x => x.exact.key?
  | .decimal d => d.key?
  | .timestamp t => some t.key
  | .list _ | .object _ => none
  | key => some (.itself key)

example : (Value.integer 100).key? = (Value.decimal (.finite false 10 1)).key? := by decide +kernel
example : (Value.boolean true).key? ≠ (Value.text "1").key? := by decide +kernel

end Insights
