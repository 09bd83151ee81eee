import Insights.Decode.Checked
import Insights.Number.Whole
import Insights.Text.Bytes
import Insights.Value.Cell

/-!
Checks of what has no parts: texts, numbers, flags, and choices from a family.
-/

namespace Insights
namespace Check

/-! ### Spelling

Values that spell something: a text spells itself, and a byte string spells the text that it encodes.
Every kind of value that is read from a text is read from such bytes as well. -/

/-- Checks a value by what it spells, or by itself when it spells nothing. Bytes that encode no text are
refused for a reason of their own. The class of an object does not count. -/
def spelt {α : Type} (garbled : Refusal) (read : String → Checked α) (other : Value → Checked α)
    (value : Value) : Checked α :=
  match value.native with
  | .text s => read s
  | .bytes b =>
    match Text.ofBytes? b with
    | some s => read s
    | none => .refuse garbled
  | value => other value

/-! ### Single values

Checks of single values. A text is taken as it is; an integer and a flag are also taken from the other
kinds that stand for one. -/

/-- A text. -/
def text : Value → Checked String :=
  spelt .garbledText .accepted fun _ => .refuse .notText

/-- Two to the power of 63. -/
def integerBound : Nat := 9223372036854775808

/-- A number that is whole and stays strictly within the range of 64 bits. -/
def wholeFloat : Binary64 → Checked Int
  | .finite negative magnitude =>
    if !magnitude.isWhole then .refuse .fraction
    else if magnitude.truncate < integerBound then .accepted (withSign negative magnitude.truncate)
    else .refuse .oversizedInteger
  | _ => .refuse .notFinite

/-- A decimal that is whole, of any size. -/
def wholeDecimal : Decimal → Checked Int
  | .finite negative coefficient exponent =>
    if Decimal.isWhole coefficient exponent then
      .accepted (Decimal.truncated negative coefficient exponent)
    else .refuse .fraction
  | _ => .refuse .notFinite

/-- An integer as a text. -/
def wholeText (s : String) : Checked Int :=
  match Text.fieldInteger s.toList with
  | .value n => .accepted n
  | .unreadable => .refuse .unreadableInteger
  | .tooLong _ => .refuse .oversizedInteger

/-- An integer. -/
def integer : Value → Checked Int :=
  spelt .unreadableInteger wholeText fun
    | .integer n => .accepted n
    | .boolean b => .accepted (if b then 1 else 0)
    | .float x => wholeFloat x
    | .decimal d => wholeDecimal d
    | _ => .refuse .notInteger

/-- The words for yes and for no, in lower case. -/
def flagWords : List (String × Bool) :=
  [("true", true), ("t", true), ("yes", true), ("y", true), ("on", true), ("1", true),
   ("false", false), ("f", false), ("no", false), ("n", false), ("off", false), ("0", false)]

/-- A flag as a word. Words are compared without regard to the case of the letters A-Z, and are not
trimmed. -/
def flagText (s : String) : Checked Bool :=
  match flagWords.lookup (String.ofList (s.toList.map Char.toLower)) with
  | some b => .accepted b
  | none => .refuse .unreadableFlag

/-- A flag as an integer: zero or one. -/
def flagInteger (n : Int) : Checked Bool :=
  if n = 0 then .accepted false else if n = 1 then .accepted true else .refuse .unreadableFlag

/-- A flag as a number, which must be an integer. -/
def flagFloat (x : Binary64) : Checked Bool :=
  match wholeFloat x with
  | .accepted n => flagInteger n
  | .refused _ => .refuse .notFlag

/-- A flag. An integer beyond 64 bits is none, and a decimal counts as the nearest binary number. -/
def flag : Value → Checked Bool :=
  spelt .unreadableFlag flagText fun
    | .boolean b => .accepted b
    | .integer n =>
      if -integerBound ≤ n ∧ n < integerBound then flagInteger n else .refuse .notFlag
    | .float x => flagFloat x
    | .decimal d =>
      match d.toBinary64? with
      | some x => flagFloat x
      | none => .refuse .notFlag
    | _ => .refuse .notFlag

/-- A value that may be null. -/
def optional {α : Type} (check : Value → Checked α) : Value → Checked (Option α)
  | .null => .accepted none
  | value => (check value).map some

def list {α : Type} (check : Value → Checked α) : Value → Checked (List α)
  | .list items => Checked.items check items
  | _ => .refuse .notList

/-- An object whose fields pass a check. -/
def object {α : Type} (check : Fields Value → Checked α) : Value → Checked α
  | .object fields => check fields
  | _ => .refuse .notObject

end Check

/-! ### Choices

Families of named choices: the operators of a filter, the directions of an order, and their like. A
choice is written by its name, and a name is read by going through the family. -/

/-- A type with finitely many choices, each of which has a name. -/
class Choice (α : Type) where
  all : List α
  name : α → String

namespace Choice

/-- The choice with the given name. -/
def ofName? {α : Type} [Choice α] (name : String) : Option α :=
  (Choice.all : List α).find? fun choice => Choice.name choice == name

/-- Checks that a text is the name of a choice. -/
def checkName {α : Type} [Choice α] (name : String) : Checked α :=
  match ofName? name with
  | some choice => .accepted choice
  | none => .refuse .notChoice

/-- Checks that a value spells the name of a choice. -/
def check {α : Type} [Choice α] : Value → Checked α :=
  Check.spelt .notChoice checkName fun _ => .refuse .notChoice

/-- The choice that a value names, looked up in a family that has a name of its own. -/
def named {α : Type} [Choice α] (family : String) (value : Value) : Except Fault α :=
  match value.native with
  | .text s => orFault (.unknownChoice value family) (ofName? s)
  | _ => .error (.unknownChoice value family)

end Choice
end Insights
