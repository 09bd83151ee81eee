import Insights.Text.Quoted
import Insights.Value.Basic

/-!
How values are written, and the form in which cells leave the engine.
-/

namespace Insights

/-! ### Texts

The two texts of a value. `shown` is the form inside a list or a message, where texts stand in quotes;
`text` is the form on its own, where a text is itself and a moment is written with a space. -/

/-- The shown form of an offset from universal time. -/
def shownOffset (offset : Int) : List Char :=
  if offset = 0 then "datetime.timezone.utc".toList
  else
    let length :=
      if offset < 0 then "days=-1, seconds=".toList ++ integerDigits (86400 + offset)
      else "seconds=".toList ++ integerDigits offset
    "datetime.timezone(datetime.timedelta(".toList ++ length ++ "))".toList

/-- The shown form of a moment: its parts in order, without a second or a fraction that is zero at the
end. -/
def Timestamp.shown (t : Timestamp) : List Char :=
  let seconds := t.micros / microsPerSecond
  let fraction := t.micros % microsPerSecond
  let clockParts := [seconds / 3600, seconds / 60 % 60] ++
    (if fraction ≠ 0 then [seconds % 60, fraction] else if seconds % 60 ≠ 0 then [seconds % 60] else [])
  let parts := ([t.date.year, t.date.month, t.date.day] ++ clockParts).map digitsOf
  let zone := match t.offset with
    | none => []
    | some offset => ", tzinfo=".toList ++ shownOffset offset
  "datetime.datetime(".toList ++ ", ".toList.intercalate parts ++ zone ++ [')']

def Date.shown (d : Date) : List Char :=
  "datetime.date(".toList ++ ", ".toList.intercalate ([d.year, d.month, d.day].map digitsOf) ++ [')']

mutual
/-- The form of a value inside a list or a message. -/
def Value.shown : Value → List Char
  | .null => "None".toList
  | .boolean true => "True".toList
  | .boolean false => "False".toList
  | .integer n => integerDigits n
  | .float x => x.shown
  | .decimal d => "Decimal('".toList ++ d.text ++ "')".toList
  | .timestamp t => t.shown
  | .date d => d.shown
  | .text s => Text.shown s.toList
  | .bytes b => Text.shownBytes b
  | .list items => '[' :: (", ".toList.intercalate (Value.shownItems items) ++ [']'])
  | .object fields => '\x7b' :: (", ".toList.intercalate (Value.shownFields fields) ++ ['\x7d'])
  | .custom _ _ shown _ _ => shown.toList

def Value.shownItems : List Value → List (List Char)
  | [] => []
  | item :: rest => item.shown :: Value.shownItems rest

def Value.shownFields : List (String × Value) → List (List Char)
  | [] => []
  | (name, value) :: rest =>
    (Text.shown name.toList ++ ':' :: ' ' :: value.shown) :: Value.shownFields rest
end

/-- The text of a value on its own. -/
def Value.plain : Value → List Char
  | .text s => s.toList
  | .decimal d => d.text
  | .timestamp t => t.spaced
  | .date d => d.iso
  | .custom _ spelling _ _ _ => spelling.toList
  | value => value.shown

/-! ### Cells of a result

The form in which a cell leaves the engine: null, a flag, an integer, a finite number or a text. What
has no such form of its own becomes its text, and a number that is not finite becomes null. -/

/-- Whether a value has the form in which cells leave the engine. An object of another class has it as the
number or the text that it is besides. -/
def Value.isNormal (value : Value) : Bool :=
  match value.native with
  | .null | .boolean _ | .integer _ | .text _ => true
  | .float x => x.isFinite
  | _ => false

/-- A cell as it leaves the engine. -/
def Value.normalized (value : Value) : Value :=
  if value.isNormal then value
  else match value.native with
    | .float _ => .null
    | .timestamp t => .text (String.ofList t.iso)
    | _ => .text (String.ofList value.plain)

theorem Value.isNormal_normalized (value : Value) : value.normalized.isNormal = true := by
  unfold normalized
  split
  next h => exact h
  next => split <;> rfl

end Insights
