import Insights.Text.Quoted
import Insights.Value.Cell

/-!
Names and literals in a statement. A name stands between double quotes and a text between single ones,
with the quote doubled inside, so neither can end before its own end.
-/

namespace Insights.Sql

/-- A name of a table or a column. -/
def quoteName (name : String) : String :=
  String.ofList (Text.quoted '"' name.toList)

/-- A text as a literal. -/
def quoteText (text : String) : String :=
  String.ofList (Text.quoted '\'' text.toList)

/-- A constant in a statement. A number is kept as it is spelt. -/
inductive Literal where
  | null
  | boolean (b : Bool)
  | number (spelling : String)
  | text (s : String)
deriving DecidableEq, Repr

def Literal.render : Literal → String
  | .null => "NULL"
  | .boolean true => "TRUE"
  | .boolean false => "FALSE"
  | .number spelling => spelling
  | .text s => quoteText s

/-- The literal that a value is compared with. A number must be finite, and a moment must stay within the
calendar in universal time; a value without a literal form of its own is written as a text. A number of
another class is a number still, and is spelt as that class has it. -/
def Literal.ofValue (value : Value) : Except Fault Literal :=
  match value.native with
  | .null => .ok .null
  | .boolean b => .ok (.boolean b)
  | .integer _ => value.written.map fun value => .number (String.ofList value.plain)
  | .float x =>
    if x.isFinite then .ok (.number (String.ofList value.plain)) else .error (.nonFinite value)
  | .decimal d =>
    if d.isFinite then .ok (.number (String.ofList value.plain)) else .error (.nonFinite value)
  | .timestamp t => (orFault .outOfRange t.literal?).map fun text => .text (String.ofList text)
  | .date d => .ok (.text (String.ofList d.iso))
  | _ => value.written.map fun value => .text (String.ofList value.plain)

end Insights.Sql
