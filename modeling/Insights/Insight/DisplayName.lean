import Insights.Text.Bytes
import Insights.Text.Character

/-!
The name under which a table is shown. Names made by a program end in a universally unique id, perhaps
behind one separator and before a rest such as a file ending; that part is left out unless it is all
there is.
-/

namespace Insights

/-- The lengths of the groups of hexadecimal digits in a unique id. -/
def uuidGroups : List Nat := [8, 4, 4, 4, 12]

/-- What follows groups of digits with hyphens between them, if the text begins with such groups. -/
def afterGroups? : List Nat → List Char → Option (List Char)
  | [], text => some text
  | [length], text =>
    if (text.take length).length = length && (text.take length).all Text.isHexDigit then
      some (text.drop length)
    else none
  | length :: groups, text =>
    if (text.take length).length = length && (text.take length).all Text.isHexDigit then
      match text.drop length with
      | '-' :: rest => afterGroups? groups rest
      | _ => none
    else none

def isNameSeparator (c : Char) : Bool :=
  c == '_' || c == '-' || Text.isBlank c

/-- What follows a unique id, or a separator and a unique id, at the front of a text. -/
def afterUuid? (text : List Char) : Option (List Char) :=
  match text with
  | [] => none
  | c :: rest => if isNameSeparator c then afterGroups? uuidGroups rest else afterGroups? uuidGroups text

/-- What stays of the rest of a line: nothing, or the line feed at its very end. There is no result when
a line feed stands before the end. -/
def lineEnd? (rest : List Char) : Option (List Char) :=
  match rest.dropWhile (· ≠ '\n') with
  | [] => some []
  | ['\n'] => some ['\n']
  | _ => none

/-- The text without the first unique id that stands on the last line and all that follows it. -/
def withoutUuid : List Char → List Char
  | [] => []
  | c :: rest =>
    match (afterUuid? (c :: rest)).bind lineEnd? with
    | some kept => kept
    | none => c :: withoutUuid rest

/-- The name under which a table is shown. -/
def displayName (name : String) : String :=
  match withoutUuid name.toList with
  | [] => name
  | stripped => String.ofList stripped

end Insights
