import Insights.Number.Whole
import Insights.Text.Character
import Insights.Value.Shown

/-!
Everything that can go wrong, as causes. A fault is raised by compiling a query, by loading a table, by
an engine or a store, or by a value that is not of the kind a place takes. `Fault.message` has the
wording of every cause that has one.
-/

namespace Insights

/-- A step from a document to one of its parts. -/
inductive Step where
  | key (name : String)
  | index (position : Nat)
deriving DecidableEq, Repr

/-- Why a part of a document is refused. -/
inductive Refusal where
  | missing
  | notText
  /-- Bytes in the place of a text that encode none. -/
  | garbledText
  | notChoice
  | notList
  | notObject
  | notInteger
  | fraction
  | notFinite
  | unreadableInteger
  | oversizedInteger
  | unreadableFlag
  | notFlag
  | notPath
  | belowMinimum
deriving DecidableEq, Repr

/-- A refused part, with the path that leads to it. -/
structure Issue where
  path : List Step
  refusal : Refusal
deriving DecidableEq, Repr

/-- What an engine says of its own failure. -/
inductive EngineTrouble where
  | general
  | access
  | catalog
deriving DecidableEq, Repr

/-- How much of a value is shown in the wording of a fault that cuts it off. -/
def shownLength : Nat := 200

inductive Fault where
  /-- An insight whose name is missing, not a text, or blank. -/
  | unnamedInsight
  /-- An insight without a base table. -/
  | tablelessInsight
  /-- A filter value that is a number but not a finite one. -/
  | nonFinite (value : Value)
  /-- A metric other than a count that names no column. -/
  | columnlessMetric (metric function : String)
  /-- An insight refused for a reason given as text. -/
  | invalidInsight (reason : String)
  /-- A table of an insight for which no dataset is known. -/
  | missingDataset (table : String) (joined : Bool)
  /-- A join whose key fields are not both fields of their tables. -/
  | joinKeyNotFound (baseTable baseField joinedTable joinedField : String)
  | unsupportedStorage (kind : String)
  /-- A table that could not be loaded, with the wording of the cause if it has one. -/
  | tableLoad (table : String) (reason : Option String)
  /-- A value that is none of the choices of a family. -/
  | unknownChoice (value : Value) (family : String)
  /-- A text that should be an integer and is not one. -/
  | unreadableInteger (value : Value)
  /-- A text with more digits than are read as an integer. -/
  | overlongInteger (digits : Nat)
  /-- An integer with more digits than are written. -/
  | unwritableInteger
  /-- A value that is not a number and should become an integer. -/
  | notANumber (kind : String)
  /-- A description of a column with too few cells. -/
  | shortDescription (cells : Nat)
  /-- An item of a row, given by its position, that is no pair of a name and a cell. -/
  | unpairedItem (position length : Nat)
  /-- A computation with decimals that has no result. -/
  | decimal (trouble : DecimalTrouble)
  | badValue (message : String)
  /-- A step of a pipeline that is no operation. -/
  | unknownOperation (value : Value)
  /-- A step of a pipeline that an engine refuses, in its words. -/
  | refusedStep (message : String)
  /-- An update of a part of an insight that is not updated by itself. -/
  | unknownUpdate (name : String)
  /-- A value of a kind that has no meaning in its place. -/
  | wrongKind
  /-- A value in the place of a text. -/
  | notText
  | missingKey (key : Value)
  | noSuchPosition
  /-- A number or a moment that leaves its range. -/
  | outOfRange
  | engine (trouble : EngineTrouble) (message : String)
  | system (message : String)
  | runtime (message : String)
  /-- A document or a query that goes too deep for an engine. -/
  | tooDeep (message : String)
  | cancelled
  /-- A document that is refused. -/
  | rejected (issues : List Issue)
  /-- A value that no document can hold, perhaps with the reason. -/
  | unwritable (reason : Option String)
deriving DecidableEq

/-- The wording of a fault, for those that have one. -/
def Fault.message : Fault → Option String
  | .unnamedInsight => some "Insight must have a name"
  | .tablelessInsight => some "Insight must have a baseTable"
  | .nonFinite value =>
    some ("Cannot use non-finite number " ++ String.ofList value.shown ++ " in a filter")
  | .columnlessMetric metric function =>
    some ("Metric " ++ metric ++ " (" ++ function ++ ") requires a column")
  | .invalidInsight reason => some reason
  | .missingDataset table true => some ("Join table " ++ table ++ " has no data")
  | .missingDataset table false =>
    some ("Base DataTable " ++ table ++ " has no cached data. Load data first.")
  | .joinKeyNotFound baseTable baseField joinedTable joinedField =>
    some ("Join key fields not found: " ++ baseTable ++ "." ++ baseField ++ " -> " ++ joinedTable ++
      "." ++ joinedField)
  | .unsupportedStorage kind =>
    some (String.ofList (Text.upper kind.toList) ++ " storage not yet implemented")
  | .tableLoad table reason => reason.map fun reason => "Failed to load table " ++ table ++ ": " ++ reason
  | .unknownChoice value family =>
    some (String.ofList value.shown ++ " is not a valid " ++ family)
  | .unreadableInteger value =>
    some ("invalid literal for int() with base 10: " ++ String.ofList (value.shown.take shownLength))
  | .overlongInteger digits =>
    some ("Exceeds the limit (" ++ String.ofList (digitsOf digitLimit) ++
      " digits) for integer string conversion: value has " ++ String.ofList (digitsOf digits) ++
      " digits; use sys.set_int_max_str_digits() to increase the limit")
  | .unwritableInteger =>
    some ("Exceeds the limit (" ++ String.ofList (digitsOf digitLimit) ++
      " digits) for integer string conversion; use sys.set_int_max_str_digits() to increase the limit")
  | .notANumber kind => some ("cannot convert " ++ kind ++ " to integer")
  | .shortDescription cells =>
    some ("not enough values to unpack (expected at least 3, got " ++
      String.ofList (digitsOf cells) ++ ")")
  | .unpairedItem position length =>
    some ("dictionary update sequence element #" ++ String.ofList (digitsOf position) ++
      " has length " ++ String.ofList (digitsOf length) ++ "; 2 is required")
  | .decimal .signaling => some "[<class 'decimal.InvalidOperation'>]"
  | .decimal .overflow => some "[<class 'decimal.Overflow'>]"
  | .badValue message => some message
  | .unknownOperation value => some ("Unknown query operation: " ++ String.ofList value.shown)
  | .refusedStep message => some message
  | .missingKey key => some (String.ofList key.shown)
  | .engine _ message => some message
  | .system message => some message
  | .runtime message => some message
  | .tooDeep message => some message
  | .unwritable reason => reason
  | .unknownUpdate _ | .wrongKind | .notText | .noSuchPosition | .outOfRange | .cancelled
  | .rejected _ => none

end Insights
