import Insights.Decode.Scalar
import Insights.Engine.RowSet
import Insights.Sql.Literal
import Insights.Text.Character

/-!
An engine behind a connection, and what it says of the types of columns.
-/

namespace Insights

/-! ### Types of columns

The classes of column types. An engine names the type of a column in its own words, in any letter case
and perhaps with parameters in parentheses. The words in front of the parameters decide the class, and
words that are not known stand for text. -/

inductive ColumnType where
  | text
  | flag
  | number
  | moment
deriving DecidableEq, Repr

def ColumnType.word : ColumnType → String
  | .text => "string"
  | .flag => "boolean"
  | .number => "number"
  | .moment => "date"

/-- The types that an engine may name. -/
def scalarTypes : List (String × ColumnType) :=
  [("VARCHAR", .text), ("BOOLEAN", .flag), ("BIGINT", .number), ("INTEGER", .number),
   ("SMALLINT", .number), ("TINYINT", .number), ("HUGEINT", .number), ("UBIGINT", .number),
   ("UINTEGER", .number), ("USMALLINT", .number), ("UTINYINT", .number), ("DOUBLE", .number),
   ("FLOAT", .number), ("DECIMAL", .number), ("DATE", .moment), ("TIMESTAMP", .moment),
   ("TIMESTAMP WITH TIME ZONE", .moment), ("TIMESTAMP_NS", .moment), ("TIMESTAMP_MS", .moment),
   ("TIMESTAMP_S", .moment), ("TIME", .text), ("INTERVAL", .text), ("BLOB", .text)]

/-- The words of a type in front of its parameters, in upper case and trimmed. -/
def typeWords (type : List Char) : List Char :=
  Text.trim ((Text.upper type).takeWhile (· ≠ '('))

/-- The class of the type that an engine names. -/
def ColumnType.ofName (type : String) : ColumnType :=
  (scalarTypes.lookup (String.ofList (typeWords type.toList))).getD .text

/-- The class of a type that is given as a value, which must be a text. -/
def ColumnType.ofValue (type : Value) : Except Fault ColumnType :=
  type.asText.map ofName

/-! ### Connections

The engine as it uses its connection. Each operation makes certain calls, and what the connection
answers to them decides the outcome. The answers are given beforehand, so an operation is the list of
its calls together with its outcome. -/

/-- Columns of values by name, as bytes in transit hold them. -/
abbrev Columns := Fields (List Value)

inductive ConnectionCall where
  /-- A statement as it was given. -/
  | execute (sql : Value)
  | register (view : String) (data : Columns)
  | unregister (view : String)
  | close
deriving DecidableEq

/-- What the connection answers. -/
structure ConnectionAnswer where
  registerFault : Option Fault
  /-- Raised by the execution of a statement, if set. -/
  fault : Option Fault
  /-- The names of the columns, if the statement has a result. -/
  columns : Option (List String)
  /-- The rows, each a value that should be a list of cells. -/
  rows : List Value
  table : Columns

/-- The calls of an operation, and its outcome. -/
structure Exchange (α : Type) where
  calls : List ConnectionCall
  outcome : Except Fault α

namespace Connection

/-- A single statement whose outcome is worked out from the answer unless it fails. -/
def executing {α : Type} (answer : ConnectionAnswer) (sql : Value) (outcome : Except Fault α) :
    Exchange α :=
  ⟨[.execute sql], match answer.fault with
    | some fault => .error fault
    | none => outcome⟩

/-- The result of a statement. -/
def query (answer : ConnectionAnswer) (sql : Value) : Exchange RowSet :=
  executing answer sql <|
    match answer.columns with
    | none => .ok .empty
    | some columns => RowSet.ofCells columns answer.rows

/-- A column of a table with the class of its type. -/
structure ColumnInfo where
  name : Value
  type : ColumnType
deriving DecidableEq

/-- A row of the description of a table: a position, a name, a type, and more that is not used. -/
def columnInfo (row : Value) : Except Fault ColumnInfo := do
  match ← row.items with
  | _ :: name :: type :: _ => return ⟨name, ← ColumnType.ofValue type⟩
  | cells => throw (.shortDescription cells.length)

/-- An operation on a table whose name is given as a value. Without a name there is no call. -/
def named {α : Type} (table : Value) (operation : String → Exchange α) : Exchange α :=
  match table.name with
  | .ok name => operation name
  | .error fault => ⟨[], .error fault⟩

/-- The columns of a table. -/
def describe (answer : ConnectionAnswer) (table : String) : Exchange (List ColumnInfo) :=
  executing answer (.text ("PRAGMA table_info(" ++ Sql.quoteName table ++ ")"))
    (answer.rows.mapM columnInfo)

/-- The statement that takes the rows of a view into a table: a new one, or one that is there. -/
def importStatement (table view : String) (create : Bool) : String :=
  (if create then "CREATE TABLE " ++ Sql.quoteName table ++ " AS " else
      "INSERT INTO " ++ Sql.quoteName table ++ " ") ++ "SELECT * FROM " ++ Sql.quoteName view

/-- Imports columns into a table by way of a view, which is taken away again whether or not the
statement succeeds. -/
def bulkImport (answer : ConnectionAnswer) (view table : String) (data : Columns) (create : Bool) :
    Exchange Unit :=
  match answer.registerFault with
  | some fault => ⟨[.register view data], .error fault⟩
  | none =>
    let exchange := executing answer (.text (importStatement table view create)) (.ok ())
    ⟨.register view data :: exchange.calls ++ [.unregister view], exchange.outcome⟩

/-- The result of a statement as columns. -/
def exportRows (answer : ConnectionAnswer) (sql : Value) : Exchange Columns :=
  executing answer sql (.ok answer.table)

def close : Exchange Unit :=
  ⟨[.close], .ok ()⟩

end Connection
end Insights
