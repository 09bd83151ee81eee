import Insights.Value.Cell
import Insights.Value.Shown

/-!
Rows, and the results that have them.
-/

namespace Insights

/-! ### Rows

Rows of a result. A row has its cells by column name; it may also be given as pairs of a name and a
cell, where a later pair counts in the place of an earlier one with the same key. -/

/-- A row of a result, by column name. -/
abbrev Row := Fields Value

namespace Row

/-- A cell with the key under which it is put, and the text of that key. -/
structure Entry where
  key : Key
  name : String
  cell : Value

/-- The entry that an item stands for, which must be a pair. -/
def Entry.ofItem (position : Nat) (item : Value) : Except Fault Entry := do
  match ← item.items with
  | [name, cell] => return ⟨← orFault .wrongKind name.key?, String.ofList name.plain, cell⟩
  | parts => throw (.unpairedItem position parts.length)

/-- Puts the cell of an entry under its key: in place of the cell that is there, or else at the end. -/
def Entry.put (entry : Entry) : List Entry → List Entry
  | [] => [entry]
  | other :: rest =>
    if other.key = entry.key then { other with cell := entry.cell } :: rest
    else other :: entry.put rest

/-- The row of items that are pairs. -/
def ofPairs (items : List Value) : Except Fault Row := do
  let entries ← items.zipIdx.mapM fun (item, position) => Entry.ofItem position item
  let distinct := entries.foldl (fun done entry => entry.put done) []
  return distinct.foldl (fun row entry => Fields.put entry.name entry.cell row) []

/-- The row that a value stands for. -/
def ofValue : Value → Except Fault Row
  | .object fields => .ok fields
  | value => do ofPairs (← value.items)

/-- The rows of a value that should be a list of rows. -/
def listOf (value : Value) : Except Fault (List Row) := do
  (← value.items).mapM ofValue

end Row

/-! ### Results

Results of queries: the names of the columns, and the rows as cells by column name. -/

structure RowSet where
  columns : List String
  rows : List Row
deriving DecidableEq

namespace RowSet

def empty : RowSet := ⟨[], []⟩

def length (result : RowSet) : Nat :=
  result.rows.length

/-- Puts the cell at a position into a row under the name of its column. -/
def putCell (cells : Value) (row : Row) (column : String × Nat) : Except Fault Row := do
  let cell ← cells.item column.2
  return Fields.put column.1 cell.normalized row

/-- The row of some cells. Of two columns with one name the last one counts, and cells beyond the
columns are left out. -/
def rowOfCells (columns : List String) (cells : Value) : Except Fault Row :=
  columns.zipIdx.foldlM (putCell cells) []

/-- The result that a connection returns as cells. -/
def ofCells (columns : List String) (rows : List Value) : Except Fault RowSet := do
  return ⟨columns, ← rows.mapM (rowOfCells columns)⟩

end RowSet
end Insights
