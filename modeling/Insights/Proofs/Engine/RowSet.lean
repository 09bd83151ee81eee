import Insights.Engine.Connection
import Insights.Proofs.Loading.Step
import Insights.Proofs.Outcome

/-!
Rows that are made of raw cells. When there is a cell for every column, a row has exactly the names of the
columns, and a cell in front under a name of its own stays in front of the others.
-/

namespace Insights

namespace RowSet

/-- A row after cells were put into it one after the other, each under the name of its column. -/
def filled (row : Row) (cells : List (String × Value)) : Row :=
  cells.foldl (fun row cell => Fields.put cell.1 cell.2.normalized row) row

theorem filled_cons (row : Row) (cell : String × Value) (rest : List (String × Value)) :
    filled row (cell :: rest) = filled (Fields.put cell.1 cell.2.normalized row) rest :=
  rfl

theorem foldlM_putCell {columns : List String} {cells : List Value} (skipped : List Value) (row : Row)
    (h : columns.length ≤ cells.length) :
    (columns.zipIdx skipped.length).foldlM (putCell (.list (skipped ++ cells))) row =
      .ok (filled row (columns.zip cells)) := by
  induction columns generalizing skipped cells row with
  | nil => rfl
  | cons column rest ih =>
    cases cells with
    | nil => simp at h
    | cons cell others =>
      have hput : putCell (.list (skipped ++ cell :: others)) row (column, skipped.length) =
          .ok (Fields.put column cell.normalized row) := by
        have hcell : (skipped ++ cell :: others)[skipped.length]? = some cell := by simp
        simp only [putCell, Value.item, Value.items, Value.native, bind, Except.bind, hcell, orFault]
        rfl
      have hothers : rest.length ≤ others.length := by simpa using h
      have hrest := ih (skipped ++ [cell]) (Fields.put column cell.normalized row) hothers
      rw [List.length_append, List.length_singleton, List.append_assoc, List.singleton_append] at hrest
      rw [List.zipIdx_cons, List.foldlM_cons, hput, List.zip_cons_cons, filled_cons]
      exact hrest

/-- With a cell for every column a row can be made. -/
theorem rowOfCells_list {columns : List String} {cells : List Value} (h : columns.length ≤ cells.length) :
    rowOfCells columns (.list cells) = .ok (filled [] (columns.zip cells)) :=
  foldlM_putCell [] [] h

theorem isSome_lookup_filled (name : String) (row : Row) (cells : List (String × Value)) :
    ((filled row cells).lookup name).isSome ↔
      (row.lookup name).isSome ∨ name ∈ cells.map Prod.fst := by
  induction cells generalizing row with
  | nil => simp [filled]
  | cons cell rest ih =>
    rw [filled_cons, ih, Fields.lookup_put]
    by_cases h : name = cell.1
    · simp [h]
    · simp [h]

/-- Cells of other names are put behind a first one. -/
theorem filled_behind {name : String} {cells : List (String × Value)} (value : Value) (row : Row)
    (h : name ∉ cells.map Prod.fst) :
    filled ((name, value) :: row) cells = (name, value) :: filled row cells := by
  induction cells generalizing row with
  | nil => rfl
  | cons cell rest ih =>
    rw [List.map_cons, List.mem_cons, not_or] at h
    obtain ⟨hfirst, hrest⟩ := h
    rw [filled_cons, filled_cons, Fields.put, if_neg hfirst, ih _ hrest]

theorem isSome_lookup_columns {columns : List String} {cells : List Value}
    (h : cells.length = columns.length) (name : String) :
    ((filled [] (columns.zip cells)).lookup name).isSome ↔ name ∈ columns := by
  rw [isSome_lookup_filled, List.map_fst_zip (Nat.le_of_eq h.symm)]
  simp

end RowSet

namespace Connection

/-- The connection answers with columns and raw rows, and without a fault. -/
structure Returns (answer : ConnectionAnswer) (columns : List String) (rows : List (List Value)) : Prop where
  fault : answer.fault = none
  columns : answer.columns = some columns
  rows : answer.rows = rows.map .list

theorem outcome_query {answer : ConnectionAnswer} {columns : List String} {raws : List (List Value)}
    (h : Returns answer columns raws) (hwide : ∀ cells ∈ raws, cells.length = columns.length) (sql : Value) :
    (query answer sql).outcome =
      .ok ⟨columns, raws.map fun cells => RowSet.filled [] (columns.zip cells)⟩ := by
  have hall : (raws.map Value.list).mapM (RowSet.rowOfCells columns) =
      .ok (raws.map fun cells => RowSet.filled [] (columns.zip cells)) := by
    rw [List.mapM_map]
    apply mapM_eq_map
    intro cells hmem
    exact RowSet.rowOfCells_list (Nat.le_of_eq (hwide cells hmem).symm)
  simp only [query, executing, h.fault, h.columns, RowSet.ofCells, h.rows, hall]
  rfl

/-- The rows of a statement on a connection that answers by the text of the statement. -/
def rows (connection : String → ConnectionAnswer) (sql : String) : Except Fault (List Row) :=
  (query (connection sql) (.text sql)).outcome.map RowSet.rows

theorem rows_of_returns {connection : String → ConnectionAnswer} {sql : String} {columns : List String}
    {raws : List (List Value)} (h : Returns (connection sql) columns raws)
    (hwide : ∀ cells ∈ raws, cells.length = columns.length) :
    rows connection sql = .ok (raws.map fun cells => RowSet.filled [] (columns.zip cells)) := by
  rw [rows, outcome_query h hwide]
  rfl

end Connection
end Insights
