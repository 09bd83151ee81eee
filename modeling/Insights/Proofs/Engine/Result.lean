import Mathlib.Data.List.Dedup
import Insights.Engine.Copies
import Insights.Proofs.Engine.RowSet

/-!
What the result of a statement keeps of what the connection gave. There is a row for each raw row, in order,
with one entry for each name among the columns: the form of the last cell of that name. So no cell is lost
exactly if no name is repeated. All cells are null, flags, numbers or texts, and the rows can be asked for
any number of times, whatever was done to the copies that were handed out before.
-/

namespace Insights

/-- A cell that has the form in which cells leave the engine stays as it is. -/
theorem Value.normalized_of_isNormal {value : Value} (h : value.isNormal = true) : value.normalized = value :=
  if_pos h

namespace RowSet

variable {columns : List String} {cells : List Value}

/-- What a row holds of the cells that it was made of. -/
structure Holds (columns : List String) (cells : List Value) (row : Row) : Prop where
  /-- No name comes twice. -/
  once : (row.map Prod.fst).Nodup
  names : ∀ name, name ∈ row.map Prod.fst ↔ name ∈ columns
  /-- Under a name is the last cell of that name. -/
  last : ∀ {position : Nat} {name : String} {cell : Value}, columns[position]? = some name →
    cells[position]? = some cell → name ∉ columns.drop (position + 1) → row.lookup name = some cell.normalized
  /-- There is an entry for every column exactly if no name is repeated. -/
  full : row.length = columns.length ↔ columns.Nodup
  /-- Then every cell has its place. -/
  kept : columns.Nodup → row = columns.zip (cells.map Value.normalized)
  normal : ∀ entry ∈ row, entry.2.isNormal = true

theorem nodup_filled {row : Row} (h : (row.map Prod.fst).Nodup) (cells : List (String × Value)) :
    ((filled row cells).map Prod.fst).Nodup := by
  induction cells generalizing row with
  | nil => exact h
  | cons cell rest ih =>
    rw [filled_cons]
    exact ih (Fields.nodup_put h)

theorem mem_names_filled (name : String) (row : Row) (cells : List (String × Value)) :
    name ∈ (filled row cells).map Prod.fst ↔ name ∈ row.map Prod.fst ∨ name ∈ cells.map Prod.fst := by
  induction cells generalizing row with
  | nil => simp [filled]
  | cons cell rest ih =>
    rw [filled_cons, ih, Fields.mem_names_put, List.map_cons, List.mem_cons]
    tauto

theorem normal_filled {row : Row} (h : ∀ entry ∈ row, entry.2.isNormal = true) (cells : List (String × Value)) :
    ∀ entry ∈ filled row cells, entry.2.isNormal = true := by
  induction cells generalizing row with
  | nil => exact h
  | cons cell rest ih =>
    rw [filled_cons]
    refine ih fun entry hentry => ?_
    rcases Fields.mem_put hentry with hvalue | hrow
    · rw [hvalue]
      exact Value.isNormal_normalized cell.2
    · exact h entry hrow

/-- Cells of other names that come later change nothing. -/
theorem lookup_filled_of_not_mem {name : String} {cells : List (String × Value)}
    (h : name ∉ cells.map Prod.fst) (row : Row) : (filled row cells).lookup name = row.lookup name := by
  induction cells generalizing row with
  | nil => rfl
  | cons cell rest ih =>
    rw [List.map_cons, List.mem_cons, not_or] at h
    rw [filled_cons, ih h.2, Fields.lookup_put, if_neg h.1]

theorem filled_append (row : Row) (cells others : List (String × Value)) :
    filled row (cells ++ others) = filled (filled row cells) others :=
  List.foldl_append

/-- Cells without a repeated name are put one behind the other. -/
theorem filled_of_nodup {cells : List (String × Value)} (h : (cells.map Prod.fst).Nodup) :
    filled [] cells = cells.map fun cell => (cell.1, cell.2.normalized) := by
  induction cells with
  | nil => rfl
  | cons cell rest ih =>
    rw [List.map_cons, List.nodup_cons] at h
    rw [filled_cons, Fields.put, filled_behind _ _ h.1, ih h.2, List.map_cons]

theorem holds_filled (h : cells.length = columns.length) : Holds columns cells (filled [] (columns.zip cells)) := by
  have hnames : (columns.zip cells).map Prod.fst = columns := List.map_fst_zip (Nat.le_of_eq h.symm)
  have honce : ((filled [] (columns.zip cells)).map Prod.fst).Nodup := @nodup_filled [] List.nodup_nil _
  have hmem : ∀ name, name ∈ (filled [] (columns.zip cells)).map Prod.fst ↔ name ∈ columns := by
    intro name
    rw [mem_names_filled, hnames]
    simp
  refine ⟨honce, hmem, ?_, ?_, ?_, @normal_filled [] (by simp) _⟩
  · intro position name cell hname hcell hlast
    have hpair : (columns.zip cells)[position]? = some (name, cell) :=
      List.getElem?_zip_eq_some.mpr ⟨hname, hcell⟩
    obtain ⟨hlt, heq⟩ := List.getElem?_eq_some_iff.mp hpair
    have hlater : name ∉ ((columns.zip cells).drop (position + 1)).map Prod.fst := by
      rwa [List.map_drop, hnames]
    rw [← List.take_append_drop position (columns.zip cells), List.drop_eq_getElem_cons hlt, heq, filled_append,
      filled_cons, lookup_filled_of_not_mem hlater, Fields.lookup_put, if_pos rfl]
  · have hperm := (List.perm_ext_iff_of_nodup honce (List.nodup_dedup columns)).mpr fun name => by
      rw [hmem, List.mem_dedup]
    have hlength := hperm.length_eq
    rw [List.length_map] at hlength
    rw [hlength]
    constructor
    · intro heq
      rw [← (List.dedup_sublist columns).eq_of_length heq]
      exact List.nodup_dedup columns
    · intro hnodup
      rw [hnodup.dedup]
  · intro hnodup
    rw [filled_of_nodup (hnames.symm ▸ hnodup), List.zip_map_right]
    rfl

end RowSet

/-! ### Copies that are handed out -/

namespace Shelf

theorem read_range (rows others : List Row) : read ⟨rows ++ others⟩ (List.range rows.length) = rows := by
  apply List.ext_getElem
  · simp [read]
  · intro position hlt hlt'
    simp [read, List.getElem?_append_left hlt', List.getElem?_eq_getElem hlt']

theorem read_add (shelf : Shelf) (rows : List Row) : (shelf.add rows).2.read (shelf.add rows).1 = rows := by
  apply List.ext_getElem
  · simp [read, add]
  · intro position hlt hlt'
    simp [read, add, hlt']

end Shelf

namespace Holding

variable {result : RowSet} {holding : Holding}

/-- The rows of the result are where they were, and nothing was handed out from there. -/
structure Keeps (result : RowSet) (holding : Holding) : Prop where
  own : holding.own = List.range result.rows.length
  rows : ∃ others, holding.shelf.rows = result.rows ++ others
  apart : ∀ copies ∈ holding.handedOut, ∀ address ∈ copies, result.rows.length ≤ address

theorem keeps_ofResult (result : RowSet) : Keeps result (ofResult result) where
  own := by simp [ofResult, Shelf.add, Shelf.empty, List.range_eq_range']
  rows := ⟨[], by simp [ofResult, Shelf.add, Shelf.empty]⟩
  apart := nofun

theorem Keeps.read_own (h : Keeps result holding) : holding.shelf.read holding.own = result.rows := by
  obtain ⟨others, hrows⟩ := h.rows
  rw [h.own, show holding.shelf = ⟨result.rows ++ others⟩ from congrArg Shelf.mk hrows]
  exact Shelf.read_range _ _

theorem Keeps.ask (h : Keeps result holding) : Keeps result holding.ask where
  own := h.own
  rows := by
    obtain ⟨others, hrows⟩ := h.rows
    exact ⟨others ++ holding.shelf.read holding.own, by simp [Holding.ask, Shelf.add, hrows]⟩
  apart := by
    obtain ⟨others, hrows⟩ := h.rows
    intro copies hcopies address haddress
    rcases List.mem_append.mp hcopies with hearlier | hnew
    · exact h.apart copies hearlier address haddress
    · obtain rfl := List.mem_singleton.mp hnew
      have hfree : holding.shelf.rows.length ≤ address := (List.mem_range'_1.mp haddress).1
      rw [hrows, List.length_append] at hfree
      omega

theorem Keeps.use (h : Keeps result holding) (use : ResultUse) : Keeps result (holding.use use) := by
  cases use with
  | ask => exact h.ask
  | change time position row =>
    cases haddress : holding.address? time position with
    | none => simpa only [Holding.use, haddress] using h
    | some address =>
      simp only [Holding.use, haddress]
      obtain ⟨copies, hcopies, hposition⟩ := Option.bind_eq_some_iff.mp haddress
      have hle := h.apart copies (List.mem_of_getElem? hcopies) address (List.mem_of_getElem? hposition)
      obtain ⟨others, hrows⟩ := h.rows
      refine ⟨h.own, ⟨others.set (address - result.rows.length) row, ?_⟩, h.apart⟩
      rw [Shelf.change, hrows, List.set_append_right address row hle]

theorem Keeps.run (h : Keeps result holding) (uses : List ResultUse) : Keeps result (holding.run uses) := by
  induction uses generalizing holding with
  | nil => exact h
  | cons use rest ih => exact ih (h.use use)

/-- Whoever asks is handed the rows of the result, whatever was done before. -/
theorem Keeps.latest_ask (h : Keeps result holding) : holding.ask.latest = result.rows := by
  have hlast : holding.ask.latest = (holding.shelf.add (holding.shelf.read holding.own)).2.read
      (holding.shelf.add (holding.shelf.read holding.own)).1 := by
    simp [latest, Holding.ask]
  rw [hlast, Shelf.read_add, h.read_own]

end Holding

namespace Connection

/-- The connection answers without a fault: with columns and raw rows, or with nothing. -/
inductive Gives (answer : ConnectionAnswer) : List String → List (List Value) → Prop where
  | rows {columns raws} (h : Returns answer columns raws) : Gives answer columns raws
  | nothing (hfault : answer.fault = none) (hcolumns : answer.columns = none) : Gives answer [] []

/-- The result of a statement has the columns and, in order, a row for each raw row with the last cell of each
name, and thus every cell exactly if no name is repeated. Its cells are null, flags, finite numbers or texts
and do not change when they are brought into that form again. Its rows can be asked for again, whatever is
done to the copies that were handed out. -/
theorem result_of_statement {answer : ConnectionAnswer} {columns : List String} {raws : List (List Value)}
    (h : Gives answer columns raws) (hwide : ∀ cells ∈ raws, cells.length = columns.length) (sql : Value) :
    ∃ result : RowSet, (query answer sql).outcome = .ok result ∧ result.columns = columns ∧
      List.Forall₂ (RowSet.Holds columns) raws result.rows ∧
      (∀ value : Value, value.normalized.normalized = value.normalized) ∧
      ∀ uses, ((Holding.ofResult result).run uses).ask.latest = result.rows := by
  have hagain : ∀ value : Value, value.normalized.normalized = value.normalized := fun value =>
    Value.normalized_of_isNormal value.isNormal_normalized
  have hcopies : ∀ result uses, ((Holding.ofResult result).run uses).ask.latest = result.rows :=
    fun result uses => ((Holding.keeps_ofResult result).run uses).latest_ask
  cases h with
  | rows h =>
    refine ⟨_, outcome_query h hwide sql, rfl, ?_, hagain, hcopies _⟩
    rw [List.forall₂_map_right_iff, List.forall₂_same]
    exact fun cells hcells => RowSet.holds_filled (hwide cells hcells)
  | nothing hfault hcolumns =>
    have houtcome : (query answer sql).outcome = .ok .empty := by
      simp only [query, executing, hfault, hcolumns]
    exact ⟨_, houtcome, rfl, .nil, hagain, hcopies _⟩

/-- What a connection answers when sales are joined to something that also has an id. -/
def joinedSales : ConnectionAnswer :=
  ⟨none, none, some ["id", "value", "id"],
    [.list [.integer 1, .float .nan, .text "a"], .list [.integer 2, .decimal (.finite false 150 (-2)), .null]], []⟩

theorem gives_joinedSales : Gives joinedSales ["id", "value", "id"]
    [[.integer 1, .float .nan, .text "a"], [.integer 2, .decimal (.finite false 150 (-2)), .null]] :=
  .rows ⟨rfl, rfl, rfl⟩

theorem result_of_statement_joinedSales :
    Gives joinedSales ["id", "value", "id"]
        [[.integer 1, .float .nan, .text "a"], [.integer 2, .decimal (.finite false 150 (-2)), .null]] ∧
      ∃ result : RowSet, (query joinedSales (.text "q")).outcome = .ok result ∧
        result.columns = ["id", "value", "id"] ∧
        result.rows = [[("id", .text "a"), ("value", .null)], [("id", .null), ("value", .text "1.50")]] ∧
        ((Holding.ofResult result).run [.ask, .change 0 1 [], .ask, .change 1 0 []]).ask.latest = result.rows := by
  obtain ⟨result, houtcome, hcolumns, -, -, hcopies⟩ :=
    result_of_statement gives_joinedSales (by decide) (.text "q")
  have hrows : (query joinedSales (.text "q")).outcome.map RowSet.rows =
      .ok [[("id", .text "a"), ("value", .null)], [("id", .null), ("value", .text "1.50")]] := by
    decide +kernel
  rw [houtcome] at hrows
  exact ⟨gives_joinedSales, result, houtcome, hcolumns, Except.ok.inj hrows, hcopies _⟩

/-- Of two columns with one name the cell of the first is lost: the row has fewer entries than there are
columns. -/
theorem repeated_column_lost :
    Gives ⟨none, none, some ["id", "id"], [.list [.integer 1, .integer 2]], []⟩ ["id", "id"]
        [[.integer 1, .integer 2]] ∧
      ∃ result : RowSet,
        (query ⟨none, none, some ["id", "id"], [.list [.integer 1, .integer 2]], []⟩ (.text "q")).outcome =
          .ok result ∧
        result.columns = ["id", "id"] ∧ result.rows = [[("id", .integer 2)]] ∧
        ¬ ∀ row ∈ result.rows, row.length = result.columns.length :=
  ⟨.rows ⟨rfl, rfl, rfl⟩, ⟨["id", "id"], [[("id", .integer 2)]]⟩, by decide +kernel, rfl, rfl, by decide⟩

end Connection

end Insights
