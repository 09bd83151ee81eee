import Insights.Proofs.Engine.RowSet
import Insights.Proofs.Outcome
import Insights.Session.Batch

/-!
Batches of queries. The rows of all queries come back mixed, each behind the position of its query, and
are dealt out again. Every query has the rows that it has alone exactly when nothing gets in the way of
the additional column: no column of the queries has its name, or there is nothing to be dealt out.
-/

namespace Insights

namespace Batch

variable {α β : Type}

/-- What belongs to a position among things that come with positions, in order. -/
def share (merged : List (Nat × α)) (position : Nat) : List α :=
  (merged.filter (·.1 = position)).map Prod.snd

theorem share_cons (first : Nat × α) (rest : List (Nat × α)) (position : Nat) :
    share (first :: rest) position =
      if first.1 = position then first.2 :: share rest position else share rest position := by
  by_cases h : first.1 = position <;> simp [share, h]

theorem share_map (view : α → β) (merged : List (Nat × α)) (position : Nat) :
    share (merged.map fun one => (one.1, view one.2)) position = (share merged position).map view := by
  induction merged with
  | nil => rfl
  | cons first rest ih =>
    rw [List.map_cons, share_cons, share_cons, ih]
    split <;> simp

theorem mem_share {merged : List (Nat × α)} {one : Nat × α} (h : one ∈ merged) : one.2 ∈ share merged one.1 :=
  List.mem_map.mpr ⟨one, List.mem_filter.mpr ⟨h, by simp⟩, rfl⟩

/-! ### Dealing rows -/

/-- A row behind the position that it belongs to. -/
def positioned (one : Nat × Row) : Row :=
  (positionColumn, .integer one.1) :: one.2

theorem untagged_positioned {one : Nat × Row} (h : one.2.lookup positionColumn = none) :
    untagged (positioned one) = one.2 := by
  have hkept : one.2.filter (fun cell => cell.1 != positionColumn) = one.2 := by
    rw [List.filter_eq_self]
    intro cell hmem
    have hne := List.lookup_eq_none_iff.mp h cell hmem
    simpa [bne, BEq.comm] using hne
  simpa [untagged, positioned] using hkept

theorem deal_positioned {parts : List (List Row)} {one : Nat × Row} (hlt : one.1 < parts.length)
    (h : one.2.lookup positionColumn = none) :
    deal parts (positioned one) = .ok (parts.modify one.1 (· ++ [one.2])) := by
  have hcell : (positioned one).lookup positionColumn = some (.integer one.1) := by
    simp [positioned]
  have hpart : part? parts.length one.1 = some one.1 := by
    have hbounds : (0 : Int) ≤ one.1 ∧ (one.1 : Int) < parts.length := by omega
    rw [part?, if_pos hbounds, Int.toNat_natCast]
  simp only [deal, hcell, orFault, Value.wholeNumber, Value.native, bind, Except.bind, hpart, untagged_positioned h]
  rfl

/-- Rows behind positions go to the parts at these positions, where they keep their order. -/
theorem foldlM_deal {merged : List (Nat × Row)} {parts : List (List Row)}
    (hlt : ∀ one ∈ merged, one.1 < parts.length)
    (hfree : ∀ one ∈ merged, one.2.lookup positionColumn = none) :
    (merged.map positioned).foldlM deal parts =
      .ok (parts.mapIdx fun position part => part ++ share merged position) := by
  induction merged generalizing parts with
  | nil =>
    rw [List.map_nil, List.foldlM_nil]
    refine congrArg Except.ok (List.ext_getElem? fun position => ?_)
    rw [List.getElem?_mapIdx]
    simp [share]
  | cons first rest ih =>
    rw [List.forall_mem_cons] at hlt hfree
    obtain ⟨hfirst, hrest⟩ := hlt
    obtain ⟨hfirstFree, hrestFree⟩ := hfree
    rw [List.map_cons, List.foldlM_cons, deal_positioned hfirst hfirstFree]
    refine (ih (by simpa using hrest) hrestFree).trans (congrArg Except.ok ?_)
    apply List.ext_getElem?
    intro position
    rw [List.getElem?_mapIdx, List.getElem?_mapIdx, List.getElem?_modify, share_cons]
    split <;> simp [Function.comp_def]

theorem dealAll_positioned {merged : List (Nat × Row)} {count : Nat} (hlt : ∀ one ∈ merged, one.1 < count)
    (hfree : ∀ one ∈ merged, one.2.lookup positionColumn = none) :
    dealAll count (merged.map positioned) = .ok ((List.range count).map (share merged)) := by
  rw [dealAll, foldlM_deal (by simpa using hlt) hfree]
  congr 1
  apply List.ext_getElem?
  intro position
  rw [List.getElem?_mapIdx, List.getElem?_map]
  by_cases h : position < count
  · simp [h]
  · simp [h]

/-- None of the rows has a cell in the additional column. -/
def Stripped (parts : List (List Row)) : Prop :=
  ∀ part ∈ parts, ∀ row ∈ part, List.lookup positionColumn row = none

theorem stripped_deal {parts after : List (List Row)} {row : Row} (h : Stripped parts)
    (hdeal : deal parts row = .ok after) : Stripped after := by
  simp only [deal, bind_eq_ok, pure_eq_ok] at hdeal
  obtain ⟨cell, -, n, -, place, -, rfl⟩ := hdeal
  intro part hpart other hother
  obtain ⟨position, hposition⟩ := List.mem_iff_getElem?.mp hpart
  rw [List.getElem?_modify, Option.map_eq_map, Option.map_eq_some_iff] at hposition
  obtain ⟨old, hold, rfl⟩ := hposition
  have hmem : old ∈ parts := List.mem_of_getElem? hold
  split at hother
  · rcases List.mem_append.mp hother with hkept | hnew
    · exact h old hmem other hkept
    · rw [List.mem_singleton.mp hnew, untagged, Fields.lookup_erase, if_pos rfl]
  · exact h old hmem other hother

theorem stripped_foldlM {parts after : List (List Row)} {rows : List Row} (h : Stripped parts)
    (hdeal : rows.foldlM deal parts = .ok after) : Stripped after := by
  induction rows generalizing parts with
  | nil =>
    rw [List.foldlM_nil, pure_eq_ok] at hdeal
    exact hdeal ▸ h
  | cons row rest ih =>
    rw [List.foldlM_cons, bind_eq_ok] at hdeal
    obtain ⟨middle, hfirst, hrest⟩ := hdeal
    exact ih (stripped_deal h hfirst) hrest

/-- Nothing that was dealt out has a cell in the additional column. -/
theorem stripped_dealAll {count : Nat} {rows : List Row} {parts : List (List Row)}
    (h : dealAll count rows = .ok parts) : Stripped parts := by
  refine stripped_foldlM (fun part hpart row hrow => ?_) h
  rw [(List.mem_replicate.mp hpart).2] at hrow
  cases hrow

/-- Two rows with the same cells, in whatever order. -/
def SameCells (first second : Row) : Prop :=
  ∀ name, List.lookup name first = List.lookup name second

theorem Stripped.of_sameCells {parts others : List (List Row)} (h : Stripped parts)
    (hsame : List.Forall₂ (List.Forall₂ SameCells) parts others) : Stripped others := by
  refine forall_of_forall₂ hsame.flip h fun other part hrows hpart => ?_
  refine forall_of_forall₂ hrows.flip hpart fun row' row hcells hrow => ?_
  rw [← hcells positionColumn, hrow]

end Batch

namespace Connection

open Batch

/-- How a connection answers queries: each query alone with the same columns and with raw rows of its own,
and several of them in one statement with their rows mixed in some way, each behind the position of its
query. -/
structure Answers (connection : String → ConnectionAnswer) (queries columns : List String)
    (raws : List (List (List Value))) : Prop where
  wide : ∀ rows ∈ raws, ∀ cells ∈ rows, cells.length = columns.length
  alone : List.Forall₂ (fun query rows => Returns (connection query) columns rows) queries raws
  together : 2 ≤ queries.length → ∃ merged : List (Nat × List Value),
    (∀ position, share merged position = raws.getD position []) ∧
      Returns (connection (statement (queries.map .text))) (positionColumn :: columns)
        (merged.map fun one => .integer one.1 :: one.2)

variable {connection : String → ConnectionAnswer} {queries columns : List String}
  {raws : List (List (List Value))}

/-- The rows that are made of the raw rows of one query. -/
def made (columns : List String) (raw : List (List Value)) : List Row :=
  raw.map fun cells => RowSet.filled [] (columns.zip cells)

theorem Answers.rows_alone (h : Answers connection queries columns raws) :
    List.Forall₂ (fun query made => rows connection query = .ok made) queries (raws.map (made columns)) := by
  obtain ⟨hwide, halone, -⟩ := h
  induction halone with
  | nil => exact .nil
  | cons hfirst _ ih =>
    rw [List.forall_mem_cons] at hwide
    exact .cons (rows_of_returns hfirst hwide.1) (ih hwide.2)

/-- A batch of several queries deals out the rows of one statement. -/
theorem through_several {answer : List Row} (hmany : 2 ≤ queries.length)
    (h : rows connection (statement (queries.map .text)) = .ok answer) :
    through (rows connection) (.list (queries.map .text)) = dealAll queries.length answer := by
  obtain _ | ⟨first, _ | ⟨second, rest⟩⟩ := queries
  · simp at hmany
  · simp at hmany
  · have hsent : through (rows connection) (.list ((first :: second :: rest).map .text)) =
        rows connection (statement ((first :: second :: rest).map .text)) >>= fun answer =>
          dealAll ((first :: second :: rest).map Value.text).length answer := rfl
    rw [hsent, h, List.length_map]
    rfl

/-- A query that is alone in its batch is sent as it is, and without queries there is nothing to send. -/
theorem through_few {alone : List (List Row)} (hfew : queries.length < 2)
    (h : List.Forall₂ (fun query made => rows connection query = .ok made) queries alone) :
    through (rows connection) (.list (queries.map .text)) = .ok alone := by
  cases h with
  | nil => rfl
  | cons hquery hrest =>
    cases hrest with
    | cons =>
      simp only [List.length_cons] at hfew
      omega
    | nil =>
      next query answer =>
        have hsent : through (rows connection) (.list [.text query]) =
            rows connection query >>= fun answer => pure [answer] := rfl
        exact hsent.trans (congrArg (· >>= fun answer => pure [answer]) hquery)

section
variable {merged : List (Nat × List Value)}
  (hshare : ∀ position, share merged position = raws.getD position [])
include hshare

theorem exists_raw {one : Nat × List Value} (h : one ∈ merged) :
    ∃ raw, raws[one.1]? = some raw ∧ one.2 ∈ raw := by
  have hmem := mem_share h
  rw [hshare, List.getD_eq_getElem?_getD] at hmem
  cases hraw : raws[one.1]? with
  | none => simp [hraw] at hmem
  | some raw => exact ⟨raw, rfl, by simpa [hraw] using hmem⟩

theorem wide_behind (hwide : ∀ raw ∈ raws, ∀ cells ∈ raw, cells.length = columns.length) :
    ∀ cells ∈ merged.map fun one => .integer one.1 :: one.2,
      cells.length = (positionColumn :: columns).length := by
  intro cells hmem
  obtain ⟨one, hone, rfl⟩ := List.mem_map.mp hmem
  obtain ⟨raw, hraw, hcells⟩ := exists_raw hshare hone
  have hlength := hwide raw (List.mem_of_getElem? hraw) one.2 hcells
  simpa using hlength

/-- Unless a column has the name of the additional one, the rows are dealt out as they were made. -/
theorem dealAll_made (hwide : ∀ raw ∈ raws, ∀ cells ∈ raw, cells.length = columns.length)
    (hfree : ∀ one ∈ merged, positionColumn ∉ columns) :
    dealAll raws.length (made (positionColumn :: columns) (merged.map fun one => .integer one.1 :: one.2)) =
      .ok (raws.map (made columns)) := by
  have hbound : ∀ one ∈ merged, one.1 < raws.length := by
    intro one hone
    obtain ⟨raw, hraw, -⟩ := exists_raw hshare hone
    exact (List.getElem?_eq_some_iff.mp hraw).1
  have hlength : ∀ one ∈ merged, one.2.length = columns.length := by
    intro one hone
    obtain ⟨raw, hraw, hcells⟩ := exists_raw hshare hone
    exact hwide raw (List.mem_of_getElem? hraw) one.2 hcells
  have hmade : made (positionColumn :: columns) (merged.map fun one => .integer one.1 :: one.2) =
      (merged.map fun one => (one.1, RowSet.filled [] (columns.zip one.2))).map positioned := by
    rw [made, List.map_map, List.map_map]
    apply List.map_congr_left
    intro one hone
    have hnames : positionColumn ∉ (columns.zip one.2).map Prod.fst := by
      rw [List.map_fst_zip (Nat.le_of_eq (hlength one hone).symm)]
      exact hfree one hone
    exact RowSet.filled_behind (.integer one.1) [] hnames
  rw [hmade, dealAll_positioned]
  · congr 1
    apply List.ext_getElem?
    intro position
    rw [List.getElem?_map, List.getElem?_map]
    by_cases hposition : position < raws.length
    · simp [hposition, share_map (fun cells => RowSet.filled [] (columns.zip cells)), hshare, made]
    · simp [hposition]
  · intro one hone
    obtain ⟨raw, hraw, rfl⟩ := List.mem_map.mp hone
    exact hbound raw hraw
  · intro one hone
    obtain ⟨raw, hraw, rfl⟩ := List.mem_map.mp hone
    rw [← Option.not_isSome_iff_eq_none, RowSet.isSome_lookup_columns (hlength raw hraw)]
    exact hfree raw hraw

end

/-- Rows that are made of raw cells keep a cell in the additional column if they have such a column. -/
theorem not_stripped_made (hwide : ∀ raw ∈ raws, ∀ cells ∈ raw, cells.length = columns.length)
    (hcolumn : positionColumn ∈ columns) {raw : List (List Value)} (hraw : raw ∈ raws) (hsome : raw ≠ []) :
    ¬ Stripped (raws.map (made columns)) := by
  intro hstripped
  obtain ⟨cells, hcells⟩ := List.exists_mem_of_ne_nil raw hsome
  have hnone := hstripped (made columns raw) (List.mem_map_of_mem hraw) _ (List.mem_map_of_mem hcells)
  have hkept := (RowSet.isSome_lookup_columns (hwide raw hraw cells hcells) positionColumn).mpr hcolumn
  rw [hnone] at hkept
  cases hkept

/-- Nothing gets in the way of the additional column: no column is named like it, or there is nothing to be
dealt out by it. -/
def Undisturbed (queries columns : List String) (raws : List (List (List Value))) : Prop :=
  positionColumn ∉ columns ∨ queries.length < 2 ∨ ∀ raw ∈ raws, raw = []

/-- Alone every query succeeds, with as many rows as the connection returns for it. If no column is named like
the additional one, a batch of any number of queries gives each of them these rows, one list for each query
and in the order of the queries; the same goes for fewer than two queries and when there is no row at all. In
all other cases the batch fails or gives rows that are not the same. -/
theorem batch_transparent_iff (h : Answers connection queries columns raws) :
    ∃ alone, List.Forall₂ (fun query made => rows connection query = .ok made) queries alone ∧
      alone.map List.length = raws.map List.length ∧
      (Undisturbed queries columns raws → through (rows connection) (.list (queries.map .text)) = .ok alone) ∧
      (¬ Undisturbed queries columns raws → ∀ parts,
        through (rows connection) (.list (queries.map .text)) = .ok parts →
          ¬ List.Forall₂ (List.Forall₂ SameCells) parts alone) := by
  have halone := h.rows_alone
  have hcount : raws.length = queries.length := h.alone.length_eq.symm
  refine ⟨raws.map (made columns), halone, by simp [made, Function.comp_def], ?_, ?_⟩
  · intro hfree
    by_cases hfew : queries.length < 2
    · exact through_few hfew halone
    · have hmany : 2 ≤ queries.length := by omega
      obtain ⟨merged, hshare, hreturns⟩ := h.together hmany
      rw [through_several hmany (rows_of_returns hreturns (wide_behind hshare h.wide)), ← hcount]
      apply dealAll_made hshare h.wide
      intro one hone
      obtain ⟨raw, hraw, hcells⟩ := exists_raw hshare hone
      rcases hfree with hcolumn | hfew' | hempty
      · exact hcolumn
      · exact absurd hfew' hfew
      · rw [hempty raw (List.mem_of_getElem? hraw)] at hcells
        cases hcells
  · intro hdisturbed parts hparts hsame
    simp only [Undisturbed, not_or, not_not, Nat.not_lt, not_forall] at hdisturbed
    obtain ⟨hcolumn, hmany, raw, hraw, hsome⟩ := hdisturbed
    obtain ⟨merged, hshare, hreturns⟩ := h.together hmany
    rw [through_several hmany (rows_of_returns hreturns (wide_behind hshare h.wide))] at hparts
    exact not_stripped_made h.wide hcolumn hraw hsome ((stripped_dealAll hparts).of_sameCells hsame)

/-- An answer without a fault. -/
def answerOf (columns : List String) (rows : List (List Value)) : ConnectionAnswer :=
  ⟨none, none, some columns, rows.map .list, []⟩

theorem returns_answerOf (columns : List String) (rows : List (List Value)) :
    Returns (answerOf columns rows) columns rows :=
  ⟨rfl, rfl, rfl⟩

def threeQueries : List String :=
  ["SELECT a", "SELECT b", "SELECT c"]

/-- The second query has no rows, and a cell of the first one is no number. -/
def threeRaws : List (List (List Value)) :=
  [[[.integer 1], [.float .nan]], [], [[.text "x"]]]

def mixedRows : List (Nat × List Value) :=
  [(0, [.integer 1]), (2, [.text "x"]), (0, [.float .nan])]

/-- A connection with one column. -/
def threeAnswers (column : String) (sql : String) : ConnectionAnswer :=
  match threeQueries.idxOf? sql with
  | some position => answerOf [column] (threeRaws.getD position [])
  | none => answerOf [positionColumn, column] (mixedRows.map fun one => .integer one.1 :: one.2)

theorem answers_threeAnswers (column : String) :
    Answers (threeAnswers column) threeQueries [column] threeRaws where
  wide := by
    simp [threeRaws]
  alone := .cons (returns_answerOf _ _) (.cons (returns_answerOf _ _) (.cons (returns_answerOf _ _) .nil))
  together := by
    intro _
    refine ⟨mixedRows, ?_, ?_⟩
    · intro position
      match position with
      | 0 => rfl
      | 1 => rfl
      | 2 => rfl
      | later + 3 => simp [share, mixedRows, threeRaws]
    · have hnone : threeQueries.idxOf? (statement (threeQueries.map .text)) = none := by decide +kernel
      rw [threeAnswers, hnone]
      exact returns_answerOf _ _

theorem batch_transparent_iff_threeAnswers :
    (Answers (threeAnswers "value") threeQueries ["value"] threeRaws ∧
      through (rows (threeAnswers "value")) (.list (threeQueries.map .text)) =
        .ok [[[("value", .integer 1)], [("value", .null)]], [], [[("value", .text "x")]]]) ∧
      Answers (threeAnswers positionColumn) threeQueries [positionColumn] threeRaws ∧
      ∃ alone, List.Forall₂ (fun query made => rows (threeAnswers positionColumn) query = .ok made)
          threeQueries alone ∧
        ∀ parts, through (rows (threeAnswers positionColumn)) (.list (threeQueries.map .text)) = .ok parts →
          ¬ List.Forall₂ (List.Forall₂ SameCells) parts alone := by
  have hfree : Undisturbed threeQueries ["value"] threeRaws := .inl (by decide)
  have hdisturbed : ¬ Undisturbed threeQueries [positionColumn] threeRaws := by
    simp [Undisturbed, threeQueries, threeRaws]
  obtain ⟨alone, halone, -, hsame, -⟩ := batch_transparent_iff (answers_threeAnswers "value")
  obtain ⟨others, hothers, -, -, hdiffer⟩ := batch_transparent_iff (answers_threeAnswers positionColumn)
  refine ⟨⟨answers_threeAnswers "value", ?_⟩, answers_threeAnswers positionColumn, others, hothers,
    hdiffer hdisturbed⟩
  have hrows : List.Forall₂ (fun query made => rows (threeAnswers "value") query = .ok made) threeQueries
      [[[("value", .integer 1)], [("value", .null)]], [], [[("value", .text "x")]]] :=
    .cons rfl (.cons rfl (.cons rfl .nil))
  have hunique : Relator.RightUnique fun query made => rows (threeAnswers "value") query = .ok made := by
    intro query made made' hmade hmade'
    exact Except.ok.inj (hmade.symm.trans hmade')
  rw [hsame hfree, List.right_unique_forall₂' hunique halone hrows]

end Connection
end Insights
