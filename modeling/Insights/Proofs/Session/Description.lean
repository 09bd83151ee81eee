import Insights.Engine.Connection
import Insights.Proofs.Insight.Document
import Insights.Proofs.Insight.ShownFields
import Insights.Proofs.Session.Statement
import Insights.Proofs.Text.LetterCase
import Insights.Session.Execution
import Insights.Store.Basic

/-!
Loaded datasets as tables for insights. The table has a field for each column that the engine describes, and
an insight over it with nothing but a name selects those of the columns that are not hidden from the very
table that was loaded, whatever ids the fields were given. When loading or describing fails, so does this.
-/

namespace Insights

/-- A column with the class of its type, as the engine hands it on. -/
def Connection.ColumnInfo.toValue (column : ColumnInfo) : Value :=
  .object [("name", column.name), ("type", .text column.type.word)]

/-- The connection describes columns by their names and the names of their types. -/
structure Connection.Reports (answer : ConnectionAnswer) (columns : List (String × String)) : Prop where
  fault : answer.fault = none
  rows : List.Forall₂ (fun column row => ∃ position rest,
    row = .list (position :: .text column.1 :: .text column.2 :: rest)) columns answer.rows

/-- The engine of the session describes a table as a connection that answers this. -/
def Session.DescribesAs {σ : Type} (session : Session σ) (table : String) (answer : ConnectionAnswer) : Prop :=
  session.engine.orRaise .describe session.engine.columns =
    (Connection.describe answer table).outcome.map fun columns =>
      .list (columns.map Connection.ColumnInfo.toValue)

/-- The table has a field for each of the columns, in order, with the name of the column and the class of
its type. -/
def Table.Describes (table : Table) (columns : List (String × String)) : Prop :=
  List.Forall₂ (fun column field => field.name = column.1 ∧ field.column = column.1 ∧
    field.type = (ColumnType.ofName column.2).word) columns table.fields

/-- The tables are the same but for their ids and those of their fields. -/
structure Table.SameButIds (table other : Table) : Prop where
  name : other.name = table.name
  dataset : other.dataset = table.dataset
  fields : List.Forall₂ (fun field field' => field' = { field with id := field'.id }) table.fields other.fields

/-- An insight over the table, with any name that is not blank and no clause, has this statement. -/
def Table.SelectedBy (table : Table) (text : String) : Prop :=
  ∀ newId title, (∃ c ∈ title.toList, Text.isBlank c = false) → ∃ insight,
    Insight.ofParts newId [(Insight.nameKey.inner, .value (.text title)), (Insight.baseKey.inner, .table table)] =
      .ok insight ∧
    insight.sql = .ok text

/-- The names of the columns that are not hidden. -/
def shownColumns (columns : List (String × String)) : List String :=
  (columns.map Prod.fst).filter fun name => name.toList.head? ≠ some '_'

/-- What a statement selects that selects these columns; every column if there are none. -/
def selectionOf (names : List String) : String :=
  if names = [] then "*" else Sql.separated ", " (names.map Sql.quoteName)

theorem Table.Describes.columns {table : Table} {columns : List (String × String)}
    (h : table.Describes columns) : table.fields.map (·.column) = columns.map Prod.fst :=
  map_eq_map_of_forall₂ h fun _ _ hfield => hfield.2.1

theorem Table.SameButIds.columns {table other : Table} (h : table.SameButIds other) :
    other.fields.map (·.column) = table.fields.map (·.column) :=
  map_eq_map_of_forall₂ h.fields fun _ _ hfield => by rw [hfield]

theorem Connection.describe_of_reports {answer : ConnectionAnswer} {columns : List (String × String)}
    (h : Reports answer columns) (table : String) :
    (describe answer table).outcome =
      .ok (columns.map fun column => ⟨.text column.1, ColumnType.ofName column.2⟩) := by
  have hrows : answer.rows.mapM columnInfo =
      .ok (columns.map fun column => ⟨.text column.1, ColumnType.ofName column.2⟩) := by
    apply mapM_of_forall₂
    rw [List.forall₂_map_right_iff]
    refine h.rows.flip.imp fun row column hrow => ?_
    obtain ⟨position, rest, rfl⟩ := hrow
    rfl
  simp only [describe, executing, h.fault, hrows]

namespace Insight

/-- An insight with a name and a base table and nothing else. -/
def ofTable (id title : String) (base : Table) : Insight :=
  ⟨id, title, base, [], [], [], [], [], none, []⟩

/-- A name that is not blank and a table make such an insight. -/
theorem ofParts_ofTable {title : String} (htitle : ∃ c ∈ title.toList, Text.isBlank c = false) (base : Table)
    (newId : Nat → String) :
    ofParts newId [(nameKey.inner, .value (.text title)), (baseKey.inner, .table base)] =
      .ok (ofTable (newId 0) title base) := by
  obtain ⟨c, hc, hblank⟩ := htitle
  have hproper : Part.isProperName (.value (.text title)) = true := by
    have hkept := List.ne_nil_of_mem (Text.mem_trim hc hblank)
    simpa [Part.isProperName] using hkept
  exact ofParts_eq rfl rfl hproper rfl rfl

/-- Such an insight asks for the fields of its table that are not hidden. -/
theorem columns_askedFields_ofTable (id title : String) (base : Table) :
    (ofTable id title base).askedFields.map (·.column) =
      (base.fields.map (·.column)).filter fun name => name.toList.head? ≠ some '_' := by
  simp [askedFields, ofTable, List.filter_map, Function.comp_def, TableField.IsHidden]

theorem statement_ofTable {base : Table} {dataset : String} (hdataset : base.loaded? = some dataset)
    (id title : String) :
    (ofTable id title base).statement = .ok
      ⟨(ofTable id title base).shownFields.map fun field => .column field.column,
        .tables ⟨⟨tableName dataset, none⟩, []⟩, [], [], [], none, none⟩ := by
  have hsimple : (ofTable id title base).statement = (ofTable id title base).simpleStatement dataset := by
    rw [statement, InsightObject.statement_of_no_joins _ rfl, Insight.apart, ofTable, hdataset]
    rfl
  rw [hsimple]
  rfl

theorem renderItems_selection (columns : List String) :
    Sql.renderItems (columns.map Sql.Item.column) = selectionOf columns := by
  unfold selectionOf
  split
  · next hnone => rw [hnone, List.map_nil, Sql.renderItems]
  · next hsome => exact Sql.renderItems_columns columns hsome

theorem sql_ofTable {base : Table} {dataset : String} (hdataset : base.loaded? = some dataset) (id title : String) :
    (ofTable id title base).sql =
      .ok ("SELECT " ++ selectionOf ((ofTable id title base).askedFields.map (·.column)) ++ " FROM " ++
        Sql.quoteName (tableName dataset)) := by
  have hitems : (ofTable id title base).askedFields.map (fun field => Sql.Item.column field.column) =
      ((ofTable id title base).askedFields.map (·.column)).map Sql.Item.column := by
    rw [List.map_map]
    rfl
  have hsql : (ofTable id title base).sql = (ofTable id title base).statement.map Sql.Statement.render := rfl
  rw [hsql, statement_ofTable hdataset, Except.map]
  unfold Sql.Statement.render
  rw [shownFields_eq, hitems, renderItems_selection]
  simp [Sql.Source.render, Sql.Joined.render, Sql.separated_singleton, Sql.TableRef.render, Sql.renderClause,
    Sql.renderCount]

end Insight

namespace Action

open Session

variable {σ : Type} {session after : Session σ} {stored : String}

theorem describedField_eq (id name type : String) :
    describedField id (.object [("name", .text name), ("type", .text type)]) =
      .ok ⟨id, name, name, type, none, none⟩ :=
  rfl

/-- The field for a column, which gets the new id that its position decides. -/
def fieldOf (newId : Nat → String) (entry : (String × String) × Nat) : TableField :=
  ⟨newId (entry.2 + 1), entry.1.1, entry.1.1, (ColumnType.ofName entry.1.2).word, none, none⟩

/-- The table for the columns of a dataset. -/
def tableOf (newId : Nat → String) (name : String) (dataset : Dataset) (columns : List (String × String)) : Table :=
  ⟨newId 0, name, some dataset.id, columns.zipIdx.map (fieldOf newId)⟩

theorem describes_tableOf (newId : Nat → String) (name : String) (dataset : Dataset)
    (columns : List (String × String)) : (tableOf newId name dataset columns).Describes columns := by
  -- The new ids start at any number, so that the rest of the columns is like all of them.
  have hfields : ∀ first, List.Forall₂ (fun column field => field.name = column.1 ∧ field.column = column.1 ∧
      field.type = (ColumnType.ofName column.2).word) columns ((columns.zipIdx first).map (fieldOf newId)) := by
    induction columns with
    | nil =>
      intro first
      exact .nil
    | cons column rest ih =>
      intro first
      exact .cons (by simp only [fieldOf, and_self]) (ih (first + 1))
  exact hfields 0

theorem run_describe {answer : ConnectionAnswer} (h : session.DescribesAs stored answer) :
    (describe stored).run.run session =
      ((Connection.describe answer stored).outcome.map (List.map Connection.ColumnInfo.toValue),
        session.onEngine (·.record (.describe stored))) := by
  have hrun : (describe stored).run.run session =
      (session.engine.orRaise .describe session.engine.columns >>= Value.items,
        session.onEngine (·.record (.describe stored))) := rfl
  rw [hrun, h]
  cases (Connection.describe answer stored).outcome <;> rfl

theorem mapM_described (newId : Nat → String) (columns : List (String × String)) :
    (columns.map (Connection.ColumnInfo.toValue ∘ fun column =>
        ⟨.text column.1, ColumnType.ofName column.2⟩)).zipIdx.mapM
      (fun (column, position) => describedField (newId (position + 1)) column) =
        .ok (columns.zipIdx.map (fieldOf newId)) := by
  rw [List.zipIdx_map, List.mapM_map]
  apply mapM_eq_map
  intro entry _
  simp only [Prod.map, Function.comp_apply, id, Connection.ColumnInfo.toValue, describedField_eq, fieldOf]

variable [ByteStore σ] {loader : Nat} {dataset : Dataset} {newId : Nat → String}

/-- A dataset that is not loaded is not described. -/
theorem run_tableInfo_unloaded {fault : Fault} {name : Value}
    (hload : (ensureLoaded loader dataset).run.run session = (.error fault, after)) :
    (tableInfo newId loader dataset name).run.run session = (.error fault, after) := by
  rw [tableInfo, run_bind, hload]

/-- Nor does anything come of a description that fails. -/
theorem run_tableInfo_undescribed {fault : Fault} {name : Value} {answer : ConnectionAnswer}
    (hload : (ensureLoaded loader dataset).run.run session = (.ok stored, after))
    (hdescribes : after.DescribesAs stored answer)
    (hfault : (Connection.describe answer stored).outcome = .error fault) :
    ((tableInfo newId loader dataset name).run.run session).1 = .error fault := by
  rw [tableInfo, run_bind, hload]
  dsimp only
  rw [run_bind, run_describe hdescribes, hfault]
  rfl

theorem run_tableInfo_described {name : String} {answer : ConnectionAnswer} {columns : List (String × String)}
    (hload : (ensureLoaded loader dataset).run.run session = (.ok stored, after))
    (hdescribes : after.DescribesAs stored answer) (hreports : Connection.Reports answer columns) :
    (tableInfo newId loader dataset (.text name)).run.run session =
      (.ok (tableOf newId name dataset columns), after.onEngine (·.record (.describe stored))) := by
  rw [tableInfo, run_bind, hload]
  dsimp only
  rw [run_bind, run_describe hdescribes, Connection.describe_of_reports hreports, Except.map, List.map_map]
  dsimp only
  rw [run_bind, mapM_described]
  rfl

/-- Describing a dataset as a table fails as loading it or describing its columns does. Otherwise the table has
a field for each column, and an insight over it with a name and no clause selects the columns that are not
hidden from the table that was loaded; other ids make no difference to that. -/
theorem tableInfo_selects_loaded {loading : Except Fault String} (hreached : session.Reached)
    (hload : (ensureLoaded loader dataset).run.run session = (loading, after)) (newId : Nat → String)
    (name : String) :
    (∀ fault, loading = .error fault →
      ((tableInfo newId loader dataset (.text name)).run.run session).1 = .error fault) ∧
    ∀ stored answer, loading = .ok stored → after.DescribesAs stored answer →
      (∀ fault, (Connection.describe answer stored).outcome = .error fault →
        ((tableInfo newId loader dataset (.text name)).run.run session).1 = .error fault) ∧
      ∀ columns, Connection.Reports answer columns → ∃ info,
        (tableInfo newId loader dataset (.text name)).run.run session =
          (.ok info, after.onEngine (·.record (.describe stored))) ∧
        info.Describes columns ∧ info.name = name ∧ info.dataset = some dataset.id ∧
        (dataset.id ≠ "" → ∀ other, info.SameButIds other → other.SelectedBy
          ("SELECT " ++ selectionOf (shownColumns columns) ++ " FROM " ++ Sql.quoteName stored)) := by
  constructor
  · rintro fault rfl
    rw [run_tableInfo_unloaded hload]
  rintro stored answer rfl hdescribes
  constructor
  · intro fault hfault
    rw [run_tableInfo_undescribed hload hdescribes hfault]
  intro columns hreports
  have hdescribed := describes_tableOf newId name dataset columns
  refine ⟨tableOf newId name dataset columns, run_tableInfo_described hload hdescribes hreports,
    hdescribed, rfl, rfl, ?_⟩
  intro hid other hother insightId title htitle
  -- Nothing of the table counts but its dataset and its columns, and the dataset alone names the table.
  have hloaded : other.loaded? = some dataset.id := by
    rw [Table.loaded?, hother.dataset]
    exact Option.filter_some_pos (by simpa using hid)
  have hstored : stored = tableName dataset.id :=
    ensureLoaded_ok hreached (congrArg Prod.fst hload)
  have hcolumns : other.fields.map (·.column) = columns.map Prod.fst :=
    hother.columns.trans hdescribed.columns
  refine ⟨_, Insight.ofParts_ofTable htitle other insightId, ?_⟩
  rw [Insight.sql_ofTable hloaded, Insight.columns_askedFields_ofTable, hcolumns, hstored, shownColumns]

/-! ### A table with odd columns -/

def pricedDataset : Dataset :=
  ⟨"a-b", ⟨.local, "k"⟩, [], none, 0⟩

/-- One of the columns is hidden, one has quotes in its name, and one has no name at all. -/
def pricedColumns : List (String × String) :=
  [("id", "INTEGER"), ("_row", "BIGINT"), ("unit \"price\"", "decimal(10,2)"), ("", "STRUCT(a INTEGER)")]

def pricedAnswer : ConnectionAnswer where
  registerFault := none
  fault := none
  columns := none
  rows := pricedColumns.map fun column => .list [.integer 0, .text column.1, .text column.2, .boolean false]
  table := []

/-- The table is in the catalog of the engine. -/
def pricedSession : Session MemoryStore :=
  { Session.start .empty with
    engine := { ScriptedEngine.empty with
      tables := [("df_a_b", [])]
      columns := .list
        [.object [("name", .text "id"), ("type", .text "number")],
          .object [("name", .text "_row"), ("type", .text "number")],
          .object [("name", .text "unit \"price\""), ("type", .text "number")],
          .object [("name", .text ""), ("type", .text "string")]] } }

/-- A table whose fields all have its own id. -/
def withOneId (table : Table) (id : String) : Table :=
  { table with id, fields := table.fields.map fun field => { field with id } }

theorem sameButIds_withOneId (table : Table) (id : String) : table.SameButIds (withOneId table id) :=
  ⟨rfl, rfl, List.forall₂_map_right_iff.mpr (List.forall₂_same.mpr fun _ _ => rfl)⟩

theorem tableInfo_selects_loaded_priced :
    pricedSession.Reached ∧
      ((ensureLoaded 0 pricedDataset).run.run pricedSession).1 = .ok "df_a_b" ∧
      ((ensureLoaded 0 pricedDataset).run.run pricedSession).2.DescribesAs "df_a_b" pricedAnswer ∧
      Connection.Reports pricedAnswer pricedColumns ∧
      ∃ info, ((tableInfo Nat.repr 0 pricedDataset (.text "prices")).run.run pricedSession).1 = .ok info ∧
        info.Describes pricedColumns ∧ info.dataset = some "a-b" ∧ info.SameButIds (withOneId info "x") ∧
        (withOneId info "x").SelectedBy "SELECT \"id\", \"unit \"\"price\"\"\", \"\" FROM \"df_a_b\"" := by
  have hreached : pricedSession.Reached := (Session.reached_start MemoryStore.empty).of_loaders rfl
  have hloads : ((ensureLoaded 0 pricedDataset).run.run pricedSession).1 = .ok "df_a_b" := by decide +kernel
  have hdescribes : ((ensureLoaded 0 pricedDataset).run.run pricedSession).2.DescribesAs "df_a_b" pricedAnswer := by
    unfold DescribesAs
    decide +kernel
  have hreports : Connection.Reports pricedAnswer pricedColumns := by
    refine ⟨rfl, List.forall₂_map_right_iff.mpr (List.forall₂_same.mpr ?_)⟩
    intro column _
    exact ⟨_, _, rfl⟩
  have hrun : (ensureLoaded 0 pricedDataset).run.run pricedSession =
      (.ok "df_a_b", ((ensureLoaded 0 pricedDataset).run.run pricedSession).2) :=
    Prod.ext hloads rfl
  obtain ⟨-, hloaded⟩ := tableInfo_selects_loaded hreached hrun Nat.repr "prices"
  obtain ⟨-, hdescribed⟩ := hloaded "df_a_b" pricedAnswer rfl hdescribes
  obtain ⟨info, hinfo, hcolumns, -, hdataset, hselected⟩ := hdescribed pricedColumns hreports
  have hsame := sameButIds_withOneId info "x"
  have htext : "SELECT " ++ selectionOf (shownColumns pricedColumns) ++ " FROM " ++ Sql.quoteName "df_a_b" =
      "SELECT \"id\", \"unit \"\"price\"\"\", \"\" FROM \"df_a_b\"" := by
    decide +kernel
  have hother := hselected (by decide) (withOneId info "x") hsame
  rw [htext] at hother
  exact ⟨hreached, hloads, hdescribes, hreports, info, congrArg Prod.fst hinfo, hcolumns, hdataset, hsame, hother⟩

end Action

end Insights
