import Mathlib.Data.List.Nodup
import Insights.Proofs.Dataset.TableName
import Insights.Proofs.Session.Branches

/-!
The tables that a builder joins. They stand in its statement under the names that they have in the engine, and
conditions of joins tell columns by these names. So it depends on the ids of the datasets alone whether every
column there is one of exactly one table: no two of them, the base included, may have ids that are the same up to
hyphens and underscores. In particular a dataset that is joined to itself, or joined twice, stands there twice
under one name.
-/

namespace Insights

namespace Sql

namespace Joined

variable {joined : Joined}

/-- The tables of a statement, the first one first. -/
def tables (joined : Joined) : List TableRef :=
  joined.base :: joined.joins.map (·.table)

/-- The tables that go by a qualifier in front of a column. -/
def named (joined : Joined) (qualifier : String) : List TableRef :=
  joined.tables.filter fun table => table.qualifier == qualifier

/-- Each of the two columns in the condition of a join is one of exactly one table. -/
def IsScoped (joined : Joined) : Prop :=
  ∀ join ∈ joined.joins, ∀ qualifier ∈ [joined.base.qualifier, join.table.qualifier],
    ∃ table, joined.named qualifier = [table]

theorem named_eq_singleton_iff {qualifier : String} :
    (∃ table, joined.named qualifier = [table]) ↔
      (joined.tables.map TableRef.qualifier).count qualifier = 1 := by
  rw [List.count, List.countP_map, List.countP_eq_length_filter, ← List.length_eq_one_iff]
  rfl

/-- Since every joined table stands in the condition of its own join, and the first one in all of them, this is
so exactly when no two tables go by one qualifier. -/
theorem isScoped_iff : joined.IsScoped ↔ (joined.tables.map TableRef.qualifier).Nodup := by
  rw [List.nodup_iff_count_eq_one]
  constructor
  · intro hscoped
    cases hjoins : joined.joins with
    | nil => simp [tables, hjoins]
    | cons first rest =>
      have hfirst : first ∈ joined.joins := by simp [hjoins]
      intro qualifier hqualifier
      rw [← named_eq_singleton_iff]
      rw [tables, List.map_cons, List.mem_cons, List.map_map, List.mem_map] at hqualifier
      rcases hqualifier with rfl | ⟨join, hjoin, rfl⟩
      · exact hscoped first hfirst _ (by simp)
      · exact hscoped join hjoin _ (by simp)
  · intro hone join hjoin qualifier hqualifier
    rw [named_eq_singleton_iff]
    refine hone qualifier ?_
    rw [tables, List.map_cons, List.mem_cons, List.map_map, List.mem_map]
    rcases List.mem_pair.mp hqualifier with rfl | rfl
    · exact .inl rfl
    · exact .inr ⟨join, hjoin, rfl⟩

end Joined
end Sql

/-- Tables under the names of datasets are all different exactly when no two of the ids are alike. -/
theorem nodup_tables_iff (datasets : List Dataset) :
    (datasets.map Dataset.table).Nodup ↔ datasets.Pairwise fun first second => ¬ IdsAlike first.id second.id := by
  rw [List.Nodup, List.pairwise_map]
  simp only [Dataset.table, ne_eq, tableName_eq_iff]

theorem DatasetJoin.table_of_clause {join : DatasetJoin} {table : String} {made : Sql.JoinClause}
    (h : join.clause table = .ok made) : made.table = ⟨table, none⟩ := by
  simp only [DatasetJoin.clause, bind_eq_ok, pure_eq_ok] at h
  obtain ⟨left, -, right, -, rfl⟩ := h
  rfl

/-- The dataset that operations start from, and those that they join to it in order. -/
def Operation.datasets (dataset : Dataset) (operations : List Operation) : List Dataset :=
  dataset :: (allJoins operations).map (·.right)

namespace BuilderAction

open Operation

variable {σ : Type} [ByteStore σ] {loader : Nat} {dataset : Dataset} {operations : List Operation}
  {builder : Builder} {session : Session σ} {text : String}

/-- A builder that came from a dataset by operations, whether or not it remembers its table since, has a
statement over the table of the dataset and, in the order of the joins, over those of the joined datasets, each
under its own name and joined on a column of the first table and one of its own. The names are all different
exactly when no two of the datasets, the first one included, have ids that are the same up to hyphens and
underscores; and exactly then every column in the condition of a join is one of exactly one table. -/
theorem joins_scoped_iff (hreached : session.Reached)
    (hbuilder : ((Builder.ofDataset loader dataset).chain operations).Remembers builder)
    (h : ((sql.run.run builder).run session).1.1 = .ok text) :
    ∃ (s : Sql.Statement) (joined : Sql.Joined), s.render = text ∧ s.source = .tables joined ∧
      joined.tables = (datasets dataset operations).map (fun d => ⟨d.table, none⟩) ∧
      List.Forall₂ (fun join clause => join.clause join.right.table = .ok clause) (allJoins operations)
        joined.joins ∧
      ((joined.tables.map (·.name)).Nodup ↔
        (datasets dataset operations).Pairwise fun d e => ¬ IdsAlike d.id e.id) ∧
      (joined.IsScoped ↔
        (datasets dataset operations).Pairwise fun d e => ¬ IdsAlike d.id e.id) := by
  obtain ⟨s, hs, hrendered⟩ := statement_of_sql hreached h
  have hoperations : builder.operations = operations := by
    rw [hbuilder.operations, Builder.chain_eq]
    rfl
  have hbase : builder.base = .text dataset.table := by
    rw [hbuilder.base, Builder.chain_eq]
    rfl
  rw [Builder.plan, hoperations, hbase] at hs
  obtain ⟨clauses, hsource, hclauses⟩ := Plan.source_statement hs
  rw [Plan.ofOperations_eq] at hclauses
  have htables : (Sql.Joined.mk ⟨dataset.table, none⟩ clauses).tables =
      (datasets dataset operations).map fun d => ⟨d.table, none⟩ := by
    rw [Sql.Joined.tables, datasets, List.map_cons, List.map_map]
    exact congrArg _ (map_eq_map_of_forall₂ hclauses fun _ _ => DatasetJoin.table_of_clause)
  refine ⟨s, _, hrendered, hsource, htables, hclauses, ?_, ?_⟩
  · have hnames : (Sql.Joined.mk ⟨dataset.table, none⟩ clauses).tables.map (·.name) =
        (datasets dataset operations).map Dataset.table := by
      rw [htables, List.map_map]
      rfl
    rw [hnames, nodup_tables_iff]
  · have hqualifiers : (Sql.Joined.mk ⟨dataset.table, none⟩ clauses).tables.map Sql.TableRef.qualifier =
        ((datasets dataset operations).map Dataset.table).map Sql.quoteName := by
      rw [htables, List.map_map, List.map_map]
      rfl
    rw [Sql.Joined.isScoped_iff, hqualifiers, List.nodup_map_iff Sql.quoteName_injective, nodup_tables_iff]

open Desk (tradeDataset regionDataset tradeSession joinedBranch)

theorem joins_scoped_iff_joinedBranch :
    tradeSession.Reached ∧
      ((Builder.ofDataset 0 tradeDataset).chain joinedBranch.operations).Remembers joinedBranch ∧
      ((sql.run.run joinedBranch).run tradeSession).1.1 =
        .ok "SELECT * FROM \"df_a\" LEFT JOIN \"df_b\" ON \"df_a\".\"region\" = \"df_b\".\"id\" LIMIT 5" ∧
      ∃ joined : Sql.Joined, joined.tables = [⟨"df_a", none⟩, ⟨"df_b", none⟩] ∧ joined.IsScoped := by
  have hreached : tradeSession.Reached := (Session.reached_start MemoryStore.empty).of_loaders rfl
  have hbuilder : ((Builder.ofDataset 0 tradeDataset).chain joinedBranch.operations).Remembers joinedBranch :=
    ⟨rfl, rfl, rfl, by decide +kernel⟩
  have hsql : ((sql.run.run joinedBranch).run tradeSession).1.1 =
      .ok "SELECT * FROM \"df_a\" LEFT JOIN \"df_b\" ON \"df_a\".\"region\" = \"df_b\".\"id\" LIMIT 5" := by
    decide +kernel
  obtain ⟨s, joined, -, -, htables, -, -, hscoped⟩ := joins_scoped_iff hreached hbuilder hsql
  refine ⟨hreached, hbuilder, hsql, joined, ?_, hscoped.mpr ?_⟩
  · rw [htables]
    decide +kernel
  · rw [← nodup_tables_iff]
    decide +kernel

def dashedDataset : Dataset :=
  ⟨"a-b", ⟨.local, "k"⟩, [], none, 0⟩

def underscoredDataset : Dataset :=
  ⟨"a_b", ⟨.local, "l"⟩, [], none, 0⟩

/-- Nothing was asked for yet, and the engine has the one table of both. -/
def alikeSession : Session MemoryStore :=
  { Session.start .empty with engine := { ScriptedEngine.empty with tables := [("df_a_b", [])] } }

/-- A dataset is joined to itself, and then another one to it whose id is alike. -/
def alikeJoins : List Operation :=
  [.join ⟨dashedDataset, .text "parent", .text "id", .inner⟩,
    .join ⟨underscoredDataset, .text "id", .text "id", .left⟩]

def alikeJoined : Sql.Joined :=
  ⟨⟨"df_a_b", none⟩,
    [⟨.inner, ⟨"df_a_b", none⟩, "parent", "id"⟩, ⟨.left, ⟨"df_a_b", none⟩, "id", "id"⟩]⟩

def alikeStatement : Sql.Statement :=
  ⟨[], .tables alikeJoined, [], [], [], none, none⟩

/-- The statement is made, and it is over three tables of one name. -/
theorem one_name_for_all :
    ((sql.run.run ((Builder.ofDataset 0 dashedDataset).chain alikeJoins)).run alikeSession).1.1 =
        .ok alikeStatement.render ∧
      alikeStatement.render = "SELECT * FROM \"df_a_b\" " ++
        "INNER JOIN \"df_a_b\" ON \"df_a_b\".\"parent\" = \"df_a_b\".\"id\" " ++
        "LEFT JOIN \"df_a_b\" ON \"df_a_b\".\"id\" = \"df_a_b\".\"id\"" ∧
      alikeStatement.source = .tables alikeJoined ∧
      ¬ (alikeJoined.tables.map (·.name)).Nodup ∧ ¬ alikeJoined.IsScoped := by
  refine ⟨by decide +kernel, by decide +kernel, rfl, by decide +kernel, ?_⟩
  rw [Sql.Joined.isScoped_iff]
  decide +kernel

end BuilderAction
end Insights
