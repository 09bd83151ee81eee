import Insights.Proofs.Session.Builder

/-!
Branches of builders. All builders that come from one dataset use the same loader, and whatever is asked of
one of them may load tables for the others and may let it remember its own. Yet a builder keeps exactly the
operations on its path from the dataset, and its statement is that of a fresh builder with these operations.
-/

namespace Insights

open Session

variable {σ α β : Type}

/-! ### Builders that remember -/

/-- The builder is the one from before, except that it may have remembered the table that its statements
were over anyway. -/
structure Builder.Remembers (before after : Builder) : Prop where
  dataset : after.dataset = before.dataset
  loader : after.loader = before.loader
  operations : after.operations = before.operations
  base : after.base = before.base

namespace Builder

theorem remembers_self (builder : Builder) : builder.Remembers builder :=
  ⟨rfl, rfl, rfl, rfl⟩

theorem Remembers.trans {first second third : Builder} (h : first.Remembers second)
    (h' : second.Remembers third) : first.Remembers third :=
  ⟨h'.dataset.trans h.dataset, h'.loader.trans h.loader, h'.operations.trans h.operations,
    h'.base.trans h.base⟩

theorem Remembers.add {before after : Builder} (h : before.Remembers after) (operation : Operation) :
    (before.add operation).Remembers (after.add operation) where
  dataset := h.dataset
  loader := h.loader
  operations := by rw [Builder.add, Builder.add, h.operations]
  base := h.base

variable [ByteStore σ]

/-- The table that is found for a builder is the one that its statements are over. -/
theorem remembers_found {builder : Builder} {session : Session σ} (hreached : session.Reached) :
    builder.Remembers (builder.remember (builder.findTable.run.run session).1) := by
  cases hfound : (builder.findTable.run.run session).1 with
  | error fault => exact builder.remembers_self
  | ok table =>
    obtain ⟨asked, -, -, hok⟩ := builder.yields_findTable session
    obtain rfl : builder.base = table := Except.ok.inj ((hok table hfound).2 hreached)
    refine ⟨rfl, rfl, rfl, ?_⟩
    simp only [remember, base]
    split <;> simp_all

end Builder

namespace BuilderAction

/-- The builder and the session as an action leaves them. -/
def leaves (action : BuilderAction σ α) (builder : Builder) (session : Session σ) : Builder × Session σ :=
  (((action.run.run builder).run session).1.2, ((action.run.run builder).run session).2)

/-- The action lets a builder remember at most, and changes loaders by events alone. -/
def Keeps (action : BuilderAction σ α) : Prop :=
  ∀ (builder : Builder) (session : Session σ), session.Reached →
    builder.Remembers (action.leaves builder session).1 ∧ (action.leaves builder session).2.Reached

theorem Keeps.bind {action : BuilderAction σ α} {next : α → BuilderAction σ β} (h : Keeps action)
    (hnext : ∀ a, Keeps (next a)) : Keeps (action >>= next) := by
  intro builder session hreached
  obtain ⟨hbuilder, hsession⟩ := h builder session hreached
  unfold leaves at hbuilder hsession ⊢
  rw [run_bind]
  rcases hrun : (action.run.run builder).run session with ⟨⟨result, remembered⟩, after⟩
  rw [hrun] at hbuilder hsession
  cases result with
  | error fault => exact ⟨hbuilder, hsession⟩
  | ok a =>
    obtain ⟨hbuilder', hsession'⟩ := hnext a remembered after hsession
    exact ⟨hbuilder.trans hbuilder', hsession'⟩

/-- An action of the session alone keeps builders when it leaves the loaders as they are. -/
theorem keeps_ofAction {action : Action σ α}
    (h : ∀ session, (action.run.run session).2.loaders = session.loaders) : Keeps (ofAction action) :=
  fun builder session hreached =>
    ⟨builder.remembers_self, hreached.of_loaders (h session)⟩

theorem keeps_get : Keeps (get : BuilderAction σ Builder) :=
  fun builder _ hreached => ⟨builder.remembers_self, hreached⟩

theorem keeps_liftM (outcome : Except Fault α) : Keeps (liftM outcome : BuilderAction σ α) :=
  fun builder _ hreached => ⟨builder.remembers_self, hreached⟩

theorem keeps_query (sql : String) : Keeps (ofAction (Action.query sql) : BuilderAction σ (List Row)) :=
  keeps_ofAction fun _ => rfl

/-- What is done with a builder made for the occasion leaves the builder itself alone. -/
theorem Keeps.aside {action : BuilderAction σ α} (h : Keeps action) (change : Builder → Builder) :
    Keeps (aside change action) := by
  intro builder session hreached
  exact ⟨builder.remembers_self, (h (change builder) session hreached).2⟩

variable [ByteStore σ]

theorem keeps_sqlOf (operations : List Operation) : Keeps (sqlOf operations : BuilderAction σ String) := by
  intro builder session hreached
  obtain ⟨asked, -, hadvances, -⟩ := builder.yields_statementText operations session
  unfold leaves
  rw [run_sqlOf]
  exact ⟨Builder.remembers_found hreached, hreached.advance hadvances⟩

theorem keeps_sql : Keeps (sql : BuilderAction σ String) :=
  keeps_get.bind fun builder => keeps_sqlOf builder.operations

theorem keeps_rows : Keeps (rows : BuilderAction σ (List Row)) :=
  keeps_sql.bind keeps_query

theorem keeps_count : Keeps (count : BuilderAction σ Int) := by
  refine keeps_get.bind fun builder => ?_
  refine (keeps_sqlOf _).bind fun sql => ?_
  refine (keeps_query (countStatement sql)).bind fun rows => ?_
  exact keeps_liftM (countOf rows)

theorem keeps_save (now : Int) (id : String) : Keeps (save now id : BuilderAction σ Dataset) := by
  refine keeps_sql.bind fun sql => ?_
  refine (keeps_ofAction fun _ => rfl : Keeps (ofAction (Action.exportRows sql))).bind fun data => ?_
  exact keeps_ofAction fun _ => rfl

end BuilderAction

/-! ### Branches -/

/-- What may be asked of a builder apart from further operations. -/
inductive Question where
  | sql
  | rows
  | preview (settings : Settings) (limit : Value)
  | count
  /-- Stores the rows as a new dataset with the given id. -/
  | save (now : Int) (id : String)

/-- Something done with the builders that come from one dataset, which are known by their positions. -/
inductive Use where
  /-- Asks a builder for a further operation. One that is refused makes no builder. -/
  | chain (on : Nat) (operation : Except Fault Operation)
  | ask (on : Nat) (question : Question)
  /-- Anything that happens to a loader, as when a dataset or all of them are to be loaded again. -/
  | event (loader : Nat) (event : Event)

/-- The builders that come from one dataset in the order in which they were made, and their session. -/
structure Desk (σ : Type) where
  builders : List Builder
  session : Session σ

namespace Desk

/-- A dataset alone. -/
def start (loader : Nat) (dataset : Dataset) (session : Session σ) : Desk σ :=
  ⟨[Builder.ofDataset loader dataset], session⟩

end Desk

/-- The operations on the paths from the dataset to each builder. Only further operations count here. -/
def Use.branch (paths : List (List Operation)) : Use → List (List Operation)
  | .chain on (.ok operation) => paths ++ (paths[on]?.map (· ++ [operation])).toList
  | _ => paths

/-- The operations on the paths from a dataset to all builders that come from it. -/
def Use.paths (uses : List Use) : List (List Operation) :=
  uses.foldl branch [[]]

section
variable [ByteStore σ]

/-- What a question leaves of the builder that is asked and of the session. -/
def Question.leaves (builder : Builder) (session : Session σ) : Question → Builder × Session σ
  | .sql => BuilderAction.sql.leaves builder session
  | .rows => BuilderAction.rows.leaves builder session
  | .preview settings limit => (BuilderAction.preview settings limit).leaves builder session
  | .count => BuilderAction.count.leaves builder session
  | .save now id => (BuilderAction.save now id).leaves builder session

theorem Question.leaves_kept (question : Question) (builder : Builder) {session : Session σ}
    (hreached : session.Reached) :
    builder.Remembers (question.leaves builder session).1 ∧ (question.leaves builder session).2.Reached := by
  cases question with
  | sql => exact BuilderAction.keeps_sql builder session hreached
  | rows => exact BuilderAction.keeps_rows builder session hreached
  | preview settings limit => exact (BuilderAction.keeps_rows.aside _) builder session hreached
  | count => exact BuilderAction.keeps_count builder session hreached
  | save now id => exact BuilderAction.keeps_save now id builder session hreached

namespace Desk

/-- Makes a builder with a further operation. The one that is asked for it stays as it is. -/
def chain (desk : Desk σ) (on : Nat) (operation : Operation) : Desk σ :=
  { desk with builders := desk.builders ++ (desk.builders[on]?.map (·.add operation)).toList }

def ask (desk : Desk σ) (on : Nat) (question : Question) : Desk σ :=
  match desk.builders[on]? with
  | none => desk
  | some builder =>
    let (asked, session) := question.leaves builder desk.session
    ⟨desk.builders.set on asked, session⟩

def step (desk : Desk σ) : Use → Desk σ
  | .chain on (.ok operation) => desk.chain on operation
  | .chain _ (.error _) => desk
  | .ask on question => desk.ask on question
  | .event loader event => { desk with session := desk.session.apply loader event }

def run (desk : Desk σ) (uses : List Use) : Desk σ :=
  uses.foldl step desk

variable {loader : Nat} {dataset : Dataset} {paths : List (List Operation)} {desk : Desk σ}

/-- A builder keeps the operations on its path, whatever is asked of it. -/
theorem operations_ask (hreached : desk.session.Reached) (on : Nat) (question : Question) :
    (desk.ask on question).builders.map Builder.operations = desk.builders.map Builder.operations := by
  unfold ask
  split
  · rfl
  · next builder hbuilder =>
    obtain ⟨hremembers, -⟩ := question.leaves_kept builder hreached
    have hplace : (desk.builders.map Builder.operations)[on]? =
        some (question.leaves builder desk.session).1.operations := by
      rw [List.getElem?_map, hbuilder, hremembers.operations]
      rfl
    obtain ⟨hlt, hget⟩ := List.getElem?_eq_some_iff.mp hplace
    rw [List.map_set, ← hget, List.set_getElem_self]

/-- Every builder is a fresh one with the operations on its path, except for what it may remember. -/
structure Stands (loader : Nat) (dataset : Dataset) (paths : List (List Operation)) (desk : Desk σ) :
    Prop where
  reached : desk.session.Reached
  operations : desk.builders.map Builder.operations = paths
  fresh : ∀ builder ∈ desk.builders,
    ((Builder.ofDataset loader dataset).chain builder.operations).Remembers builder

omit [ByteStore σ] in
theorem stands_start {session : Session σ} (hreached : session.Reached) :
    (start loader dataset session).Stands loader dataset [[]] where
  reached := hreached
  operations := rfl
  fresh := by
    intro builder hmem
    rw [List.mem_singleton.mp hmem]
    exact Builder.remembers_self _

omit [ByteStore σ] in
theorem Stands.chain (h : desk.Stands loader dataset paths) (on : Nat) (operation : Operation) :
    (desk.chain on operation).Stands loader dataset
      (paths ++ (paths[on]?.map (· ++ [operation])).toList) where
  reached := h.reached
  operations := by
    rw [Desk.chain, List.map_append, ← h.operations, List.getElem?_map]
    cases desk.builders[on]? <;> rfl
  fresh := by
    intro builder hmem
    rcases List.mem_append.mp hmem with hold | hnew
    · exact h.fresh builder hold
    · obtain ⟨origin, horigin, rfl⟩ := Option.map_eq_some_iff.mp (Option.mem_toList.mp hnew)
      have hgrown := (h.fresh origin (List.mem_of_getElem? horigin)).add operation
      rw [Builder.chain_eq] at hgrown ⊢
      exact hgrown

theorem Stands.ask (h : desk.Stands loader dataset paths) (on : Nat) (question : Question) :
    (desk.ask on question).Stands loader dataset paths := by
  have hoperations := (operations_ask h.reached on question).trans h.operations
  unfold Desk.ask at hoperations ⊢
  split at hoperations
  · exact h
  · next builder hbuilder =>
    obtain ⟨hremembers, hreached⟩ := question.leaves_kept builder h.reached
    refine ⟨hreached, hoperations, ?_⟩
    intro other hmem
    rcases List.mem_or_eq_of_mem_set hmem with hold | rfl
    · exact h.fresh other hold
    · rw [hremembers.operations]
      exact (h.fresh builder (List.mem_of_getElem? hbuilder)).trans hremembers

theorem Stands.step (h : desk.Stands loader dataset paths) (use : Use) :
    (desk.step use).Stands loader dataset (use.branch paths) := by
  cases use with
  | chain on operation =>
    cases operation with
    | ok operation => exact h.chain on operation
    | error fault => exact h
  | ask on question => exact h.ask on question
  | event loader' event =>
    exact ⟨h.reached.advance (advances_apply desk.session loader' event), h.operations, h.fresh⟩

theorem stands_run {session : Session σ} (hreached : session.Reached) (uses : List Use) :
    ((start loader dataset session).run uses).Stands loader dataset (Use.paths uses) := by
  induction uses using List.reverseRecOn with
  | nil => exact stands_start hreached
  | append_singleton uses use ih =>
    rw [run, Use.paths, List.foldl_append, List.foldl_append]
    exact ih.step use

/-- Builders that come from one dataset never get in one another's way, whatever is asked of them in whatever
order and whatever happens to loaders in between. Each has exactly the operations on its path, and no
question changes them. When the datasets that it asks for load, its statement ends as that of a fresh
builder with these operations does in any session in which the datasets load. -/
theorem branches_independent {loader : Nat} {dataset : Dataset} {session : Session σ}
    (hreached : session.Reached) (uses : List Use) :
    let desk := (start loader dataset session).run uses
    desk.session.Reached ∧ desk.builders.map Builder.operations = Use.paths uses ∧
      ∀ builder ∈ desk.builders,
        (∀ question : Question,
          (question.leaves builder desk.session).1.operations = builder.operations) ∧
        ∀ other : Session σ, other.Reached →
          Action.LoadsEach loader (builder.needed builder.operations) desk.session →
          Action.LoadsEach loader (dataset :: (Operation.allJoins builder.operations).map (·.right)) other →
          ((BuilderAction.sql.run.run builder).run desk.session).1.1 =
            ((BuilderAction.sql.run.run
              ((Builder.ofDataset loader dataset).chain builder.operations)).run other).1.1 := by
  intro desk
  have hstands : desk.Stands loader dataset (Use.paths uses) := stands_run hreached uses
  refine ⟨hstands.reached, hstands.operations, ?_⟩
  intro builder hmem
  refine ⟨fun question => (question.leaves_kept builder hstands.reached).1.operations, ?_⟩
  intro other hother hloads hfresh
  have hremembers := hstands.fresh builder hmem
  rw [Builder.chain_eq] at hremembers ⊢
  -- Both statements are over one table, whether it was remembered or has still to be found.
  have hloader : builder.loader = loader := hremembers.loader
  have hbase : builder.base = .text dataset.table := hremembers.base
  rw [← hloader] at hloads
  rw [BuilderAction.sql_of_loads hstands.reached hloads, BuilderAction.sql_of_loads hother hfresh, hbase]
  rfl

/-- The sales and the regions that they are joined to. -/
def tradeDataset : Dataset :=
  ⟨"a", ⟨.local, "k"⟩, [], none, 0⟩

def regionDataset : Dataset :=
  ⟨"b", ⟨.local, "l"⟩, [], none, 0⟩

/-- Nothing was asked for yet, and the engine has the tables of both. -/
def tradeSession : Session MemoryStore :=
  { Session.start .empty with engine := { ScriptedEngine.empty with tables := [("df_a", []), ("df_b", [])] } }

/-- Two branches, of which one is joined. The root and a branch are asked for rows, then the dataset has to
be loaded again, and the other branch is previewed. -/
def twoBranches : List Use :=
  [.ask 0 .sql, .chain 0 (.ok (.filter [])), .ask 1 .count,
    .chain 0 (.ok (.join ⟨regionDataset, .text "region", .text "id", .left⟩)), .chain 1 (.error .wrongKind),
    .event 0 (.invalidate "a"), .ask 2 (.preview .defaults .null), .chain 2 (.ok (.limit (.integer 5)))]

/-- The last of the branches. Its table was found for the root. -/
def joinedBranch : Builder where
  dataset := tradeDataset
  loader := 0
  operations := [.join ⟨regionDataset, .text "region", .text "id", .left⟩, .limit (.integer 5)]
  table := .text "df_a"

theorem branches_independent_twoBranches :
    ((start 0 tradeDataset tradeSession).run twoBranches).builders.map Builder.operations =
        [[], [.filter []], [.join ⟨regionDataset, .text "region", .text "id", .left⟩],
          joinedBranch.operations] ∧
      joinedBranch ∈ ((start 0 tradeDataset tradeSession).run twoBranches).builders ∧
      ((BuilderAction.sql.run.run joinedBranch).run
          ((start 0 tradeDataset tradeSession).run twoBranches).session).1.1 =
        ((BuilderAction.sql.run.run
          ((Builder.ofDataset 0 tradeDataset).chain joinedBranch.operations)).run tradeSession).1.1 := by
  have hreached : tradeSession.Reached := (reached_start MemoryStore.empty).of_loaders rfl
  obtain ⟨-, hoperations, hall⟩ := @branches_independent _ _ 0 tradeDataset _ hreached twoBranches
  have hmem : joinedBranch ∈ ((start 0 tradeDataset tradeSession).run twoBranches).builders := by
    decide +kernel
  obtain ⟨-, hanswers⟩ := hall joinedBranch hmem
  refine ⟨hoperations, hmem, hanswers tradeSession hreached ⟨⟨"df_b", ?_⟩, trivial⟩
    ⟨⟨"df_a", ?_⟩, ⟨"df_b", ?_⟩, trivial⟩⟩
  all_goals decide +kernel

end Desk
end
end Insights
