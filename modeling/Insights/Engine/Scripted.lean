import Insights.Dataset.Basic
import Insights.Engine.RowSet

/-!
An engine that is given as data: a catalog of tables, the answers that it gives, and the faults that it
raises. The two statements about its catalog are answered from the catalog; every other statement has
the answer that was put down for it. All calls are kept in order.
-/

namespace Insights

/-- A call that an engine received. -/
inductive EngineCall where
  | query (sql : String)
  | bulkImport (table : String) (data : Bytes)
  | exportRows (sql : String)
  | describe (table : String)
deriving DecidableEq

/-- The kinds of calls that can be made to fail. -/
inductive FaultPoint where
  | probe
  | drop
  | query
  | bulkImport
  | exportRows
  | describe
deriving DecidableEq, Repr

structure ScriptedEngine where
  /-- The tables of the catalog with what was imported into them. -/
  tables : Fields Bytes
  /-- What any other statement answers: a value that should be a list of rows. -/
  rows : Value
  /-- The description of any table: a value that should be a list of columns. -/
  columns : Value
  /-- What any export returns. -/
  payload : Bytes
  faults : FaultPoint → Option Fault
  calls : List EngineCall

namespace ScriptedEngine

def empty : ScriptedEngine := ⟨[], .list [], .list [], [], fun _ => none, []⟩

def record (engine : ScriptedEngine) (call : EngineCall) : ScriptedEngine :=
  { engine with calls := engine.calls ++ [call] }

/-- Lets a kind of calls fail from now on, or succeed again. -/
def setFault (engine : ScriptedEngine) (point : FaultPoint) (fault : Option Fault) : ScriptedEngine :=
  { engine with faults := fun other => if other = point then fault else engine.faults other }

/-- A result in the place of which the fault of its kind of calls is raised, if there is one. -/
def orRaise {α : Type} (engine : ScriptedEngine) (point : FaultPoint) (result : α) : Except Fault α :=
  match engine.faults point with
  | some fault => .error fault
  | none => .ok result

/-- The kind of call that a statement makes. -/
def pointOf (sql : String) : FaultPoint :=
  if sql.startsWith probeStart then .probe
  else if sql.startsWith dropStart then .drop
  else .query

/-- What a statement answers. -/
def answer (engine : ScriptedEngine) (sql : String) : Except Fault (List Row) :=
  match pointOf sql with
  | .probe =>
    engine.orRaise .probe
      (if engine.tables.any fun table => probeStatement table.1 == sql then [[("1", .integer 1)]] else [])
  | .drop => engine.orRaise .drop []
  | _ => do Row.listOf (← engine.orRaise .query engine.rows)

/-- What a statement changes: one that drops a table takes it off the catalog unless it fails. -/
def effect (engine : ScriptedEngine) (sql : String) : ScriptedEngine :=
  if pointOf sql = .drop ∧ (engine.faults .drop).isNone then
    { engine with tables := engine.tables.filter fun table => dropStatement table.1 != sql }
  else engine

/-- Imports a payload into a table, without recording the call. -/
def fill (engine : ScriptedEngine) (table : String) (data : Bytes) :
    Except Fault Unit × ScriptedEngine :=
  match engine.orRaise .bulkImport () with
  | .ok _ => (.ok (), { engine with tables := Fields.put table data engine.tables })
  | .error fault => (.error fault, engine)

end ScriptedEngine
end Insights
