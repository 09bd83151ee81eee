import Insights.Dataset.Basic
import Insights.Engine.Scripted
import Insights.Loading.Loader
import Insights.Store.Basic

/-!
A session: one engine, one store of payloads, and the loaders that fill the engine's catalog from the
store. An action of a session may fail with a fault and changes the session in either case.
-/

namespace Insights

structure Session (σ : Type) where
  engine : ScriptedEngine
  store : σ
  /-- Raised by every fetch from the store, if set. -/
  fetchFault : Option Fault
  /-- The loaders by number. -/
  loaders : Nat → Loader
  /-- Whether imports are held back; a load that comes to its import then waits there. -/
  held : Bool

/-- Something done in a session. -/
abbrev Action (σ : Type) := ExceptT Fault (StateM (Session σ))

namespace Session

variable {σ : Type}

/-- A session over a store, with nothing loaded. -/
def start (store : σ) : Session σ :=
  ⟨.empty, store, none, fun _ => .empty, false⟩

/-- The session after an event of one of its loaders. -/
def apply (session : Session σ) (loader : Nat) (event : Event) : Session σ :=
  let next := (session.loaders loader).step event
  { session with loaders := fun other => if other = loader then next else session.loaders other }

/-- The session after events of one of its loaders. -/
def applyAll (session : Session σ) (loader : Nat) (events : List Event) : Session σ :=
  events.foldl (fun session event => session.apply loader event) session

/-- The session after a change of its engine. -/
def onEngine (session : Session σ) (change : ScriptedEngine → ScriptedEngine) : Session σ :=
  { session with engine := change session.engine }

/-- The load of a loader at a position. -/
def load? (session : Session σ) (loader position : Nat) : Option Load :=
  (session.loaders loader).loads[position]?

variable [ByteStore σ]

/-- What is stored under a key, or the fault that every fetch raises. -/
def fetched (session : Session σ) (key : String) : Except Fault (Option Bytes) :=
  match session.fetchFault with
  | some fault => .error fault
  | none => .ok (ByteStore.fetch? session.store key)

/-- How much the store holds for datasets. Each payload is fetched for it. -/
def usage (session : Session σ) : Except Fault Usage :=
  match session.fetchFault, ByteStore.ids session.store with
  | some fault, _ :: _ => .error fault
  | _, _ => .ok (ByteStore.usage session.store)

end Session

namespace Action

variable {σ : Type}

/-- Sends a statement to the engine. -/
def query (sql : String) : Action σ (List Row) := do
  modify fun session => session.onEngine (·.record (.query sql))
  let answer := (← get).engine.answer sql
  modify fun session => session.onEngine (·.effect sql)
  liftM answer

/-- The rows of a statement as a payload. -/
def exportRows (sql : String) : Action σ Bytes := do
  modify fun session => session.onEngine (·.record (.exportRows sql))
  let engine := (← get).engine
  liftM (engine.orRaise .exportRows engine.payload)

/-- The description of the columns of a table. -/
def describe (table : String) : Action σ (List Value) := do
  modify fun session => session.onEngine (·.record (.describe table))
  let engine := (← get).engine
  liftM (do (← engine.orRaise .describe engine.columns).items)

/-- Creates a dataset in the store of the session. -/
def create [ByteStore σ] (now : Int) (id : String) (draft : Dataset.Draft) : Action σ Dataset := do
  let (result, store) := Dataset.create now id draft (← get).store
  modify fun session => { session with store }
  liftM result

end Action
end Insights
