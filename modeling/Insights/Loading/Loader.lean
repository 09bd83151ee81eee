import Insights.Loading.Load
import Insights.Value.Basic

/-!
A loader: which tables are known to be loaded, which loads are under way, and who waits for them. At
any time at most one load of a table is under way, and everybody who asks for that table meanwhile
waits for it. What happens to a loader is an event, and nothing else changes it.
-/

namespace Insights

/-- Somebody who asked for a table. -/
inductive Caller where
  /-- Waits for the load at a position. -/
  | waiting (load : Nat)
  | answered (outcome : Except Fault String)
  | cancelled

/-- A caller after it may have heard of the end of its load. -/
def Caller.hear (loads : List Load) : Caller → Caller
  | .waiting position =>
    match loads[position]? with
    | none => .waiting position
    | some load =>
      match load.outcome? with
      | none => .waiting position
      | some outcome => .answered (outcome.map fun _ => load.table)
  | caller => caller

/-- A caller after it was told to stop waiting. One that does not wait any more stays as it is. -/
def Caller.cancel : Caller → Caller
  | .waiting _ => .cancelled
  | caller => caller

structure Loader where
  /-- The tables that are known to be loaded, each once. -/
  loaded : List String
  /-- The tables whose loads are under way, with the positions of these loads. -/
  inflight : Fields Nat
  /-- All loads that were ever begun, in order. -/
  loads : List Load
  /-- All callers in the order in which they asked. -/
  callers : List Caller

inductive Event where
  /-- Somebody asks for the table of a dataset. -/
  | ensure (dataset : Dataset)
  /-- A caller no longer wants to wait. -/
  | cancel (caller : Nat)
  /-- The table of the dataset with the given id is no longer known to be loaded. -/
  | invalidate (id : String)
  | invalidateAll
  /-- A load asks its first question. -/
  | start (load : Nat)
  /-- A load gets a reply. -/
  | reply (load : Nat) (reply : Reply)
  /-- A load that has ended is no longer under way. -/
  | retire (load : Nat)
  /-- A caller hears how the load that it waits for has ended. -/
  | resume (caller : Nat)

namespace Loader

def empty : Loader := ⟨[], [], [], []⟩

/-- The loaded tables with one more. -/
def withLoaded (table : String) (loaded : List String) : List String :=
  if loaded.contains table then loaded else loaded ++ [table]

/-- A caller joins: it is answered at once if the table is loaded, waits for the load that is under way
if there is one, and otherwise begins a load. -/
def ensure (loader : Loader) (dataset : Dataset) : Loader :=
  let table := dataset.table
  if loader.loaded.contains table then
    { loader with callers := loader.callers ++ [.answered (.ok table)] }
  else
    match loader.inflight.lookup table with
    | some load => { loader with callers := loader.callers ++ [.waiting load] }
    | none =>
      let load := loader.loads.length
      { loader with
        inflight := Fields.put table load loader.inflight
        loads := loader.loads ++ [.ofDataset dataset]
        callers := loader.callers ++ [.waiting load] }

/-- Gives a load its reply. A load that ends well by it makes its table a loaded one. -/
def reply (loader : Loader) (position : Nat) (reply : Reply) : Loader :=
  match loader.loads[position]? with
  | none => loader
  | some load =>
    let next := load.advance reply
    { loader with
      loads := loader.loads.set position next
      loaded :=
        match load.outcome?, next.outcome? with
        | none, some (.ok _) => withLoaded next.table loader.loaded
        | _, _ => loader.loaded }

/-- Takes an ended load off the loads under way. -/
def retire (loader : Loader) (position : Nat) : Loader :=
  match loader.loads[position]? with
  | none => loader
  | some load =>
    if load.outcome?.isSome && loader.inflight.lookup load.table == some position then
      { loader with inflight := loader.inflight.filter fun entry => entry.1 != load.table }
    else loader

def step (loader : Loader) : Event → Loader
  | .ensure dataset => loader.ensure dataset
  | .cancel caller => { loader with callers := loader.callers.modify caller Caller.cancel }
  | .invalidate id =>
    { loader with loaded := loader.loaded.filter fun table => table != tableName id }
  | .invalidateAll => { loader with loaded := [] }
  | .start position => { loader with loads := loader.loads.modify position Load.start }
  | .reply position reply => loader.reply position reply
  | .retire position => loader.retire position
  | .resume caller => { loader with callers := loader.callers.modify caller (Caller.hear loader.loads) }

/-- The loader after a sequence of events. -/
def run (loader : Loader) (events : List Event) : Loader :=
  events.foldl step loader

/-- Whether the table of the dataset with the given id is known to be loaded. -/
def isLoaded (loader : Loader) (id : String) : Bool :=
  loader.loaded.contains (tableName id)

end Loader
end Insights
