import Insights.Loading.Loader

/-!
Waiting for several tables at once. Each of them has a caller of its own; all is well when every caller
has been served, and nothing is waited for any longer once one of them has failed.
-/

namespace Insights

/-- A caller that is waited for, and the load that it has joined unless it was answered at once. -/
structure Awaited where
  caller : Nat
  load : Option Nat

namespace Loader

/-- The load that a caller waits for. -/
def waitedFor? (loader : Loader) (caller : Nat) : Option Nat :=
  match loader.callers[caller]? with
  | some (.waiting load) => some load
  | _ => none

/-- The callers by which the tables of datasets are asked for, one after the other. -/
def awaited (loader : Loader) : List Dataset → List Awaited
  | [] => []
  | dataset :: rest =>
    let next := loader.ensure dataset
    ⟨loader.callers.length, next.waitedFor? loader.callers.length⟩ :: next.awaited rest

/-- How many questions the load of a caller has asked. -/
def questions (loader : Loader) (awaited : Awaited) : Nat :=
  ((awaited.load.bind fun position => loader.loads[position]?).map (·.asked.length)).getD 0

/-- The fault that a caller has come to, with the number of questions before it. -/
def failure? (loader : Loader) (awaited : Awaited) : Option (Nat × Fault) :=
  match loader.callers[awaited.caller]? with
  | some (.answered (.error fault)) => some (loader.questions awaited, fault)
  | some .cancelled => some (loader.questions awaited, .cancelled)
  | _ => none

/-- Whether a caller was told the name of its table. -/
def isServed (loader : Loader) (awaited : Awaited) : Bool :=
  match loader.callers[awaited.caller]? with
  | some (.answered (.ok _)) => true
  | _ => false

/-- The fault after the fewest questions; of several such faults the first one decides. -/
def earliestFailure (failures : List (Nat × Fault)) : Option Fault :=
  (failures.mergeSort fun a b => a.1 ≤ b.1).head?.map Prod.snd

/-- What all callers together have come to, if that is known by now. -/
def verdict? (loader : Loader) (awaited : List Awaited) : Option (Except Fault Unit) :=
  match earliestFailure (awaited.filterMap loader.failure?) with
  | some fault => some (.error fault)
  | none => if awaited.all loader.isServed then some (.ok ()) else none

end Loader
end Insights
