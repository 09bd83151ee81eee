import Insights.Loading.Gathering
import Insights.Session.Basic

/-!
Loading within a session. The loads of a loader are taken forward by asking the engine and the store
what the loads ask for, until each has ended or waits for an import that is held back; then the loads
that ended are retired and their callers hear of it. Every change of a loader is one of its events.
-/

namespace Insights

namespace Session

variable {σ : Type}

/-- Records the call to the engine that a request makes, if it makes one. -/
def recordRequest (session : Session σ) : Option Request → Session σ
  | some (.probe table) => session.onEngine (·.record (.query (probeStatement table)))
  | some (.drop table) => session.onEngine (·.record (.query (dropStatement table)))
  | some (.bulkImport table data) => session.onEngine (·.record (.bulkImport table data))
  | some (.fetch _) | none => session

variable [ByteStore σ]

/-- The reply to a request, and the session after it. -/
def serve (session : Session σ) : Request → Reply × Session σ
  | .probe table =>
    (.probed ((session.engine.answer (probeStatement table)).map (!·.isEmpty)), session)
  | .drop table =>
    (.dropped ((session.engine.answer (dropStatement table)).map fun _ => ()),
      session.onEngine (·.effect (dropStatement table)))
  | .fetch key => (.fetched (session.fetched key), session)
  | .bulkImport table data =>
    let (result, engine) := session.engine.fill table data
    (.imported result, { session with engine })

/-- Takes a load one step forward by an event, and records the call that the load makes next. -/
def forward (session : Session σ) (loader position : Nat) (event : Event) : Session σ :=
  let next := session.apply loader event
  next.recordRequest ((next.load? loader position).bind Load.request?)

/-- Whether a request has to wait. -/
def isHeld (session : Session σ) : Request → Bool
  | .bulkImport _ _ => session.held
  | _ => false

/-- Takes a load forward by at most the given number of steps. -/
def pursue (session : Session σ) (loader position : Nat) : (steps : Nat) → Session σ
  | 0 => session
  | steps + 1 =>
    match session.load? loader position with
    | none => session
    | some load =>
      match load.phase, load.request? with
      | .begun, _ => (session.forward loader position (.start position)).pursue loader position steps
      | _, none => session
      | _, some request =>
        if session.isHeld request then session
        else
          let (reply, served) := session.serve request
          (served.forward loader position (.reply position reply)).pursue loader position steps

/-- Takes a load as far as it goes. -/
def pursueLoad (session : Session σ) (loader position : Nat) : Session σ :=
  match session.load? loader position with
  | none => session
  | some load => session.pursue loader position load.phase.remaining

/-- Takes all loads of a loader as far as they go, and lets the callers know. -/
def settle (session : Session σ) (loader : Nat) : Session σ :=
  let loads := List.range (session.loaders loader).loads.length
  let callers := List.range (session.loaders loader).callers.length
  let pursued := loads.foldl (fun s position => s.pursueLoad loader position) session
  let retired := loads.foldl (fun s position => s.apply loader (.retire position)) pursued
  callers.foldl (fun s caller => s.apply loader (.resume caller)) retired

/-- The outcome for a caller. One that still waits when it is asked has given up. -/
def outcome (session : Session σ) (loader caller : Nat) : Except Fault String :=
  match (session.loaders loader).callers[caller]? with
  | some (.answered outcome) => outcome
  | _ => .error .cancelled

end Session

namespace Action

variable {σ : Type}

/-- Lets somebody ask for the table of a dataset, and returns the number of this caller. -/
def join (loader : Nat) (dataset : Dataset) : StateM (Session σ) Nat := do
  let caller := ((← get).loaders loader).callers.length
  modify fun session => session.apply loader (.ensure dataset)
  return caller

/-- The load that a caller of a loader waits for. -/
def waitedFor? (session : Session σ) (loader caller : Nat) : Option Nat :=
  (session.loaders loader).waitedFor? caller

variable [ByteStore σ]

/-- Loads datasets at the same time; each has an outcome of its own. -/
def ensureAll (loader : Nat) (datasets : List Dataset) :
    StateM (Session σ) (List (Except Fault String)) := do
  let callers ← datasets.mapM (join loader)
  modify fun session => session.settle loader
  let session ← get
  return callers.map (session.outcome loader)

/-- Loads a dataset and returns the name of its table. -/
def ensureLoaded (loader : Nat) (dataset : Dataset) : Action σ String := do
  let caller ← ExceptT.lift (join loader dataset)
  modify fun session => session.settle loader
  liftM ((← get).outcome loader caller)

end Action
end Insights
