import Insights.Dataset.Basic

/-!
The loading of one dataset into its table. A load asks for one thing after the other: whether the table
exists already, to drop it, for the stored payload, and to import that payload. Each reply takes it to
its next phase, and the replies alone decide how it ends.
-/

namespace Insights

/-- Whether the engine or the system failed, and not what was asked of it. -/
def Fault.isOutage : Fault → Bool
  | .engine _ _ | .system _ | .runtime _ | .tooDeep _ => true
  | _ => false

/-- Whether a fault lies in a value, a document or a query. -/
def Fault.isInvalidity : Fault → Bool
  | .unnamedInsight | .tablelessInsight | .nonFinite _ | .columnlessMetric _ _ | .invalidInsight _
  | .missingDataset _ _ | .joinKeyNotFound _ _ _ _ | .unsupportedStorage _ | .tableLoad _ _
  | .unknownChoice _ _ | .unreadableInteger _ | .overlongInteger _
  | .unwritableInteger | .notANumber _ | .shortDescription _ | .unpairedItem _ _ | .badValue _
  | .rejected _ | .unwritable _ => true
  | _ => false

/-- A fault as the loading of a table reports it: outages and invalid values become a fault of that
load, with their wording as the reason. -/
def Fault.whileLoading (table : String) : Fault → Fault
  | .tableLoad other reason => .tableLoad other reason
  | fault =>
    if fault.isOutage || fault.isInvalidity then .tableLoad table fault.message else fault

/-- What a load asks for. -/
inductive Request where
  /-- Whether the table exists. -/
  | probe (table : String)
  | drop (table : String)
  /-- The payload that is stored under the key. -/
  | fetch (key : String)
  | bulkImport (table : String) (data : Bytes)
deriving DecidableEq

/-- What comes back. -/
inductive Reply where
  | probed (exists? : Except Fault Bool)
  | dropped (result : Except Fault Unit)
  | fetched (payload : Except Fault (Option Bytes))
  | imported (result : Except Fault Unit)

inductive Phase where
  /-- Known to others, but nothing has been asked yet. -/
  | begun
  | probing
  | dropping
  | fetching
  | importing (data : Bytes)
  | ended (outcome : Except Fault Unit)

/-- The number of steps that a load can still take. -/
def Phase.remaining : Phase → Nat
  | .begun => 5
  | .probing => 4
  | .dropping => 3
  | .fetching => 2
  | .importing _ => 1
  | .ended _ => 0

structure Load where
  dataset : Dataset
  phase : Phase
  /-- Everything that has been asked so far, in order. -/
  asked : List Request

namespace Load

def table (load : Load) : String :=
  load.dataset.table

/-- The load of a dataset before anything has been asked. -/
def ofDataset (dataset : Dataset) : Load :=
  ⟨dataset, .begun, []⟩

/-- What the load asks for in a phase. -/
def requestIn (load : Load) : Phase → Option Request
  | .begun | .ended _ => none
  | .probing => some (.probe load.table)
  | .dropping => some (.drop load.table)
  | .fetching => some (.fetch load.dataset.storage.locator)
  | .importing data => some (.bulkImport load.table data)

/-- What the load waits for. -/
def request? (load : Load) : Option Request :=
  load.requestIn load.phase

def outcome? (load : Load) : Option (Except Fault Unit) :=
  match load.phase with
  | .ended outcome => some outcome
  | _ => none

/-- The phase after a table turned out to be absent: only local storage can be loaded from. -/
def absentPhase (load : Load) : Phase :=
  match load.dataset.storage.kind with
  | .local => .dropping
  | kind => .ended (.error (.unsupportedStorage kind.word))

/-- The end of a load that was told of a fault. -/
def failedPhase (load : Load) (fault : Fault) : Phase :=
  .ended (.error (fault.whileLoading load.table))

/-- The reason of a load whose payload is not stored. -/
def missingPayload (key : String) : String :=
  "data not found in storage: " ++ key

/-- The phase after a reply. An outage while the table is probed counts as an absent table. There is none
after a reply to something that was not asked. -/
def nextPhase? (load : Load) (reply : Reply) : Option Phase :=
  match load.phase, reply with
  | .probing, .probed (.ok true) => some (.ended (.ok ()))
  | .probing, .probed (.ok false) => some load.absentPhase
  | .probing, .probed (.error fault) =>
    some (if fault.isOutage then load.absentPhase else .ended (.error fault))
  | .dropping, .dropped (.ok _) => some .fetching
  | .dropping, .dropped (.error fault) => some (load.failedPhase fault)
  | .fetching, .fetched (.ok (some data)) => some (.importing data)
  | .fetching, .fetched (.ok none) =>
    some (load.failedPhase (.tableLoad load.table (some (missingPayload load.dataset.storage.locator))))
  | .fetching, .fetched (.error fault) => some (load.failedPhase fault)
  | .importing _, .imported (.ok _) => some (.ended (.ok ()))
  | .importing _, .imported (.error fault) => some (load.failedPhase fault)
  | _, _ => none

/-- The load in another phase, in which it asks what there is to ask. -/
def enter (load : Load) (phase : Phase) : Load :=
  { load with phase, asked := load.asked ++ (load.requestIn phase).toList }

def advance (load : Load) (reply : Reply) : Load :=
  match load.nextPhase? reply with
  | some phase => load.enter phase
  | none => load

/-- The load with its first question asked. -/
def start (load : Load) : Load :=
  match load.phase with
  | .begun => load.enter .probing
  | _ => load

end Load
end Insights
