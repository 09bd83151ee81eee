import Insights.Text.Bytes
import Insights.Value.Basic

/-!
Stores of payloads, and the keys under which the payloads of datasets are kept in them.
-/

namespace Insights

/-! ### Keys of datasets

The keys under which the payloads of datasets are stored: a fixed beginning, and the id of the dataset. -/

def arrowKeyStart : String := "dashframe:arrow:"

/-- The key of the payload of the dataset with the given id. -/
def arrowKey (id : String) : String :=
  arrowKeyStart ++ id

/-- The id of the dataset whose payload has the given key, if it is such a key. -/
def datasetIdOfKey? (key : String) : Option String :=
  if arrowKeyStart.toList.isPrefixOf key.toList then
    some (String.ofList (key.toList.drop arrowKeyStart.length))
  else none

theorem datasetIdOfKey?_arrowKey (id : String) : datasetIdOfKey? (arrowKey id) = some id := by
  simp [datasetIdOfKey?, arrowKey, List.isPrefixOf_iff_prefix, List.prefix_append,
    ← String.length_toList]

/-! ### Stores

Stores of bytes: payloads under keys that are texts. A store answers three questions of its own; what
else is asked of it follows from these. -/

/-- A store whose states are the elements of `σ`. -/
class ByteStore (σ : Type) where
  /-- Stores a payload under a key in the place of what was there. -/
  save : σ → String → Bytes → σ
  /-- Removes the payload of a key if there is one. -/
  delete : σ → String → σ
  fetch? : σ → String → Option Bytes
  /-- The keys of the stored payloads in ascending order. -/
  keys : σ → List String

/-- How much a store holds for datasets. -/
structure Usage where
  count : Nat
  bytes : Nat
deriving DecidableEq, Repr

namespace ByteStore

variable {σ : Type} [ByteStore σ]

def holds (store : σ) (key : String) : Bool :=
  (fetch? store key).isSome

/-- The ids of the datasets whose payloads are stored, in the order of the keys. -/
def ids (store : σ) : List String :=
  (keys store).filterMap datasetIdOfKey?

/-- The number of datasets with a stored payload, and the number of bytes of these payloads. -/
def usage (store : σ) : Usage :=
  ⟨(ids store).length,
    (ids store).foldl (fun total id => total + ((fetch? store (arrowKey id)).getD []).length) 0⟩

end ByteStore

/-- Texts in ascending order of their characters. -/
def sortedTexts (texts : List String) : List String :=
  texts.mergeSort fun a b => decide (a ≤ b)

/-! ### A store in memory

A store that is kept in memory: a list of keys with their payloads, each key once. -/

structure MemoryStore where
  entries : Fields Bytes

namespace MemoryStore

def empty : MemoryStore := ⟨[]⟩

instance : ByteStore MemoryStore where
  save store key data := ⟨Fields.put key data store.entries⟩
  delete store key := ⟨store.entries.filter fun entry => entry.1 != key⟩
  fetch? store key := store.entries.lookup key
  keys store := sortedTexts (store.entries.map Prod.fst)

end MemoryStore
end Insights
