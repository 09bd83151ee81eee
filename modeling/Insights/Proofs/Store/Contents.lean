import Mathlib.Data.Set.Function
import Mathlib.Data.String.Basic
import Insights.Proofs.Value.Fields
import Insights.Store.Basic

/-!
What a store holds as a map from keys to payloads: what saves and deletes make of such a map, and the
stores that answer as the map does after any run of them.
-/

namespace Insights

/-- A change of what a store holds. -/
inductive StoreCall where
  | save (key : String) (data : Bytes)
  | delete (key : String)

namespace StoreCall

def key : StoreCall → String
  | .save key _ => key
  | .delete key => key

/-- What the call makes of a map from keys to payloads. -/
def update (contents : String → Option Bytes) : StoreCall → String → Option Bytes
  | .save key data => Function.update contents key (some data)
  | .delete key => Function.update contents key none

/-- The map after a run of calls. -/
def replay (calls : List StoreCall) (contents : String → Option Bytes) : String → Option Bytes :=
  calls.foldl update contents

/-- The map that a run of calls builds from nothing. -/
def contents (calls : List StoreCall) : String → Option Bytes :=
  replay calls fun _ => none

theorem update_of_ne {call : StoreCall} {key : String} (h : call.key ≠ key)
    (contents : String → Option Bytes) : call.update contents key = contents key := by
  cases call <;> exact Function.update_of_ne (Ne.symm h) _ _

/-- Calls under other keys leave a key as it is. -/
theorem replay_of_ne {calls : List StoreCall} {key : String} (h : ∀ call ∈ calls, call.key ≠ key)
    (contents : String → Option Bytes) : replay calls contents key = contents key := by
  induction calls generalizing contents with
  | nil => rfl
  | cons call rest ih =>
    rw [replay, List.foldl_cons]
    exact (ih (fun other hother => h other (List.mem_cons_of_mem _ hother)) _).trans
      (update_of_ne (h call List.mem_cons_self) contents)

variable {σ : Type} [ByteStore σ]

/-- What the call makes of a store. -/
def apply (store : σ) : StoreCall → σ
  | .save key data => ByteStore.save store key data
  | .delete key => ByteStore.delete store key

end StoreCall

namespace ByteStore

variable {σ : Type} [ByteStore σ]

/-- The store after a run of calls. -/
def run (store : σ) (calls : List StoreCall) : σ :=
  calls.foldl StoreCall.apply store

variable (σ) in
/-- The stores keep the payloads of the used keys apart: a change under one of them is seen under it, and
under no other. -/
structure Separates (used : Set String) : Prop where
  fetch?_save : ∀ (store : σ) (data : Bytes), ∀ key ∈ used, ∀ other ∈ used,
    fetch? (save store key data) other = if other = key then some data else fetch? store other
  fetch?_delete : ∀ (store : σ), ∀ key ∈ used, ∀ other ∈ used,
    fetch? (delete store key) other = if other = key then none else fetch? store other

/-- A store answers for the used keys as the map does. -/
def Agrees (used : Set String) (store : σ) (contents : String → Option Bytes) : Prop :=
  ∀ key ∈ used, fetch? store key = contents key

variable {used : Set String} {store : σ} {contents : String → Option Bytes}

theorem Agrees.apply (h : Agrees used store contents) (hsep : Separates σ used) {call : StoreCall}
    (hcall : call.key ∈ used) : Agrees used (call.apply store) (call.update contents) := by
  intro key hkey
  cases call with
  | save saved data =>
    rw [StoreCall.apply, StoreCall.update, hsep.fetch?_save store data saved hcall key hkey,
      Function.update_apply, h key hkey]
  | delete deleted =>
    rw [StoreCall.apply, StoreCall.update, hsep.fetch?_delete store deleted hcall key hkey,
      Function.update_apply, h key hkey]

theorem Agrees.run (h : Agrees used store contents) (hsep : Separates σ used)
    {calls : List StoreCall} (hcalls : ∀ call ∈ calls, call.key ∈ used) :
    Agrees used (run store calls) (StoreCall.replay calls contents) := by
  induction calls generalizing store contents with
  | nil => exact h
  | cons call rest ih =>
    rw [ByteStore.run, StoreCall.replay, List.foldl_cons, List.foldl_cons]
    exact ih (h.apply hsep (hcalls call List.mem_cons_self)) fun other hother =>
      hcalls other (List.mem_cons_of_mem _ hother)

end ByteStore

/-- A store in memory keeps all keys apart. -/
theorem MemoryStore.separates (used : Set String) : ByteStore.Separates MemoryStore used where
  fetch?_save store data key _ other _ := Fields.lookup_put key other data store.entries
  fetch?_delete store key _ other _ := Fields.lookup_erase key other store.entries

/-! ### Listings -/

/-- The texts with a property in ascending order, each once. -/
def Lists (p : String → Prop) (texts : List String) : Prop :=
  texts.Pairwise (· < ·) ∧ ∀ text, text ∈ texts ↔ p text

/-- A property has at most one such list. -/
theorem Lists.unique {p : String → Prop} {texts others : List String} (h : Lists p texts)
    (hothers : Lists p others) : texts = others := by
  have hmem : ∀ text, text ∈ texts ↔ text ∈ others := fun text =>
    (h.2 text).trans (hothers.2 text).symm
  have hperm : texts.Perm others :=
    (List.perm_ext_iff_of_nodup (h.1.imp ne_of_lt) (hothers.1.imp ne_of_lt)).mpr hmem
  exact hperm.eq_of_pairwise (fun _ _ _ _ => fun hle hge => absurd hge (lt_asymm hle)) h.1 hothers.1

theorem sortedTexts_perm (texts : List String) : (sortedTexts texts).Perm texts :=
  List.mergeSort_perm texts _

theorem sortedTexts_ascending (texts : List String) : (sortedTexts texts).Pairwise (· ≤ ·) := by
  have hsorted : (sortedTexts texts).Pairwise fun a b => decide (a ≤ b) = true :=
    List.pairwise_mergeSort (by simpa using fun a b c => le_trans) (by simpa using le_total) texts
  simpa using hsorted

/-- A list in ascending order is what sorting makes of the same texts in any order. -/
theorem eq_sortedTexts {texts others : List String} (hascending : texts.Pairwise (· ≤ ·))
    (hperm : texts.Perm others) : texts = sortedTexts others :=
  (hperm.trans (sortedTexts_perm others).symm).eq_of_pairwise
    (fun _ _ _ _ => le_antisymm) hascending (sortedTexts_ascending others)

theorem sortedTexts_congr {texts others : List String} (h : texts.Perm others) :
    sortedTexts texts = sortedTexts others :=
  eq_sortedTexts (sortedTexts_ascending texts) ((sortedTexts_perm texts).trans h)

theorem lists_sortedTexts {p : String → Prop} {texts : List String} (h : texts.Nodup)
    (hmem : ∀ text, text ∈ texts ↔ p text) : Lists p (sortedTexts texts) := by
  have hnodup : (sortedTexts texts).Nodup := (sortedTexts_perm texts).nodup_iff.mpr h
  have hascending : (sortedTexts texts).Pairwise (· < ·) :=
    (sortedTexts_ascending texts).imp₂ (fun _ _ => lt_of_le_of_ne) hnodup
  exact ⟨hascending, fun text => (sortedTexts_perm texts).mem_iff.trans (hmem text)⟩

theorem Lists.sortedTexts_eq {p : String → Prop} {texts : List String} (h : Lists p texts) :
    sortedTexts texts = texts :=
  (eq_sortedTexts (h.1.imp le_of_lt) (List.Perm.refl texts)).symm

end Insights
