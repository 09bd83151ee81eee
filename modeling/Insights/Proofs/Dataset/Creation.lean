import Insights.Dataset.Basic
import Insights.Proofs.Decode.Checked
import Insights.Proofs.Outcome
import Insights.Proofs.Store.Contents

/-!
Datasets that were created. The handle says where the payload was put: in local storage, under the key of
the new id. Whether a draft makes a handle is found out after its payload was saved, so a payload can be
left behind that no handle leads to.
-/

namespace Insights.Dataset

variable {σ : Type} [ByteStore σ] {now : Int} {id : String} {draft : Draft} {store after : σ}
  {handle : Dataset}

/-- A handle is read from the document of a draft with the id and the storage that it names. -/
theorem read_document {location : StorageLocation} {fieldIds : List Value}
    (h : ofValue now (draft.document id location fieldIds) = .ok handle) :
    handle.id = id ∧ handle.storage = location := by
  -- the parts are peeled off from the last one down to the id
  obtain ⟨_, createdAt, hkeyed, -, rfl⟩ := Checked.seq_accepted (Checked.outcome_eq_ok.mp h)
  obtain ⟨_, primaryKey, hlisted, -, rfl⟩ := Checked.seq_accepted hkeyed
  obtain ⟨_, ids, hstored, -, rfl⟩ := Checked.seq_accepted hlisted
  obtain ⟨_, found, hnamed, hstorage, rfl⟩ := Checked.seq_accepted hstored
  obtain ⟨name, hid, rfl⟩ := Checked.map_accepted hnamed
  obtain rfl : id = name := Checked.accepted.inj hid
  obtain rfl : location = found := by
    obtain ⟨kind, locator⟩ := location
    cases kind <;> exact Checked.accepted.inj hstorage
  exact ⟨rfl, rfl⟩

theorem create_eq_ok (h : create now id draft store = (.ok handle, after)) :
    handle.id = id ∧ handle.storage = ⟨.local, arrowKey id⟩ ∧
      after = ByteStore.save store (arrowKey id) draft.data := by
  unfold create at h
  split at h
  · cases h
  · obtain ⟨hhandle, hafter⟩ := Prod.mk.inj h
    obtain ⟨fieldIds, -, hread⟩ := bind_eq_ok.mp hhandle
    obtain ⟨hid, hstorage⟩ := read_document hread
    exact ⟨hid, hstorage, hafter.symm⟩
  · cases h

/-! ### Stores whose saves may fail -/

/-- A draft that makes a handle: its field ids are gone through as texts, and its primary key is nothing, a
text, or a list of texts. -/
def Draft.IsSound (draft : Draft) : Prop :=
  (∃ fieldIds names, draft.fieldIds.items = .ok fieldIds ∧
    List.Forall₂ (fun fieldId name => Check.text fieldId = .accepted name) fieldIds names) ∧
  ∃ primaryKey, Check.optional PrimaryKey.check draft.primaryKey = .accepted primaryKey

/-- The handle of a draft with a new id. -/
def Draft.toHandle (draft : Draft) (now : Int) (id : String) : Except Fault Dataset := do
  let fieldIds ← draft.fieldIds.items
  ofValue now (draft.document id ⟨.local, arrowKey id⟩ fieldIds)

theorem toHandle_of_parts {fieldIds : List Value} {names : List String} {key : Option PrimaryKey}
    (hitems : draft.fieldIds.items = .ok fieldIds)
    (hnames : List.Forall₂ (fun fieldId name => Check.text fieldId = .accepted name) fieldIds names)
    (hkey : Check.optional PrimaryKey.check draft.primaryKey = .accepted key) :
    draft.toHandle now id = .ok ⟨id, ⟨.local, arrowKey id⟩, names, key, now⟩ := by
  have hlisted : Check.list Check.text (.list fieldIds) = .accepted names :=
    Checked.itemsFrom_eq hnames 0
  refine bind_eq_ok.mpr ⟨fieldIds, hitems, Checked.outcome_eq_ok.mpr ?_⟩
  exact Checked.seq_eq (Checked.seq_eq (Checked.seq_eq rfl (Checked.under_accepted.mpr hlisted))
    (Checked.under_accepted.mpr hkey)) rfl

/-- A draft makes a handle exactly if it is sound. -/
theorem exists_toHandle_iff (now : Int) (id : String) :
    (∃ handle, draft.toHandle now id = .ok handle) ↔ draft.IsSound := by
  constructor
  · rintro ⟨handle, h⟩
    obtain ⟨fieldIds, hitems, hread⟩ := bind_eq_ok.mp h
    obtain ⟨_, _, hkeyed, -, -⟩ := Checked.seq_accepted (Checked.outcome_eq_ok.mp hread)
    obtain ⟨_, key, hlisted, hkey, -⟩ := Checked.seq_accepted hkeyed
    obtain ⟨_, names, -, hnames, -⟩ := Checked.seq_accepted hlisted
    exact ⟨⟨fieldIds, names, hitems, Checked.itemsFrom_accepted (Checked.under_accepted.mp hnames)⟩,
      key, Checked.under_accepted.mp hkey⟩
  · rintro ⟨⟨fieldIds, names, hitems, hnames⟩, key, hkey⟩
    exact ⟨_, toHandle_of_parts hitems hnames hkey⟩

/-- Creates a dataset in a store whose saves may fail. -/
def createBy (save : σ → String → Bytes → Except Fault Unit × σ) (now : Int) (id : String) (draft : Draft)
    (store : σ) : Except Fault Dataset × σ :=
  match StorageKind.named draft.kind with
  | .error fault => (.error fault, store)
  | .ok .local =>
    match save store (arrowKey id) draft.data with
    | (.error fault, after) => (.error fault, after)
    | (.ok _, after) => (draft.toHandle now id, after)
  | .ok kind => (.error (.unsupportedStorage kind.word), store)

/-- The saves of a store that do not fail. -/
def unfailing (store : σ) (key : String) (data : Bytes) : Except Fault Unit × σ :=
  (.ok (), ByteStore.save store key data)

/-- In a store whose saves do not fail, this is how datasets are created. -/
theorem create_eq_createBy : create now id draft store = createBy unfailing now id draft store := by
  unfold create createBy
  cases StorageKind.named draft.kind with
  | error fault => rfl
  | ok kind => cases kind <;> rfl

/-- A save that succeeds does what the store does, and one that fails leaves the store as it was. -/
structure Saves (save : σ → String → Bytes → Except Fault Unit × σ) : Prop where
  failed : ∀ store key data fault, (save store key data).1 = .error fault → (save store key data).2 = store
  saved : ∀ store key data, (save store key data).1 = .ok () →
    (save store key data).2 = ByteStore.save store key data

theorem saves_unfailing : Saves (unfailing (σ := σ)) where
  failed _ _ _ _ h := by cases h
  saved _ _ _ _ := rfl

variable {save : σ → String → Bytes → Except Fault Unit × σ}

/-- The draft names local storage, and its payload is saved. -/
def Stores (save : σ → String → Bytes → Except Fault Unit × σ) (id : String) (draft : Draft) (store : σ) :
    Prop :=
  StorageKind.named draft.kind = .ok .local ∧ (save store (arrowKey id) draft.data).1 = .ok ()

theorem createBy_of_stores (hsaves : Saves save) (h : Stores save id draft store) :
    createBy save now id draft store =
      (draft.toHandle now id, ByteStore.save store (arrowKey id) draft.data) := by
  obtain ⟨hkind, hsaved⟩ := h
  rw [← hsaves.saved store (arrowKey id) draft.data hsaved]
  unfold createBy
  rw [hkind]
  cases hresult : save store (arrowKey id) draft.data with
  | mk result after =>
    rw [hresult] at hsaved
    subst hsaved
    rfl

theorem createBy_of_not_stores (hsaves : Saves save) (now : Int) (h : ¬ Stores save id draft store) :
    ∃ fault, createBy save now id draft store = (.error fault, store) := by
  unfold createBy
  split
  · next fault _ => exact ⟨fault, rfl⟩
  · next hkind =>
    cases hresult : save store (arrowKey id) draft.data with
    | mk result after =>
      cases result with
      | ok done => exact absurd ⟨hkind, by rw [hresult]⟩ h
      | error fault =>
        have hkept := hsaves.failed store (arrowKey id) draft.data fault (by rw [hresult])
        rw [hresult] at hkept
        subst hkept
        exact ⟨fault, rfl⟩
  · exact ⟨_, rfl⟩

/-- What a creation makes of a store. It returns exactly if the draft names local storage, its payload is
saved, and it is sound, and then the store differs in the payload under the key of the handle only. If it
fails before the payload is saved, the store is as it was; but if the draft is unsound, the payload stays. -/
theorem creation_outcome {used : Set String} (hseparates : ByteStore.Separates σ used)
    (hsaves : Saves save) (now : Int) (id : String) (hid : arrowKey id ∈ used) (draft : Draft) (store : σ) :
    ((∃ handle, (createBy save now id draft store).1 = .ok handle) ↔
      Stores save id draft store ∧ draft.IsSound) ∧
    (∀ handle, (createBy save now id draft store).1 = .ok handle →
      handle.id = id ∧ handle.storage = ⟨.local, arrowKey handle.id⟩ ∧
      ∀ key ∈ used, ByteStore.fetch? (createBy save now id draft store).2 key =
        if key = arrowKey handle.id then some draft.data else ByteStore.fetch? store key) ∧
    (∀ fault, (createBy save now id draft store).1 = .error fault →
      (¬ Stores save id draft store → (createBy save now id draft store).2 = store) ∧
      (Stores save id draft store → ¬ draft.IsSound ∧
        ByteStore.fetch? (createBy save now id draft store).2 (arrowKey id) = some draft.data)) := by
  by_cases hstores : Stores save id draft store
  · rw [createBy_of_stores hsaves hstores]
    have hfetch := hseparates.fetch?_save store draft.data (arrowKey id) hid
    refine ⟨?_, ?_, ?_⟩
    · simpa [hstores] using exists_toHandle_iff now id
    · intro handle hhandle
      obtain ⟨fieldIds, -, hread⟩ := bind_eq_ok.mp hhandle
      obtain ⟨rfl, hstorage⟩ := read_document hread
      exact ⟨rfl, hstorage, hfetch⟩
    · intro fault hfault
      refine ⟨fun hunstored => absurd hstores hunstored, fun _ => ⟨?_, ?_⟩⟩
      · intro hsound
        obtain ⟨handle, hhandle⟩ := (exists_toHandle_iff now id).mpr hsound
        cases hfault.symm.trans hhandle
      · simpa using hfetch (arrowKey id) hid
  · obtain ⟨fault, hcreate⟩ := createBy_of_not_stores hsaves now hstores
    rw [hcreate]
    refine ⟨?_, ?_, ?_⟩
    · simp [hstores]
    · rintro handle ⟨⟩
    · exact fun _ _ => ⟨fun _ => rfl, fun hstored => absurd hstored hstores⟩

/-- A draft with one field and no primary key. -/
def fieldedDraft : Draft :=
  ⟨[1], .list [.text "f"], .text "local", .null⟩

/-- A draft whose primary key is a number. -/
def unsoundDraft : Draft :=
  { fieldedDraft with primaryKey := .integer 5 }

/-- A sound draft becomes a dataset whose payload is the only one in the store. -/
theorem creation_outcome_fieldedDraft :
    (∃ handle, (createBy unfailing 0 "a" fieldedDraft MemoryStore.empty).1 = .ok handle) ∧
      ByteStore.fetch? (createBy unfailing 0 "a" fieldedDraft MemoryStore.empty).2 (arrowKey "a") =
        some [1] ∧
      ByteStore.fetch? (createBy unfailing 0 "a" fieldedDraft MemoryStore.empty).2 (arrowKey "b") = none := by
  obtain ⟨hreturns, hstored, -⟩ := creation_outcome (MemoryStore.separates Set.univ) saves_unfailing 0 "a"
    (Set.mem_univ _) fieldedDraft MemoryStore.empty
  have hsound : fieldedDraft.IsSound :=
    ⟨⟨[.text "f"], ["f"], rfl, .cons rfl .nil⟩, none, rfl⟩
  obtain ⟨handle, hhandle⟩ := hreturns.mpr ⟨⟨rfl, rfl⟩, hsound⟩
  obtain ⟨hid, -, hfetch⟩ := hstored handle hhandle
  rw [hid] at hfetch
  have hother : arrowKey "b" ≠ arrowKey "a" := by decide +kernel
  refine ⟨⟨handle, hhandle⟩, ?_, ?_⟩
  · rw [hfetch (arrowKey "a") (Set.mem_univ _), if_pos rfl]
    rfl
  · rw [hfetch (arrowKey "b") (Set.mem_univ _), if_neg hother]
    rfl

/-- A creation that fails is not always without effect: this one leaves its payload in the store. -/
theorem refused_creation_leaves_payload :
    (∃ fault, (create 0 "a" unsoundDraft MemoryStore.empty).1 = .error fault) ∧
      ByteStore.fetch? MemoryStore.empty (arrowKey "a") = none ∧
      ByteStore.fetch? (create 0 "a" unsoundDraft MemoryStore.empty).2 (arrowKey "a") = some [1] :=
  ⟨⟨_, rfl⟩, rfl, by decide +kernel⟩

end Insights.Dataset
