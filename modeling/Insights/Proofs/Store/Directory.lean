import Mathlib.Algebra.GroupWithZero.Nat
import Mathlib.Data.List.Nodup
import Insights.Proofs.Store.Contents
import Insights.Store.Directory

/-!
A directory of files as a map from keys to payloads. As long as the digests of the keys differ, a payload
is always found under its key. A listing reads the keys back from text files, so a carriage return in a
key comes back as a line feed; without one the listings are those of the map.
-/

namespace Insights

theorem Text.ofBytes?_toBytes (text : String) : Text.ofBytes? (Text.toBytes text) = some text := by
  have hbytes : ByteArray.mk (Text.toBytes text).toArray = text.toUTF8 := by
    simp [Text.toBytes]
  have hvalid : text.toUTF8.IsValidUTF8 := text.isValidUTF8
  rw [Text.ofBytes?, hbytes, String.fromUTF8?, dif_pos hvalid]
  rfl

theorem datasetIdOfKey?_eq_some {key id : String} :
    datasetIdOfKey? key = some id ↔ key = arrowKey id := by
  refine ⟨fun h => ?_, fun h => h ▸ datasetIdOfKey?_arrowKey id⟩
  unfold datasetIdOfKey? at h
  split at h
  · next hstart =>
    obtain ⟨rest, hrest⟩ := List.isPrefixOf_iff_prefix.mp hstart
    rw [← hrest, ← String.length_toList, List.drop_left, Option.some.injEq] at h
    apply String.toList_injective
    rw [← hrest, ← h, arrowKey, String.toList_append, String.toList_ofList]
  · cases h

theorem arrowKey_inj {id other : String} : arrowKey id = arrowKey other ↔ id = other := by
  rw [← datasetIdOfKey?_eq_some, datasetIdOfKey?_arrowKey, Option.some.injEq]

theorem arrowKey_lt_arrowKey {id other : String} (h : id < other) : arrowKey id < arrowKey other := by
  rw [String.lt_iff, arrowKey, arrowKey, String.toList_append, String.toList_append]
  exact List.append_left_lt (String.lt_iff.mp h)

namespace DirectoryStore

/-! ### The names of files -/

theorem endsWith_iff (text ending : String) :
    text.endsWith ending = true ↔ ending.toList <:+ text.toList := by
  rw [String.endsWith_eq_endsWith_toSlice, String.Slice.endsWith_string_iff, String.copy_toSlice]

theorem endsWith_keyFile (key : String) : (keyFile key).endsWith keyEnding = true := by
  rw [endsWith_iff, keyFile, String.toList_append]
  exact List.suffix_append _ _

theorem endsWith_payloadFile (key : String) : (payloadFile key).endsWith keyEnding = false := by
  rw [Bool.eq_false_iff, ne_eq, endsWith_iff, payloadFile, String.toList_append]
  rintro ⟨front, hfront⟩
  have hending : keyEnding.toList = payloadEnding.toList := List.append_inj_right' hfront (by decide)
  exact absurd hending (by decide)

theorem payloadFile_ne_keyFile (key other : String) : payloadFile key ≠ keyFile other := by
  intro heq
  have hends := endsWith_payloadFile key
  rw [heq, endsWith_keyFile] at hends
  cases hends

variable {used : Set String} {key other : String}

theorem payloadFile_inj (hdistinct : used.InjOn fileStem) (hkey : key ∈ used) (hother : other ∈ used) :
    payloadFile other = payloadFile key ↔ other = key :=
  ⟨fun heq => hdistinct hother hkey (String.append_left_inj payloadEnding |>.mp heq), fun heq => heq ▸ rfl⟩

theorem keyFile_inj (hdistinct : used.InjOn fileStem) (hkey : key ∈ used) (hother : other ∈ used) :
    keyFile other = keyFile key ↔ other = key :=
  ⟨fun heq => hdistinct hother hkey (String.append_left_inj keyEnding |>.mp heq), fun heq => heq ▸ rfl⟩

/-! ### Payloads -/

theorem lookup_save (store : DirectoryStore) (key : String) (data : Bytes) (name : String) :
    (save store key data).listed.lookup name =
      if name = keyFile key then some (Text.toBytes key)
      else if name = payloadFile key then some data else store.listed.lookup name := by
  rw [save, listed, Option.getD_some, Fields.lookup_put, Fields.lookup_put]

theorem listed_delete (store : DirectoryStore) (key : String) :
    (delete store key).listed =
      (store.listed.filter fun file => file.1 != keyFile key).filter
        fun file => file.1 != payloadFile key := by
  rw [List.filter_filter]
  obtain ⟨_ | files⟩ := store <;> rfl

theorem lookup_delete (store : DirectoryStore) (key name : String) :
    (delete store key).listed.lookup name =
      if name = payloadFile key then none
      else if name = keyFile key then none else store.listed.lookup name := by
  rw [listed_delete, Fields.lookup_erase, Fields.lookup_erase]

/-- Keys with different digests are kept apart. -/
theorem separates (hdistinct : used.InjOn fileStem) : ByteStore.Separates DirectoryStore used where
  fetch?_save store data key hkey other hother := by
    have hfile := payloadFile_inj hdistinct hkey hother
    refine (lookup_save store key data (payloadFile other)).trans ?_
    rw [if_neg (payloadFile_ne_keyFile other key)]
    simp only [hfile]
    rfl
  fetch?_delete store key hkey other hother := by
    have hfile := payloadFile_inj hdistinct hkey hother
    refine (lookup_delete store key (payloadFile other)).trans ?_
    rw [if_neg (payloadFile_ne_keyFile other key)]
    simp only [hfile]
    rfl

/-! ### The files of the stored keys -/

/-- The directory holds the key file of each stored key, and only files of stored keys, each once. -/
structure Reflects (used : Set String) (contents : String → Option Bytes) (store : DirectoryStore) :
    Prop where
  nodup : (store.listed.map Prod.fst).Nodup
  inUse : ∀ key, contents key ≠ none → key ∈ used
  keyFile? : ∀ key ∈ used, store.listed.lookup (keyFile key) =
    (contents key).map fun _ => Text.toBytes key
  owned : ∀ name ∈ store.listed.map Prod.fst,
    ∃ key, contents key ≠ none ∧ (name = payloadFile key ∨ name = keyFile key)

namespace Reflects

variable {contents : String → Option Bytes} {store : DirectoryStore}

theorem empty {store : DirectoryStore} (h : store.listed = []) :
    Reflects used (fun _ => none) store where
  nodup := by simp [h]
  inUse key hkey := absurd rfl hkey
  keyFile? key _ := by simp [h]
  owned name hname := by simp [h] at hname

theorem save (h : Reflects used contents store) (hdistinct : used.InjOn fileStem) (hkey : key ∈ used)
    (data : Bytes) :
    Reflects used (Function.update contents key (some data)) (store.save key data) where
  nodup := Fields.nodup_put (Fields.nodup_put h.nodup)
  inUse other hother := by
    by_cases heq : other = key
    · exact heq ▸ hkey
    · rw [Function.update_of_ne heq] at hother
      exact h.inUse other hother
  keyFile? other hother := by
    rw [lookup_save, Function.update_apply]
    simp only [keyFile_inj hdistinct hkey hother, (payloadFile_ne_keyFile key other).symm, if_false]
    split
    · next heq => rw [heq, Option.map_some]
    · exact h.keyFile? other hother
  owned name hname := by
    have hsaved : Function.update contents key (some data) key ≠ none := by
      rw [Function.update_self]
      exact Option.some_ne_none data
    rcases (Fields.mem_names_put _ _ _ _).mp hname with rfl | hname
    · exact ⟨key, hsaved, .inr rfl⟩
    rcases (Fields.mem_names_put _ _ _ _).mp hname with rfl | hname
    · exact ⟨key, hsaved, .inl rfl⟩
    obtain ⟨owner, hstored, hfile⟩ := h.owned name hname
    by_cases heq : owner = key
    · exact ⟨key, hsaved, heq ▸ hfile⟩
    · refine ⟨owner, ?_, hfile⟩
      rwa [Function.update_of_ne heq]

theorem delete (h : Reflects used contents store) (hdistinct : used.InjOn fileStem)
    (hkey : key ∈ used) :
    Reflects used (Function.update contents key none) (store.delete key) where
  nodup := by
    rw [listed_delete]
    exact Fields.nodup_filter (Fields.nodup_filter h.nodup _) _
  inUse other hother := by
    by_cases heq : other = key
    · exact heq ▸ hkey
    · rw [Function.update_of_ne heq] at hother
      exact h.inUse other hother
  keyFile? other hother := by
    rw [lookup_delete, Function.update_apply]
    simp only [keyFile_inj hdistinct hkey hother, (payloadFile_ne_keyFile key other).symm, if_false]
    split
    · rfl
    · exact h.keyFile? other hother
  owned name hname := by
    obtain ⟨file, hfile, rfl⟩ := List.mem_map.mp hname
    rw [listed_delete, List.mem_filter, List.mem_filter, bne_iff_ne, bne_iff_ne] at hfile
    obtain ⟨⟨hfile, hnotKey⟩, hnotPayload⟩ := hfile
    obtain ⟨owner, hstored, howner⟩ := h.owned file.1 (List.mem_map_of_mem hfile)
    have hne : owner ≠ key := by
      rintro rfl
      exact howner.elim hnotPayload hnotKey
    refine ⟨owner, ?_, howner⟩
    rwa [Function.update_of_ne hne]

theorem apply (h : Reflects used contents store) (hdistinct : used.InjOn fileStem)
    {call : StoreCall} (hcall : call.key ∈ used) :
    Reflects used (call.update contents) (call.apply store) := by
  cases call with
  | save key data => exact h.save hdistinct hcall data
  | delete key => exact h.delete hdistinct hcall

theorem run (h : Reflects used contents store) (hdistinct : used.InjOn fileStem)
    {calls : List StoreCall} (hcalls : ∀ call ∈ calls, call.key ∈ used) :
    Reflects used (StoreCall.replay calls contents) (ByteStore.run store calls) := by
  induction calls generalizing store contents with
  | nil => exact h
  | cons call rest ih =>
    rw [ByteStore.run, StoreCall.replay, List.foldl_cons, List.foldl_cons]
    exact ih (h.apply hdistinct (hcalls call List.mem_cons_self)) fun other hother =>
      hcalls other (List.mem_cons_of_mem _ hother)

end Reflects

/-! ### Keys read back from their files -/

/-- A text as it is read back from a file of lines. -/
def readBack (text : String) : String :=
  String.ofList (lines text.toList)

theorem lines_cons_of_ne {c : Char} (h : c ≠ '\r') (rest : List Char) :
    lines (c :: rest) = c :: lines rest := by
  rw [lines]
  · exact fun other heq _ => h heq
  · exact h

theorem lines_append {front : List Char} (h : '\r' ∉ front) (rest : List Char) :
    lines (front ++ rest) = front ++ lines rest := by
  induction front with
  | nil => rfl
  | cons c front ih =>
    rw [List.mem_cons, not_or] at h
    rw [List.cons_append, lines_cons_of_ne (Ne.symm h.1), ih h.2, List.cons_append]

theorem return_notMem_lines (cs : List Char) : '\r' ∉ lines cs := by
  fun_induction lines cs with
  | case1 rest ih => simp [ih]
  | case2 rest _ ih => simp [ih]
  | case3 c rest _ hc ih => simp [ih, Ne.symm hc]
  | case4 => simp

/-- Where a text of lines begins with something within one line, so does the text that was written. -/
theorem prefix_of_prefix_lines {front cs : List Char} (h : '\n' ∉ front) (hlines : front <+: lines cs) :
    front <+: cs := by
  -- A line feed of the lines is not in the front, so the front ends before it.
  have hbefore : ∀ {front rest : List Char}, '\n' ∉ front → front <+: '\n' :: rest → front = [] := by
    intro front rest h hprefix
    rcases List.prefix_cons_iff.mp hprefix with hnil | ⟨front, rfl, -⟩
    · exact hnil
    · exact absurd List.mem_cons_self h
  fun_induction lines cs generalizing front with
  | case1 rest ih => exact hbefore h hlines ▸ List.nil_prefix
  | case2 rest _ ih => exact hbefore h hlines ▸ List.nil_prefix
  | case3 c rest _ _ ih =>
    rcases List.prefix_cons_iff.mp hlines with rfl | ⟨front, rfl, hrest⟩
    · exact List.nil_prefix
    · rw [List.mem_cons, not_or] at h
      exact List.cons_prefix_cons.mpr ⟨rfl, ih h.2 hrest⟩
  | case4 => exact hlines

theorem readBack_eq_self_iff {text : String} : readBack text = text ↔ '\r' ∉ text.toList := by
  refine ⟨fun h => ?_, fun h => ?_⟩
  · rw [← h, readBack, String.toList_ofList]
    exact return_notMem_lines text.toList
  · have hlines := lines_append h []
    rw [List.append_nil, lines, List.append_nil] at hlines
    rw [readBack, hlines, String.ofList_toList]

theorem readBack_arrowKey (id : String) : readBack (arrowKey id) = arrowKey (readBack id) := by
  rw [readBack, arrowKey, String.toList_append, lines_append (by decide), String.ofList_append,
    String.ofList_toList, arrowKey, readBack]

theorem datasetIdOfKey?_readBack (key : String) :
    datasetIdOfKey? (readBack key) = (datasetIdOfKey? key).map readBack := by
  cases hid : datasetIdOfKey? key with
  | some id =>
    rw [datasetIdOfKey?_eq_some.mp hid, readBack_arrowKey, datasetIdOfKey?_arrowKey, Option.map_some]
  | none =>
    rw [Option.map_none, Option.eq_none_iff_forall_ne_some]
    intro id hread
    have hprefix : arrowKeyStart.toList <+: lines key.toList := by
      have hkey := congrArg String.toList (datasetIdOfKey?_eq_some.mp hread)
      rw [readBack, String.toList_ofList, arrowKey, String.toList_append] at hkey
      exact hkey ▸ List.prefix_append _ _
    have hstart := List.isPrefixOf_iff_prefix.mpr (prefix_of_prefix_lines (by decide) hprefix)
    rw [datasetIdOfKey?, if_pos hstart] at hid
    cases hid

/-! ### Listings -/

/-- The keys of the stored payloads in the order of their files. -/
def storedKeys (store : DirectoryStore) : List String :=
  (store.listed.filter fun file => file.1.endsWith keyEnding).filterMap fun file =>
    Text.ofBytes? file.2

theorem keys_eq (store : DirectoryStore) :
    ByteStore.keys store = sortedTexts ((storedKeys store).map readBack) := by
  rw [storedKeys, List.map_filterMap]
  rfl

theorem ids_ascending (store : DirectoryStore) : (ByteStore.ids store).Pairwise (· ≤ ·) := by
  have hkeys := sortedTexts_ascending ((storedKeys store).map readBack)
  rw [← keys_eq] at hkeys
  refine List.Pairwise.filterMap datasetIdOfKey? ?_ hkeys
  intro key other hle id hid otherId hother
  rw [datasetIdOfKey?_eq_some.mp hid, datasetIdOfKey?_eq_some.mp hother] at hle
  exact le_of_not_gt fun hlt => not_lt_of_ge hle (arrowKey_lt_arrowKey hlt)

theorem ids_eq (store : DirectoryStore) : ByteStore.ids store =
    sortedTexts (((storedKeys store).filterMap datasetIdOfKey?).map readBack) := by
  refine eq_sortedTexts (ids_ascending store) ?_
  have hids := (sortedTexts_perm ((storedKeys store).map readBack)).filterMap datasetIdOfKey?
  have hread : datasetIdOfKey? ∘ readBack = fun key => (datasetIdOfKey? key).map readBack :=
    funext datasetIdOfKey?_readBack
  rwa [← keys_eq, List.filterMap_map, hread, ← List.map_filterMap] at hids

namespace Reflects

variable {contents : String → Option Bytes} {store : DirectoryStore}

/-- A key file belongs to a stored key, which is what it holds. -/
theorem eq_keyFile (h : Reflects used contents store) {file : String × Bytes}
    (hfile : file ∈ store.listed) (hends : file.1.endsWith keyEnding = true) :
    ∃ key, contents key ≠ none ∧ file = (keyFile key, Text.toBytes key) := by
  obtain ⟨name, content⟩ := file
  obtain ⟨key, hstored, rfl | rfl⟩ := h.owned name (List.mem_map_of_mem hfile)
  · rw [endsWith_payloadFile] at hends
    cases hends
  have hcontent := Fields.lookup_of_mem h.nodup hfile
  obtain ⟨data, hdata⟩ := Option.ne_none_iff_exists'.mp hstored
  rw [h.keyFile? key (h.inUse key hstored), hdata, Option.map_some, Option.some.injEq] at hcontent
  exact ⟨key, hstored, hcontent ▸ rfl⟩

theorem mem_storedKeys (h : Reflects used contents store) :
    key ∈ storedKeys store ↔ contents key ≠ none := by
  rw [storedKeys, List.mem_filterMap]
  constructor
  · rintro ⟨file, hfile, hread⟩
    obtain ⟨hfile, hends⟩ := List.mem_filter.mp hfile
    obtain ⟨owner, hstored, rfl⟩ := h.eq_keyFile hfile hends
    rw [Text.ofBytes?_toBytes, Option.some.injEq] at hread
    exact hread ▸ hstored
  · intro hstored
    obtain ⟨data, hdata⟩ := Option.ne_none_iff_exists'.mp hstored
    have hlookup := h.keyFile? key (h.inUse key hstored)
    rw [hdata, Option.map_some] at hlookup
    exact ⟨_, List.mem_filter.mpr ⟨Fields.mem_of_lookup hlookup, endsWith_keyFile key⟩,
      Text.ofBytes?_toBytes key⟩

theorem nodup_storedKeys (h : Reflects used contents store) : (storedKeys store).Nodup := by
  have hfiles : (store.listed.filter fun file => file.1.endsWith keyEnding).Nodup :=
    (List.Nodup.of_map Prod.fst h.nodup).filter _
  rw [storedKeys, List.Nodup, List.pairwise_filterMap]
  refine hfiles.imp_of_mem ?_
  rintro file other hfile hother hne key hkey _ hread rfl
  obtain ⟨hfile, hends⟩ := List.mem_filter.mp hfile
  obtain ⟨owner, -, rfl⟩ := h.eq_keyFile hfile hends
  obtain ⟨hother, hends⟩ := List.mem_filter.mp hother
  obtain ⟨otherOwner, -, rfl⟩ := h.eq_keyFile hother hends
  rw [Text.ofBytes?_toBytes, Option.some.injEq] at hkey hread
  exact hne (by rw [hkey, hread])

/-- The ids of the stored datasets. -/
theorem mem_ids (h : Reflects used contents store) {id : String} :
    id ∈ (storedKeys store).filterMap datasetIdOfKey? ↔ contents (arrowKey id) ≠ none := by
  simp only [List.mem_filterMap, datasetIdOfKey?_eq_some, exists_eq_right, h.mem_storedKeys]

theorem nodup_ids (h : Reflects used contents store) :
    ((storedKeys store).filterMap datasetIdOfKey?).Nodup := by
  refine h.nodup_storedKeys.filterMap ?_
  intro key other id hkey hother
  rw [datasetIdOfKey?_eq_some.mp hkey, datasetIdOfKey?_eq_some.mp hother]

end Reflects

/-- A listing that is read back from files is the listing of what was written exactly if no text of it
has a carriage return. -/
theorem sortedTexts_readBack_iff {p : String → Prop} {texts : List String} (h : Lists p texts) :
    sortedTexts (texts.map readBack) = texts ↔ ∀ text ∈ texts, '\r' ∉ text.toList := by
  constructor
  · intro heq text htext
    rw [← heq, (sortedTexts_perm _).mem_iff] at htext
    obtain ⟨written, -, rfl⟩ := List.mem_map.mp htext
    rw [readBack, String.toList_ofList]
    exact return_notMem_lines written.toList
  · intro hnone
    have hread : texts.map readBack = texts := by
      refine (List.map_congr_left fun text htext => ?_).trans (List.map_id texts)
      exact readBack_eq_self_iff.mpr (hnone text htext)
    rw [hread, h.sortedTexts_eq]

end DirectoryStore

/-- The bytes in use are the sizes of the payloads of the listed ids. -/
theorem ByteStore.bytes_usage {σ : Type} [ByteStore σ] (store : σ) :
    (usage store).bytes =
      ((ids store).map fun id => ((fetch? store (arrowKey id)).getD []).length).sum := by
  rw [List.sum_eq_foldl, List.foldl_map]
  rfl

namespace DirectoryStore

/-- A directory that begins empty answers after any run of saves and deletes as the map of what is
stored, if the digests of the keys in use differ: each of these keys is held and fetched as the map has it.
The listings are those of the map with carriage returns read back as line feeds, so a listing is that of
the map exactly if no text in it has a carriage return. The number of datasets is always right, and the
number of bytes if no id of a dataset has a carriage return. -/
theorem reflects_map (start : DirectoryStore) (hstart : start.listed = []) (used : Set String)
    (hdistinct : used.InjOn fileStem) (calls : List StoreCall)
    (hcalls : ∀ call ∈ calls, call.key ∈ used) :
    let store := ByteStore.run start calls
    let contents := StoreCall.contents calls
    (∀ key ∈ used, ByteStore.fetch? store key = contents key ∧
      ByteStore.holds store key = (contents key).isSome) ∧
    ∃ keys ids : List String, Lists (fun key => contents key ≠ none) keys ∧
      Lists (fun id => contents (arrowKey id) ≠ none) ids ∧
      ByteStore.keys store = sortedTexts (keys.map readBack) ∧
      (ByteStore.keys store = keys ↔ ∀ key ∈ keys, '\r' ∉ key.toList) ∧
      ByteStore.ids store = sortedTexts (ids.map readBack) ∧
      (ByteStore.ids store = ids ↔ ∀ id ∈ ids, '\r' ∉ id.toList) ∧
      (ByteStore.usage store).count = ids.length ∧
      ((∀ id ∈ ids, '\r' ∉ id.toList) → (ByteStore.usage store).bytes =
        (ids.map fun id => ((contents (arrowKey id)).getD []).length).sum) := by
  intro store contents
  have hagrees : ByteStore.Agrees used store contents := by
    refine ByteStore.Agrees.run (fun key _ => ?_) (separates hdistinct) hcalls
    exact congrArg (List.lookup (payloadFile key)) hstart
  have hreflects : Reflects used contents store := (Reflects.empty hstart).run hdistinct hcalls
  -- The listings of the map are the keys and ids in the directory put in order.
  have hkeys : Lists (fun key => contents key ≠ none) (sortedTexts (storedKeys store)) :=
    lists_sortedTexts hreflects.nodup_storedKeys fun key => hreflects.mem_storedKeys
  have hids : Lists (fun id => contents (arrowKey id) ≠ none)
      (sortedTexts ((storedKeys store).filterMap datasetIdOfKey?)) :=
    lists_sortedTexts hreflects.nodup_ids fun id => hreflects.mem_ids
  have hreadKeys := keys_eq store
  rw [sortedTexts_congr ((sortedTexts_perm (storedKeys store)).symm.map readBack)] at hreadKeys
  have hreadIds := ids_eq store
  rw [sortedTexts_congr ((sortedTexts_perm _).symm.map readBack)] at hreadIds
  refine ⟨fun key hkey => ⟨hagrees key hkey, ?_⟩, _, _, hkeys, hids, hreadKeys, ?_, hreadIds, ?_, ?_, ?_⟩
  · rw [ByteStore.holds, hagrees key hkey]
  · rw [hreadKeys]
    exact sortedTexts_readBack_iff hkeys
  · rw [hreadIds]
    exact sortedTexts_readBack_iff hids
  · rw [ByteStore.usage, hreadIds, (sortedTexts_perm _).length_eq, List.length_map]
  · intro hnone
    rw [ByteStore.bytes_usage, hreadIds, (sortedTexts_readBack_iff hids).mpr hnone]
    congr 1
    refine List.map_congr_left fun id hid => ?_
    rw [hagrees _ (hreflects.inUse _ ((hids.2 id).mp hid))]

/-- The keys of two datasets, and a key of no dataset with a carriage return. -/
def mixedKeys : List String :=
  [arrowKey "b", arrowKey "a", "notes\r"]

/-- One of the two datasets is saved and deleted again. -/
def mixedCalls : List StoreCall :=
  [.save (arrowKey "b") [1, 2], .save "notes\r" [4], .save (arrowKey "a") [3, 5],
    .delete (arrowKey "b")]

theorem reflects_map_mixedKeys :
    let store := ByteStore.run empty mixedCalls
    empty.listed = [] ∧ Set.InjOn fileStem {key | key ∈ mixedKeys} ∧
      (∀ call ∈ mixedCalls, call.key ∈ mixedKeys) ∧
      ByteStore.fetch? store (arrowKey "a") = some [3, 5] ∧
      ByteStore.fetch? store (arrowKey "b") = none ∧
      ByteStore.ids store = ["a"] ∧ (ByteStore.usage store).count = 1 ∧
      (ByteStore.usage store).bytes = 2 := by
  intro store
  have hdistinct : Set.InjOn fileStem {key | key ∈ mixedKeys} := by
    have hall : ∀ key ∈ mixedKeys, ∀ other ∈ mixedKeys, fileStem key = fileStem other → key = other := by
      decide +kernel
    exact fun key hkey other hother => hall key hkey other hother
  have hcalls : ∀ call ∈ mixedCalls, call.key ∈ mixedKeys := by decide
  obtain ⟨hfetch, keys, ids, -, hlists, -, -, -, hids, hcount, hbytes⟩ :=
    reflects_map empty rfl {key | key ∈ mixedKeys} hdistinct mixedCalls hcalls
  have hone : ids = ["a"] := by
    refine hlists.unique ⟨List.pairwise_singleton _ _, fun id => ?_⟩
    have hnotes : arrowKey id ≠ "notes\r" := fun heq => by
      have hid := datasetIdOfKey?_eq_some.mpr heq.symm
      exact absurd hid (by simp [show datasetIdOfKey? "notes\r" = none by decide])
    by_cases ha : id = "a" <;> by_cases hb : id = "b" <;>
      simp_all [StoreCall.contents, StoreCall.replay, mixedCalls, StoreCall.update,
        Function.update_apply, arrowKey_inj]
  subst hone
  have hplain : ∀ id ∈ ["a"], '\r' ∉ id.toList := by decide
  exact ⟨rfl, hdistinct, hcalls, (hfetch _ (by decide)).1, (hfetch _ (by decide)).1, hids.mpr hplain,
    hcount, (hbytes hplain).trans (by decide)⟩

/-- An id with a carriage return is listed with a line feed in its place, and what is stored for it is
not counted. -/
theorem ids_read_back :
    let calls := [StoreCall.save (arrowKey "a\r") [1]]
    let store := ByteStore.run empty calls
    StoreCall.contents calls (arrowKey "a\r") = some [1] ∧ ByteStore.keys store = [arrowKey "a\n"] ∧
      ¬ Lists (fun key => StoreCall.contents calls key ≠ none) (ByteStore.keys store) ∧
      ByteStore.ids store = ["a\n"] ∧ ByteStore.usage store = ⟨1, 0⟩ := by
  intro calls store
  have hkeys : ByteStore.keys store = [arrowKey "a\n"] := by decide +kernel
  have hstored : StoreCall.contents calls (arrowKey "a\r") = some [1] := by decide +kernel
  refine ⟨hstored, hkeys, fun hlists => ?_, by decide +kernel, by decide +kernel⟩
  have hlisted : arrowKey "a\r" ∈ ByteStore.keys store :=
    (hlists.2 _).mpr fun hnone => by cases hstored.symm.trans hnone
  rw [hkeys] at hlisted
  exact absurd hlisted (by decide)

end DirectoryStore
end Insights
