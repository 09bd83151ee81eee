import Mathlib.Control.Basic
import Insights.Proofs.Decode.Respelling
import Insights.Proofs.Insight.Draft

/-!
Insights and datasets from respelt documents. Which spelling a document uses for the fields of a model, there
and in all parts of it, makes no difference to what is made from it or to why it is refused. What stands inside
the values of a filter belongs to no model and is never respelt.
-/

namespace Insights

open Schema (DocumentRespelt)

variable {v w : Value}

/-! ### What may be respelt -/

def TableField.schema : Schema where
  parts := [⟨idKey, Eq⟩, ⟨nameKey, Eq⟩, ⟨columnKey, Eq⟩, ⟨typeKey, Eq⟩, ⟨isIdentifierKey, Eq⟩,
    ⟨isReferenceKey, Eq⟩]
  apart := by decide
  outer_eq := by decide

def Table.schema : Schema where
  parts := [⟨idKey, Eq⟩, ⟨nameKey, Eq⟩, ⟨datasetKey, Eq⟩,
    ⟨fieldsKey, ListRespelt TableField.schema.DocumentRespelt⟩]
  apart := by decide
  outer_eq := by decide

def Metric.schema : Schema where
  parts := [⟨idKey, Eq⟩, ⟨nameKey, Eq⟩, ⟨sourceTableKey, Eq⟩, ⟨aggregationKey, Eq⟩, ⟨columnKey, Eq⟩]
  apart := by decide
  outer_eq := by decide

def JoinKeys.schema : Schema where
  parts := [⟨baseFieldKey, Eq⟩, ⟨joinedFieldKey, Eq⟩]
  apart := by decide
  outer_eq := by decide

def Join.schema : Schema where
  parts := [⟨tableKey, Table.schema.DocumentRespelt⟩, ⟨selectedFieldsKey, Eq⟩,
    ⟨keysKey, JoinKeys.schema.DocumentRespelt⟩, ⟨kindKey, Eq⟩]
  apart := by decide
  outer_eq := by decide

/-- The values that a filter compares with stay as they are. -/
def Predicate.schema : Schema where
  parts := [⟨columnKey, Eq⟩, ⟨operatorKey, Eq⟩, ⟨valueKey, Eq⟩, ⟨valuesKey, Eq⟩]
  apart := by decide
  outer_eq := by decide

def SortOrder.schema : Schema where
  parts := [⟨columnKey, Eq⟩, ⟨directionKey, Eq⟩]
  apart := by decide
  outer_eq := by decide

def Insight.schema : Schema where
  parts := [⟨idKey, Eq⟩, ⟨nameKey, Eq⟩, ⟨baseKey, Table.schema.DocumentRespelt⟩, ⟨selectedFieldsKey, Eq⟩,
    ⟨metricsKey, ListRespelt Metric.schema.DocumentRespelt⟩,
    ⟨filtersKey, ListRespelt Predicate.schema.DocumentRespelt⟩, ⟨groupByKey, Eq⟩,
    ⟨orderByKey, ListRespelt SortOrder.schema.DocumentRespelt⟩, ⟨limitKey, Eq⟩,
    ⟨joinsKey, ListRespelt Join.schema.DocumentRespelt⟩]
  apart := by decide
  outer_eq := by decide

def StorageLocation.schema : Schema where
  parts := [⟨kindKey, Eq⟩, ⟨locatorKey, Eq⟩]
  apart := by decide
  outer_eq := by decide

def Dataset.schema : Schema where
  parts := [⟨idKey, Eq⟩, ⟨storageKey, StorageLocation.schema.DocumentRespelt⟩, ⟨fieldIdsKey, Eq⟩,
    ⟨primaryKeyKey, Eq⟩, ⟨createdAtKey, Eq⟩]
  apart := by decide
  outer_eq := by decide

/-! ### Parts of an insight -/

/-! Each check goes through the fields of its document one after the other. A field whose value may be respelt
is checked alike by the statement about that value. -/

theorem TableField.check_alike (h : TableField.schema.DocumentRespelt v w) : (check v).Alike (check w) := by
  refine h.object fun _ _ h =>
    .seq (.seq (.seq (.seq (.seq (.map mk ?id) ?name) ?column) ?type) ?identifier) ?reference
  case id => exact h.required ⟨idKey, Eq⟩ (by simp [schema]) .kept
  case name => exact h.required ⟨nameKey, Eq⟩ (by simp [schema]) .kept
  case column => exact h.required ⟨columnKey, Eq⟩ (by simp [schema]) .kept
  case type => exact h.withDefault ⟨typeKey, Eq⟩ (by simp [schema]) _ .kept
  case identifier => exact h.withDefault ⟨isIdentifierKey, Eq⟩ (by simp [schema]) _ .kept
  case reference => exact h.withDefault ⟨isReferenceKey, Eq⟩ (by simp [schema]) _ .kept

theorem Table.check_alike (h : Table.schema.DocumentRespelt v w) : (check v).Alike (check w) := by
  refine h.object fun _ _ h => .seq (.seq (.seq (.map mk ?id) ?name) ?dataset) ?fields
  case id => exact h.required ⟨idKey, Eq⟩ (by simp [schema]) .kept
  case name => exact h.required ⟨nameKey, Eq⟩ (by simp [schema]) .kept
  case dataset => exact h.withDefault ⟨datasetKey, Eq⟩ (by simp [schema]) _ .kept
  case fields =>
    exact h.withDefault ⟨fieldsKey, ListRespelt TableField.schema.DocumentRespelt⟩ (by simp [schema]) _
      fun _ _ hfields => hfields.list fun _ _ => TableField.check_alike

theorem Metric.Draft.check_alike (h : Metric.schema.DocumentRespelt v w) : (check v).Alike (check w) := by
  refine h.object fun _ _ h => .seq (.seq (.seq (.seq (.map mk ?id) ?name) ?table) ?aggregation) ?column
  case id => exact h.withDefault ⟨idKey, Eq⟩ (by simp [schema]) _ .kept
  case name => exact h.required ⟨nameKey, Eq⟩ (by simp [schema]) .kept
  case table => exact h.required ⟨sourceTableKey, Eq⟩ (by simp [schema]) .kept
  case aggregation => exact h.required ⟨aggregationKey, Eq⟩ (by simp [schema]) .kept
  case column => exact h.withDefault ⟨columnKey, Eq⟩ (by simp [schema]) _ .kept

theorem JoinKeys.check_alike (h : JoinKeys.schema.DocumentRespelt v w) : (check v).Alike (check w) := by
  refine h.object fun _ _ h => .seq (.map mk ?base) ?joined
  case base => exact h.required ⟨baseFieldKey, Eq⟩ (by simp [schema]) .kept
  case joined => exact h.required ⟨joinedFieldKey, Eq⟩ (by simp [schema]) .kept

theorem Join.check_alike (h : Join.schema.DocumentRespelt v w) : (check v).Alike (check w) := by
  refine h.object fun _ _ h => .seq (.seq (.seq (.map mk ?table) ?selected) ?keys) ?kind
  case table =>
    exact h.required ⟨tableKey, Table.schema.DocumentRespelt⟩ (by simp [schema]) fun _ _ => Table.check_alike
  case selected => exact h.withDefault ⟨selectedFieldsKey, Eq⟩ (by simp [schema]) _ .kept
  case keys =>
    exact h.required ⟨keysKey, JoinKeys.schema.DocumentRespelt⟩ (by simp [schema]) fun _ _ => JoinKeys.check_alike
  case kind => exact h.withDefault ⟨kindKey, Eq⟩ (by simp [schema]) _ .kept

theorem Predicate.check_alike (h : Predicate.schema.DocumentRespelt v w) : (check v).Alike (check w) := by
  refine h.object fun _ _ h => .seq (.seq (.seq (.map mk ?column) ?operator) ?value) ?values
  case column => exact h.required ⟨columnKey, Eq⟩ (by simp [schema]) .kept
  case operator => exact h.required ⟨operatorKey, Eq⟩ (by simp [schema]) .kept
  case value => exact h.withDefault ⟨valueKey, Eq⟩ (by simp [schema]) _ .kept
  case values => exact h.withDefault ⟨valuesKey, Eq⟩ (by simp [schema]) _ .kept

theorem SortOrder.check_alike (h : SortOrder.schema.DocumentRespelt v w) : (check v).Alike (check w) := by
  refine h.object fun _ _ h => .seq (.map mk ?column) ?direction
  case column => exact h.required ⟨columnKey, Eq⟩ (by simp [schema]) .kept
  case direction => exact h.withDefault ⟨directionKey, Eq⟩ (by simp [schema]) _ .kept

/-! ### Datasets -/

theorem StorageLocation.check_alike (h : StorageLocation.schema.DocumentRespelt v w) :
    (check v).Alike (check w) := by
  refine h.object fun _ _ h => .seq (.map mk ?kind) ?locator
  case kind => exact h.required ⟨kindKey, Eq⟩ (by simp [schema]) .kept
  case locator => exact h.required ⟨locatorKey, Eq⟩ (by simp [schema]) .kept

namespace Dataset

theorem check_alike (now : Int) (h : schema.DocumentRespelt v w) : (check now v).Alike (check now w) := by
  refine h.object fun _ _ h => .seq (.seq (.seq (.seq (.map mk ?id) ?storage) ?fields) ?key) ?time
  case id => exact h.required ⟨idKey, Eq⟩ (by simp [schema]) .kept
  case storage =>
    exact h.required ⟨storageKey, StorageLocation.schema.DocumentRespelt⟩ (by simp [schema])
      fun _ _ => StorageLocation.check_alike
  case fields => exact h.withDefault ⟨fieldIdsKey, Eq⟩ (by simp [schema]) _ .kept
  case key => exact h.withDefault ⟨primaryKeyKey, Eq⟩ (by simp [schema]) _ .kept
  case time => exact h.withDefault ⟨createdAtKey, Eq⟩ (by simp [schema]) _ .kept

/-- A handle that may be without a time of creation. -/
structure Undated where
  id : String
  storage : StorageLocation
  fieldIds : List String
  primaryKey : Option PrimaryKey
  createdAt : Option Int

/-- The handle, which was created now if it says nothing else. -/
def Undated.completed (now : Int) (undated : Undated) : Dataset :=
  ⟨undated.id, undated.storage, undated.fieldIds, undated.primaryKey, undated.createdAt.getD now⟩

def Undated.ofFields (fields : Fields Value) : Checked Undated :=
  mk <$> fields.required idKey Check.text
    <*> fields.required storageKey StorageLocation.check
    <*> fields.withDefault fieldIdsKey [] (Check.list Check.text)
    <*> fields.withDefault primaryKeyKey none (Check.optional PrimaryKey.check)
    <*> fields.withDefault createdAtKey none fun value => some <$> Check.integer value

theorem ofFields_eq_completed (now : Int) (fields : Fields Value) :
    ofFields now fields = Undated.completed now <$> Undated.ofFields fields := by
  rw [ofFields, Undated.ofFields, Fields.withDefault_eq_getD fields createdAtKey]
  simp only [functor_norm]
  rfl

/-- What a document comes to is a handle, dated or not, or a fault, and the time only completes it. -/
theorem exists_undated (value : Value) :
    ∃ undated : Except Fault Undated, ∀ now, ofValue now value = undated.map (Undated.completed now) := by
  cases value with
  | object fields =>
    refine ⟨(Undated.ofFields fields).outcome, fun now => ?_⟩
    rw [← Checked.outcome_map, ← ofFields_eq_completed]
    rfl
  | _ => exact ⟨.error (.rejected [⟨[], .notObject⟩]), fun _ => rfl⟩

end Dataset

/-! ### Insights -/

namespace Insight

/-- An insight that may be without an id, with metrics that may be without theirs. -/
structure Draft where
  id : Option String
  name : String
  base : Table
  selectedFields : List String
  metrics : List Metric.Draft
  filters : List Predicate
  groupBy : List String
  orderBy : List SortOrder
  limit : Option Int
  joins : List Join

/-- The insight, which gets the ids that it lacks from a supply of new ones. -/
def Draft.completed (newId : Nat → String) (draft : Draft) : Insight :=
  ⟨draft.id.getD (newId 0), draft.name, draft.base, draft.selectedFields,
    Metric.Draft.completeAll newId draft.metrics, draft.filters, draft.groupBy, draft.orderBy, draft.limit,
    draft.joins⟩

def Draft.check (parts : Fields Part) : Checked Draft :=
  mk <$> parts.withDefault idKey none (fun part => some <$> part.text)
    <*> parts.required nameKey Part.text
    <*> parts.required baseKey Part.tableOf
    <*> parts.withDefault selectedFieldsKey [] (Part.listOf Part.text)
    <*> parts.withDefault metricsKey [] (Part.listOf Part.draftOf)
    <*> parts.withDefault filtersKey [] (Part.listOf Part.predicateOf)
    <*> parts.withDefault groupByKey [] (Part.listOf Part.text)
    <*> parts.withDefault orderByKey [] (Part.listOf Part.orderOf)
    <*> parts.withDefault limitKey none Part.limit
    <*> parts.withDefault joinsKey [] (Part.listOf Part.joinOf)

/-- Metrics that are missing are none, whatever the supply. -/
theorem withDefault_checkMetrics (newId : Nat → String) (parts : Fields Part) :
    parts.withDefault metricsKey [] (checkMetrics newId) =
      Metric.Draft.completeAll newId <$> parts.withDefault metricsKey [] (Part.listOf Part.draftOf) := by
  rw [Fields.withDefault_eq_elim, Fields.withDefault_eq_elim]
  cases parts.find? metricsKey with
  | none => rfl
  | some found =>
    rw [Option.elim_some, Option.elim_some, checkMetrics_eq_completeAll]
    cases Part.listOf Part.draftOf found.2 <;> rfl

theorem check_eq_completed (newId : Nat → String) (parts : Fields Part) :
    check newId parts = Draft.completed newId <$> Draft.check parts := by
  rw [check, Draft.check, withDefault_checkMetrics, Fields.withDefault_eq_getD parts idKey]
  simp only [functor_norm]
  rfl

/-- What parts come to is a draft, or a fault, and the supply only completes it. -/
theorem exists_draft_ofParts (parts : Fields Part) :
    ∃ draft : Except Fault Draft, ∀ newId, ofParts newId parts = draft.map (Draft.completed newId) := by
  by_cases hself : (parts.lookup reservedName).isSome = true
  · exact ⟨.error .wrongKind, fun _ => if_pos hself⟩
  by_cases hname : (!(parts.lookup nameKey.outer).any Part.isProperName) = true
  · exact ⟨.error .unnamedInsight, fun _ => by rw [ofParts, if_neg hself, if_pos hname]; rfl⟩
  by_cases hbase : (basePart? parts).isNone = true
  · exact ⟨.error .tablelessInsight, fun _ => by rw [ofParts, if_neg hself, if_neg hname, if_pos hbase]; rfl⟩
  refine ⟨(Draft.check parts).outcome, fun newId => ?_⟩
  rw [ofParts, if_neg hself, if_neg hname, if_neg hbase, check_eq_completed, Checked.outcome_map]

theorem exists_draft (value : Value) :
    ∃ draft : Except Fault Draft, ∀ newId, ofValue newId value = draft.map (Draft.completed newId) := by
  cases value with
  | object fields => exact exists_draft_ofParts _
  | _ => exact ⟨.error .wrongKind, fun _ => rfl⟩

variable {fields others : Fields Value}

/-- The parts that are the fields of a document. -/
def partsOf (fields : Fields Value) : Fields Part :=
  fields.map fun (name, value) => (name, .value value)

theorem lookup_partsOf (name : String) (fields : Fields Value) :
    (partsOf fields).lookup name = (fields.lookup name).map .value :=
  Fields.lookup_map _ _ _

theorem required_partsOf {β : Type} (key : FieldKey) (check : Part → Checked β) (fields : Fields Value) :
    (partsOf fields).required key check = fields.required key fun value => check (.value value) := by
  rw [Fields.required_eq_elim, Fields.required_eq_elim, partsOf, Fields.find?_map]
  cases fields.find? key <;> rfl

theorem withDefault_partsOf {β : Type} (key : FieldKey) (default : β) (check : Part → Checked β)
    (fields : Fields Value) :
    (partsOf fields).withDefault key default check =
      fields.withDefault key default fun value => check (.value value) := by
  rw [Fields.withDefault_eq_elim, Fields.withDefault_eq_elim, partsOf, Fields.find?_map]
  cases fields.find? key <;> rfl

theorem listOf_alike {R : Value → Value → Prop} {β : Type} {check : Part → Checked β}
    (hcheck : ∀ v w, R v w → (check (.value v)).Alike (check (.value w))) (h : ListRespelt R v w) :
    (Part.listOf check (.value v)).Alike (Part.listOf check (.value w)) := by
  cases h with
  | same => exact .refl _
  | items h =>
    exact .items (fun _ _ halike => halike)
      (List.forall₂_map_left_iff.mpr (List.forall₂_map_right_iff.mpr (h.imp hcheck)))

theorem check_alike (h : schema.Respelt fields others) (newId : Nat → String) :
    (check newId (partsOf fields)).Alike (check newId (partsOf others)) := by
  rw [check_eq_completed, check_eq_completed, Draft.check, Draft.check]
  simp only [required_partsOf, withDefault_partsOf]
  refine .map _ (.seq (.seq (.seq (.seq (.seq (.seq (.seq (.seq (.seq (.map _ ?id) ?name) ?base) ?selected) ?metrics)
    ?filters) ?groups) ?orders) ?limit) ?joins)
  case id => exact h.withDefault ⟨idKey, Eq⟩ (by simp [schema]) _ .kept
  case name => exact h.required ⟨nameKey, Eq⟩ (by simp [schema]) .kept
  case base =>
    exact h.required ⟨baseKey, Table.schema.DocumentRespelt⟩ (by simp [schema]) fun _ _ => Table.check_alike
  case selected => exact h.withDefault ⟨selectedFieldsKey, Eq⟩ (by simp [schema]) _ .kept
  case metrics =>
    exact h.withDefault ⟨metricsKey, ListRespelt Metric.schema.DocumentRespelt⟩ (by simp [schema]) _
      fun _ _ => listOf_alike fun _ _ => Metric.Draft.check_alike
  case filters =>
    exact h.withDefault ⟨filtersKey, ListRespelt Predicate.schema.DocumentRespelt⟩ (by simp [schema]) _
      fun _ _ => listOf_alike fun _ _ => Predicate.check_alike
  case groups => exact h.withDefault ⟨groupByKey, Eq⟩ (by simp [schema]) _ .kept
  case orders =>
    exact h.withDefault ⟨orderByKey, ListRespelt SortOrder.schema.DocumentRespelt⟩ (by simp [schema]) _
      fun _ _ => listOf_alike fun _ _ => SortOrder.check_alike
  case limit => exact h.withDefault ⟨limitKey, Eq⟩ (by simp [schema]) _ .kept
  case joins =>
    exact h.withDefault ⟨joinsKey, ListRespelt Join.schema.DocumentRespelt⟩ (by simp [schema]) _
      fun _ _ => listOf_alike fun _ _ => Join.check_alike

/-- The name that no part may have is there after the respelling just when it was there before. -/
theorem lookup_reserved (h : schema.Respelt fields others) :
    others.lookup reservedName = fields.lookup reservedName := by
  obtain ⟨-, heach⟩ := h
  have hforeign : ∀ part ∈ schema.parts, part.key.spells reservedName = false := by
    simp only [schema, List.forall_mem_cons]
    decide
  induction heach with
  | nil => rfl
  | cons hfirst _ ih =>
    cases hfirst with
    | same field => rw [Fields.lookup_cons, Fields.lookup_cons, ih]
    | @spelt part hpart name other _ _ hname hother _ =>
      have hne {name : String} (hname : part.key.spells name = true) : reservedName ≠ name := by
        rintro rfl
        rw [hforeign part hpart] at hname
        cases hname
      rw [Fields.lookup_cons, Fields.lookup_cons, if_neg (hne hname), if_neg (hne hother), ih]

theorem lookup_name (h : schema.Respelt fields others) :
    others.lookup nameKey.outer = fields.lookup nameKey.outer := by
  have hname (fields : Fields Value) : fields.lookup nameKey.outer = (fields.find? nameKey).map Prod.snd := by
    rw [Fields.find?]
    cases hlookup : fields.lookup nameKey.outer with
    | none => rw [show nameKey.inner = nameKey.outer from rfl, hlookup]; rfl
    | some value => rfl
  have hfound : Schema.FoundRespelt ⟨nameKey, Eq⟩ (fields.find? nameKey) (others.find? nameKey) :=
    h.find? (by simp [schema])
  rw [hname, hname]
  generalize fields.find? nameKey = found at hfound
  generalize others.find? nameKey = found' at hfound
  cases hfound with
  | missing => rfl
  | same => rfl
  | spelt _ _ hvalue => exact congrArg some hvalue.symm

/-- The look-up before the check takes the inner spelling first, the check itself the outer one. Of a field that
is given once they find the same. -/
theorem basePart?_partsOf (h : fields.countP baseKey.names ≤ 1) :
    basePart? (partsOf fields) = ((fields.find? baseKey).map fun found => .value found.2).filter (!·.isNull) := by
  have hswap : fields.find? ⟨baseKey.inner, baseKey.outer⟩ = fields.find? baseKey := Fields.find?_swap h
  rw [← hswap, basePart?, lookup_partsOf, lookup_partsOf, Fields.find?]
  cases fields.lookup baseKey.inner with
  | some value => rfl
  | none => cases fields.lookup baseKey.outer <;> rfl

theorem isNone_basePart? (h : schema.Respelt fields others) :
    (basePart? (partsOf others)).isNone = (basePart? (partsOf fields)).isNone := by
  have hpart : ⟨baseKey, Table.schema.DocumentRespelt⟩ ∈ schema.parts := by simp [schema]
  have hfound : Schema.FoundRespelt ⟨baseKey, Table.schema.DocumentRespelt⟩ (fields.find? baseKey)
      (others.find? baseKey) := h.find? hpart
  rw [basePart?_partsOf (h.once _ hpart), basePart?_partsOf (h.once_others hpart)]
  generalize fields.find? baseKey = found at hfound
  generalize others.find? baseKey = found' at hfound
  cases hfound with
  | missing => rfl
  | same => rfl
  | spelt _ _ hvalue => cases hvalue <;> rfl

theorem ofValue_alike (h : schema.DocumentRespelt v w) (newId : Nat → String) :
    (ofValue newId v).mapError Fault.inOuterSpelling = (ofValue newId w).mapError Fault.inOuterSpelling := by
  cases h with
  | same => rfl
  | @fields fields others h =>
    change (ofParts newId (partsOf fields)).mapError _ = (ofParts newId (partsOf others)).mapError _
    simp only [ofParts, isNone_basePart? h, lookup_partsOf, lookup_reserved h, lookup_name h]
    split
    · rfl
    split
    · rfl
    split
    · rfl
    exact (check_alike h newId).outcome

end Insight

/-! ### Both -/

/-- Runs that end alike whatever they are given, and of which one is a draft that is completed from what it is
given, come to the same draft. -/
theorem exists_common_draft {σ δ α : Type} {run run' : σ → Except Fault α} {completed : σ → δ → α}
    (hdraft : ∃ draft : Except Fault δ, ∀ s, run s = draft.map (completed s))
    (halike : ∀ s, (run s).mapError Fault.inOuterSpelling = (run' s).mapError Fault.inOuterSpelling) :
    ∃ draft : Except Fault δ, ∀ s,
      (run s).mapError Fault.inOuterSpelling = draft.map (completed s) ∧
        (run' s).mapError Fault.inOuterSpelling = draft.map (completed s) := by
  obtain ⟨draft, hdraft⟩ := hdraft
  refine ⟨draft.mapError Fault.inOuterSpelling, fun s => ?_⟩
  have hrun : (run s).mapError Fault.inOuterSpelling =
      (draft.mapError Fault.inOuterSpelling).map (completed s) := by
    rw [hdraft]
    cases draft <;> rfl
  exact ⟨hrun, halike s ▸ hrun⟩

/-- Both spellings mean the same. From a document and from the same document with any of its fields respelt, at
any depth, the same insight is made up to new ids and the same dataset up to the time of creation, or none is
made for the same reason; of a refused document the issues are the same, at the same places up to spelling. -/
theorem ofValue_of_respelt (v w : Value) :
    (Insight.schema.DocumentRespelt v w → ∃ draft : Except Fault Insight.Draft, ∀ newId,
      (Insight.ofValue newId v).mapError Fault.inOuterSpelling = draft.map (Insight.Draft.completed newId) ∧
        (Insight.ofValue newId w).mapError Fault.inOuterSpelling = draft.map (Insight.Draft.completed newId)) ∧
    (Dataset.schema.DocumentRespelt v w → ∃ draft : Except Fault Dataset.Undated, ∀ now,
      (Dataset.ofValue now v).mapError Fault.inOuterSpelling = draft.map (Dataset.Undated.completed now) ∧
        (Dataset.ofValue now w).mapError Fault.inOuterSpelling = draft.map (Dataset.Undated.completed now)) :=
  ⟨fun h => exists_common_draft (Insight.exists_draft v) (Insight.ofValue_alike h),
    fun h => exists_common_draft (Dataset.exists_undated v) fun now => (Dataset.check_alike now h).outcome⟩

/-! A document whose fields are spelt in given ways. The key inside the value of its filter is no field. -/

def amountField (columnName : String) : Value :=
  .object [("id", .text "f"), ("name", .text "Amount"), (columnName, .text "amount")]

def amountTable (datasetId columnName : String) : Value :=
  .object [("id", .text "t"), ("name", .text "Sales"), (datasetId, .text "d"),
    ("fields", .list [amountField columnName])]

def amountFilter (columnName : String) : Value :=
  .object [(columnName, .text "amount"), ("operator", .text "="),
    ("value", .object [("columnName", .integer 1)])]

def salesDocument (baseTable datasetId fieldColumn filterColumn : String) : Value :=
  .object [("name", .text "Sales"), (baseTable, amountTable datasetId fieldColumn),
    ("filters", .list [amountFilter filterColumn])]

theorem salesDocument_respelt : Insight.schema.DocumentRespelt
    (salesDocument "baseTable" "dataset_id" "columnName" "column_name")
    (salesDocument "base_table" "datasetId" "column_name" "columnName") := by
  have hfield : TableField.schema.DocumentRespelt (amountField "columnName") (amountField "column_name") :=
    .fields ⟨by decide, .cons (.same _) (.cons (.same _) (.cons
      (.spelt (.tail _ (.tail _ (.head _))) rfl rfl rfl) .nil))⟩
  have hfields : ListRespelt TableField.schema.DocumentRespelt (.list [amountField "columnName"])
      (.list [amountField "column_name"]) := .items (.cons hfield .nil)
  have htable : Table.schema.DocumentRespelt (amountTable "dataset_id" "columnName")
      (amountTable "datasetId" "column_name") :=
    .fields ⟨by decide, .cons (.same _) (.cons (.same _) (.cons
      (.spelt (.tail _ (.tail _ (.head _))) rfl rfl rfl) (.cons
      (.spelt (.tail _ (.tail _ (.tail _ (.head _)))) rfl rfl hfields) .nil)))⟩
  have hfilter : Predicate.schema.DocumentRespelt (amountFilter "column_name") (amountFilter "columnName") :=
    .fields ⟨by decide, .cons (.spelt (.head _) rfl rfl rfl) (.cons (.same _) (.cons (.same _) .nil))⟩
  have hfilters : ListRespelt Predicate.schema.DocumentRespelt (.list [amountFilter "column_name"])
      (.list [amountFilter "columnName"]) := .items (.cons hfilter .nil)
  exact .fields ⟨by decide, .cons (.same _) (.cons
    (.spelt (.tail _ (.tail _ (.head _))) rfl rfl htable) (.cons
    (.spelt (.tail _ (.tail _ (.tail _ (.tail _ (.tail _ (.head _)))))) rfl rfl hfilters) .nil))⟩

/-- A handle whose storage has a number in the place of its key. -/
def keylessHandle (kind locator : String) : Value :=
  .object [("id", .text "d"), ("storage", .object [(kind, .text "local"), (locator, .integer 5)])]

theorem keylessHandle_respelt :
    Dataset.schema.DocumentRespelt (keylessHandle "type" "key") (keylessHandle "kind" "locator") := by
  have hstorage : StorageLocation.schema.DocumentRespelt
      (.object [("type", .text "local"), ("key", .integer 5)])
      (.object [("kind", .text "local"), ("locator", .integer 5)]) :=
    .fields ⟨by decide, .cons (.spelt (.head _) rfl rfl rfl) (.cons (.spelt (.tail _ (.head _)) rfl rfl rfl) .nil)⟩
  exact .fields ⟨by decide, .cons (.same _) (.cons (.spelt (.tail _ (.head _)) rfl rfl hstorage) .nil)⟩

theorem ofValue_of_respelt_sales :
    (∃ draft : Except Fault Insight.Draft, ∀ newId,
      (Insight.ofValue newId (salesDocument "baseTable" "dataset_id" "columnName" "column_name")).mapError
          Fault.inOuterSpelling = draft.map (Insight.Draft.completed newId) ∧
        (Insight.ofValue newId (salesDocument "base_table" "datasetId" "column_name" "columnName")).mapError
          Fault.inOuterSpelling = draft.map (Insight.Draft.completed newId)) ∧
    (∃ draft : Except Fault Dataset.Undated, ∀ now,
      (Dataset.ofValue now (keylessHandle "type" "key")).mapError Fault.inOuterSpelling =
          draft.map (Dataset.Undated.completed now) ∧
        (Dataset.ofValue now (keylessHandle "kind" "locator")).mapError Fault.inOuterSpelling =
          draft.map (Dataset.Undated.completed now)) ∧
    Dataset.ofValue 0 (keylessHandle "type" "key") =
      .error (.rejected [⟨[.key "storage", .key "key"], .notText⟩]) ∧
    Dataset.ofValue 0 (keylessHandle "kind" "locator") =
      .error (.rejected [⟨[.key "storage", .key "locator"], .notText⟩]) :=
  ⟨(ofValue_of_respelt _ _).1 salesDocument_respelt, (ofValue_of_respelt _ _).2 keylessHandle_respelt,
    by decide +kernel, by decide +kernel⟩

end Insights
