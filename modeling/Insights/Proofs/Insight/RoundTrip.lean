import Insights.Dataset.Basic
import Insights.Proofs.Insight.Document
import Insights.Proofs.Insight.Sharing
import Insights.Query.Aggregation

/-!
Documents checked again. What is made from the document of an insight, of one of its parts, of an
aggregation or of a dataset is what the document was written for, in every field: the new ids and the time
at hand are not needed, since the document has ids and a time of its own. Two things a document does not
tell. Objects of other classes are taken apart in it, where they have a document of their own; and it does
not say which of its tables were one object, which a statement over joined tables may show.
-/

namespace Insights

/-! ### Documents that their text keeps

A document of texts, integers and flags comes back from its text as it was. What is said about such a
document after it has been written and read therefore holds of the document itself. -/

namespace Json

theorem rereadItems_eq (documents : List Json) : rereadItems documents = documents.map reread := by
  induction documents with
  | nil => rfl
  | cons document rest ih => rw [rereadItems, ih, List.map_cons]

theorem reread_list {α : Type} {toJson : α → Json} (h : ∀ item, (toJson item).reread = toJson item)
    (items : List α) : (list (items.map toJson)).reread = .list (items.map toJson) := by
  rw [reread, rereadItems_eq, List.map_map]
  exact congrArg list (List.map_congr_left fun item _ => h item)

theorem reread_texts (items : List String) :
    (list (items.map text)).reread = .list (items.map text) :=
  reread_list (fun _ => rfl) items

theorem reread_fields {fields : Fields Json} (hnodup : (fields.map Prod.fst).Nodup)
    (h : rereadFields fields = fields) : (object fields).reread = .object fields := by
  rw [reread_object hnodup, h]

end Json

theorem TableField.reread_toJson (field : TableField) : field.toJson.reread = field.toJson := by
  obtain ⟨id, name, column, type, isIdentifier, isReference⟩ := field
  cases isIdentifier <;> cases isReference <;> rfl

theorem Table.reread_toJson (table : Table) : table.toJson.reread = table.toJson := by
  obtain ⟨id, name, dataset, fields⟩ := table
  have hfields := Json.reread_list TableField.reread_toJson fields
  cases dataset with
  | none =>
    refine Json.reread_fields ?_ ?_
    · change [idKey.outer, nameKey.outer, fieldsKey.outer].Nodup
      decide
    · exact congrArg (fun last => [_, _, (_, last)]) hfields
  | some dataset =>
    refine Json.reread_fields ?_ ?_
    · change [idKey.outer, nameKey.outer, datasetKey.outer, fieldsKey.outer].Nodup
      decide
    · exact congrArg (fun last => [_, _, _, (_, last)]) hfields

theorem Metric.reread_toJson (metric : Metric) : metric.toJson.reread = metric.toJson := by
  obtain ⟨id, name, sourceTable, function, column⟩ := metric
  cases column <;> rfl

theorem JoinKeys.reread_toJson (keys : JoinKeys) : keys.toJson.reread = keys.toJson :=
  rfl

theorem Join.reread_toJson (join : Join) : join.toJson.reread = join.toJson := by
  refine Json.reread_fields ?_ ?_
  · change [tableKey.outer, selectedFieldsKey.outer, keysKey.outer, kindKey.outer].Nodup
    decide
  · have htable := join.table.reread_toJson
    have hselected := Json.reread_texts join.selectedFields
    have hkeys := join.keys.reread_toJson
    simp only [Json.rereadFields, htable, hselected, hkeys]
    rfl

theorem SortOrder.reread_toJson (order : SortOrder) : order.toJson.reread = order.toJson :=
  rfl

/-! ### Parts of an insight -/

theorem TableField.check_document (field : TableField) : check field.toJson.toValue = .accepted field := by
  rw [← field.reread_toJson]
  exact field.check_toJson

theorem Table.check_document (table : Table) : check table.toJson.toValue = .accepted table := by
  rw [← table.reread_toJson]
  exact table.check_toJson

theorem Metric.check_document (newId : String) (metric : Metric) :
    check newId metric.toJson.toValue = .accepted metric := by
  rw [← metric.reread_toJson]
  exact metric.check_toJson newId

theorem Join.check_document (join : Join) : check join.toJson.toValue = .accepted join := by
  rw [← join.reread_toJson]
  exact join.check_toJson

theorem SortOrder.check_document (order : SortOrder) : check order.toJson.toValue = .accepted order := by
  rw [← order.reread_toJson]
  exact order.check_toJson

/-! ### Filters -/

namespace Value

theorem documentedItems_eq (items : List Value) : documentedItems items = items.map documented := by
  induction items with
  | nil => rfl
  | cons item rest ih => rw [documentedItems, ih, List.map_cons]

mutual
/-- What was taken apart is not taken apart any further. -/
theorem documented_documented : ∀ value : Value, value.documented.documented = value.documented
  | .null | .boolean _ | .integer _ | .float _ | .decimal _ | .timestamp _ | .date _ | .text _ | .bytes _
  | .custom _ _ _ _ none => rfl
  | .custom _ _ _ _ (some replacement) => documented_documented replacement
  | .list items => congrArg list (documentedItems_documented items)
  | .object fields => congrArg object (documentedFields_documented fields)

theorem documentedItems_documented : ∀ items : List Value,
    documentedItems (documentedItems items) = documentedItems items
  | [] => rfl
  | item :: rest => by
    rw [documentedItems, documentedItems, documented_documented item, documentedItems_documented rest]

theorem documentedFields_documented : ∀ fields : List (String × Value),
    documentedFields (documentedFields fields) = documentedFields fields
  | [] => rfl
  | (name, value) :: rest => by
    rw [documentedFields, documentedFields, documented_documented value, documentedFields_documented rest]
end

/-- Whether there is no object of another class in a value. -/
def isBuiltIn (value : Value) : Bool :=
  value.everywhere fun
    | .custom _ _ _ _ _ => false
    | _ => true

theorem isBuiltIn_list (items : List Value) : (list items).isBuiltIn = items.all isBuiltIn := by
  rw [isBuiltIn, everywhere, everywhereItems_eq]
  rfl

theorem isBuiltIn_object (fields : List (String × Value)) :
    (object fields).isBuiltIn = fields.all (fun field => field.2.isBuiltIn) := by
  rw [isBuiltIn, everywhere, everywhereFields_eq]
  rfl

mutual
theorem documented_of_isBuiltIn : ∀ {value : Value}, value.isBuiltIn = true → value.documented = value
  | .null, _ | .boolean _, _ | .integer _, _ | .float _, _ | .decimal _, _ | .timestamp _, _ | .date _, _
  | .text _, _ | .bytes _, _ => rfl
  | .list items, h => by
    rw [isBuiltIn_list] at h
    exact congrArg list (documentedItems_of_isBuiltIn h)
  | .object fields, h => by
    rw [isBuiltIn_object] at h
    exact congrArg object (documentedFields_of_isBuiltIn h)

theorem documentedItems_of_isBuiltIn : ∀ {items : List Value}, items.all isBuiltIn = true →
    documentedItems items = items
  | [], _ => rfl
  | item :: rest, h => by
    rw [List.all_cons, Bool.and_eq_true] at h
    rw [documentedItems, documented_of_isBuiltIn h.1, documentedItems_of_isBuiltIn h.2]

theorem documentedFields_of_isBuiltIn : ∀ {fields : List (String × Value)},
    fields.all (fun field => field.2.isBuiltIn) = true → documentedFields fields = fields
  | [], _ => rfl
  | (name, value) :: rest, h => by
    rw [List.all_cons, Bool.and_eq_true] at h
    rw [documentedFields, documented_of_isBuiltIn h.1, documentedFields_of_isBuiltIn h.2]
end

end Value

namespace Predicate

/-- The filter with its values as its document has them. -/
def documented (predicate : Predicate) : Predicate :=
  { predicate with
    value := predicate.value.documented
    values := predicate.values.map (·.map Value.documented) }

/-- The document of the filter holds the values themselves. -/
def KeepsValues (predicate : Predicate) : Prop :=
  predicate.value.documented = predicate.value ∧
    ∀ values ∈ predicate.values, ∀ value ∈ values, value.documented = value

/-- A filter without objects of other classes keeps its values. -/
theorem keepsValues_of_isBuiltIn {predicate : Predicate} (hvalue : predicate.value.isBuiltIn = true)
    (hvalues : ∀ values ∈ predicate.values, (Value.list values).isBuiltIn = true) : predicate.KeepsValues := by
  refine ⟨Value.documented_of_isBuiltIn hvalue, fun values hmem value hvalue => ?_⟩
  have hall := hvalues values hmem
  rw [Value.isBuiltIn_list, List.all_eq_true] at hall
  exact Value.documented_of_isBuiltIn (hall value hvalue)

/-- No value but null has null in its place. -/
def ShowsValue (predicate : Predicate) : Prop :=
  predicate.value.documented = .null → predicate.value = .null

theorem documented_eq_iff (predicate : Predicate) : predicate.documented = predicate ↔ predicate.KeepsValues := by
  obtain ⟨column, operator, value, values⟩ := predicate
  have hmap : ∀ items : List Value, items.map Value.documented = items ↔
      ∀ value ∈ items, value.documented = value := by
    intro items
    rw [← List.map_inj_left, List.map_id']
  simp only [documented, KeepsValues, mk.injEq, true_and]
  cases values with
  | none => simp
  | some values => simp [hmap]

/-- Any values are taken as the values of a filter. -/
theorem check_any (values : List Value) :
    Check.optional (Check.list .accepted) (.list values) = .accepted (some values) :=
  Checked.map_eq (Checked.itemsFrom_eq (List.forall₂_same.mpr fun _ _ => rfl) 0)

theorem check_object (column : String) (operator : Operator) {value values : Fields Value}
    {operand : Value} {operands : Option (List Value)}
    (hvalue : value = [(valueKey.outer, operand)] ∨ value = [] ∧ operand = .null)
    (hvalues : values = [] ∧ operands = none ∨
      ∃ items, values = [(valuesKey.outer, .list items)] ∧ operands = some items) :
    check (.object ([(columnKey.outer, .text column), (operatorKey.outer, .text operator.keyword)] ++
      value ++ values)) = .accepted ⟨column, operator, operand, operands⟩ := by
  rcases hvalue with rfl | ⟨rfl, rfl⟩ <;> rcases hvalues with ⟨rfl, rfl⟩ | ⟨items, rfl, rfl⟩
  all_goals refine Checked.seq_eq (Checked.seq_eq (Checked.seq_eq (Checked.map_eq
    (Fields.required_eq rfl rfl)) (Fields.required_eq rfl operator.check_keyword)) ?_) ?_
  · exact Fields.withDefault_eq rfl rfl
  · exact Fields.withDefault_missing rfl
  · exact Fields.withDefault_eq rfl rfl
  · exact Fields.withDefault_eq rfl (check_any items)
  · exact Fields.withDefault_missing rfl
  · exact Fields.withDefault_missing rfl
  · exact Fields.withDefault_missing rfl
  · exact Fields.withDefault_eq rfl (check_any items)

theorem check_document (predicate : Predicate) : check predicate.toValue = .accepted predicate.documented := by
  obtain ⟨column, operator, value, values⟩ := predicate
  refine check_object column operator ?_ ?_
  · -- null is left out of the document, and stands for a missing value
    dsimp only
    split
    next => exact .inr ⟨rfl, rfl⟩
    next => exact .inl rfl
  · cases values with
    | none => exact .inl ⟨rfl, rfl⟩
    | some values => exact .inr ⟨_, rfl, congrArg some (Value.documentedItems_eq values).symm⟩

/-- The field of a document for a value. -/
def valueField : Value → Fields Value
  | .null => []
  | value => [(valueKey.outer, value.documented)]

theorem valueField_of_ne {value : Value} (h : value ≠ .null) :
    valueField value = [(valueKey.outer, value.documented)] := by
  unfold valueField
  split
  · exact absurd rfl h
  · rfl

theorem valueField_documented_iff (value : Value) :
    valueField value.documented = valueField value ↔ (value.documented = .null → value = .null) := by
  by_cases hnull : value = .null
  · subst hnull
    exact iff_of_true rfl fun _ => rfl
  · by_cases hshown : value.documented = .null
    · rw [valueField_of_ne hnull, hshown]
      exact iff_of_false (List.cons_ne_nil _ _).symm fun h => hnull (h rfl)
    · rw [valueField_of_ne hnull, valueField_of_ne hshown, Value.documented_documented]
      exact iff_of_true rfl fun h => absurd h hshown

theorem toValue_documented_iff (predicate : Predicate) :
    predicate.documented.toValue = predicate.toValue ↔ predicate.ShowsValue := by
  have hvalues : (predicate.values.map (·.map Value.documented)).map
        (fun values => (valuesKey.outer, (Value.list values).documented)) =
      predicate.values.map fun values => (valuesKey.outer, (Value.list values).documented) := by
    cases predicate.values with
    | none => rfl
    | some values =>
      rw [Option.map_some, Option.map_some, Option.map_some, ← Value.documentedItems_eq]
      exact congrArg (fun items => some (_, Value.list items)) (Value.documentedItems_documented values)
  have hfields : ∀ predicate : Predicate, predicate.toValue =
      .object ([(columnKey.outer, .text predicate.column),
        (operatorKey.outer, .text predicate.operator.keyword)] ++ valueField predicate.value ++
        (predicate.values.map fun values => (valuesKey.outer, (Value.list values).documented)).toList) :=
    fun _ => rfl
  rw [hfields, hfields, Value.object.injEq, ShowsValue, ← valueField_documented_iff]
  simp only [documented, hvalues, List.append_left_inj, List.append_right_inj]

end Predicate

/-! ### Aggregations and datasets -/

theorem Aggregation.check_document (aggregation : Aggregation) :
    check aggregation.toJson.toValue = .accepted aggregation := by
  obtain ⟨column, function, label⟩ := aggregation
  refine Checked.seq_eq (Checked.seq_eq (Checked.map_eq ?_) ?_) ?_
  · cases label <;> exact Fields.required_eq rfl rfl
  · cases label <;> exact Fields.required_eq rfl function.check_word
  · cases label with
    | none => exact Fields.withDefault_missing rfl
    | some label => exact Fields.withDefault_eq rfl rfl

theorem StorageKind.check_word (kind : StorageKind) :
    Choice.check (.text kind.word) = .accepted kind := by
  cases kind <;> decide

theorem StorageLocation.check_document (location : StorageLocation) :
    check location.toJson.toValue = .accepted location := by
  refine Checked.seq_eq (Checked.map_eq ?_) ?_
  · exact Fields.required_eq rfl location.kind.check_word
  · exact Fields.required_eq rfl rfl

theorem Check.list_texts (items : List String) :
    Check.list Check.text (Json.list (items.map Json.text)).toValue = .accepted items := by
  rw [← Json.reread_texts]
  exact Check.list_text items

theorem PrimaryKey.check_document (key : PrimaryKey) : check key.toJson.toValue = .accepted key := by
  cases key with
  | column name => rfl
  | columns names =>
    rw [check, toJson, Check.list_texts]
    rfl

/-- The document of a key is not null. -/
theorem PrimaryKey.check_some (key : PrimaryKey) :
    Check.optional check key.toJson.toValue = .accepted (some key) := by
  cases key with
  | column name => exact Checked.map_eq (check_document (.column name))
  | columns names => exact Checked.map_eq (check_document (.columns names))

namespace Dataset

theorem check_document (now : Int) (dataset : Dataset) :
    check now dataset.toJson.toValue = .accepted dataset := by
  obtain ⟨id, storage, fieldIds, primaryKey, createdAt⟩ := dataset
  have hfieldIds := Check.list_texts fieldIds
  cases primaryKey
  all_goals
    refine Checked.seq_eq (Checked.seq_eq (Checked.seq_eq (Checked.seq_eq (Checked.map_eq
      (Fields.required_eq rfl rfl))
      (Fields.required_eq rfl storage.check_document))
      (Fields.withDefault_eq rfl hfieldIds))
      ?_)
      (Fields.withDefault_eq rfl rfl)
  · exact Fields.withDefault_missing rfl
  · exact Fields.withDefault_eq rfl (PrimaryKey.check_some _)

end Dataset

/-! ### Insights -/

namespace Insight

theorem Part.listOf_values {α : Type} {check : Part → Checked α} {toValue : α → Value} {again : α → α}
    (h : ∀ item, check (.value (toValue item)) = .accepted (again item)) (items : List α) :
    Part.listOf check (.value (.list (items.map toValue))) = .accepted (items.map again) := by
  refine Checked.itemsFrom_eq ?_ 0
  rw [List.map_map, List.forall₂_map_left_iff, List.forall₂_map_right_iff, List.forall₂_same]
  exact fun item _ => h item

/-- The insight with the values of its filters as its document has them. -/
def documented (insight : Insight) : Insight :=
  { insight with filters := insight.filters.map Predicate.documented }

/-- An insight with a proper name comes back from its document. -/
theorem ofValue_toValue {insight : Insight}
    (hname : Part.isProperName (.value (.text insight.name)) = true) (newId : Nat → String) :
    ofValue newId insight.toValue = .ok insight.documented := by
  have hselected := Part.listOf_text insight.selectedFields
  have hmetrics := checkMetrics_toJson newId insight.metrics
  have hgroups := Part.listOf_text insight.groupBy
  have horders : Part.listOf Part.orderOf _ = _ :=
    Part.listOf_toJson SortOrder.check_toJson insight.orderBy
  have hjoins : Part.listOf Part.joinOf _ = _ := Part.listOf_toJson Join.check_toJson insight.joins
  rw [Json.reread_texts] at hselected hgroups
  rw [Json.reread_list Metric.reread_toJson] at hmetrics
  rw [Json.reread_list SortOrder.reread_toJson] at horders
  rw [Json.reread_list Join.reread_toJson] at hjoins
  have hmade : ofValue newId _ = .ok insight.documented :=
    ofValue_fields hname insight.base.check_document hselected hmetrics
      (Part.listOf_values Predicate.check_document insight.filters) hgroups horders hjoins
  obtain ⟨id, name, base, selectedFields, metrics, filters, groupBy, orderBy, limit, joins⟩ := insight
  cases limit <;> exact hmade

theorem documented_eq_iff (insight : Insight) :
    insight.documented = insight ↔ ∀ predicate ∈ insight.filters, predicate.KeepsValues := by
  simp only [← Predicate.documented_eq_iff]
  rw [← List.map_inj_left, List.map_id']
  constructor
  · intro h
    exact congrArg filters h
  · intro h
    rw [documented, h]

theorem toValue_documented {insight : Insight} (h : ∀ predicate ∈ insight.filters, predicate.ShowsValue) :
    insight.documented.toValue = insight.toValue := by
  have hfilters : (insight.filters.map Predicate.documented).map Predicate.toValue =
      insight.filters.map Predicate.toValue := by
    rw [List.map_map, List.map_inj_left]
    exact fun predicate hmem => predicate.toValue_documented_iff.mpr (h predicate hmem)
  simp only [toValue, documented, hfilters]
  rfl

end Insight

/-- Every instance is what its own document is checked into, and so it has the same document again. -/
def Returns {α : Type} (document : α → Value) (check : Value → Checked α) : Prop :=
  ∀ item, ∃ again, check (document item) = .accepted again ∧ again = item ∧
    document again = document item

theorem returns_of_check {α : Type} {document : α → Value} {check : Value → Checked α}
    (h : ∀ item, check (document item) = .accepted item) : Returns document check :=
  fun item => ⟨item, h item, rfl, rfl⟩

/-- The values that the operator of a filter looks at stand in its document themselves. -/
def Predicate.KeepsOperands (predicate : Predicate) : Prop :=
  ∀ value ∈ predicate.operands, value.documented = value

theorem Predicate.KeepsOperands.alike {predicate : Predicate} (h : predicate.KeepsOperands) :
    predicate.Alike predicate.documented := by
  refine ⟨rfl, rfl, ?_⟩
  obtain ⟨column, operator, value, values⟩ := predicate
  unfold KeepsOperands at h
  cases operator with
  | isNull negated => rfl
  | compare comparison =>
    have hvalue : value.documented = value := h value (List.mem_singleton.mpr rfl)
    simp only [operands, documented, hvalue]
  | member negated =>
    cases values with
    | none => rfl
    | some values =>
      have hvalues : values.map Value.documented = values.map id := List.map_inj_left.mpr h
      simp only [operands, documented, Option.map_some, Option.getD_some, hvalues, List.map_id]

namespace InsightObject

/-- What is made from documents. Every part of an insight, every order and aggregation, and every dataset is
what its own document is checked into, whatever new ids and time of creation are at hand. Filters, and
insights with them, have their values as their documents have them. The insight that is made from the
document of another fails like it, or has a statement like it, whose text is the same exactly when the base
table was not joined to itself with a key that both of its places show. -/
structure ReturnsFromDocument (object : InsightObject) : Prop where
  fields : Returns (·.toJson.toValue) TableField.check
  tables : Returns (·.toJson.toValue) Table.check
  metrics : ∀ newId, Returns (·.toJson.toValue) (Metric.check newId)
  joins : Returns (·.toJson.toValue) Join.check
  orders : Returns (·.toJson.toValue) SortOrder.check
  aggregations : Returns (·.toJson.toValue) Aggregation.check
  datasets : ∀ (now : Int) (dataset : Dataset), Dataset.ofValue now dataset.toJson.toValue = .ok dataset
  filters : ∀ predicate : Predicate, Predicate.check predicate.toValue = .accepted predicate.documented
  sameFilter : ∀ predicate : Predicate, predicate.documented = predicate ↔ predicate.KeepsValues
  filterDocument : ∀ predicate : Predicate,
    predicate.documented.toValue = predicate.toValue ↔ predicate.ShowsValue
  builtIn : ∀ predicate : Predicate, predicate.value.isBuiltIn = true →
    (∀ values ∈ predicate.values, (Value.list values).isBuiltIn = true) → predicate.KeepsValues
  insight : ∀ newId, Insight.ofValue newId object.insight.toValue = .ok object.insight.documented
  same : object.insight.documented = object.insight ↔
    ∀ predicate ∈ object.insight.filters, predicate.KeepsValues
  document : (∀ predicate ∈ object.insight.filters, predicate.ShowsValue) →
    object.insight.documented.toValue = object.insight.toValue
  fault : (∀ predicate ∈ object.insight.filters, predicate.KeepsOperands) → ∀ fault,
    object.sql = .error fault ↔ object.insight.documented.sql = .error fault
  sql : (∀ predicate ∈ object.insight.filters, predicate.KeepsOperands) → ∀ text,
    object.sql = .ok text → ∃ text', object.insight.documented.sql = .ok text' ∧
      (text' = text ↔ object.KeepsKeysOnce)

variable {object : InsightObject}

/-- Values that are the same where the operators look make the same statement or fault. -/
theorem sql_documented (h : ∀ predicate ∈ object.insight.filters, predicate.KeepsOperands) :
    object.insight.documented.sql = object.insight.sql := by
  have halike : List.Forall₂ Predicate.Alike object.insight.filters
      (object.insight.filters.map Predicate.documented) := by
    rw [List.forall₂_map_right_iff, List.forall₂_same]
    exact fun predicate hmem => (h predicate hmem).alike
  exact object.insight.apart.sql_of_alike_filters halike

theorem returns_from_documents {newId : Nat → String} {parts : Fields Insight.Part}
    (hmade : Insight.ofParts newId parts = .ok object.insight) : object.ReturnsFromDocument where
  fields := returns_of_check TableField.check_document
  tables := returns_of_check Table.check_document
  metrics newId := returns_of_check (Metric.check_document newId)
  joins := returns_of_check Join.check_document
  orders := returns_of_check SortOrder.check_document
  aggregations := returns_of_check Aggregation.check_document
  datasets now dataset := by
    rw [Dataset.ofValue, dataset.check_document]
    rfl
  filters := Predicate.check_document
  sameFilter := Predicate.documented_eq_iff
  filterDocument := Predicate.toValue_documented_iff
  builtIn _ := Predicate.keepsValues_of_isBuiltIn
  insight := Insight.ofValue_toValue (Insight.isProperName_of_ofParts hmade)
  same := object.insight.documented_eq_iff
  document := Insight.toValue_documented
  fault h fault := by rw [sql_documented h, sql_apart_error]
  sql h text htext := by
    rw [sql_documented h]
    exact sql_apart htext

/-- Parts under either spelling and with words in other cases, without ids of their own, and with a filter
value that is not a number. -/
def respeltParts : Fields Insight.Part :=
  [("name", .value (.text "sales")),
    ("base_table", .value (.object [("id", .text "s"), ("name", .text "sales"), ("dataset_id", .text "a")])),
    ("metrics", .value (.list [.object [("name", .text "number"), ("source_table", .text "s"),
      ("aggregation", .text " COUNT ")]])),
    ("filters", .value (.list [.object [("column_name", .text "value"), ("operator", .text "not  in"),
      ("values", .list [.float .nan, .null])]]))]

theorem returns_from_documents_respeltParts :
    ∃ insight, Insight.ofParts (fun position => if position = 0 then "new" else "newer") respeltParts =
        .ok insight ∧
      insight.metrics = [⟨"newer", "number", "s", .count, none⟩] ∧
      insight.filters = [⟨"value", .member true, .null, some [.float .nan, .null]⟩] ∧
      Insight.ofValue (fun _ => "") insight.toValue = .ok insight := by
  have hmade : Insight.ofParts (fun position => if position = 0 then "new" else "newer") respeltParts =
      .ok ⟨"new", "sales", ⟨"s", "sales", some "a", []⟩, [], [⟨"newer", "number", "s", .count, none⟩],
        [⟨"value", .member true, .null, some [.float .nan, .null]⟩], [], [], none, []⟩ := by
    decide +kernel
  have hreturns := @returns_from_documents (Insight.apart _) _ _ hmade
  have hagain := hreturns.insight fun _ => ""
  rw [hreturns.same.mpr] at hagain
  · exact ⟨_, hmade, rfl, rfl, hagain⟩
  · intro predicate hmem
    rw [List.mem_singleton.mp hmem]
    exact hreturns.builtIn _ rfl (by simp +decide)

/-- Sales with their key. -/
def salesTable : Table :=
  ⟨"s", "sales", some "a", [⟨"s1", "Id", "id", "string", none, none⟩]⟩

/-- Sales joined to themselves. -/
def salesToSales : Insight where
  id := "i"
  name := "sales and sales"
  base := salesTable
  selectedFields := []
  metrics := []
  filters := []
  groupBy := []
  orderBy := []
  limit := none
  joins := [⟨salesTable, [], ⟨"s1", "s1"⟩, .inner⟩]

/-- The base table is the very table that is joined to it. -/
def salesToThemselves : InsightObject where
  insight := salesToSales
  joinsBase _ := true
  table_eq position join h _ := by
    rw [List.mem_singleton.mp (List.mem_of_getElem? h)]
    rfl

/-- The key of the joined table keeps its bare name as long as that table is the base table, and is given a
new one in what is made from the document. -/
theorem sharing_is_not_documented :
    Insight.ofParts (fun _ => "") salesToThemselves.insight.parts = .ok salesToThemselves.insight ∧
      Insight.ofValue (fun _ => "") salesToThemselves.insight.toValue = .ok salesToSales ∧
      salesToThemselves.sql = .ok ("SELECT * FROM (SELECT base.\"id\", j.\"id\" FROM \"df_a\" AS base" ++
        " INNER JOIN \"df_a\" AS j ON base.\"id\" = j.\"id\") AS joined") ∧
      salesToSales.sql = .ok ("SELECT * FROM (SELECT base.\"id\", j.\"id\" AS \"sales.id\" FROM \"df_a\" AS base" ++
        " INNER JOIN \"df_a\" AS j ON base.\"id\" = j.\"id\") AS joined") :=
  ⟨by decide +kernel, by decide +kernel, by decide +kernel, by decide +kernel⟩

end InsightObject

end Insights
