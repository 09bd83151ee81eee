import Insights.Insight.Basic
import Insights.Proofs.Decode.Checked
import Insights.Proofs.Value.Reread

/-!
Documents of insights, read again. Every part of an insight is read from its document as what it was,
except that a filter comes back with the values that its document keeps.
-/

namespace Insights

theorem Json.toValues_rereadItems (documents : List Json) :
    toValues (rereadItems documents) = documents.map (·.reread.toValue) := by
  induction documents with
  | nil => rfl
  | cons document rest ih => rw [rereadItems, toValues, ih, List.map_cons]

theorem Json.toValue_reread_list (documents : List Json) :
    (Json.list documents).reread.toValue = .list (documents.map (·.reread.toValue)) := by
  rw [reread, toValue, toValues_rereadItems]

theorem Check.list_eq {α : Type} {check : Value → Checked α} {documents : List Json} {results : List α}
    (h : List.Forall₂ (fun document result => check document.reread.toValue = .accepted result)
      documents results) :
    Check.list check (Json.list documents).reread.toValue = .accepted results := by
  rw [Json.toValue_reread_list]
  exact Checked.itemsFrom_eq (List.forall₂_map_left_iff.mpr h) 0

theorem Check.list_toJson {α : Type} {check : Value → Checked α} {toJson : α → Json}
    (h : ∀ item, check (toJson item).reread.toValue = .accepted item) (items : List α) :
    Check.list check (Json.list (items.map toJson)).reread.toValue = .accepted items :=
  list_eq (List.forall₂_map_left_iff.mpr (List.forall₂_same.mpr fun item _ => h item))

theorem Check.list_text (items : List String) :
    Check.list Check.text (Json.list (items.map Json.text)).reread.toValue = .accepted items :=
  Check.list_toJson (fun _ => rfl) items

/-! ### Words -/

theorem Operator.check_keyword (operator : Operator) :
    Operator.check (.text operator.keyword) = .accepted operator := by
  rcases operator with comparison | negated | negated
  · cases comparison <;> rfl
  · cases negated <;> rfl
  · cases negated <;> rfl

theorem Aggregate.check_word (function : Aggregate) :
    Aggregate.check (.text function.word) = .accepted function := by
  cases function <;> decide

theorem Direction.check_word (direction : Direction) :
    Direction.check (.text direction.word) = .accepted direction := by
  cases direction <;> decide

theorem JoinKind.check_word (kind : JoinKind) : Choice.check (.text kind.word) = .accepted kind := by
  cases kind <;> decide

/-! ### Parts -/

theorem TableField.check_toJson (field : TableField) :
    TableField.check field.toJson.reread.toValue = .accepted field := by
  obtain ⟨id, name, column, type, isIdentifier, isReference⟩ := field
  cases isIdentifier <;> cases isReference <;> rfl

theorem Table.check_toJson (table : Table) : Table.check table.toJson.reread.toValue = .accepted table := by
  obtain ⟨id, name, dataset, fields⟩ := table
  have hfields := Check.list_toJson TableField.check_toJson fields
  refine Checked.seq_eq (Checked.seq_eq (Checked.seq_eq (Checked.map_eq ?_) ?_) ?_) ?_
  · cases dataset <;> exact Fields.required_eq rfl rfl
  · cases dataset <;> exact Fields.required_eq rfl rfl
  · cases dataset with
    | none => exact Fields.withDefault_missing rfl
    | some dataset => exact Fields.withDefault_eq rfl rfl
  · cases dataset <;> exact Fields.withDefault_eq rfl hfields

theorem Metric.check_toJson (newId : String) (metric : Metric) :
    Metric.check newId metric.toJson.reread.toValue = .accepted metric := by
  obtain ⟨id, name, sourceTable, function, column⟩ := metric
  refine Checked.seq_eq (Checked.seq_eq (Checked.seq_eq (Checked.seq_eq (Checked.map_eq ?_) ?_) ?_) ?_) ?_
  · cases column <;> exact Fields.withDefault_eq rfl rfl
  · cases column <;> exact Fields.required_eq rfl rfl
  · cases column <;> exact Fields.required_eq rfl rfl
  · cases column <;> exact Fields.required_eq rfl function.check_word
  · cases column with
    | none => exact Fields.withDefault_missing rfl
    | some column => exact Fields.withDefault_eq rfl rfl

theorem JoinKeys.check_toJson (keys : JoinKeys) :
    JoinKeys.check keys.toJson.reread.toValue = .accepted keys :=
  rfl

theorem Join.check_toJson (join : Join) : Join.check join.toJson.reread.toValue = .accepted join := by
  refine Checked.seq_eq (Checked.seq_eq (Checked.seq_eq (Checked.map_eq ?_) ?_) ?_) ?_
  · exact Fields.required_eq rfl join.table.check_toJson
  · exact Fields.withDefault_eq rfl (Check.list_text join.selectedFields)
  · exact Fields.required_eq rfl join.keys.check_toJson
  · exact Fields.withDefault_eq rfl join.kind.check_word

theorem SortOrder.check_toJson (order : SortOrder) :
    SortOrder.check order.toJson.reread.toValue = .accepted order := by
  refine Checked.seq_eq (Checked.map_eq ?_) ?_
  · exact Fields.required_eq rfl rfl
  · exact Fields.withDefault_eq rfl order.direction.check_word

/-! ### Filters -/

namespace Predicate

/-- A filter that was read from the document of another: its values are read from the documents of the
other's values. -/
structure Rereads (predicate again : Predicate) : Prop where
  column : again.column = predicate.column
  operator : again.operator = predicate.operator
  value : ∃ document, operandJson? predicate.value = some document ∧ again.value = document.reread.toValue
  values : List.Forall₂
    (fun value value' => ∃ document : Json, value.operandJson? = some document ∧ value' = document.reread.toValue)
    (predicate.values.getD []) (again.values.getD [])

variable {predicate : Predicate} {document : Json}

/-- The field of a document for the value of a filter, which is left out for null. -/
def valueFields? (predicate : Predicate) : Option (Fields Json) :=
  match predicate.value with
  | .null => some []
  | value => (operandJson? value).map fun document => [(valueKey.outer, document)]

/-- The field of a document for the values of a filter, which is left out when there are none. -/
def valuesFields? (predicate : Predicate) : Option (Fields Json) :=
  match predicate.values with
  | none => some []
  | some values => (operandJson? (.list values)).map fun document => [(valuesKey.outer, document)]

theorem toJson_eq (predicate : Predicate) :
    predicate.toJson = orFault (.unwritable none) (predicate.valueFields?.bind fun value =>
      predicate.valuesFields?.map fun values => .object <|
        [(columnKey.outer, .text predicate.column),
          (operatorKey.outer, .text predicate.operator.keyword)] ++ value ++ values) := by
  obtain ⟨column, operator, value, values⟩ := predicate
  cases values with
  | none => cases value <;> rfl
  | some values => cases hvalues : operandJson? (.list values) <;> cases value <;>
      simp [toJson, valueFields?, valuesFields?, hvalues]

theorem valueFields?_ok {fields : Fields Json} (h : predicate.valueFields? = some fields) :
    ∃ document, operandJson? predicate.value = some document ∧
      (fields = [(valueKey.outer, document)] ∨ fields = [] ∧ document = .null) := by
  unfold valueFields? at h
  split at h
  next hnull =>
    rw [hnull]
    exact ⟨.null, rfl, .inr ⟨(Option.some.inj h).symm, rfl⟩⟩
  next =>
    obtain ⟨document, hdocument, rfl⟩ := Option.map_eq_some_iff.mp h
    exact ⟨document, hdocument, .inl rfl⟩

theorem valuesFields?_ok {fields : Fields Json} (h : predicate.valuesFields? = some fields) :
    (fields = [] ∧ predicate.values = none) ∨
      ∃ values documents, fields = [(valuesKey.outer, .list documents)] ∧ predicate.values = some values ∧
        List.Forall₂ (fun value document => value.operandJson? = some document) values documents := by
  unfold valuesFields? at h
  split at h
  next hnone => exact .inl ⟨(Option.some.inj h).symm, hnone⟩
  next values hsome =>
    obtain ⟨document, hdocument, rfl⟩ := Option.map_eq_some_iff.mp h
    obtain ⟨documents, rfl, hall⟩ := operandJson?_list hdocument
    exact .inr ⟨values, documents, rfl, hsome, hall⟩

theorem check_values (documents : List Json) :
    Check.optional (Check.list .accepted) (Json.list documents).reread.toValue =
      .accepted (some (documents.map (·.reread.toValue))) :=
  Checked.map_eq (Check.list_eq (List.forall₂_map_right_iff.mpr (List.forall₂_same.mpr fun _ _ => rfl)))

theorem check_fields (column : String) (operator : Operator) {value values : Fields Json}
    {again : Option (List Value)}
    (hvalue : value = [(valueKey.outer, document)] ∨ value = [] ∧ document = .null)
    (hvalues : values = [] ∧ again = none ∨ ∃ documents, values = [(valuesKey.outer, .list documents)] ∧
      again = some (documents.map (·.reread.toValue))) :
    check (Json.object ([(columnKey.outer, .text column), (operatorKey.outer, .text operator.keyword)] ++
      value ++ values)).reread.toValue = .accepted ⟨column, operator, document.reread.toValue, again⟩ := by
  rcases hvalue with rfl | ⟨rfl, rfl⟩ <;> rcases hvalues with ⟨rfl, rfl⟩ | ⟨documents, rfl, rfl⟩
  all_goals refine Checked.seq_eq (Checked.seq_eq (Checked.seq_eq (Checked.map_eq
    (Fields.required_eq rfl rfl)) (Fields.required_eq rfl operator.check_keyword)) ?_) ?_
  · exact Fields.withDefault_eq rfl rfl
  · exact Fields.withDefault_missing rfl
  · exact Fields.withDefault_eq rfl rfl
  · exact Fields.withDefault_eq rfl (check_values documents)
  · exact Fields.withDefault_missing rfl
  · exact Fields.withDefault_missing rfl
  · exact Fields.withDefault_missing rfl
  · exact Fields.withDefault_eq rfl (check_values documents)

theorem check_toJson (h : predicate.toJson = .ok document) :
    ∃ again, check document.reread.toValue = .accepted again ∧ predicate.Rereads again := by
  rw [toJson_eq, orFault_eq_ok, Option.bind_eq_some_iff] at h
  obtain ⟨valueFields, hvalue, h⟩ := h
  obtain ⟨valuesFields, hvalues, rfl⟩ := Option.map_eq_some_iff.mp h
  obtain ⟨operand, hoperand, hvalueFields⟩ := valueFields?_ok hvalue
  rcases valuesFields?_ok hvalues with ⟨hnone, hvalues⟩ | ⟨values, documents, hsome, hvalues, hall⟩
  · exact ⟨_, check_fields _ _ hvalueFields (.inl ⟨hnone, rfl⟩), rfl, rfl, ⟨operand, hoperand, rfl⟩,
      by rw [hvalues]; exact .nil⟩
  · refine ⟨_, check_fields _ _ hvalueFields (.inr ⟨documents, hsome, rfl⟩), rfl, rfl,
      ⟨operand, hoperand, rfl⟩, ?_⟩
    rw [hvalues]
    exact List.forall₂_map_right_iff.mpr (hall.imp fun value document h => ⟨document, h, rfl⟩)

theorem checks_toJson {predicates : List Predicate} {documents : List Json}
    (h : predicates.mapM toJson = .ok documents) :
    ∃ again, List.Forall₂ (fun document filter => check document.reread.toValue = .accepted filter)
        documents again ∧ List.Forall₂ Rereads predicates again := by
  have hall := forall₂_of_mapM h
  clear h
  induction hall with
  | nil => exact ⟨[], .nil, .nil⟩
  | cons hfirst _ ih =>
    obtain ⟨first, hcheck, hreread⟩ := check_toJson hfirst
    obtain ⟨others, hchecks, hrereads⟩ := ih
    exact ⟨first :: others, .cons hcheck hchecks, .cons hreread hrereads⟩

end Predicate

/-! ### Insights -/

namespace Insight

section Lists

variable {α : Type}

theorem Part.listOf_eq {check : Part → Checked α} {documents : List Json} {results : List α}
    (h : List.Forall₂ (fun document result => check (.value document.reread.toValue) = .accepted result)
      documents results) :
    Part.listOf check (.value (Json.list documents).reread.toValue) = .accepted results := by
  rw [Json.toValue_reread_list]
  exact Checked.itemsFrom_eq (List.forall₂_map_left_iff.mpr (List.forall₂_map_left_iff.mpr h)) 0

theorem Part.listOf_toJson {check : Part → Checked α} {toJson : α → Json}
    (h : ∀ item, check (.value (toJson item).reread.toValue) = .accepted item) (items : List α) :
    Part.listOf check (.value (Json.list (items.map toJson)).reread.toValue) = .accepted items :=
  listOf_eq (List.forall₂_map_left_iff.mpr (List.forall₂_same.mpr fun item _ => h item))

theorem Part.listOf_text (items : List String) :
    Part.listOf Part.text (.value (Json.list (items.map Json.text)).reread.toValue) = .accepted items :=
  listOf_toJson (fun _ => rfl) items

/-- The positions only number the new ids, which metrics with ids of their own do not need. -/
theorem checkMetrics_eq {newId : Nat → String} {part : Part} {items : List Part} {metrics : List Metric}
    (hitems : part.itemsOf = .accepted items)
    (h : List.Forall₂ (fun item metric => ∀ newId, Part.metricOf newId item = .accepted metric) items metrics) :
    checkMetrics newId part = .accepted metrics := by
  rw [checkMetrics, hitems]
  refine Checked.itemsFrom_eq ?_ 0
  have hsnd : ((List.range items.length).zip items).map Prod.snd = items :=
    List.map_snd_zip List.length_range.ge
  rw [← hsnd, List.forall₂_map_left_iff] at h
  exact h.imp fun _ _ h => h _

theorem checkMetrics_toJson (newId : Nat → String) (metrics : List Metric) :
    checkMetrics newId (.value (Json.list (metrics.map Metric.toJson)).reread.toValue) =
      .accepted metrics := by
  rw [Json.toValue_reread_list]
  refine checkMetrics_eq rfl <| List.forall₂_map_left_iff.mpr <| List.forall₂_map_left_iff.mpr <|
    List.forall₂_map_left_iff.mpr <| List.forall₂_same.mpr fun metric _ newId => ?_
  exact metric.check_toJson newId

end Lists

theorem name_of_check {newId : Nat → String} {parts : Fields Part} {insight : Insight}
    (h : check newId parts = .accepted insight) :
    parts.required nameKey Part.text = .accepted insight.name := by
  unfold check at h
  -- the parts are peeled off from the last one down to the name
  repeat obtain ⟨_, _, h, hname, hmade⟩ := Checked.seq_accepted h
  obtain ⟨_, -, hmade⟩ := Checked.map_accepted h
  subst_vars
  exact hname

theorem isProperName_of_text {part : Part} {name : String} (hproper : part.isProperName = true)
    (htext : part.text = .accepted name) : Part.isProperName (.value (.text name)) = true := by
  unfold Part.isProperName at hproper
  split at hproper
  · cases htext
    exact hproper
  · cases hproper

theorem isProperName_of_ofParts {newId : Nat → String} {parts : Fields Part} {insight : Insight}
    (h : ofParts newId parts = .ok insight) : Part.isProperName (.value (.text insight.name)) = true := by
  unfold ofParts at h
  split at h
  · cases h
  split at h
  · cases h
  next hproper =>
  split at h
  · cases h
  rw [Bool.not_eq_true, Bool.not_eq_false', Option.any_eq_true] at hproper
  obtain ⟨part, hlookup, hproper⟩ := hproper
  cases hcheck : check newId parts with
  | refused issues =>
    rw [hcheck] at h
    cases h
  | accepted found =>
    rw [hcheck] at h
    cases h
    exact isProperName_of_text hproper (Fields.check_of_required (name_of_check hcheck) hlookup)

theorem check_eq {newId : Nat → String} {parts : Fields Part} {insight : Insight}
    (id : parts.withDefault idKey (newId 0) Part.text = .accepted insight.id)
    (name : parts.required nameKey Part.text = .accepted insight.name)
    (base : parts.required baseKey Part.tableOf = .accepted insight.base)
    (selectedFields : parts.withDefault selectedFieldsKey [] (Part.listOf Part.text) =
      .accepted insight.selectedFields)
    (metrics : parts.withDefault metricsKey [] (checkMetrics newId) = .accepted insight.metrics)
    (filters : parts.withDefault filtersKey [] (Part.listOf Part.predicateOf) = .accepted insight.filters)
    (groupBy : parts.withDefault groupByKey [] (Part.listOf Part.text) = .accepted insight.groupBy)
    (orderBy : parts.withDefault orderByKey [] (Part.listOf Part.orderOf) = .accepted insight.orderBy)
    (limit : parts.withDefault limitKey none Part.limit = .accepted insight.limit)
    (joins : parts.withDefault joinsKey [] (Part.listOf Part.joinOf) = .accepted insight.joins) :
    check newId parts = .accepted insight := by
  rw [check, id, name, base, selectedFields, metrics, filters, groupBy, orderBy, limit, joins]
  rfl

theorem ofParts_eq {newId : Nat → String} {parts : Fields Part} {insight : Insight} {name base : Part}
    (hreserved : parts.lookup reservedName = none) (hname : parts.lookup nameKey.outer = some name)
    (hproper : name.isProperName = true) (hbase : basePart? parts = some base)
    (hcheck : check newId parts = .accepted insight) : ofParts newId parts = .ok insight := by
  rw [ofParts, hreserved, hname, Option.any_some, hproper, hbase, hcheck]
  rfl

variable {insight : Insight} {document : Json}

/-- An insight with a proper name is made from fields of which each is checked into one of its parts. -/
theorem ofValue_fields {newId : Nat → String} {base : Fields Value}
    {selected metrics filters groups orders joins : Value}
    (hname : Part.isProperName (.value (.text insight.name)) = true)
    (hbase : Table.check (.object base) = .accepted insight.base)
    (hselected : Part.listOf Part.text (.value selected) = .accepted insight.selectedFields)
    (hmetrics : checkMetrics newId (.value metrics) = .accepted insight.metrics)
    (hfilters : Part.listOf Part.predicateOf (.value filters) = .accepted insight.filters)
    (hgroups : Part.listOf Part.text (.value groups) = .accepted insight.groupBy)
    (horders : Part.listOf Part.orderOf (.value orders) = .accepted insight.orderBy)
    (hjoins : Part.listOf Part.joinOf (.value joins) = .accepted insight.joins) :
    ofValue newId (.object ([(idKey.outer, .text insight.id), (nameKey.outer, .text insight.name),
        (baseKey.outer, .object base), (selectedFieldsKey.outer, selected), (metricsKey.outer, metrics),
        (filtersKey.outer, filters), (groupByKey.outer, groups), (orderByKey.outer, orders)] ++
      (insight.limit.map fun limit => (limitKey.outer, Value.integer limit)).toList ++
      [(joinsKey.outer, joins)])) = .ok insight := by
  obtain ⟨id, name, table, selectedFields, _, _, groupBy, orderBy, limit, _⟩ := insight
  -- without a limit there is no field for it
  cases limit
  all_goals
    refine ofParts_eq rfl rfl hname rfl (check_eq
      (Fields.withDefault_eq rfl rfl)
      (Fields.required_eq rfl rfl)
      (Fields.required_eq rfl hbase)
      (Fields.withDefault_eq rfl hselected)
      (Fields.withDefault_eq rfl hmetrics)
      (Fields.withDefault_eq rfl hfilters)
      (Fields.withDefault_eq rfl hgroups)
      (Fields.withDefault_eq rfl horders)
      ?_
      (Fields.withDefault_eq rfl hjoins))
  · exact Fields.withDefault_missing rfl
  · exact Fields.withDefault_eq rfl rfl

theorem reread_document (insight : Insight) (filters : Json) :
    (Json.object (insight.leadingFields ++ [(filtersKey.outer, filters)] ++ insight.trailingFields)).reread =
      .object (Json.rereadFields
        (insight.leadingFields ++ [(filtersKey.outer, filters)] ++ insight.trailingFields)) := by
  apply Json.reread_object
  rw [trailingFields]
  cases insight.limit with
  | none =>
    change [idKey.outer, nameKey.outer, baseKey.outer, selectedFieldsKey.outer, metricsKey.outer,
      filtersKey.outer, groupByKey.outer, orderByKey.outer, joinsKey.outer].Nodup
    decide
  | some limit =>
    change [idKey.outer, nameKey.outer, baseKey.outer, selectedFieldsKey.outer, metricsKey.outer,
      filtersKey.outer, groupByKey.outer, orderByKey.outer, limitKey.outer, joinsKey.outer].Nodup
    decide

/-- An insight comes back from its document with all its parts but the filters unchanged. -/
theorem ofValue_toJson (hname : Part.isProperName (.value (.text insight.name)) = true)
    (h : insight.toJson = .ok document) (newId : Nat → String) :
    ∃ filters, ofValue newId document.reread.toValue = .ok { insight with filters } ∧
      List.Forall₂ Predicate.Rereads insight.filters filters := by
  obtain ⟨documents, hdocuments, h⟩ := bind_eq_ok.mp h
  rw [pure_eq_ok] at h
  subst h
  obtain ⟨filters, hchecks, hrereads⟩ := Predicate.checks_toJson hdocuments
  refine ⟨filters, ?_, hrereads⟩
  rw [reread_document]
  have hmade : ofValue newId _ = .ok { insight with filters } :=
    ofValue_fields hname insight.base.check_toJson (Part.listOf_text insight.selectedFields)
      (checkMetrics_toJson newId insight.metrics) (Part.listOf_eq hchecks)
      (Part.listOf_text insight.groupBy) (Part.listOf_toJson SortOrder.check_toJson insight.orderBy)
      (Part.listOf_toJson Join.check_toJson insight.joins)
  obtain ⟨id, name, base, selectedFields, metrics, _, groupBy, orderBy, limit, joins⟩ := insight
  cases limit <;> exact hmade

end Insight

end Insights
