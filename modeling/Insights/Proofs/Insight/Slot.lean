import Insights.Proofs.Insight.Document
import Insights.Proofs.Value.Fields

/-!
The fields of an insight as places that can be read and filled. An update makes the insight again from its
parts with one of them replaced, so every field is checked again; yet what was checked once is accepted as it
is. An update therefore comes down to reading the new part and putting what was read into the field, and
reading does not look at the insight.
-/

namespace Insights.Insight

/-- The fields of an insight. -/
inductive Slot where
  | id
  | name
  | base
  | selectedFields
  | metrics
  | filters
  | groupBy
  | orderBy
  | limit
  | joins
deriving DecidableEq

namespace Slot

def key : Slot → FieldKey
  | .id => idKey
  | .name => nameKey
  | .base => baseKey
  | .selectedFields => selectedFieldsKey
  | .metrics => metricsKey
  | .filters => filtersKey
  | .groupBy => groupByKey
  | .orderBy => orderByKey
  | .limit => limitKey
  | .joins => joinsKey

/-- What a field holds. -/
def Content : Slot → Type
  | .id | .name => String
  | .base => Table
  | .selectedFields | .groupBy => List String
  | .metrics => List Metric
  | .filters => List Predicate
  | .orderBy => List SortOrder
  | .limit => Option Int
  | .joins => List Join

def get : (slot : Slot) → Insight → slot.Content
  | .id, insight => insight.id
  | .name, insight => insight.name
  | .base, insight => insight.base
  | .selectedFields, insight => insight.selectedFields
  | .metrics, insight => insight.metrics
  | .filters, insight => insight.filters
  | .groupBy, insight => insight.groupBy
  | .orderBy, insight => insight.orderBy
  | .limit, insight => insight.limit
  | .joins, insight => insight.joins

def put : (slot : Slot) → slot.Content → Insight → Insight
  | .id, content, insight => { insight with id := content }
  | .name, content, insight => { insight with name := content }
  | .base, content, insight => { insight with base := content }
  | .selectedFields, content, insight => { insight with selectedFields := content }
  | .metrics, content, insight => { insight with metrics := content }
  | .filters, content, insight => { insight with filters := content }
  | .groupBy, content, insight => { insight with groupBy := content }
  | .orderBy, content, insight => { insight with orderBy := content }
  | .limit, content, insight => { insight with limit := content }
  | .joins, content, insight => { insight with joins := content }

/-- What the field of an insight is as a part: texts and numbers as they are, and everything else as what it
was checked into. -/
def part : Slot → Insight → Part
  | .id, insight => .value (.text insight.id)
  | .name, insight => .value (.text insight.name)
  | .base, insight => .table insight.base
  | .selectedFields, insight => .list (insight.selectedFields.map fun id => .value (.text id))
  | .metrics, insight => .list (insight.metrics.map .metric)
  | .filters, insight => .list (insight.filters.map .predicate)
  | .groupBy, insight => .list (insight.groupBy.map fun column => .value (.text column))
  | .orderBy, insight => .list (insight.orderBy.map .order)
  | .limit, insight => .value ((insight.limit.map Value.integer).getD .null)
  | .joins, insight => .list (insight.joins.map .join)

variable {slot other : Slot} {insight : Insight}

/-! ### Fields as places -/

@[simp] theorem get_put (slot : Slot) (content : slot.Content) (insight : Insight) :
    slot.get (slot.put content insight) = content := by
  cases slot <;> rfl

@[simp] theorem put_get (slot : Slot) (insight : Insight) : slot.put (slot.get insight) insight = insight := by
  cases slot <;> rfl

@[simp] theorem put_put (slot : Slot) (content former : slot.Content) (insight : Insight) :
    slot.put content (slot.put former insight) = slot.put content insight := by
  cases slot <;> rfl

theorem get_put_of_ne (h : other ≠ slot) (content : slot.Content) (insight : Insight) :
    other.get (slot.put content insight) = other.get insight := by
  cases slot <;> cases other <;> first | rfl | exact absurd rfl h

theorem put_comm (h : other ≠ slot) (content : slot.Content) (content' : other.Content) (insight : Insight) :
    other.put content' (slot.put content insight) = slot.put content (other.put content' insight) := by
  cases slot <;> cases other <;> first | rfl | exact absurd rfl h

/-! ### Parts -/

theorem key_inner_injective {slot other : Slot} (h : slot.key.inner = other.key.inner) : slot = other := by
  revert h
  cases slot <;> cases other <;> decide

/-- The outer spelling of a field is its inner one or that of no field. -/
theorem key_outer (slot : Slot) :
    slot.key.outer = slot.key.inner ∨ ∀ other : Slot, slot.key.outer ≠ other.key.inner := by
  cases slot
  case base | selectedFields | groupBy | orderBy => exact .inr fun other => by cases other <;> decide
  all_goals exact .inl rfl

theorem lookup_parts (slot : Slot) (insight : Insight) :
    insight.parts.lookup slot.key.inner = some (slot.part insight) := by
  cases slot <;> rfl

/-- The parts of an insight are one for each field. -/
theorem parts_eq (insight : Insight) :
    insight.parts = [id, name, base, selectedFields, metrics, filters, groupBy, orderBy, limit, joins].map
      fun slot => (slot.key.inner, slot.part insight) :=
  rfl

theorem lookup_parts_of_ne {name : String} (h : ∀ slot : Slot, name ≠ slot.key.inner) (insight : Insight) :
    insight.parts.lookup name = none := by
  rw [List.lookup_eq_none_iff, parts_eq]
  intro part hmem
  obtain ⟨slot, -, rfl⟩ := List.mem_map.mp hmem
  simpa using h slot

/-! ### Reading a part -/

/-- The check of a part for a field. -/
def check (newId : Nat → String) : (slot : Slot) → Part → Checked slot.Content
  | .id | .name => Part.text
  | .base => Part.tableOf
  | .selectedFields | .groupBy => Part.listOf Part.text
  | .metrics => checkMetrics newId
  | .filters => Part.listOf Part.predicateOf
  | .orderBy => Part.listOf Part.orderOf
  | .limit => Part.limit
  | .joins => Part.listOf Part.joinOf

/-- What a part is read as for a field. A name has to be a proper one and a base table has to be there, which
is asked for before anything is checked. -/
def read (newId : Nat → String) (slot : Slot) (part : Part) : Except Fault slot.Content :=
  if slot = .name ∧ part.isProperName = false then .error .unnamedInsight
  else if slot = .base ∧ part.isNull = true then .error .tablelessInsight
  else ((slot.check newId part).under (.key slot.key.inner)).outcome

/-- The field among the parts that an insight is made from. -/
def checkIn (newId : Nat → String) (parts : Fields Part) : (slot : Slot) → Checked slot.Content
  | .id => parts.withDefault idKey (newId 0) Part.text
  | .name => parts.required nameKey Part.text
  | .base => parts.required baseKey Part.tableOf
  | .selectedFields => parts.withDefault selectedFieldsKey [] (Part.listOf Part.text)
  | .metrics => parts.withDefault metricsKey [] (checkMetrics newId)
  | .filters => parts.withDefault filtersKey [] (Part.listOf Part.predicateOf)
  | .groupBy => parts.withDefault groupByKey [] (Part.listOf Part.text)
  | .orderBy => parts.withDefault orderByKey [] (Part.listOf Part.orderOf)
  | .limit => parts.withDefault limitKey none Part.limit
  | .joins => parts.withDefault joinsKey [] (Part.listOf Part.joinOf)

theorem checkIn_of_found {newId : Nat → String} {parts : Fields Part} {slot : Slot} {spelling : String}
    {part : Part} (h : parts.find? slot.key = some (spelling, part)) :
    slot.checkIn newId parts = (slot.check newId part).under (.key spelling) := by
  cases slot
  case name | base => exact Fields.required_of_found h
  all_goals exact Fields.withDefault_of_found h

/-- What is in a field was checked already, and is accepted as it is. -/
theorem check_part (newId : Nat → String) (slot : Slot) (insight : Insight) :
    slot.check newId (slot.part insight) = .accepted (slot.get insight) := by
  cases slot with
  | id | name | base => rfl
  | selectedFields =>
    exact Checked.items_map Part.text (fun id => .value (.text id)) (fun _ => rfl) insight.selectedFields
  | metrics =>
    exact checkMetrics_eq rfl (List.forall₂_map_left_iff.mpr (List.forall₂_same.mpr fun _ _ _ => rfl))
  | filters => exact Checked.items_map Part.predicateOf .predicate (fun _ => rfl) insight.filters
  | groupBy =>
    exact Checked.items_map Part.text (fun column => .value (.text column)) (fun _ => rfl) insight.groupBy
  | orderBy => exact Checked.items_map Part.orderOf .order (fun _ => rfl) insight.orderBy
  | limit =>
    obtain ⟨_, _, _, _, _, _, _, _, limit, _⟩ := insight
    cases limit <;> rfl
  | joins => exact Checked.items_map Part.joinOf .join (fun _ => rfl) insight.joins

theorem lookup_put_parts (changed slot : Slot) (part : Part) (insight : Insight) :
    (Fields.put changed.key.inner part insight.parts).lookup slot.key.inner =
      some (if slot = changed then part else slot.part insight) := by
  rw [Fields.lookup_put, lookup_parts]
  by_cases h : slot = changed
  · rw [if_pos (congrArg (·.key.inner) h), if_pos h]
  · rw [if_neg fun hsame => h (key_inner_injective hsame), if_neg h]

theorem find?_put_parts (changed slot : Slot) (part : Part) (insight : Insight) :
    Fields.find? (Fields.put changed.key.inner part insight.parts) slot.key =
      some (slot.key.inner, if slot = changed then part else slot.part insight) := by
  rw [Fields.find?]
  rcases slot.key_outer with hsame | hnone
  · rw [hsame, lookup_put_parts]
  · rw [Fields.lookup_put, if_neg (hnone changed), lookup_parts_of_ne hnone, lookup_put_parts]
    rfl

end Slot

open Slot

theorem check_eq_checkIn (newId : Nat → String) (parts : Fields Part) :
    check newId parts = mk <$> Slot.id.checkIn newId parts <*> Slot.name.checkIn newId parts
      <*> Slot.base.checkIn newId parts <*> Slot.selectedFields.checkIn newId parts
      <*> Slot.metrics.checkIn newId parts <*> Slot.filters.checkIn newId parts
      <*> Slot.groupBy.checkIn newId parts <*> Slot.orderBy.checkIn newId parts
      <*> Slot.limit.checkIn newId parts <*> Slot.joins.checkIn newId parts :=
  rfl

/-- Of parts that are those of an insight but for one, only this one can be refused. -/
theorem check_put (newId : Nat → String) (slot : Slot) (part : Part) (insight : Insight) :
    check newId (Fields.put slot.key.inner part insight.parts) =
      (slot.put · insight) <$> (slot.check newId part).under (.key slot.key.inner) := by
  have hkept : ∀ other : Slot, other ≠ slot →
      other.checkIn newId (Fields.put slot.key.inner part insight.parts) = .accepted (other.get insight) := by
    intro other h
    have hfound := find?_put_parts slot other part insight
    rw [if_neg h] at hfound
    rw [checkIn_of_found hfound, check_part]
    rfl
  have hchanged : slot.checkIn newId (Fields.put slot.key.inner part insight.parts) =
      (slot.check newId part).under (.key slot.key.inner) := by
    have hfound := find?_put_parts slot slot part insight
    rw [if_pos rfl] at hfound
    exact checkIn_of_found hfound
  rw [check_eq_checkIn]
  generalize (slot.check newId part).under (.key slot.key.inner) = read at hchanged ⊢
  generalize Fields.put slot.key.inner part insight.parts = changed at hkept hchanged ⊢
  -- the changed part stands at another place of the product in each case
  cases slot
  all_goals
    simp only [hchanged, hkept, ne_eq, reduceCtorEq, not_false_eq_true]
    cases read <;> rfl

namespace Slot

/-- The insight with another part for one of its fields. -/
def update (slot : Slot) (newId : Nat → String) (part : Part) (insight : Insight) : Except Fault Insight :=
  insight.updated newId [(slot.key.inner, part)]

theorem lookup_reserved_put (slot : Slot) (part : Part) (insight : Insight) :
    (Fields.put slot.key.inner part insight.parts).lookup reservedName = none := by
  have hnone : ∀ other : Slot, reservedName ≠ other.key.inner := fun other => by cases other <;> decide
  rw [Fields.lookup_put, if_neg (hnone slot), lookup_parts_of_ne hnone]

theorem basePart?_put (slot : Slot) (part : Part) (insight : Insight) :
    basePart? (Fields.put slot.key.inner part insight.parts) =
      (some (if .base = slot then part else Slot.base.part insight)).filter (!·.isNull) := by
  have hlookup : (Fields.put slot.key.inner part insight.parts).lookup baseKey.inner = _ :=
    lookup_put_parts slot .base part insight
  rw [basePart?, hlookup]
  rfl

/-- What is asked for before all else can only be wanting in the part that is replaced. -/
theorem ofParts_put {insight : Insight} (hproper : Part.isProperName (.value (.text insight.name)) = true)
    (newId : Nat → String) (slot : Slot) (part : Part) :
    ofParts newId (Fields.put slot.key.inner part insight.parts) =
      if slot = .name ∧ part.isProperName = false then .error .unnamedInsight
      else if slot = .base ∧ part.isNull = true then .error .tablelessInsight
      else (Insight.check newId (Fields.put slot.key.inner part insight.parts)).outcome := by
  have hname : (Fields.put slot.key.inner part insight.parts).lookup nameKey.outer = _ :=
    lookup_put_parts slot .name part insight
  have hunnamed : (!Option.any Part.isProperName (some (if .name = slot then part else Slot.name.part insight))) =
      true ↔ slot = .name ∧ part.isProperName = false := by
    by_cases h : slot = .name
    · simp [h]
    · simp [h, Ne.symm h, Slot.part, hproper]
  have htableless : ((some (if .base = slot then part else Slot.base.part insight)).filter (!·.isNull)).isNone =
      true ↔ slot = .base ∧ part.isNull = true := by
    by_cases h : slot = .base
    · simp [h]
    · simp [h, Ne.symm h, Slot.part, Part.isNull]
  rw [ofParts, lookup_reserved_put, hname, basePart?_put]
  simp only [Option.isSome_none, Bool.false_eq_true, if_false, hunnamed, htableless]

/-- An update reads the new part and puts what was read into the field. -/
theorem update_eq {insight : Insight} (hproper : Part.isProperName (.value (.text insight.name)) = true)
    (slot : Slot) (newId : Nat → String) (part : Part) :
    slot.update newId part insight = (slot.read newId part).map (slot.put · insight) := by
  change ofParts newId (Fields.put slot.key.inner part insight.parts) = _
  rw [ofParts_put hproper, check_put, Checked.outcome_map, read]
  split
  · rfl
  · split <;> rfl

/-- What is in a field of an insight with a proper name is read as it is. -/
theorem read_part {insight : Insight} (hproper : Part.isProperName (.value (.text insight.name)) = true)
    (slot : Slot) (newId : Nat → String) : slot.read newId (slot.part insight) = .ok (slot.get insight) := by
  have hnamed : ¬ (slot = .name ∧ (slot.part insight).isProperName = false) := by
    rintro ⟨rfl, hblank⟩
    exact Bool.noConfusion (hproper.symm.trans hblank)
  have hbased : ¬ (slot = .base ∧ (slot.part insight).isNull = true) := by
    rintro ⟨rfl, hnull⟩
    cases hnull
  rw [read, if_neg hnamed, if_neg hbased, check_part]
  rfl

end Slot

end Insights.Insight
