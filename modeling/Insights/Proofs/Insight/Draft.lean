import Insights.Insight.Basic
import Insights.Proofs.Decode.Checked

/-!
Metrics before they have their ids. A part is read into a draft without looking at the supply of new ids; the
draft of a metric that came without an id is then completed from the supply. Whether metrics are accepted, and
everything in them but new ids, is thus the same for every supply.
-/

namespace Insights

namespace Metric

/-- A metric that may be without an id. -/
structure Draft where
  id : Option String
  name : String
  sourceTable : String
  aggregation : Aggregate
  column : Option String

namespace Draft

def ofMetric (metric : Metric) : Draft :=
  ⟨some metric.id, metric.name, metric.sourceTable, metric.aggregation, metric.column⟩

/-- The metric, which gets the new id if it has none of its own. -/
def completed (newId : String) (draft : Draft) : Metric :=
  ⟨draft.id.getD newId, draft.name, draft.sourceTable, draft.aggregation, draft.column⟩

def ofFields (fields : Fields Value) : Checked Draft :=
  mk <$> fields.withDefault idKey none (fun value => some <$> Check.text value)
    <*> fields.required nameKey Check.text
    <*> fields.required sourceTableKey Check.text
    <*> fields.required aggregationKey Aggregate.check
    <*> fields.withDefault columnKey none (Check.optional Check.text)

def check : Value → Checked Draft :=
  Check.object ofFields

/-- The metrics of an insight, completed with the new ids that are in reserve for their positions. -/
def completeAll (newId : Nat → String) (drafts : List Draft) : List Metric :=
  drafts.mapIdx fun position draft => draft.completed (newId (position + 1))

end Draft

theorem ofFields_eq_completed (newId : String) (fields : Fields Value) :
    ofFields newId fields = Draft.completed newId <$> Draft.ofFields fields := by
  rw [ofFields, Draft.ofFields, Fields.withDefault_eq_getD]
  generalize fields.withDefault idKey none (fun value => some <$> Check.text value) = id
  generalize fields.required nameKey Check.text = name
  generalize fields.required sourceTableKey Check.text = sourceTable
  generalize fields.required aggregationKey Aggregate.check = aggregation
  generalize fields.withDefault columnKey none (Check.optional Check.text) = column
  cases id <;> cases name <;> cases sourceTable <;> cases aggregation <;> cases column <;> rfl

theorem check_eq_completed (newId : String) (value : Value) :
    check newId value = Draft.completed newId <$> Draft.check value := by
  cases value with
  | object fields => exact ofFields_eq_completed newId fields
  | _ => rfl

end Metric

namespace Insight

def Part.draftOf : Part → Checked Metric.Draft
  | .metric m => .accepted (.ofMetric m)
  | .value v => Metric.Draft.check v
  | _ => .refuse .notObject

theorem Part.metricOf_eq_completed (newId : String) (part : Part) :
    part.metricOf newId = Metric.Draft.completed newId <$> part.draftOf := by
  cases part with
  | value v => exact Metric.check_eq_completed newId v
  | _ => rfl

theorem itemsFrom_metricOf (newId : Nat → String) (items : List Part) (position first : Nat) :
    Checked.itemsFrom position (fun item => Part.metricOf (newId (item.1 + 1)) item.2)
        ((List.range' first items.length).zip items) =
      (List.mapIdx fun place draft => Metric.Draft.completed (newId (first + place + 1)) draft) <$>
        Checked.itemsFrom position Part.draftOf items := by
  induction items generalizing position first with
  | nil => rfl
  | cons item rest ih =>
    rw [List.length_cons, List.range'_succ, List.zip_cons_cons, Checked.itemsFrom, Checked.itemsFrom, ih,
      Part.metricOf_eq_completed]
    cases item.draftOf <;> cases Checked.itemsFrom (position + 1) Part.draftOf rest
    case accepted.accepted draft drafts =>
      change Checked.accepted _ = Checked.accepted _
      rw [List.mapIdx_cons]
      simp only [Nat.add_assoc, Nat.add_comm 1, Nat.add_zero]
    all_goals rfl

/-- Metrics are read as drafts, which the supply then completes. -/
theorem checkMetrics_eq_completeAll (newId : Nat → String) (part : Part) :
    checkMetrics newId part = Metric.Draft.completeAll newId <$> part.listOf Part.draftOf := by
  rw [checkMetrics, Part.listOf]
  cases part.itemsOf with
  | refused issues => rfl
  | accepted items =>
    have hitems := itemsFrom_metricOf newId items 0 0
    simp only [Nat.zero_add, ← List.range_eq_range'] at hitems
    exact hitems

end Insight
end Insights
