import Insights.Proofs.Insight.Draft
import Insights.Proofs.Insight.Slot

/-!
Updates of one field of an insight. What an update leaves in its field is up to the new part alone, and the
supply of new ids counts only for metrics that came without one. So updates of different fields can be made in
any order, and of several updates of one field only the last one counts.
-/

namespace Insights.Insight

namespace Slot

/-! ### New ids -/

/-- What two fields hold is the same up to new ids: metrics come from the same drafts, completed from one
supply or the other. -/
def Agrees (newId newId' : Nat → String) : (slot : Slot) → slot.Content → slot.Content → Prop
  | .metrics, former, latter =>
    ∃ drafts, former = Metric.Draft.completeAll newId drafts ∧ latter = Metric.Draft.completeAll newId' drafts
  | _, former, latter => former = latter

variable {slot : Slot} {newId newId' : Nat → String} {part : Part}

/-- A part is read with one supply just when it is read with another, and as the same up to new ids. -/
theorem read_agrees {content : slot.Content} (newId' : Nat → String) (h : slot.read newId part = .ok content) :
    ∃ content', slot.read newId' part = .ok content' ∧ slot.Agrees newId newId' content content' := by
  cases slot
  case metrics =>
    have hread : ∀ newId, Slot.metrics.read newId part =
        ((Metric.Draft.completeAll newId <$> part.listOf Part.draftOf).under (.key metricsKey.inner)).outcome := by
      intro newId
      rw [← checkMetrics_eq_completeAll]
      rfl
    rw [hread] at h
    cases hdrafts : part.listOf Part.draftOf with
    | refused issues =>
      rw [hdrafts] at h
      cases h
    | accepted drafts =>
      rw [hdrafts] at h
      refine ⟨Metric.Draft.completeAll newId' drafts, ?_, drafts, (Except.ok.inj h).symm, rfl⟩
      rw [hread, hdrafts]
      rfl
  all_goals exact ⟨content, h, rfl⟩

/-- Once a part was read with some supply, it is read alike with any two. -/
theorem agrees_of_read {content content' : slot.Content} (h : slot.read newId part = .ok content)
    (h' : slot.read newId' part = .ok content') : slot.Agrees newId newId' content content' := by
  obtain ⟨other, hother, hagrees⟩ := read_agrees newId' h
  cases hother.symm.trans h'
  exact hagrees

end Slot

/-- An insight that was made from parts. -/
def IsMade (insight : Insight) : Prop :=
  ∃ newId parts, ofParts newId parts = .ok insight

theorem IsMade.isProperName {insight : Insight} (h : insight.IsMade) :
    Part.isProperName (.value (.text insight.name)) = true := by
  obtain ⟨newId, parts, hmade⟩ := h
  exact isProperName_of_ofParts hmade

namespace Slot

/-! ### Updates -/

variable {slot other : Slot} {newId newId' : Nat → String} {part part' : Part} {insight updated result : Insight}

theorem isMade_of_update (h : slot.update newId part insight = .ok updated) : updated.IsMade :=
  ⟨newId, _, h⟩

theorem update_eq_ok_iff (hmade : insight.IsMade) :
    slot.update newId part insight = .ok updated ↔
      ∃ content, slot.read newId part = .ok content ∧ slot.put content insight = updated := by
  rw [update_eq hmade.isProperName]
  cases slot.read newId part <;> simp [Except.map]

theorem update_part (hmade : insight.IsMade) (slot : Slot) (newId : Nat → String) :
    slot.update newId (slot.part insight) insight = .ok insight :=
  (update_eq_ok_iff hmade).mpr ⟨_, read_part hmade.isProperName slot newId, put_get slot insight⟩

/-- A second update of a field makes up for the first. -/
theorem update_update (hmade : insight.IsMade) (h : slot.update newId part insight = .ok updated)
    (newId' : Nat → String) (part' : Part) :
    slot.update newId' part' updated = slot.update newId' part' insight := by
  obtain ⟨content, -, rfl⟩ := (update_eq_ok_iff hmade).mp h
  rw [update_eq (isMade_of_update h).isProperName, update_eq hmade.isProperName]
  simp only [put_put]

theorem get_of_update_of_ne (hmade : insight.IsMade) (h : slot.update newId part insight = .ok updated)
    (hne : other ≠ slot) : other.get updated = other.get insight := by
  obtain ⟨content, -, rfl⟩ := (update_eq_ok_iff hmade).mp h
  exact get_put_of_ne hne content insight

/-- Of an insight only the limit can be null. -/
theorem eq_limit_of_isNull (h : (slot.part insight).isNull = true) : slot = .limit := by
  cases slot
  case limit => rfl
  all_goals cases h

/-- What an update leaves in its field is not up to the insight. -/
theorem update_agrees (hmade : insight.IsMade) (h : slot.update newId part insight = .ok updated)
    {insight' : Insight} (hmade' : insight'.IsMade) (newId' : Nat → String) :
    ∃ updated', slot.update newId' part insight' = .ok updated' ∧
      slot.Agrees newId newId' (slot.get updated) (slot.get updated') := by
  obtain ⟨content, hread, rfl⟩ := (update_eq_ok_iff hmade).mp h
  obtain ⟨content', hread', hagrees⟩ := read_agrees newId' hread
  refine ⟨slot.put content' insight', (update_eq_ok_iff hmade').mpr ⟨content', hread', rfl⟩, ?_⟩
  rw [get_put, get_put]
  exact hagrees

theorem update_bind_update_eq_ok_iff (hmade : insight.IsMade) :
    (slot.update newId part insight >>= other.update newId' part') = .ok result ↔
      ∃ content content', slot.read newId part = .ok content ∧ other.read newId' part' = .ok content' ∧
        other.put content' (slot.put content insight) = result := by
  rw [bind_eq_ok]
  constructor
  · rintro ⟨updated, hfirst, hsecond⟩
    obtain ⟨content', hread', rfl⟩ := (update_eq_ok_iff (isMade_of_update hfirst)).mp hsecond
    obtain ⟨content, hread, rfl⟩ := (update_eq_ok_iff hmade).mp hfirst
    exact ⟨content, content', hread, hread', rfl⟩
  · rintro ⟨content, content', hread, hread', rfl⟩
    have hfirst : slot.update newId part insight = .ok (slot.put content insight) :=
      (update_eq_ok_iff hmade).mpr ⟨content, hread, rfl⟩
    exact ⟨_, hfirst, (update_eq_ok_iff (isMade_of_update hfirst)).mpr ⟨content', hread', rfl⟩⟩

/-- Updates of two fields can be swapped, when each draws from the same supply as before. -/
theorem update_comm (hmade : insight.IsMade) (hne : other ≠ slot) :
    (slot.update newId part insight >>= other.update newId' part') = .ok result ↔
      (other.update newId' part' insight >>= slot.update newId part) = .ok result := by
  rw [update_bind_update_eq_ok_iff hmade, update_bind_update_eq_ok_iff hmade]
  constructor
  · rintro ⟨content, content', hread, hread', rfl⟩
    exact ⟨content', content, hread', hread, (put_comm hne content content' insight).symm⟩
  · rintro ⟨content', content, hread', hread, rfl⟩
    exact ⟨content, content', hread, hread', put_comm hne content content' insight⟩

section Swapped

variable {s t s' t' : Nat → String}

theorem exists_update_swapped (hmade : insight.IsMade)
    (h : (slot.update s part insight >>= other.update t part') = .ok result) :
    ∃ result', (other.update t' part' insight >>= slot.update s' part) = .ok result' := by
  obtain ⟨content, content', hread, hread', -⟩ := (update_bind_update_eq_ok_iff hmade).mp h
  obtain ⟨again, hagain, -⟩ := read_agrees s' hread
  obtain ⟨again', hagain', -⟩ := read_agrees t' hread'
  exact ⟨_, (update_bind_update_eq_ok_iff hmade).mpr ⟨again', again, hagain', hagain, rfl⟩⟩

/-- Updates of two fields leave the same in whichever order they are made. -/
theorem update_swapped_agrees (hmade : insight.IsMade) (hne : other ≠ slot) {result' : Insight}
    (h : (slot.update s part insight >>= other.update t part') = .ok result)
    (h' : (other.update t' part' insight >>= slot.update s' part) = .ok result') :
    slot.Agrees s s' (slot.get result) (slot.get result') ∧
      other.Agrees t t' (other.get result) (other.get result') ∧
      ∀ field, field ≠ slot → field ≠ other → field.get result = field.get result' := by
  obtain ⟨content, content', hread, hread', rfl⟩ := (update_bind_update_eq_ok_iff hmade).mp h
  obtain ⟨again', again, hagain', hagain, rfl⟩ := (update_bind_update_eq_ok_iff hmade).mp h'
  refine ⟨?_, ?_, fun field hslot hother => ?_⟩
  · rw [get_put_of_ne hne.symm, get_put, get_put]
    exact agrees_of_read hread hagain
  · rw [get_put, get_put_of_ne hne, get_put]
    exact agrees_of_read hread' hagain'
  · rw [get_put_of_ne hother, get_put_of_ne hslot, get_put_of_ne hslot, get_put_of_ne hother]

end Swapped

/-- What an update of a field leaves: an insight that keeps the rules for insights and all other fields, and
in the field itself what the update leaves there in any insight, up to new ids. -/
structure Leaves (field : Slot) (newId : Nat → String) (part : Part) (insight updated : Insight) : Prop where
  made : updated.IsMade
  named : Part.isProperName (.value (.text updated.name)) = true
  filled : ∀ other : Slot, (other.part updated).isNull = true → other = .limit
  others : ∀ other, other ≠ field → other.get updated = other.get insight
  independent : ∀ insight', insight'.IsMade → ∀ newId', ∃ updated',
    field.update newId' part insight' = .ok updated' ∧
      field.Agrees newId newId' (field.get updated) (field.get updated')

/-- Updates of two fields can be made in either order, from whichever supplies of new ids. -/
structure Swaps (field other : Slot) (s t s' t' : Nat → String) (part part' : Part) (insight : Insight) :
    Prop where
  succeed : (∃ result, (field.update s part insight >>= other.update t part') = .ok result) ↔
    ∃ result, (other.update t' part' insight >>= field.update s' part) = .ok result
  agree : ∀ result result', (field.update s part insight >>= other.update t part') = .ok result →
    (other.update t' part' insight >>= field.update s' part) = .ok result' →
      field.Agrees s s' (field.get result) (field.get result') ∧
        other.Agrees t t' (other.get result) (other.get result') ∧
        ∀ slot, slot ≠ field → slot ≠ other → slot.get result = slot.get result'

/-- The laws of updating one field of an insight. -/
structure UpdateLaws (field : Slot) (insight : Insight) : Prop where
  leaves : ∀ newId part updated, field.update newId part insight = .ok updated →
    field.Leaves newId part insight updated
  /-- A field can be updated with what is in it. -/
  same : ∀ newId, field.update newId (field.part insight) insight = .ok insight
  /-- Of two updates of the field only the second one counts. -/
  last : ∀ newId newId' part part' updated, field.update newId part insight = .ok updated →
    field.update newId' part' updated = field.update newId' part' insight
  /-- Updates of two fields come to the same in either order when each draws from the same supply, -/
  commute : ∀ other, other ≠ field → ∀ newId newId' part part' result,
    (field.update newId part insight >>= other.update newId' part') = .ok result ↔
      (other.update newId' part' insight >>= field.update newId part) = .ok result
  /-- and otherwise up to new ids. -/
  swaps : ∀ other, other ≠ field → ∀ s t s' t' part part',
    field.Swaps other s t s' t' part part' insight

/-- Updates of one field of an insight that was made from parts obey the laws, whichever field it is. -/
theorem update_laws (hmade : insight.IsMade) (field : Slot) : field.UpdateLaws insight where
  leaves newId part updated h := {
    made := isMade_of_update h
    named := (isMade_of_update h).isProperName
    filled := fun other => eq_limit_of_isNull
    others := fun other => get_of_update_of_ne hmade h
    independent := fun insight' hmade' => update_agrees hmade h hmade' }
  same := update_part hmade field
  last newId newId' part part' updated h := update_update hmade h newId' part'
  commute other hne newId newId' part part' result := update_comm hmade hne
  swaps other hne s t s' t' part part' := {
    succeed := by
      constructor
      · rintro ⟨result, h⟩
        exact exists_update_swapped hmade h
      · rintro ⟨result, h⟩
        exact exists_update_swapped hmade h
    agree := fun result result' => update_swapped_agrees hmade hne }

/-- The number of sales for each id. -/
def salesCounted : Insight where
  id := "i"
  name := "number of sales"
  base := ⟨"s", "sales", some "a", [⟨"s1", "Id", "id", "string", none, none⟩]⟩
  selectedFields := []
  metrics := [⟨"m", "number", "s", .count, none⟩]
  filters := []
  groupBy := ["id"]
  orderBy := []
  limit := some 3
  joins := []

/-- A metric without an id. -/
def totalMetrics : Part :=
  .list [.value (.object [("name", .text "total"), ("sourceTable", .text "s"), ("aggregation", .text "sum"),
    ("columnName", .text "id")])]

theorem update_laws_salesCounted :
    salesCounted.IsMade ∧
      metrics.update (fun _ => "new") totalMetrics salesCounted =
        .ok { salesCounted with metrics := [⟨"new", "total", "s", .sum, some "id"⟩] } ∧
      (∀ newId, metrics.update newId (metrics.part salesCounted) salesCounted = .ok salesCounted) ∧
      (∀ insight', insight'.IsMade → ∃ updated, metrics.update (fun _ => "newer") totalMetrics insight' = .ok updated) ∧
      ∃ result, (limit.update (fun _ => "newer") (.value .null) salesCounted >>=
        metrics.update (fun _ => "newer") totalMetrics) = .ok result := by
  have hmade : salesCounted.IsMade := ⟨fun _ => "", salesCounted.parts, by decide +kernel⟩
  have hupdated : metrics.update (fun _ => "new") totalMetrics salesCounted =
      .ok { salesCounted with metrics := [⟨"new", "total", "s", .sum, some "id"⟩] } := by decide +kernel
  have hboth : (metrics.update (fun _ => "new") totalMetrics salesCounted >>=
      limit.update (fun _ => "new") (.value .null)) =
      .ok { salesCounted with metrics := [⟨"new", "total", "s", .sum, some "id"⟩], limit := none } := by
    decide +kernel
  have hlaws := update_laws hmade .metrics
  have hswaps := hlaws.swaps .limit (by decide) (fun _ => "new") (fun _ => "new") (fun _ => "newer")
    (fun _ => "newer") totalMetrics (.value .null)
  refine ⟨hmade, hupdated, hlaws.same, fun insight' hmade' => ?_, hswaps.succeed.mp ⟨_, hboth⟩⟩
  obtain ⟨updated, hupdated', -⟩ := (hlaws.leaves _ _ _ hupdated).independent insight' hmade' fun _ => "newer"
  exact ⟨updated, hupdated'⟩

end Slot

end Insights.Insight
