import Mathlib.Data.List.Forall2
import Insights.Decode.Checked

/-!
Checks that succeed. A document of several parts is accepted as what its parts are accepted as, and a field
as what the value that stands for it is accepted as.
-/

namespace Insights

variable {α β : Type} {f : Checked (α → β)} {g : α → β} {x : Checked α} {a : α}

theorem Checked.map_eq (h : x = .accepted a) : g <$> x = .accepted (g a) := by
  rw [h]
  rfl

theorem Checked.seq_eq (hf : f = .accepted g) (hx : x = .accepted a) : f <*> x = .accepted (g a) := by
  rw [hf, hx]
  rfl

theorem Checked.seq_accepted {b : β} (h : f <*> x = .accepted b) :
    ∃ g a, f = .accepted g ∧ x = .accepted a ∧ g a = b := by
  cases f <;> cases x <;> cases h
  exact ⟨_, _, rfl, rfl, rfl⟩

theorem Checked.map_accepted {b : β} (h : g <$> x = .accepted b) : ∃ a, x = .accepted a ∧ g a = b := by
  cases x <;> cases h
  exact ⟨_, rfl, rfl⟩

/-- Results of checks obey the laws of an applicative functor. -/
instance : LawfulApplicative Checked where
  map_const := rfl
  id_map x := by cases x <;> rfl
  seqLeft_eq x y := by cases x <;> cases y <;> rfl
  seqRight_eq x y := by cases x <;> cases y <;> rfl
  pure_seq g x := by cases x <;> rfl
  map_pure g x := rfl
  seq_pure g x := by cases g <;> rfl
  seq_assoc x g h := by
    cases x <;> cases g <;> cases h
    case refused.refused.refused issues issues' issues'' =>
      exact congrArg Checked.refused (List.append_assoc issues'' issues' issues).symm
    all_goals rfl

theorem Checked.outcome_eq_ok : x.outcome = .ok a ↔ x = .accepted a := by
  cases x with
  | accepted value => exact ⟨fun h => congrArg _ (Except.ok.inj h), fun h => congrArg _ (accepted.inj h)⟩
  | refused issues => exact ⟨nofun, nofun⟩

theorem Checked.outcome_map (g : α → β) (x : Checked α) : (g <$> x).outcome = x.outcome.map g := by
  cases x <;> rfl

theorem Checked.itemsFrom_eq {check : α → Checked β} {items : List α} {results : List β}
    (h : List.Forall₂ (fun item result => check item = .accepted result) items results) (position : Nat) :
    Checked.itemsFrom position check items = .accepted results := by
  induction h generalizing position with
  | nil => rfl
  | cons hfirst _ ih =>
    rw [itemsFrom, hfirst, ih]
    rfl

/-- Items that are each accepted as what they were made from. -/
theorem Checked.items_map (check : α → Checked β) (part : β → α) (h : ∀ b, check (part b) = .accepted b)
    (results : List β) : Checked.items check (results.map part) = .accepted results :=
  itemsFrom_eq (List.forall₂_map_left_iff.mpr (List.forall₂_same.mpr fun result _ => h result)) 0

theorem Checked.under_accepted {step : Step} : x.under step = .accepted a ↔ x = .accepted a := by
  cases x <;> simp [under]

theorem Checked.itemsFrom_accepted {check : α → Checked β} {items : List α} {results : List β}
    {position : Nat} (h : Checked.itemsFrom position check items = .accepted results) :
    List.Forall₂ (fun item result => check item = .accepted result) items results := by
  induction items generalizing position results with
  | nil =>
    cases h
    exact .nil
  | cons item rest ih =>
    obtain ⟨_, others, hfirst, hothers, rfl⟩ := Checked.seq_accepted h
    obtain ⟨first, hitem, rfl⟩ := Checked.map_accepted hfirst
    exact .cons (under_accepted.mp hitem) (ih hothers)

variable {fields : Fields α} {name : FieldKey} {check : α → Checked β} {spelling : String} {b default : β}

theorem Fields.required_of_found (hfind : fields.find? name = some (spelling, a)) :
    fields.required name check = (check a).under (.key spelling) := by
  rw [required, hfind]

theorem Fields.withDefault_of_found (hfind : fields.find? name = some (spelling, a)) :
    fields.withDefault name default check = (check a).under (.key spelling) := by
  rw [withDefault, hfind]

theorem Fields.required_eq (hfind : fields.find? name = some (spelling, a)) (hcheck : check a = .accepted b) :
    fields.required name check = .accepted b := by
  rw [required_of_found hfind, hcheck]
  rfl

theorem Fields.check_of_required (hrequired : fields.required name check = .accepted b)
    (hlookup : fields.lookup name.outer = some a) : check a = .accepted b := by
  have hfind : fields.find? name = some (name.outer, a) := by rw [find?, hlookup]
  rw [required_of_found hfind] at hrequired
  exact Checked.under_accepted.mp hrequired

theorem Fields.withDefault_eq (hfind : fields.find? name = some (spelling, a))
    (hcheck : check a = .accepted b) : fields.withDefault name default check = .accepted b := by
  rw [withDefault_of_found hfind, hcheck]
  rfl

theorem Fields.withDefault_missing (hfind : fields.find? name = none) :
    fields.withDefault name default check = .accepted default := by
  simp only [withDefault, hfind]

/-- A default can be filled in after the check. -/
theorem Fields.withDefault_eq_getD (fields : Fields α) (name : FieldKey) (default : β) (check : α → Checked β) :
    fields.withDefault name default check =
      (·.getD default) <$> fields.withDefault name none fun a => some <$> check a := by
  cases hfind : fields.find? name with
  | none =>
    rw [withDefault_missing hfind, withDefault_missing hfind]
    rfl
  | some found =>
    rw [withDefault_of_found hfind, withDefault_of_found hfind]
    cases check found.2 <;> rfl

end Insights
