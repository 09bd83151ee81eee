import Mathlib.Data.List.Pairwise
import Insights.Dataset.Basic
import Insights.Insight.Basic
import Insights.Proofs.Decode.Checked
import Insights.Proofs.Value.Fields

/-!
Documents under other spellings. The fields of a document may be written with either spelling, at any depth,
as long as no field is given twice. A check that goes by the fields alone then ends as before: it accepts the
same, or it refuses with the same issues at the same places, up to the spelling of the steps that lead there.
-/

namespace Insights

/-! ### Spellings -/

/-- The fields whose spellings differ. -/
def FieldKey.twofold : List FieldKey :=
  [TableField.columnKey, TableField.isIdentifierKey, TableField.isReferenceKey, Table.datasetKey,
    Metric.sourceTableKey, JoinKeys.baseFieldKey, JoinKeys.joinedFieldKey, Join.keysKey, Join.kindKey,
    Insight.baseKey, Insight.selectedFieldsKey, Insight.groupByKey, Insight.orderByKey,
    StorageLocation.kindKey, StorageLocation.locatorKey, Dataset.fieldIdsKey, Dataset.primaryKeyKey,
    Dataset.createdAtKey]

/-- The outer spelling of a name that is the inner one of a field, and any other name as it is. -/
def outerSpelling (name : String) : String :=
  ((FieldKey.twofold.find? (·.inner == name)).map (·.outer)).getD name

namespace FieldKey

variable {key other : FieldKey} {name : String}

/-- Whether a name is one of the spellings of a field. -/
def spells (key : FieldKey) (name : String) : Bool :=
  name == key.outer || name == key.inner

/-- Whether a field is written with one of the spellings. -/
def names {α : Type} (key : FieldKey) (field : String × α) : Bool :=
  key.spells field.1

theorem spells_iff : key.spells name = true ↔ name = key.outer ∨ name = key.inner := by
  simp [spells]

/-- No name spells both fields. -/
def Apart (key other : FieldKey) : Prop :=
  (key.outer ≠ other.outer ∧ key.outer ≠ other.inner) ∧ key.inner ≠ other.outer ∧ key.inner ≠ other.inner

instance (key other : FieldKey) : Decidable (key.Apart other) :=
  inferInstanceAs (Decidable (_ ∧ _))

theorem Apart.symm (h : key.Apart other) : other.Apart key :=
  ⟨⟨h.1.1.symm, h.2.1.symm⟩, h.1.2.symm, h.2.2.symm⟩

theorem Apart.not_spells (h : key.Apart other) (hname : key.spells name = true) : other.spells name = false := by
  rw [← Bool.not_eq_true, spells_iff, not_or]
  rcases spells_iff.mp hname with rfl | rfl
  · exact h.1
  · exact h.2

end FieldKey

/-! ### Results up to spelling -/

def Step.inOuterSpelling : Step → Step
  | .key name => .key (outerSpelling name)
  | step => step

/-- The issue with all names on its path in their outer spellings. -/
def Issue.inOuterSpelling (issue : Issue) : Issue :=
  { issue with path := issue.path.map Step.inOuterSpelling }

def Checked.inOuterSpelling {α : Type} : Checked α → Checked α
  | .accepted a => .accepted a
  | .refused issues => .refused (issues.map Issue.inOuterSpelling)

/-- The fault with all names in its issues in their outer spellings. -/
def Fault.inOuterSpelling : Fault → Fault
  | .rejected issues => .rejected (issues.map Issue.inOuterSpelling)
  | fault => fault

/-- Two checks accept the same, or refuse with the same issues up to the spelling of names. -/
def Checked.Alike {α : Type} (x y : Checked α) : Prop :=
  x.inOuterSpelling = y.inOuterSpelling

namespace Checked

variable {α β γ : Type} {x y : Checked α}

theorem Alike.refl (x : Checked α) : Alike x x :=
  rfl

theorem Alike.of_eq (h : x = y) : Alike x y :=
  h ▸ .refl x

/-- The check of a value that stays as it is. -/
theorem Alike.kept {check : α → Checked β} (a b : α) (h : a = b) : Alike (check a) (check b) :=
  .of_eq (congrArg check h)

theorem inOuterSpelling_map (f : α → β) (x : Checked α) :
    (f <$> x).inOuterSpelling = f <$> x.inOuterSpelling := by
  cases x <;> rfl

theorem inOuterSpelling_seq (f : Checked (α → β)) (x : Checked α) :
    (f <*> x).inOuterSpelling = f.inOuterSpelling <*> x.inOuterSpelling := by
  cases f <;> cases x
  case refused.refused issues more =>
    change refused ((issues ++ more).map _) = refused (issues.map _ ++ more.map _)
    rw [List.map_append]
  all_goals rfl

theorem inOuterSpelling_under (step : Step) (x : Checked α) :
    (x.under step).inOuterSpelling = x.inOuterSpelling.under step.inOuterSpelling := by
  cases x with
  | accepted a => rfl
  | refused issues =>
    simp only [under, inOuterSpelling, List.map_map]
    rfl

theorem Alike.map (f : α → β) (h : Alike x y) : Alike (f <$> x) (f <$> y) := by
  rw [Alike, inOuterSpelling_map, inOuterSpelling_map, h]

theorem Alike.seq {f g : Checked (α → β)} (hf : Alike f g) (h : Alike x y) : Alike (f <*> x) (g <*> y) := by
  rw [Alike, inOuterSpelling_seq, inOuterSpelling_seq, hf, h]

theorem Alike.under {step other : Step} (h : Alike x y) (hstep : step.inOuterSpelling = other.inOuterSpelling) :
    Alike (x.under step) (y.under other) := by
  rw [Alike, inOuterSpelling_under, inOuterSpelling_under, h, hstep]

theorem Alike.outcome (h : Alike x y) :
    x.outcome.mapError Fault.inOuterSpelling = y.outcome.mapError Fault.inOuterSpelling := by
  have houtcome (x : Checked α) : x.outcome.mapError Fault.inOuterSpelling = x.inOuterSpelling.outcome := by
    cases x <;> rfl
  rw [houtcome, houtcome, h]

/-- Lists are checked alike when their items are. -/
theorem Alike.items {R : α → α → Prop} {check : α → Checked β} (hcheck : ∀ a b, R a b → Alike (check a) (check b))
    {list other : List α} (h : List.Forall₂ R list other) : Alike (items check list) (items check other) := by
  suffices hfrom : ∀ position, Alike (itemsFrom position check list) (itemsFrom position check other) from hfrom 0
  induction h with
  | nil => exact fun _ => .refl _
  | cons hfirst _ ih =>
    intro position
    exact (((hcheck _ _ hfirst).under rfl).map List.cons).seq (ih (position + 1))

end Checked

/-! ### Fields that are respelt -/

/-- A field of a kind of document, with what its value may be respelt as. -/
structure FieldSchema where
  key : FieldKey
  Respelt : Value → Value → Prop

/-- The fields of a kind of document. No name spells two of them. -/
structure Schema where
  parts : List FieldSchema
  apart : (parts.map (·.key)).Pairwise FieldKey.Apart
  outer_eq : ∀ key ∈ parts.map (·.key), outerSpelling key.outer = outerSpelling key.inner

/-- A field stays as it is, or it is written with another spelling and with a respelt value. -/
inductive Schema.FieldRespelt (schema : Schema) : String × Value → String × Value → Prop where
  | same (field : String × Value) : FieldRespelt schema field field
  | spelt {part : FieldSchema} (hpart : part ∈ schema.parts) {name other : String} {value respelt : Value}
      (hname : part.key.spells name = true) (hother : part.key.spells other = true)
      (hvalue : part.Respelt value respelt) : FieldRespelt schema (name, value) (other, respelt)

/-- The fields of a document are respelt one by one. No field of the schema is given twice. -/
structure Schema.Respelt (schema : Schema) (fields others : Fields Value) : Prop where
  once : ∀ part ∈ schema.parts, fields.countP part.key.names ≤ 1
  each : List.Forall₂ schema.FieldRespelt fields others

/-- A document of a schema stays as it is, or its fields are respelt. -/
inductive Schema.DocumentRespelt (schema : Schema) : Value → Value → Prop where
  | same (value : Value) : DocumentRespelt schema value value
  | fields {fields others : Fields Value} (h : schema.Respelt fields others) :
      DocumentRespelt schema (.object fields) (.object others)

/-- A list stays as it is, or its items are respelt. -/
inductive ListRespelt (R : Value → Value → Prop) : Value → Value → Prop where
  | same (value : Value) : ListRespelt R value value
  | items {items others : List Value} (h : List.Forall₂ R items others) :
      ListRespelt R (.list items) (.list others)

namespace Fields

variable {α : Type} {fields : Fields α} {key : FieldKey} {name : String} {value : α}

theorem lookup_eq_none (h : fields.countP key.names = 0)
    (hname : key.spells name = true) : fields.lookup name = none := by
  rw [List.countP_eq_zero] at h
  rw [List.lookup_eq_none_iff]
  intro field hfield
  have hnames : ¬ key.spells field.1 = true := h field hfield
  rw [bne_iff_ne]
  rintro rfl
  exact hnames hname

/-- A field that is given at most once is found as the only field that a spelling names. -/
theorem find?_eq_of_once (h : fields.countP key.names ≤ 1) :
    fields.find? key = List.find? key.names fields := by
  induction fields with
  | nil => rfl
  | cons field rest ih =>
    obtain ⟨name, value⟩ := field
    by_cases hname : key.names (name, value) = true
    · have hrest : rest.countP key.names = 0 := by
        rw [List.countP_cons, if_pos hname] at h
        omega
      have houter := lookup_eq_none hrest (FieldKey.spells_iff.mpr (.inl rfl))
      rw [List.find?_cons_of_pos hname, find?, lookup_cons, lookup_cons]
      rcases FieldKey.spells_iff.mp hname with heq | heq
      · simp [← heq]
      · by_cases hboth : key.outer = name
        · simp [hboth]
        · simp [hboth, houter, ← heq]
    · have houter : ¬ key.outer = name := fun heq => hname (FieldKey.spells_iff.mpr (.inl heq.symm))
      have hinner : ¬ key.inner = name := fun heq => hname (FieldKey.spells_iff.mpr (.inr heq.symm))
      have hrest : rest.countP key.names ≤ 1 := by
        rwa [List.countP_cons, if_neg hname] at h
      rw [List.find?_cons_of_neg hname, ← ih hrest]
      rw [find?, find?, lookup_cons, lookup_cons, if_neg houter, if_neg hinner]

/-- Of a field that is given at most once, it makes no difference which spelling is looked up first. -/
theorem find?_swap (h : fields.countP key.names ≤ 1) :
    fields.find? ⟨key.inner, key.outer⟩ = fields.find? key := by
  have hnames : (FieldKey.mk key.inner key.outer).names = (key.names : String × α → Bool) :=
    funext fun _ => Bool.or_comm _ _
  rw [find?_eq_of_once h, ← hnames]
  exact find?_eq_of_once (hnames ▸ h)

theorem find?_map {β : Type} (f : α → β) (key : FieldKey) (fields : Fields α) :
    find? (fields.map fun (name, value) => (name, f value)) key =
      (fields.find? key).map fun (name, value) => (name, f value) := by
  rw [find?, find?, lookup_map, lookup_map]
  cases fields.lookup key.outer <;> cases fields.lookup key.inner <;> rfl

theorem required_eq_elim {β : Type} (fields : Fields α) (key : FieldKey) (check : α → Checked β) :
    fields.required key check = (fields.find? key).elim (.refused [⟨[.key key.outer], .missing⟩])
      fun field => (check field.2).under (.key field.1) := by
  rw [required]
  cases fields.find? key <;> rfl

theorem withDefault_eq_elim {β : Type} (fields : Fields α) (key : FieldKey) (default : β)
    (check : α → Checked β) :
    fields.withDefault key default check = (fields.find? key).elim (.accepted default)
      fun field => (check field.2).under (.key field.1) := by
  rw [withDefault]
  cases fields.find? key <;> rfl

end Fields

namespace Schema

variable {schema : Schema} {part : FieldSchema} {fields others : Fields Value} {field other : String × Value}

theorem eq_of_spells {part' : FieldSchema} {name : String} (hpart : part ∈ schema.parts)
    (hpart' : part' ∈ schema.parts) (hname : part.key.spells name = true)
    (hname' : part'.key.spells name = true) : part = part' := by
  by_contra hne
  have hapart : schema.parts.Pairwise fun part part' => part.key.Apart part'.key :=
    List.pairwise_map.mp schema.apart
  have : Std.Symm fun part part' : FieldSchema => part.key.Apart part'.key := ⟨fun _ _ h => h.symm⟩
  have hneither : part'.key.spells name = false := (hapart.forall hpart hpart' hne).not_spells hname
  rw [hname'] at hneither
  cases hneither

/-- The names of a respelt field are spellings of the same fields. -/
theorem FieldRespelt.names_eq (h : schema.FieldRespelt field other) (hpart : part ∈ schema.parts) :
    part.key.names other = part.key.names field := by
  cases h with
  | same => rfl
  | spelt hpart' hname hother =>
    rw [Bool.eq_iff_iff]
    constructor
    · intro h
      rwa [FieldKey.names, eq_of_spells hpart hpart' h hother]
    · intro h
      rwa [FieldKey.names, eq_of_spells hpart hpart' h hname]

theorem Respelt.once_others (h : schema.Respelt fields others) (hpart : part ∈ schema.parts) :
    others.countP part.key.names ≤ 1 := by
  obtain ⟨honce, heach⟩ := h
  have hsame : others.countP part.key.names = fields.countP part.key.names := by
    clear honce
    induction heach with
    | nil => rfl
    | cons hfirst _ ih => rw [List.countP_cons, List.countP_cons, ih, hfirst.names_eq hpart]
  rw [hsame]
  exact honce part hpart

/-- What a field of the schema is found as, before and after. -/
inductive FoundRespelt (part : FieldSchema) : Option (String × Value) → Option (String × Value) → Prop where
  | missing : FoundRespelt part none none
  | same (name : String) (value : Value) : FoundRespelt part (some (name, value)) (some (name, value))
  | spelt {name other : String} {value respelt : Value} (hname : part.key.spells name = true)
      (hother : part.key.spells other = true) (hvalue : part.Respelt value respelt) :
      FoundRespelt part (some (name, value)) (some (other, respelt))

theorem Respelt.find? (h : schema.Respelt fields others) (hpart : part ∈ schema.parts) :
    FoundRespelt part (fields.find? part.key) (others.find? part.key) := by
  rw [Fields.find?_eq_of_once (h.once part hpart), Fields.find?_eq_of_once (h.once_others hpart)]
  obtain ⟨-, heach⟩ := h
  induction heach with
  | nil => exact .missing
  | @cons field other _ _ hfirst _ ih =>
    have hnames := hfirst.names_eq hpart
    by_cases hname : part.key.names field = true
    · rw [List.find?_cons_of_pos hname, List.find?_cons_of_pos (hnames.trans hname)]
      cases hfirst with
      | same => exact .same _ _
      | spelt hpart' hname' hother hvalue =>
        obtain rfl := eq_of_spells hpart hpart' hname hname'
        exact .spelt hname' hother hvalue
    · rw [List.find?_cons_of_neg hname, List.find?_cons_of_neg (hnames ▸ hname)]
      exact ih

theorem outerSpelling_of_spells {name : String} (hpart : part ∈ schema.parts)
    (hname : part.key.spells name = true) : outerSpelling name = outerSpelling part.key.outer := by
  rcases FieldKey.spells_iff.mp hname with rfl | rfl
  · rfl
  · exact (schema.outer_eq _ (List.mem_map_of_mem hpart)).symm

variable {β : Type} {check : Value → Checked β}

/-- What is found goes through a check in the same way, and so does what is missing. -/
theorem FoundRespelt.alike {found found' : Option (String × Value)} (h : FoundRespelt part found found')
    (hpart : part ∈ schema.parts) (hcheck : ∀ v w, part.Respelt v w → (check v).Alike (check w))
    (missing : Checked β) :
    Checked.Alike (found.elim missing fun field => (check field.2).under (.key field.1))
      (found'.elim missing fun field => (check field.2).under (.key field.1)) := by
  cases h with
  | missing => exact .refl _
  | same => exact .refl _
  | spelt hname hother hvalue =>
    have hstep := (outerSpelling_of_spells hpart hname).trans (outerSpelling_of_spells hpart hother).symm
    exact (hcheck _ _ hvalue).under (congrArg Step.key hstep)

theorem Respelt.required (h : schema.Respelt fields others) (part : FieldSchema) (hpart : part ∈ schema.parts)
    (hcheck : ∀ v w, part.Respelt v w → (check v).Alike (check w)) :
    (fields.required part.key check).Alike (others.required part.key check) := by
  rw [Fields.required_eq_elim, Fields.required_eq_elim]
  exact (h.find? hpart).alike hpart hcheck _

theorem Respelt.withDefault (h : schema.Respelt fields others) (part : FieldSchema) (hpart : part ∈ schema.parts)
    (default : β) (hcheck : ∀ v w, part.Respelt v w → (check v).Alike (check w)) :
    (fields.withDefault part.key default check).Alike (others.withDefault part.key default check) := by
  rw [Fields.withDefault_eq_elim, Fields.withDefault_eq_elim]
  exact (h.find? hpart).alike hpart hcheck _

/-- Documents are checked alike when their fields are. -/
theorem DocumentRespelt.object {value respelt : Value} {check : Fields Value → Checked β}
    (h : schema.DocumentRespelt value respelt)
    (hcheck : ∀ fields others, schema.Respelt fields others → (check fields).Alike (check others)) :
    (Check.object check value).Alike (Check.object check respelt) := by
  cases h with
  | same => exact .refl _
  | fields h => exact hcheck _ _ h

end Schema

/-- Lists are checked alike when their items are. -/
theorem ListRespelt.list {β : Type} {R : Value → Value → Prop} {check : Value → Checked β} {value respelt : Value}
    (h : ListRespelt R value respelt) (hcheck : ∀ v w, R v w → (check v).Alike (check w)) :
    (Check.list check value).Alike (Check.list check respelt) := by
  cases h with
  | same => exact .refl _
  | items h => exact .items hcheck h

end Insights
