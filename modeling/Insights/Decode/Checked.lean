import Insights.Fault

/-!
Checks of documents: what a check comes to, and how the fields of an object are looked up for it.
-/

namespace Insights

/-! ### Results

Results of checking a document. A part is accepted as a value or refused with its issues, and where
several parts are checked side by side the issues of all of them are kept, in the order of the parts. -/

inductive Checked (α : Type) where
  | accepted (value : α)
  | refused (issues : List Issue)
deriving DecidableEq

namespace Checked

variable {α β γ : Type}

def map (f : α → β) : Checked α → Checked β
  | accepted a => accepted (f a)
  | refused issues => refused issues

/-- Checks two parts side by side. -/
def apply (f : Checked (α → β)) (x : Checked α) : Checked β :=
  match f, x with
  | accepted f, accepted a => accepted (f a)
  | accepted _, refused issues => refused issues
  | refused issues, accepted _ => refused issues
  | refused issues, refused more => refused (issues ++ more)

instance : Functor Checked where
  map := map

instance : Applicative Checked where
  pure := accepted
  seq f x := apply f (x ())

/-- A single refusal of the whole part. -/
def refuse (refusal : Refusal) : Checked α :=
  refused [⟨[], refusal⟩]

/-- The result for a part seen from the document that it is a part of. -/
def under (step : Step) : Checked α → Checked α
  | accepted a => accepted a
  | refused issues => refused (issues.map fun issue => { issue with path := step :: issue.path })

/-- Checks the items of a list side by side, from a position on. -/
def itemsFrom (position : Nat) (check : α → Checked β) : List α → Checked (List β)
  | [] => accepted []
  | item :: rest =>
    apply (map List.cons ((check item).under (.index position))) (itemsFrom (position + 1) check rest)

/-- Checks the items of a list side by side. -/
def items (check : α → Checked β) (list : List α) : Checked (List β) :=
  itemsFrom 0 check list

/-- A further check of what has been accepted. -/
def andThen (x : Checked α) (check : α → Checked β) : Checked β :=
  match x with
  | accepted a => check a
  | refused issues => refused issues

/-- The result as an outcome: refused parts become one fault. -/
def outcome : Checked α → Except Fault α
  | accepted a => .ok a
  | refused issues => .error (.rejected issues)

end Checked

/-! ### Fields

Fields of an object under two spellings. Documents are written with the outer spelling; on reading
either will do, and the outer one counts when both are there. An issue is reported under the spelling
that was found, and under the outer one when the field is missing. -/

/-- The two spellings of a field. -/
structure FieldKey where
  outer : String
  inner : String
deriving DecidableEq, Repr

/-- A field whose two spellings agree. -/
def FieldKey.same (name : String) : FieldKey :=
  ⟨name, name⟩

/-- The value of a field with the spelling under which it stands. -/
def Fields.find? {α : Type} (fields : Fields α) (name : FieldKey) : Option (String × α) :=
  match fields.lookup name.outer with
  | some value => some (name.outer, value)
  | none => (fields.lookup name.inner).map fun value => (name.inner, value)

/-- Checks a field that must be there. -/
def Fields.required {α β : Type} (fields : Fields α) (name : FieldKey) (check : α → Checked β) :
    Checked β :=
  match fields.find? name with
  | some (spelling, value) => (check value).under (.key spelling)
  | none => .refused [⟨[.key name.outer], .missing⟩]

/-- Checks a field that stands for a default when it is missing. -/
def Fields.withDefault {α β : Type} (fields : Fields α) (name : FieldKey) (default : β)
    (check : α → Checked β) : Checked β :=
  match fields.find? name with
  | some (spelling, value) => (check value).under (.key spelling)
  | none => .accepted default

end Insights
