import Insights.Number.Decimal
import Insights.Text.Bytes

/-!
JSON documents and their texts.
-/

namespace Insights

/-! ### Fields -/

/-- Named values in the order in which the names first came. -/
abbrev Fields (α : Type) := List (String × α)

/-- Gives a name a value: in its place when the name is there, and else at the end. -/
def Fields.put {α : Type} (name : String) (value : α) : Fields α → Fields α
  | [] => [(name, value)]
  | (n, v) :: rest => if n = name then (n, value) :: rest else (n, v) :: Fields.put name value rest

/-- The fields with those of a second list laid over them. -/
def Fields.overlay {α : Type} (fields changes : Fields α) : Fields α :=
  changes.foldl (fun fields (name, value) => Fields.put name value fields) fields

/-! ### Documents -/

inductive Json where
  | null
  | boolean (b : Bool)
  | integer (n : Int)
  | float (x : Binary64)
  | text (s : String)
  | list (items : List Json)
  | object (fields : List (String × Json))
deriving Inhabited

mutual
/-- Whether two documents are the same data. -/
def Json.same : Json → Json → Bool
  | .null, .null => true
  | .boolean a, .boolean b => a == b
  | .integer a, .integer b => a == b
  | .float a, .float b => a == b
  | .text a, .text b => a == b
  | .list a, .list b => Json.sameItems a b
  | .object a, .object b => Json.sameFields a b
  | _, _ => false

def Json.sameItems : List Json → List Json → Bool
  | [], [] => true
  | a :: as, b :: bs => a.same b && Json.sameItems as bs
  | _, _ => false

def Json.sameFields : List (String × Json) → List (String × Json) → Bool
  | [], [] => true
  | (k, a) :: as, (l, b) :: bs => k == l && a.same b && Json.sameFields as bs
  | _, _ => false
end

mutual
theorem Json.eq_of_same : ∀ a b : Json, a.same b = true → a = b
  | .null, b, h => by cases b <;> simp_all [Json.same]
  | .boolean _, b, h => by cases b <;> simp_all [Json.same]
  | .integer _, b, h => by cases b <;> simp_all [Json.same]
  | .float _, b, h => by cases b <;> simp_all [Json.same]
  | .text _, b, h => by cases b <;> simp_all [Json.same]
  | .list as, b, h => by
    cases b <;> simp_all [Json.same]
    exact Json.eq_of_sameItems as _ h
  | .object as, b, h => by
    cases b <;> simp_all [Json.same]
    exact Json.eq_of_sameFields as _ h

theorem Json.eq_of_sameItems : ∀ as bs : List Json, Json.sameItems as bs = true → as = bs
  | [], bs, h => by cases bs <;> simp_all [Json.sameItems]
  | a :: as, bs, h => by
    cases bs with
    | nil => simp [Json.sameItems] at h
    | cons b bs =>
      simp only [Json.sameItems, Bool.and_eq_true] at h
      rw [Json.eq_of_same a b h.1, Json.eq_of_sameItems as bs h.2]

theorem Json.eq_of_sameFields :
    ∀ as bs : List (String × Json), Json.sameFields as bs = true → as = bs
  | [], bs, h => by cases bs <;> simp_all [Json.sameFields]
  | (k, a) :: as, bs, h => by
    cases bs with
    | nil => simp [Json.sameFields] at h
    | cons b bs =>
      obtain ⟨l, b⟩ := b
      simp only [Json.sameFields, Bool.and_eq_true, beq_iff_eq] at h
      rw [h.1.1, Json.eq_of_same a b h.1.2, Json.eq_of_sameFields as bs h.2]
end

mutual
theorem Json.same_self : ∀ a : Json, a.same a = true
  | .null | .boolean _ | .integer _ | .float _ | .text _ => by simp [Json.same]
  | .list as => by simp [Json.same, Json.sameItems_self as]
  | .object as => by simp [Json.same, Json.sameFields_self as]

theorem Json.sameItems_self : ∀ as : List Json, Json.sameItems as as = true
  | [] => rfl
  | a :: as => by simp [Json.sameItems, Json.same_self a, Json.sameItems_self as]

theorem Json.sameFields_self : ∀ as : List (String × Json), Json.sameFields as as = true
  | [] => rfl
  | (k, a) :: as => by simp [Json.sameFields, Json.same_self a, Json.sameFields_self as]
end

instance : DecidableEq Json := fun a b =>
  if h : a.same b = true then .isTrue (Json.eq_of_same a b h)
  else .isFalse fun e => h (e ▸ Json.same_self a)

/-! ### Texts

The compact text of a JSON document: no blanks, the fields in their order, and only those characters
escaped that must be. A number that is not finite has no spelling and is written as null. -/

/-- One character between the quotes of a JSON text. -/
def Json.escaped (c : Char) : List Char :=
  if c = '"' then ['\\', '"']
  else if c = '\\' then ['\\', '\\']
  else if c = '\x08' then ['\\', 'b']
  else if c = '\x0c' then ['\\', 'f']
  else if c = '\n' then ['\\', 'n']
  else if c = '\r' then ['\\', 'r']
  else if c = '\t' then ['\\', 't']
  else if c.toNat < 0x20 then '\\' :: 'u' :: Text.hex 4 c.toNat
  else [c]

def Json.quoted (text : String) : List Char :=
  '"' :: (text.toList.flatMap escaped ++ ['"'])

def Json.number : Binary64 → List Char
  | .finite negative magnitude => jsonLayout.finite negative magnitude
  | _ => "null".toList

mutual
def Json.render : Json → List Char
  | .null => "null".toList
  | .boolean true => "true".toList
  | .boolean false => "false".toList
  | .integer n => integerDigits n
  | .float x => Json.number x
  | .text s => Json.quoted s
  | .list items => '[' :: ([','].intercalate (Json.renderItems items) ++ [']'])
  | .object fields => '\x7b' :: ([','].intercalate (Json.renderFields fields) ++ ['\x7d'])

def Json.renderItems : List Json → List (List Char)
  | [] => []
  | item :: rest => item.render :: Json.renderItems rest

def Json.renderFields : List (String × Json) → List (List Char)
  | [] => []
  | (name, item) :: rest => (Json.quoted name ++ ':' :: item.render) :: Json.renderFields rest
end

end Insights
