import Insights.Json.Basic
import Insights.Time.Timestamp

/-!
The values that a filter compares with, a row holds, and a document is made of. Equality is that of
data: two decimals with different digits differ, and the value that is not a number equals itself.
-/

namespace Insights

/-! ### Values -/

/-- What an object is by the built-in class that its own class extends. -/
inductive Native where
  | integer (n : Int)
  | float (x : Binary64)
  | decimal (d : Decimal)
  | text (s : String)
deriving DecidableEq

/-- A cell, a filter value or a document. The fields of an object keep their order. -/
inductive Value where
  | null
  | boolean (b : Bool)
  | integer (n : Int)
  | float (x : Binary64)
  | decimal (d : Decimal)
  | timestamp (t : Timestamp)
  | date (d : Date)
  | text (s : String)
  | bytes (b : Bytes)
  | list (items : List Value)
  | object (fields : List (String × Value))
  /-- An object of any other class, or one whose fields are named by other values than texts, known by what
  becomes of it: the number or the text that it is besides, its text on its own and inside other values, its
  JSON document if it has one, and what a document that keeps the kinds of its values holds in its place,
  unless that is the object itself. -/
  | custom (native : Option Native) (text shown : String) (json : Option Json) (replacement : Option Value)
deriving Inhabited

mutual
/-- Whether two values are the same data. -/
def Value.same : Value → Value → Bool
  | .null, .null => true
  | .boolean a, .boolean b => a == b
  | .integer a, .integer b => a == b
  | .float a, .float b => a == b
  | .decimal a, .decimal b => a == b
  | .timestamp a, .timestamp b => a == b
  | .date a, .date b => a == b
  | .text a, .text b => a == b
  | .bytes a, .bytes b => a == b
  | .list a, .list b => Value.sameItems a b
  | .object a, .object b => Value.sameFields a b
  | .custom n t s j a, .custom n' t' s' j' b =>
    n == n' && t == t' && s == s' && j == j' && Value.sameReplacements a b
  | _, _ => false
termination_by structural a => a

def Value.sameItems : List Value → List Value → Bool
  | [], [] => true
  | a :: as, b :: bs => a.same b && Value.sameItems as bs
  | _, _ => false

def Value.sameFields : List (String × Value) → List (String × Value) → Bool
  | [], [] => true
  | (k, a) :: as, (l, b) :: bs => k == l && a.same b && Value.sameFields as bs
  | _, _ => false

def Value.sameReplacements : Option Value → Option Value → Bool
  | none, none => true
  | some a, some b => a.same b
  | _, _ => false
end

mutual
theorem Value.eq_of_same : ∀ a b : Value, a.same b = true → a = b
  | .null, b, h => by cases b <;> simp_all [Value.same]
  | .boolean _, b, h => by cases b <;> simp_all [Value.same]
  | .integer _, b, h => by cases b <;> simp_all [Value.same]
  | .float _, b, h => by cases b <;> simp_all [Value.same]
  | .decimal _, b, h => by cases b <;> simp_all [Value.same]
  | .timestamp _, b, h => by cases b <;> simp_all [Value.same]
  | .date _, b, h => by cases b <;> simp_all [Value.same]
  | .text _, b, h => by cases b <;> simp_all [Value.same]
  | .bytes _, b, h => by cases b <;> simp_all [Value.same]
  | .list as, b, h => by
    cases b <;> simp_all [Value.same]
    exact Value.eq_of_sameItems as _ h
  | .object as, b, h => by
    cases b <;> simp_all [Value.same]
    exact Value.eq_of_sameFields as _ h
  | .custom _ _ _ _ a, b, h => by
    cases b <;> simp_all [Value.same]
    exact Value.eq_of_sameReplacements a _ h.2

theorem Value.eq_of_sameItems : ∀ as bs : List Value, Value.sameItems as bs = true → as = bs
  | [], bs, h => by cases bs <;> simp_all [Value.sameItems]
  | a :: as, bs, h => by
    cases bs with
    | nil => simp [Value.sameItems] at h
    | cons b bs =>
      simp only [Value.sameItems, Bool.and_eq_true] at h
      rw [Value.eq_of_same a b h.1, Value.eq_of_sameItems as bs h.2]

theorem Value.eq_of_sameFields :
    ∀ as bs : List (String × Value), Value.sameFields as bs = true → as = bs
  | [], bs, h => by cases bs <;> simp_all [Value.sameFields]
  | (k, a) :: as, bs, h => by
    cases bs with
    | nil => simp [Value.sameFields] at h
    | cons b bs =>
      obtain ⟨l, b⟩ := b
      simp only [Value.sameFields, Bool.and_eq_true, beq_iff_eq] at h
      rw [h.1.1, Value.eq_of_same a b h.1.2, Value.eq_of_sameFields as bs h.2]

theorem Value.eq_of_sameReplacements :
    ∀ a b : Option Value, Value.sameReplacements a b = true → a = b
  | none, b, h => by cases b <;> simp_all [Value.sameReplacements]
  | some a, b, h => by
    cases b with
    | none => simp [Value.sameReplacements] at h
    | some b => rw [Value.eq_of_same a b h]
end

mutual
theorem Value.same_self : ∀ a : Value, a.same a = true
  | .null | .boolean _ | .integer _ | .float _ | .decimal _ | .timestamp _ | .date _ | .text _
  | .bytes _ => by simp [Value.same]
  | .list as => by simp [Value.same, Value.sameItems_self as]
  | .object as => by simp [Value.same, Value.sameFields_self as]
  | .custom _ _ _ _ a => by simp [Value.same, Value.sameReplacements_self a]

theorem Value.sameItems_self : ∀ as : List Value, Value.sameItems as as = true
  | [] => rfl
  | a :: as => by simp [Value.sameItems, Value.same_self a, Value.sameItems_self as]

theorem Value.sameFields_self : ∀ as : List (String × Value), Value.sameFields as as = true
  | [] => rfl
  | (k, a) :: as => by simp [Value.sameFields, Value.same_self a, Value.sameFields_self as]

theorem Value.sameReplacements_self : ∀ a : Option Value, Value.sameReplacements a a = true
  | none => rfl
  | some a => by simp [Value.sameReplacements, Value.same_self a]
end

instance : DecidableEq Value := fun a b =>
  if h : a.same b = true then .isTrue (Value.eq_of_same a b h)
  else .isFalse fun e => h (e ▸ Value.same_self a)

/-! ### Objects of other classes -/

/-- A number or a text as a value. -/
def Native.toValue : Native → Value
  | .integer n => .integer n
  | .float x => .float x
  | .decimal d => .decimal d
  | .text s => .text s

/-- What a value is taken for where its own class does not count. -/
def Value.native : Value → Value
  | .custom (some native) _ _ _ _ => native.toValue
  | value => value

/-! ### Values inside values -/

mutual
/-- Whether a test holds of a value and of everything inside it. -/
def Value.everywhere (test : Value → Bool) : Value → Bool
  | .list items => test (.list items) && Value.everywhereItems test items
  | .object fields => test (.object fields) && Value.everywhereFields test fields
  | value => test value

def Value.everywhereItems (test : Value → Bool) : List Value → Bool
  | [] => true
  | item :: rest => item.everywhere test && Value.everywhereItems test rest

def Value.everywhereFields (test : Value → Bool) : List (String × Value) → Bool
  | [] => true
  | (_, value) :: rest => value.everywhere test && Value.everywhereFields test rest
end

end Insights
