import Insights.Proofs.Json.Reading
import Insights.Proofs.Outcome
import Insights.Proofs.Sql.Numeral
import Insights.Query.Predicate
import Insights.Value.Shown

/-!
Values that are written into a document and read again. A value that JSON has no form for comes back as
another one, and where a value is shown inside another the two are shown differently: their shown forms
part at some character, so that no surrounding text makes them alike again.
-/

namespace Insights

/-! ### Texts that part -/

/-- Two texts that begin alike and then differ in a character, so that neither is a beginning of the
other. -/
def Diverge (text text' : List Char) : Prop :=
  ∃ front c c' rest rest', c ≠ c' ∧ text = front ++ c :: rest ∧ text' = front ++ c' :: rest'

section Diverge

variable {text text' : List Char}

theorem diverge_cons {c c' : Char} (h : c ≠ c') (rest rest' : List Char) :
    Diverge (c :: rest) (c' :: rest') :=
  ⟨[], c, c', rest, rest', h, rfl, rfl⟩

theorem Diverge.ne (h : Diverge text text') : text ≠ text' := by
  obtain ⟨front, c, c', rest, rest', hne, rfl, rfl⟩ := h
  intro heq
  exact hne (List.cons.inj (List.append_cancel_left heq)).1

theorem Diverge.append (h : Diverge text text') (behind behind' : List Char) :
    Diverge (text ++ behind) (text' ++ behind') := by
  obtain ⟨front, c, c', rest, rest', hne, rfl, rfl⟩ := h
  refine ⟨front, c, c', rest ++ behind, rest' ++ behind', hne, ?_, ?_⟩
  · rw [List.append_assoc, List.cons_append]
  · rw [List.append_assoc, List.cons_append]

theorem Diverge.prepend (h : Diverge text text') (before : List Char) :
    Diverge (before ++ text) (before ++ text') := by
  obtain ⟨front, c, c', rest, rest', hne, rfl, rfl⟩ := h
  refine ⟨before ++ front, c, c', rest, rest', hne, ?_, ?_⟩
  · rw [List.append_assoc]
  · rw [List.append_assoc]

theorem Diverge.cons (h : Diverge text text') (c : Char) : Diverge (c :: text) (c :: text') :=
  h.prepend [c]

end Diverge

/-- What becomes of something that is shown: it comes back as it was when it is kept, and else as
something whose text parts from its own. -/
structure ComesBack {α : Type} (kept : α → Bool) (text : α → List Char) (item again : α) : Prop where
  same : kept item = true → again = item
  other : kept item = false → Diverge (text item) (text again)

/-- A list is kept when all its items are. -/
theorem ComesBack.list {α : Type} {kept : α → Bool} {text : α → List Char} {items again : List α}
    (h : List.Forall₂ (ComesBack kept text) items again) (separator : List Char) :
    ComesBack (List.all · kept) (fun items => separator.intercalate (items.map text)) items again := by
  induction h with
  | nil => exact ⟨fun _ => rfl, fun hnil => by cases hnil⟩
  | @cons item item' items again hfirst hrest ih =>
    constructor
    · intro hall
      rw [List.all_cons, Bool.and_eq_true] at hall
      rw [hfirst.same hall.1, ih.same hall.2]
    · intro hall
      -- the texts part in the first item that is not kept; all before it are the same
      cases hkept : kept item with
      | true =>
        rw [List.all_cons, hkept, Bool.true_and] at hall
        rw [hfirst.same hkept]
        cases hrest with
        | nil => cases hall
        | cons =>
          simp only [List.map_cons, List.intercalate_cons_cons, List.append_assoc]
          exact ((ih.other hall).prepend separator).prepend (text item)
      | false =>
        have htext := hfirst.other hkept
        cases hrest with
        | nil => simpa using htext
        | cons =>
          simp only [List.map_cons, List.intercalate_cons_cons, List.append_assoc]
          exact htext.append _ _

/-! ### Values inside values -/

namespace Value

theorem everywhereItems_eq (test : Value → Bool) (items : List Value) :
    everywhereItems test items = items.all (everywhere test) := by
  induction items with
  | nil => rfl
  | cons item rest ih => rw [everywhereItems, ih, List.all_cons]

theorem everywhereFields_eq (test : Value → Bool) (fields : List (String × Value)) :
    everywhereFields test fields = fields.all (everywhere test ·.2) := by
  induction fields with
  | nil => rfl
  | cons field rest ih => rw [everywhereFields, ih, List.all_cons]

/-- Whether JSON has a form for a value of this kind. -/
def hasJsonForm : Value → Bool
  | .float x => x.isFinite
  | .decimal _ | .timestamp _ | .date _ | .bytes _ | .custom _ _ _ _ _ => false
  | _ => true

/-- Whether JSON has a form for a value and for everything inside it. -/
def isPlain (value : Value) : Bool :=
  value.everywhere hasJsonForm

/-- Whether what comes back of a value is known by its kind: there is no object of another class in it, and
no object has two fields of one name. -/
def isRegular (value : Value) : Bool :=
  value.everywhere fun
    | .object fields => (fields.map Prod.fst).Nodup
    | .custom _ _ _ _ _ => false
    | _ => true

/-- The form of a field inside an object. -/
def shownField (field : String × Value) : List Char :=
  Text.shown field.1.toList ++ ':' :: ' ' :: field.2.shown

theorem shown_text (s : String) : (text s).shown = Text.shown s.toList :=
  rfl

theorem shown_list (items : List Value) :
    (list items).shown = '[' :: (", ".toList.intercalate (shownItems items) ++ [']']) :=
  rfl

theorem shown_object (fields : List (String × Value)) :
    (object fields).shown = '\x7b' :: (", ".toList.intercalate (shownFields fields) ++ ['\x7d']) :=
  rfl

theorem shownItems_eq (items : List Value) : shownItems items = items.map shown := by
  induction items with
  | nil => rfl
  | cons item rest ih => rw [shownItems, ih, List.map_cons]

theorem shownFields_eq (fields : List (String × Value)) : shownFields fields = fields.map shownField := by
  induction fields with
  | nil => rfl
  | cons field rest ih =>
    rw [shownFields, ih, List.map_cons]
    rfl

/-- What a value inside another one comes back as. -/
abbrev Returns : Value → Value → Prop :=
  ComesBack isPlain shown

theorem returns_self {value : Value} (h : value.isPlain = true) : value.Returns value :=
  ⟨fun _ => rfl, fun hnot => absurd hnot (by simp [h])⟩

theorem isPlain_list (items : List Value) : (list items).isPlain = items.all isPlain := by
  rw [isPlain, everywhere, everywhereItems_eq]
  rfl

theorem isPlain_object (fields : List (String × Value)) :
    (object fields).isPlain = fields.all (fun field => field.2.isPlain) := by
  rw [isPlain, everywhere, everywhereFields_eq]
  rfl

theorem returns_list {items again : List Value} (h : List.Forall₂ Returns items again) :
    (list items).Returns (.list again) := by
  have hitems := ComesBack.list h ", ".toList
  refine ⟨fun hkept => ?_, fun hkept => ?_⟩
  · rw [isPlain_list] at hkept
    rw [hitems.same hkept]
  · rw [isPlain_list] at hkept
    rw [shown_list, shown_list, shownItems_eq, shownItems_eq]
    exact ((hitems.other hkept).append [']'] [']']).cons '['

/-- What a field of an object comes back as: under its name. -/
structure FieldReturns (field again : String × Value) : Prop where
  name : again.1 = field.1
  value : field.2.Returns again.2

theorem FieldReturns.comesBack {field again : String × Value} (h : FieldReturns field again) :
    ComesBack (fun field => field.2.isPlain) shownField field again := by
  obtain ⟨name, value⟩ := field
  obtain ⟨name', value'⟩ := again
  obtain ⟨hname, hvalue⟩ := h
  dsimp only at hname hvalue
  subst hname
  constructor
  · intro hkept
    rw [hvalue.same hkept]
  · intro hkept
    exact (((hvalue.other hkept).cons ' ').cons ':').prepend (Text.shown name'.toList)

theorem returns_object {fields again : List (String × Value)} (h : List.Forall₂ FieldReturns fields again) :
    (object fields).Returns (.object again) := by
  have hfields := ComesBack.list (h.imp fun _ _ h => h.comesBack) ", ".toList
  refine ⟨fun hkept => ?_, fun hkept => ?_⟩
  · rw [isPlain_object] at hkept
    rw [hfields.same hkept]
  · rw [isPlain_object] at hkept
    rw [shown_object, shown_object, shownFields_eq, shownFields_eq]
    exact ((hfields.other hkept).append ['\x7d'] ['\x7d']).cons '\x7b'

theorem returns_text {value : Value} {c : Char} {rest : List Char} (hplain : value.isPlain = false)
    (hshown : value.shown = c :: rest) (hc : c ≠ '\'' ∧ c ≠ '"') (s : String) :
    value.Returns (.text s) := by
  refine ⟨fun hkept => absurd hkept (by simp [hplain]), fun _ => ?_⟩
  rw [hshown, shown_text, Text.shown]
  refine diverge_cons ?_ _ _
  unfold Text.quoteFor
  split
  · exact hc.2
  · exact hc.1

theorem returns_null {value : Value} {c : Char} {rest : List Char} (hplain : value.isPlain = false)
    (hshown : value.shown = c :: rest) (hc : c ≠ 'N') : value.Returns .null := by
  refine ⟨fun hkept => absurd hkept (by simp [hplain]), fun _ => ?_⟩
  rw [hshown]
  exact diverge_cons hc _ _

theorem returns_float (x : Binary64) : (float x).Returns (Json.float x).reread.toValue := by
  cases x with
  | finite negative magnitude => exact returns_self rfl
  | infinite negative =>
    cases negative with
    | true => exact returns_null rfl rfl (by decide)
    | false => exact returns_null rfl rfl (by decide)
  | nan => exact returns_null rfl rfl (by decide)

theorem names_of_innerFields? {fields : List (String × Value)} {documents : List (String × Json)}
    (h : innerFields? fields = some documents) : documents.map Prod.fst = fields.map Prod.fst := by
  induction fields generalizing documents with
  | nil =>
    cases h
    rfl
  | cons field rest ih =>
    obtain ⟨name, value⟩ := field
    simp only [innerFields?, Option.bind_eq_bind, Option.bind_eq_some_iff, Option.pure_def,
      Option.some.injEq] at h
    obtain ⟨first, -, others, hothers, rfl⟩ := h
    rw [List.map_cons, List.map_cons, ih hothers]

theorem isRegular_list (items : List Value) : (list items).isRegular = items.all isRegular := by
  rw [isRegular, everywhere, everywhereItems_eq, Bool.true_and]
  rfl

theorem isRegular_object (fields : List (String × Value)) :
    (object fields).isRegular = true ↔
      (fields.map Prod.fst).Nodup ∧ fields.all (fun field => field.2.isRegular) = true := by
  rw [isRegular, everywhere, everywhereFields_eq, Bool.and_eq_true, decide_eq_true_iff]
  rfl

mutual
/-- A value inside another one is read from its document again. -/
theorem returns_inner : ∀ {value : Value} {document : Json}, value.isRegular = true →
    value.innerJson? = some document → value.Returns document.reread.toValue
  | .null, _, _, rfl | .boolean _, _, _, rfl | .integer _, _, _, rfl | .text _, _, _, rfl => returns_self rfl
  | .float x, _, _, rfl => returns_float x
  | .decimal _, _, _, rfl | .timestamp _, _, _, rfl | .date _, _, _, rfl => returns_text rfl rfl (by decide) _
  | .bytes b, document, _, h => by
    obtain ⟨s, -, rfl⟩ := Option.map_eq_some_iff.mp h
    exact returns_text rfl rfl (by decide) s
  | .list items, _, hregular, h => by
    obtain ⟨documents, hdocuments, rfl⟩ := Option.map_eq_some_iff.mp h
    rw [isRegular_list] at hregular
    exact returns_list (returns_innerItems hregular hdocuments)
  | .object fields, _, hregular, h => by
    obtain ⟨documents, hdocuments, rfl⟩ := Option.map_eq_some_iff.mp h
    rw [isRegular_object] at hregular
    rw [Json.reread_object (names_of_innerFields? hdocuments ▸ hregular.1)]
    exact returns_object (returns_innerFields hregular.2 hdocuments)

theorem returns_innerItems : ∀ {items : List Value} {documents : List Json},
    items.all isRegular = true → innerItems? items = some documents →
      List.Forall₂ Returns items (Json.toValues (Json.rereadItems documents))
  | [], _, _, rfl => .nil
  | item :: rest, _, hregular, h => by
    simp only [innerItems?, Option.bind_eq_bind, Option.bind_eq_some_iff, Option.pure_def,
      Option.some.injEq] at h
    obtain ⟨first, hfirst, others, hothers, rfl⟩ := h
    rw [List.all_cons, Bool.and_eq_true] at hregular
    exact .cons (returns_inner hregular.1 hfirst) (returns_innerItems hregular.2 hothers)

theorem returns_innerFields : ∀ {fields : List (String × Value)} {documents : List (String × Json)},
    fields.all (fun field => field.2.isRegular) = true → innerFields? fields = some documents →
      List.Forall₂ FieldReturns fields (Json.toFields (Json.rereadFields documents))
  | [], _, _, rfl => .nil
  | (name, value) :: rest, _, hregular, h => by
    simp only [innerFields?, Option.bind_eq_bind, Option.bind_eq_some_iff, Option.pure_def,
      Option.some.injEq] at h
    obtain ⟨first, hfirst, others, hothers, rfl⟩ := h
    rw [List.all_cons, Bool.and_eq_true] at hregular
    exact .cons ⟨rfl, returns_inner hregular.1 hfirst⟩ (returns_innerFields hregular.2 hothers)
end

theorem returns_decimal (d : Decimal) (x : Binary64) :
    (decimal d).Returns (Json.float x).reread.toValue := by
  cases hfinite : x.isFinite with
  | true =>
    rw [Json.reread, if_pos hfinite]
    obtain ⟨c, rest, hshown, hc⟩ := (Sql.isNumeral_shown hfinite).exists_cons
    refine ⟨fun hkept => absurd hkept Bool.false_ne_true, fun _ => ?_⟩
    have hfloat : (Json.float x).toValue.shown = c :: rest := hshown
    rw [hfloat]
    refine diverge_cons ?_ _ _
    rintro rfl
    cases hc
  | false =>
    rw [Json.reread, if_neg (by simp [hfinite])]
    exact returns_null rfl rfl (by decide)

theorem returns_operand {value : Value} {document : Json} (hregular : value.isRegular = true)
    (h : value.operandJson? = some document) : value.Returns document.reread.toValue := by
  cases value with
  | timestamp t =>
    obtain ⟨text, -, rfl⟩ := Option.map_eq_some_iff.mp h
    exact returns_text rfl rfl (by decide) _
  | date d =>
    cases h
    exact returns_text rfl rfl (by decide) _
  | decimal d =>
    obtain ⟨x, -, rfl⟩ := Option.map_eq_some_iff.mp h
    exact returns_decimal d x
  | custom => cases hregular
  | _ => exact returns_inner hregular h

theorem returns_operands {items : List Value} {documents : List Json} (hregular : items.all isRegular = true)
    (h : List.Forall₂ (fun item document => item.operandJson? = some document) items documents) :
    List.Forall₂ Returns items (Json.toValues (Json.rereadItems documents)) := by
  induction h with
  | nil => exact .nil
  | cons hfirst _ ih =>
    rw [List.all_cons, Bool.and_eq_true] at hregular
    exact .cons (returns_operand hregular.1 hfirst) (ih hregular.2)

end Value

/-! ### Values that can be written -/

namespace Value

/-- Whether all bytes in a value encode texts, and all objects of other classes have a document. -/
def isEncodable (value : Value) : Bool :=
  value.everywhere fun
    | .bytes b => (Text.ofBytes? b).isSome
    | .custom _ _ _ json _ => json.isSome
    | _ => true

theorem isEncodable_list (items : List Value) : (list items).isEncodable = items.all isEncodable := by
  rw [isEncodable, everywhere, everywhereItems_eq]
  rfl

theorem isEncodable_object (fields : List (String × Value)) :
    (object fields).isEncodable = fields.all (fun field => field.2.isEncodable) := by
  rw [isEncodable, everywhere, everywhereFields_eq]
  rfl

mutual
theorem isSome_innerJson? : ∀ value : Value, value.innerJson?.isSome = value.isEncodable
  | .null | .boolean _ | .integer _ | .float _ | .decimal _ | .timestamp _ | .date _ | .text _
  | .custom _ _ _ _ _ => rfl
  | .bytes _ => Option.isSome_map
  | .list items => by
    rw [innerJson?, Option.isSome_map, isEncodable_list, isSome_innerItems? items]
  | .object fields => by
    rw [innerJson?, Option.isSome_map, isEncodable_object, isSome_innerFields? fields]

theorem isSome_innerItems? : ∀ items : List Value, (innerItems? items).isSome = items.all isEncodable
  | [] => rfl
  | item :: rest => by
    rw [List.all_cons, ← isSome_innerJson? item, ← isSome_innerItems? rest, innerItems?]
    cases item.innerJson? <;> cases innerItems? rest <;> rfl

theorem isSome_innerFields? : ∀ fields : List (String × Value),
    (innerFields? fields).isSome = fields.all fun field => field.2.isEncodable
  | [] => rfl
  | (name, value) :: rest => by
    rw [List.all_cons, ← isSome_innerJson? value, ← isSome_innerFields? rest, innerFields?]
    cases value.innerJson? <;> cases innerFields? rest <;> rfl
end

/-- Whether a value on its own can be compared with in a document: a moment must stay within the calendar
in universal time, and a decimal of any class must not be a signaling one. -/
def isOperand : Value → Bool
  | .timestamp t => t.literal?.isSome
  | .decimal d | .custom (some (.decimal d)) _ _ _ _ => d.toBinary64?.isSome
  | value => value.isEncodable

theorem isSome_operandJson? (value : Value) : value.operandJson?.isSome = value.isOperand := by
  cases value with
  | timestamp t => exact Option.isSome_map
  | decimal d => exact Option.isSome_map
  | date d => rfl
  | custom native =>
    rcases native with - | (- | - | d | -)
    case some.decimal => exact Option.isSome_map
    all_goals exact isSome_innerJson? _
  | _ => exact isSome_innerJson? _

/-- Whether a filter can be written into a document with this value: on its own or, as a list, with
items on their own, and not too deep. -/
def isWritable (value : Value) : Bool :=
  decide (value.depth ≤ depthLimit) && match value with
    | .list items => items.all isOperand
    | value => value.isOperand

end Value

namespace Predicate

variable {document : Json}

theorem operandJson?_list {values : List Value} (h : operandJson? (.list values) = some document) :
    ∃ documents, document = .list documents ∧
      List.Forall₂ (fun value document => value.operandJson? = some document) values documents := by
  unfold operandJson? at h
  split at h
  · cases h
  · obtain ⟨documents, hdocuments, rfl⟩ := Option.map_eq_some_iff.mp h
    exact ⟨documents, rfl, mapM_eq_some.mp hdocuments⟩

theorem isSome_operandJson? (value : Value) : (operandJson? value).isSome = value.isWritable := by
  unfold operandJson? Value.isWritable
  split
  next hdeep => rw [decide_eq_false (Nat.not_le.mpr hdeep), Bool.false_and, Option.isSome_none]
  next hdepth =>
    rw [decide_eq_true (Nat.not_lt.mp hdepth), Bool.true_and]
    cases value with
    | list items =>
      refine Option.isSome_map.trans ((isSome_mapM _ _).trans ?_)
      exact congrArg (items.all ·) (funext Value.isSome_operandJson?)
    | _ => exact Value.isSome_operandJson? _

end Predicate

end Insights
