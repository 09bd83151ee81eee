import Insights.Proofs.Value.Fields
import Insights.Proofs.Value.Reread

/-!
The literals of values that are written into a document and read again. What is read always has a literal.
Whether it is the literal of the value itself is decided by the kind of the value, unless objects of other
classes are part of it: of those it is known only what their documents are.
-/

namespace Insights

/-! ### Values that are read have a literal -/

section Printable

/-- Fields that are laid over others leave no values but those of either. -/
theorem Fields.forall_overlay {α : Type} {P : α → Prop} {fields changes : Fields α}
    (hfields : ∀ field ∈ fields, P field.2) (hchanges : ∀ field ∈ changes, P field.2) :
    ∀ field ∈ fields.overlay changes, P field.2 := by
  induction changes generalizing fields with
  | nil => exact hfields
  | cons change rest ih =>
    rw [List.forall_mem_cons] at hchanges
    refine ih (fun field hfield => ?_) hchanges.2
    rcases mem_put hfield with hnew | hold
    · exact hnew ▸ hchanges.1
    · exact hfields field hold

theorem Json.toFields_eq (fields : Fields Json) :
    toFields fields = fields.map fun field => (field.1, field.2.toValue) := by
  induction fields with
  | nil => rfl
  | cons field rest ih => rw [toFields, ih, List.map_cons]

theorem Value.isPrintable_list (items : List Value) :
    (list items).isPrintable = items.all isPrintable := by
  rw [isPrintable, everywhere, everywhereItems_eq]
  rfl

theorem Value.isPrintable_object (fields : List (String × Value)) :
    (object fields).isPrintable = fields.all (fun field => field.2.isPrintable) := by
  rw [isPrintable, everywhere, everywhereFields_eq]
  rfl

mutual
/-- An integer that was read is short enough to be written. -/
theorem Json.isPrintable_reread : ∀ {d : Json}, d.isReadable = true → d.reread.toValue.isPrintable = true
  | .null, _ | .boolean _, _ | .text _, _ => rfl
  | .integer _, h => h
  | .float x, _ => by
    rw [reread]
    split <;> rfl
  | .list items, h => by
    rw [reread, toValue, Value.isPrintable_list]
    exact arePrintable_reread h
  | .object fields, h => by
    rw [reread, toValue, Value.isPrintable_object, toFields_eq, List.all_map, List.all_eq_true]
    exact Fields.forall_overlay (P := fun d : Json => d.toValue.isPrintable = true) (by simp) (havePrintable_reread h)

theorem Json.arePrintable_reread : ∀ {items : List Json}, areReadable items = true →
    (toValues (rereadItems items)).all Value.isPrintable = true
  | [], _ => rfl
  | item :: rest, h => by
    rw [areReadable, Bool.and_eq_true] at h
    rw [rereadItems, toValues, List.all_cons, isPrintable_reread h.1, arePrintable_reread h.2]
    rfl

theorem Json.havePrintable_reread : ∀ {fields : List (String × Json)}, haveReadable fields = true →
    ∀ field ∈ rereadFields fields, field.2.toValue.isPrintable = true
  | [], _ => nofun
  | (name, item) :: rest, h => by
    rw [haveReadable, Bool.and_eq_true] at h
    rw [rereadFields, List.forall_mem_cons]
    exact ⟨isPrintable_reread h.1, havePrintable_reread h.2⟩
end

theorem Value.exists_literal {value : Value} (literalOf : Value → Sql.Literal)
    (hkind : Sql.Literal.ofValue value = value.written.map literalOf) (h : value.isPrintable = true) :
    ∃ literal, Sql.Literal.ofValue value = .ok literal := by
  rw [hkind, written, if_pos h]
  exact ⟨_, rfl⟩

theorem Json.exists_literal {d : Json} (h : d.isReadable = true) :
    ∃ literal, Sql.Literal.ofValue d.reread.toValue = .ok literal := by
  have hprintable := isPrintable_reread h
  cases d with
  | null | boolean => exact ⟨_, rfl⟩
  | float x =>
    rw [reread]
    split
    next hfinite => exact ⟨_, if_pos hfinite⟩
    next => exact ⟨_, rfl⟩
  | integer => exact Value.exists_literal (fun value => .number (String.ofList value.plain)) rfl hprintable
  | text | list | object =>
    exact Value.exists_literal (fun value => .text (String.ofList value.plain)) rfl hprintable

end Printable

/-! ### Values that keep their literal -/

/-- Whether the binary number nearest to a decimal is written as the decimal itself is. -/
def Decimal.isExact (d : Decimal) : Bool :=
  match d.toBinary64? with
  | some x => x.isFinite && x.shown == d.text
  | none => false

namespace Value

/-- Whether the kind of a value is one whose literal comes back. -/
def kindKeepsLiteral : Value → Bool
  | .decimal d => d.isExact
  | .bytes _ => false
  | .list items => (list items).isPlain
  | .object fields => (object fields).isPlain
  | _ => true

/-- Whether a value that is compared with comes back from its document as one with the same literal. Where
the kinds of its parts do not tell, what comes back is looked at. -/
def keepsLiteral (document? : Option Json) (value : Value) : Bool :=
  if value.isRegular then value.kindKeepsLiteral
  else document?.any fun document =>
    decide (Sql.Literal.ofValue document.reread.toValue = Sql.Literal.ofValue value)

/-- Two literals of a value before and after are the same exactly when its kind keeps it. -/
def LiteralReturns (value again : Value) : Prop :=
  ∀ literal literal', Sql.Literal.ofValue value = .ok literal → Sql.Literal.ofValue again = .ok literal' →
    (literal' = literal ↔ value.kindKeepsLiteral = true)

theorem literalReturns_self {value : Value} (h : value.kindKeepsLiteral = true) :
    value.LiteralReturns value := by
  intro literal literal' hliteral hliteral'
  obtain rfl := Except.ok.inj (hliteral.symm.trans hliteral')
  exact iff_of_true rfl h

theorem eq_text_of_written {value : Value} (hkind : Sql.Literal.ofValue value =
    value.written.map fun value => .text (String.ofList value.plain)) {literal : Sql.Literal}
    (h : Sql.Literal.ofValue value = .ok literal) : literal = .text (String.ofList value.plain) := by
  obtain ⟨written, hwritten, rfl⟩ := map_eq_ok.mp (hkind.symm.trans h)
  rw [eq_of_written hwritten]

theorem literalReturns_shown {value again : Value} (h : value.Returns again)
    (hvalue : ∀ literal, Sql.Literal.ofValue value = .ok literal → literal = .text (String.ofList value.shown))
    (hagain : ∀ literal, Sql.Literal.ofValue again = .ok literal → literal = .text (String.ofList again.shown))
    (hkeeps : value.kindKeepsLiteral = value.isPlain) : value.LiteralReturns again := by
  intro literal literal' hliteral hliteral'
  obtain rfl := hvalue literal hliteral
  obtain rfl := hagain literal' hliteral'
  rw [hkeeps]
  constructor
  · intro heq
    cases hplain : value.isPlain with
    | true => rfl
    | false =>
      have hshown := String.ofList_injective (Sql.Literal.text.inj heq)
      exact absurd hshown.symm (h.other hplain).ne
  · intro hplain
    rw [h.same hplain]

theorem literalReturns_float {x : Binary64} : (float x).LiteralReturns (Json.float x).reread.toValue := by
  intro literal literal' hliteral hliteral'
  cases hfinite : x.isFinite with
  | true =>
    rw [Json.reread, if_pos hfinite] at hliteral'
    exact literalReturns_self rfl literal literal' hliteral hliteral'
  | false =>
    have hnone : Sql.Literal.ofValue (float x) = .error (.nonFinite (float x)) :=
      if_neg (by simp [hfinite])
    rw [hnone] at hliteral
    cases hliteral

theorem literalReturns_decimal {d : Decimal} {x : Binary64} (h : d.toBinary64? = some x) :
    (decimal d).LiteralReturns (Json.float x).reread.toValue := by
  intro literal literal' hliteral hliteral'
  have hvalue : Sql.Literal.ofValue (decimal d) =
      if d.isFinite then .ok (.number (String.ofList d.text)) else .error (.nonFinite (decimal d)) := rfl
  rw [hvalue] at hliteral
  split at hliteral
  · obtain rfl := Except.ok.inj hliteral
    rw [kindKeepsLiteral, Decimal.isExact, h]
    cases hfinite : x.isFinite with
    | true =>
      rw [Json.reread, if_pos hfinite] at hliteral'
      have hagain : Sql.Literal.ofValue (float x) = .ok (.number (String.ofList x.shown)) := if_pos hfinite
      obtain rfl := Except.ok.inj (hagain.symm.trans hliteral')
      simp [hfinite, String.ofList_inj]
    | false =>
      rw [Json.reread, if_neg (by simp [hfinite])] at hliteral'
      obtain rfl := Except.ok.inj hliteral'
      simp [hfinite]
  · cases hliteral

theorem eq_text_of_text {s : String} {literal : Sql.Literal}
    (h : Sql.Literal.ofValue (text s) = .ok literal) : literal = .text s := by
  have hliteral := eq_text_of_written rfl h
  rwa [plain, String.ofList_toList] at hliteral

theorem literalReturns_text {value : Value} {s : String} (hkeeps : value.kindKeepsLiteral = true)
    (hvalue : ∀ literal, Sql.Literal.ofValue value = .ok literal → literal = .text s) :
    value.LiteralReturns (.text s) := by
  intro literal literal' hliteral hliteral'
  obtain rfl := hvalue literal hliteral
  exact iff_of_true (eq_text_of_text hliteral') hkeeps

theorem literalReturns_timestamp {t : Timestamp} {text : List Char} (h : t.literal? = some text) :
    (timestamp t).LiteralReturns (.text (String.ofList text)) := by
  refine literalReturns_text rfl fun literal hliteral => ?_
  have hvalue : Sql.Literal.ofValue (timestamp t) =
      (orFault .outOfRange t.literal?).map fun text => .text (String.ofList text) := rfl
  rw [hvalue, h] at hliteral
  exact (Except.ok.inj hliteral).symm

theorem length_le_size_utf8Encode (text : List Char) : text.length ≤ text.utf8Encode.size := by
  induction text with
  | nil => exact Nat.zero_le _
  | cons c rest ih =>
    have hpos := c.utf8Size_pos
    rw [List.utf8Encode_cons, ByteArray.size_append, List.length_cons]
    have hsize : [c].utf8Encode.size = c.utf8Size := by
      rw [List.utf8Encode_singleton, List.size_toByteArray, String.length_utf8EncodeChar]
    omega

theorem length_le_of_ofBytes? {b : Bytes} {s : String} (h : Text.ofBytes? b = some s) :
    s.toList.length ≤ b.length := by
  unfold Text.ofBytes? String.fromUTF8? at h
  split at h
  · obtain rfl := Option.some.inj h
    refine (length_le_size_utf8Encode _).trans (le_of_eq ?_)
    rw [String.utf8Encode_toList]
    exact List.size_toArray
  · cases h

theorem shownByte_ne_nil (quote : Char) (b : UInt8) : Text.shownByte quote b ≠ [] := by
  unfold Text.shownByte Text.shownChar
  split_ifs <;> exact List.cons_ne_nil _ _

theorem length_shownBytes (b : Bytes) : b.length < (Text.shownBytes b).length := by
  have hbytes (quote : Char) : b.length ≤ (b.flatMap (Text.shownByte quote)).length := by
    rw [List.length_flatMap]
    have hone := List.length_le_sum_of_one_le (b.map fun byte => (Text.shownByte quote byte).length) ?_
    · rwa [List.length_map] at hone
    · intro length hlength
      obtain ⟨byte, -, rfl⟩ := List.mem_map.mp hlength
      exact List.length_pos_iff.mpr (shownByte_ne_nil quote byte)
  rw [Text.shownBytes, List.length_cons, List.length_cons, List.length_append]
  have := hbytes (Text.quoteFor (b.map fun b => Char.ofNat b.toNat))
  omega

/-- The literal of a byte string shows its quotes, which the text that the bytes encode has no room for. -/
theorem literalReturns_bytes {b : Bytes} {s : String} (h : Text.ofBytes? b = some s) :
    (bytes b).LiteralReturns (.text s) := by
  intro literal literal' hliteral hliteral'
  obtain rfl := eq_text_of_written rfl hliteral
  obtain rfl := eq_text_of_text hliteral'
  refine iff_of_false ?_ nofun
  intro heq
  have hshown := congrArg String.toList (Sql.Literal.text.inj heq)
  rw [String.toList_ofList] at hshown
  have hlength := congrArg List.length hshown
  have hencoded := length_le_of_ofBytes? h
  have hquotes := length_shownBytes b
  change s.toList.length = (Text.shownBytes b).length at hlength
  omega

/-- An operand on its own is read from its document again. -/
theorem literalReturns_operand {value : Value} {document : Json} (hregular : value.isRegular = true)
    (h : value.operandJson? = some document) : value.LiteralReturns document.reread.toValue := by
  cases value with
  | float x =>
    cases h
    exact literalReturns_float
  | decimal d =>
    obtain ⟨x, hx, rfl⟩ := Option.map_eq_some_iff.mp h
    exact literalReturns_decimal hx
  | timestamp t =>
    obtain ⟨text, htext, rfl⟩ := Option.map_eq_some_iff.mp h
    exact literalReturns_timestamp htext
  | date d =>
    cases h
    exact literalReturns_text rfl fun literal hliteral => (Except.ok.inj hliteral).symm
  | bytes b =>
    obtain ⟨s, hs, rfl⟩ := Option.map_eq_some_iff.mp h
    exact literalReturns_bytes hs
  | list items =>
    have hreturns := returns_inner hregular h
    obtain ⟨documents, -, rfl⟩ := Option.map_eq_some_iff.mp h
    exact literalReturns_shown hreturns (fun _ => eq_text_of_written rfl) (fun _ => eq_text_of_written rfl) rfl
  | object fields =>
    have hreturns := returns_inner hregular h
    obtain ⟨documents, -, rfl⟩ := Option.map_eq_some_iff.mp h
    exact literalReturns_shown hreturns (fun _ => eq_text_of_written rfl) (fun _ => eq_text_of_written rfl) rfl
  | custom => cases hregular
  | _ =>
    cases h
    exact literalReturns_self rfl

/-- A value that has a literal comes back from a readable document as one that has a literal, and it is the
same one exactly when the value keeps it. -/
theorem literal_comes_back {value : Value} {document : Json} (hreadable : document.isReadable = true)
    (h : value.isRegular = true → value.LiteralReturns document.reread.toValue) {literal : Sql.Literal}
    (hliteral : Sql.Literal.ofValue value = .ok literal) :
    ∃ literal', Sql.Literal.ofValue document.reread.toValue = .ok literal' ∧
      (literal' = literal ↔ value.keepsLiteral (some document) = true) := by
  obtain ⟨literal', hliteral'⟩ := document.exists_literal hreadable
  refine ⟨literal', hliteral', ?_⟩
  rw [keepsLiteral]
  split
  next hregular => exact h hregular literal literal' hliteral hliteral'
  next => rw [Option.any_some, decide_eq_true_iff, hliteral, hliteral', Except.ok.injEq]

end Value

namespace Predicate

/-- The operand of a filter is read from its document again; as a list it has items that are operands. -/
theorem literalReturns_operand {value : Value} {document : Json} (hregular : value.isRegular = true)
    (h : operandJson? value = some document) : value.LiteralReturns document.reread.toValue := by
  cases value with
  | list items =>
    obtain ⟨documents, rfl, hdocuments⟩ := operandJson?_list h
    rw [Value.isRegular_list] at hregular
    exact Value.literalReturns_shown (Value.returns_list (Value.returns_operands hregular hdocuments))
      (fun _ => Value.eq_text_of_written rfl) (fun _ => Value.eq_text_of_written rfl) rfl
  | _ =>
    unfold operandJson? at h
    split at h
    · cases h
    · exact Value.literalReturns_operand hregular h

end Predicate

end Insights
