import Insights.Proofs.Json.Lexing

/-!
Reading a document that was written. There is no reading of an integer with too many digits. Any other
document comes back as it was, up to two things that its text does not keep: a number that is not finite
is read as null, and of two fields of one name only the later value is read.
-/

namespace Insights

section Overlay

variable {α : Type} {name : String} {value : α} {before fields : Fields α}

theorem Fields.put_of_notMem (h : name ∉ fields.map Prod.fst) :
    fields.put name value = fields ++ [(name, value)] := by
  induction fields with
  | nil => rfl
  | cons field rest ih =>
    rw [List.map_cons, List.mem_cons, not_or] at h
    rw [put, if_neg (Ne.symm h.1), ih h.2, List.cons_append]

theorem Fields.overlay_of_nodup (h : ((before ++ fields).map Prod.fst).Nodup) :
    before.overlay fields = before ++ fields := by
  induction fields generalizing before with
  | nil => rw [List.append_nil, overlay, List.foldl_nil]
  | cons field rest ih =>
    obtain ⟨name, value⟩ := field
    have hnew : name ∉ before.map Prod.fst := by
      rw [List.map_append, List.nodup_append] at h
      exact fun hmem => h.2.2 _ hmem _ List.mem_cons_self rfl
    rw [List.append_cons] at h
    rw [List.append_cons, ← ih h, overlay, List.foldl_cons]
    exact congrArg (·.overlay rest) (put_of_notMem hnew)

end Overlay

namespace Json

mutual
/-- What a document is read as when it was written. -/
def reread : Json → Json
  | .float x => if x.isFinite then .float x else .null
  | .list items => .list (rereadItems items)
  | .object fields => .object (Fields.overlay [] (rereadFields fields))
  | d => d
def rereadItems : List Json → List Json
  | [] => []
  | item :: rest => item.reread :: rereadItems rest
def rereadFields : List (String × Json) → List (String × Json)
  | [] => []
  | (name, item) :: rest => (name, item.reread) :: rereadFields rest
end

mutual
/-- Whether no integer in a document has too many digits to be read. -/
def isReadable : Json → Bool
  | .integer n => fitsDigitLimit n
  | .list items => areReadable items
  | .object fields => haveReadable fields
  | _ => true
def areReadable : List Json → Bool
  | [] => true
  | item :: rest => item.isReadable && areReadable rest
def haveReadable : List (String × Json) → Bool
  | [] => true
  | (_, item) :: rest => item.isReadable && haveReadable rest
end

/-- What comes of writing a document and reading it. -/
def reread? (d : Json) : Option Json :=
  if d.isReadable then some d.reread else none

theorem mapM_reread? (items : List Json) :
    (items.map reread?).mapM id = if areReadable items then some (rereadItems items) else none := by
  induction items with
  | nil => rfl
  | cons item rest ih =>
    rw [List.map_cons, List.mapM_cons, ih, reread?, areReadable]
    cases item.isReadable <;> cases areReadable rest <;> rfl

/-- A field with what is in it, if anything is. -/
def filled? (field : String × Option Json) : Option (String × Json) :=
  field.2.map (field.1, ·)

theorem mapM_rereadFields? (fields : List (String × Json)) :
    (fields.map fun field => (field.1, field.2.reread?)).mapM filled? =
      if haveReadable fields then some (rereadFields fields) else none := by
  induction fields with
  | nil => rfl
  | cons field rest ih =>
    rw [List.map_cons, List.mapM_cons, ih, filled?, reread?, haveReadable]
    cases field.2.isReadable <;> cases haveReadable rest <;> rfl

theorem names_rereadFields (fields : Fields Json) :
    (rereadFields fields).map Prod.fst = fields.map Prod.fst := by
  induction fields with
  | nil => rfl
  | cons field rest ih => rw [rereadFields, List.map_cons, ih, List.map_cons]

theorem reread_object {fields : Fields Json} (h : (fields.map Prod.fst).Nodup) :
    (object fields).reread = .object (rereadFields fields) := by
  rw [reread, Fields.overlay_of_nodup, List.nil_append]
  rwa [List.nil_append, names_rereadFields]

/-- None of the words that may stand bare is made of digits and signs. -/
theorem bare?_eq_number? {spelling : List Char} (h : (spelling.all fun c => c.isDigit || c == '-') = true) :
    bare? spelling = number? spelling := by
  have hne : ∀ word : List Char, (word.all fun c => c.isDigit || c == '-') = false → spelling ≠ word := by
    rintro word hword rfl
    rw [h] at hword
    cases hword
  rw [bare?, if_neg (hne _ rfl), if_neg (hne _ rfl), if_neg (hne _ rfl), if_neg (hne _ rfl),
    if_neg (hne _ rfl), if_neg (hne _ rfl)]

theorem bare?_of_number? {spelling : List Char} {d : Json} (h : number? spelling = some d) :
    bare? spelling = some d := by
  have hne : ∀ word : List Char, number? word = none → spelling ≠ word := by
    rintro word hword rfl
    rw [hword] at h
    cases h
  rw [bare?, if_neg (hne _ rfl), if_neg (hne _ rfl), if_neg (hne _ rfl), if_neg (hne _ rfl),
    if_neg (hne _ rfl), if_neg (hne _ rfl), h]

theorem bare?_integerDigits (n : Int) : bare? (integerDigits n) = (integer n).reread? := by
  have hdigits : ((integerDigits n).all fun c => c.isDigit || c == '-') = true := by
    simp only [List.all_eq_true, Bool.or_eq_true, beq_iff_eq]
    intro c hc
    unfold integerDigits at hc
    split at hc
    · obtain rfl | hc := List.mem_cons.mp hc
      · exact .inr rfl
      · exact .inl ((Sql.isDigits_digitsOf _).2 c hc)
    · exact .inl ((Sql.isDigits_digitsOf _).2 c hc)
  rw [bare?_eq_number? hdigits, number?_integerDigits]
  rfl

theorem bare?_number (x : Binary64) : bare? (number x) = (float x).reread? := by
  cases x with
  | finite negative magnitude => exact bare?_of_number? (number?_finite negative magnitude)
  | infinite negative => rfl
  | nan => rfl

/-- The tokens read as the document, in whatever list or object it stands, or are not read if there is
none. -/
def Reads (tokens : List Token) (d? : Option Json) : Prop :=
  ∀ mayClose frames rest, (tokens ++ rest).foldlM readStep (.value mayClose frames) =
    d?.bind fun d => rest.foldlM readStep (complete d frames)

variable {state next : ReadState} {token : Token} {rest : List Token}

theorem foldlM_readStep (h : readStep state token = some next) :
    (token :: rest).foldlM readStep state = rest.foldlM readStep next := by
  rw [List.foldlM_cons, h]
  rfl

theorem reads_bare {spelling : List Char} {d? : Option Json} (h : bare? spelling = d?) :
    Reads [.bare spelling] d? := by
  intro mayClose frames rest
  subst h
  rw [List.singleton_append, List.foldlM_cons, readStep]
  cases bare? spelling <;> rfl

theorem reads_text (s : String) : Reads [.text s] (some (.text s)) := by
  intro mayClose frames rest
  apply foldlM_readStep
  rfl

/-- The items of a list, after some others, up to its end. -/
theorem reads_items {parts : List (List Token)} {items : List (Option Json)}
    (h : List.Forall₂ Reads parts items) (hne : parts ≠ []) (mayClose : Bool) (before : List Json)
    (frames : List Frame) (rest : List Token) :
    ([Token.comma].intercalate parts ++ .closeList :: rest).foldlM readStep
        (.value mayClose (.list before :: frames)) =
      (items.mapM id).bind fun items =>
        rest.foldlM readStep (complete (.list (before.reverse ++ items)) frames) := by
  induction h generalizing mayClose before with
  | nil => exact absurd rfl hne
  | @cons part item parts items hfirst hrest ih =>
    rw [List.mapM_cons]
    cases hrest with
    | nil =>
      rw [List.intercalate_singleton, hfirst]
      cases item with
      | none => rfl
      | some item =>
        rw [Option.bind_some, foldlM_readStep rfl]
        simp
    | cons hnext hrest =>
      rw [List.intercalate_cons_cons, List.append_assoc, List.append_assoc, List.singleton_append, hfirst]
      cases item with
      | none => rfl
      | some item =>
        rw [Option.bind_some, foldlM_readStep rfl, ih (List.cons_ne_nil _ _)]
        simp [Option.bind_assoc]

theorem reads_list {parts : List (List Token)} {items : List (Option Json)}
    (h : List.Forall₂ Reads parts items) :
    Reads (.openList :: ([Token.comma].intercalate parts ++ [.closeList])) ((items.mapM id).map .list) := by
  intro mayClose frames rest
  rw [List.cons_append, foldlM_readStep rfl, List.append_assoc, List.singleton_append, Option.bind_map]
  cases h with
  | nil =>
    apply foldlM_readStep
    rfl
  | cons hfirst hrest => exact reads_items (.cons hfirst hrest) (List.cons_ne_nil _ _) true [] frames rest

/-- The tokens of a field read as the name and the document. -/
def ReadsField (tokens : List Token) (field : String × Option Json) : Prop :=
  ∃ value, tokens = .text field.1 :: .colon :: value ∧ Reads value field.2

theorem reads_fields {parts : List (List Token)} {fields : List (String × Option Json)}
    (h : List.Forall₂ ReadsField parts fields) (hne : parts ≠ []) (mayClose : Bool) (before : Fields Json)
    (frames : List Frame) (rest : List Token) :
    ([Token.comma].intercalate parts ++ .closeObject :: rest).foldlM readStep
        (.name mayClose before frames) =
      (fields.mapM filled?).bind fun fields =>
        rest.foldlM readStep (complete (.object (before.overlay fields)) frames) := by
  induction h generalizing mayClose before with
  | nil => exact absurd rfl hne
  | @cons part field parts fields hfirst hrest ih =>
    obtain ⟨value, rfl, hvalue⟩ := hfirst
    obtain ⟨name, item⟩ := field
    rw [List.mapM_cons, filled?]
    cases hrest with
    | nil =>
      rw [List.intercalate_singleton, List.cons_append, List.cons_append, foldlM_readStep rfl,
        foldlM_readStep rfl, hvalue]
      cases item with
      | none => rfl
      | some item =>
        apply foldlM_readStep
        rfl
    | cons hnext hrest =>
      rw [List.intercalate_cons_cons, List.append_assoc, List.append_assoc, List.singleton_append,
        List.cons_append, List.cons_append, foldlM_readStep rfl, foldlM_readStep rfl, hvalue]
      cases item with
      | none => rfl
      | some item =>
        rw [Option.bind_some, foldlM_readStep rfl, ih (List.cons_ne_nil _ _)]
        simp [Option.bind_assoc, Fields.overlay]

theorem reads_object {parts : List (List Token)} {fields : List (String × Option Json)}
    (h : List.Forall₂ ReadsField parts fields) :
    Reads (.openObject :: ([Token.comma].intercalate parts ++ [.closeObject]))
      ((fields.mapM filled?).map fun fields => .object (Fields.overlay [] fields)) := by
  intro mayClose frames rest
  rw [List.cons_append, foldlM_readStep rfl, List.append_assoc, List.singleton_append, Option.bind_map]
  cases h with
  | nil =>
    apply foldlM_readStep
    rfl
  | cons hfirst hrest => exact reads_fields (.cons hfirst hrest) (List.cons_ne_nil _ _) true [] frames rest

mutual
theorem reads_tokens : ∀ d : Json, Reads d.tokens d.reread?
  | .null => reads_bare rfl
  | .boolean true => reads_bare rfl
  | .boolean false => reads_bare rfl
  | .integer n => reads_bare (bare?_integerDigits n)
  | .float x => reads_bare (bare?_number x)
  | .text s => reads_text s
  | .list items => by
    have hlist := reads_list (reads_itemTokens items)
    rwa [mapM_reread?, apply_ite (Option.map _)] at hlist
  | .object fields => by
    have hobject := reads_object (reads_fieldTokens fields)
    rwa [mapM_rereadFields?, apply_ite (Option.map _)] at hobject

theorem reads_itemTokens :
    ∀ items : List Json, List.Forall₂ Reads (itemTokens items) (items.map reread?)
  | [] => .nil
  | item :: rest => .cons (reads_tokens item) (reads_itemTokens rest)

theorem reads_fieldTokens : ∀ fields : List (String × Json),
    List.Forall₂ ReadsField (fieldTokens fields) (fields.map fun field => (field.1, field.2.reread?))
  | [] => .nil
  | (_, item) :: rest => .cons ⟨item.tokens, rfl, reads_tokens item⟩ (reads_fieldTokens rest)
end

/-- A document that is written can be read again, as long as its integers can. -/
theorem read?_render (d : Json) : read? d.render = d.reread? := by
  have h := reads_tokens d false [] []
  rw [List.append_nil] at h
  rw [read?, tokens?_render, Option.bind_eq_bind, Option.bind_some, ofTokens?, h]
  cases d.reread? <;> rfl

end Json

end Insights
