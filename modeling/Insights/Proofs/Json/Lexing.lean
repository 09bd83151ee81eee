import Insights.Json.Basic
import Insights.Proofs.Json.Number
import Insights.Proofs.Sql.Lexing

/-!
The tokens of the text of a document. A quoted text ends at its own quote, and a number or a word at the
punctuation that follows it, so the text of a part gives its tokens wherever it stands.
-/

namespace Insights.Json

open Sql (Meets)

/-! ### The tokens of a document -/

mutual
def tokens : Json → List Token
  | .null => [.bare "null".toList]
  | .boolean true => [.bare "true".toList]
  | .boolean false => [.bare "false".toList]
  | .integer n => [.bare (integerDigits n)]
  | .float x => [.bare (number x)]
  | .text s => [.text s]
  | .list items => .openList :: ([.comma].intercalate (itemTokens items) ++ [.closeList])
  | .object fields => .openObject :: ([.comma].intercalate (fieldTokens fields) ++ [.closeObject])
def itemTokens : List Json → List (List Token)
  | [] => []
  | item :: rest => item.tokens :: itemTokens rest
def fieldTokens : List (String × Json) → List (List Token)
  | [] => []
  | (name, item) :: rest => (.text name :: .colon :: item.tokens) :: fieldTokens rest
end

/-! ### Fragments -/

/-- The tokens of a text that is read on from a state. -/
def lexFrom (state : LexState) (text : List Char) : Option (List Token) := do
  let state ← text.foldlM lexStep state
  match state.mode with
  | .between => return state.tokens.reverse
  | .bare read => return (.bare read.reverse :: state.tokens).reverse
  | _ => none

/-- The text gives the tokens, whatever stands before it, and whatever follows that ends a number. -/
def Lexes (text : List Char) (tokens : List Token) : Prop :=
  ∀ before rest, Meets endsBare rest →
    lexFrom ⟨before, .between⟩ (text ++ rest) = lexFrom ⟨tokens.reverse ++ before, .between⟩ rest

variable {before : List Token} {read text rest : List Char} {state : LexState}

theorem lexFrom_cons (state : LexState) (c : Char) (rest : List Char) :
    lexFrom state (c :: rest) = (lexStep state c).bind (lexFrom · rest) := by
  rw [lexFrom, List.foldlM_cons]
  cases lexStep state c <;> rfl

theorem lexFrom_step {c : Char} {next : LexState} (h : lexStep state c = some next) (rest : List Char) :
    lexFrom state (c :: rest) = lexFrom next rest := by
  rw [lexFrom_cons, h, Option.bind_some]

theorem lexFrom_punctuation {c : Char} {token : Token} (h : punctuation? c = some token)
    (hspace : isSpace c = false) :
    lexFrom ⟨before, .between⟩ (c :: rest) = lexFrom ⟨token :: before, .between⟩ rest := by
  apply lexFrom_step
  simp [lexStep, beginToken, hspace, h]

/-! ### Words and numbers -/

/-- A spelling that nothing in it ends. -/
structure IsBare (text : List Char) : Prop where
  nonempty : text ≠ []
  unbroken : ∀ c ∈ text, endsBare c = false

theorem lexFrom_bare (h : ∀ c ∈ text, endsBare c = false) (read : List Char) :
    lexFrom ⟨before, .bare read⟩ (text ++ rest) = lexFrom ⟨before, .bare (text.reverse ++ read)⟩ rest := by
  induction text generalizing read with
  | nil => rfl
  | cons c text ih =>
    rw [List.forall_mem_cons] at h
    have hstep : lexStep ⟨before, .bare read⟩ c = some ⟨before, .bare (c :: read)⟩ := by
      simp [lexStep, h.1]
    rw [List.cons_append, lexFrom_step hstep, ih h.2]
    simp

theorem lexFrom_bare_end (h : Meets endsBare rest) (read : List Char) :
    lexFrom ⟨before, .bare read⟩ rest = lexFrom ⟨.bare read.reverse :: before, .between⟩ rest := by
  cases rest with
  | nil => rfl
  | cons c rest =>
    have hc := Sql.meets_cons.mp h
    rw [lexFrom_cons, lexFrom_cons]
    simp [lexStep, hc]

theorem IsBare.lexes (h : IsBare text) : Lexes text [.bare text] := by
  obtain ⟨hne, hall⟩ := h
  intro before rest hrest
  cases text with
  | nil => exact absurd rfl hne
  | cons c text =>
    rw [List.forall_mem_cons] at hall
    obtain ⟨hc, hall⟩ := hall
    have hstep : lexStep ⟨before, .between⟩ c = some ⟨before, .bare [c]⟩ := by
      simp only [endsBare, Bool.or_eq_false_iff, beq_eq_false_iff_ne, Option.isSome_eq_false_iff,
        Option.isNone_iff_eq_none] at hc
      simp [lexStep, beginToken, hc]
    rw [List.cons_append, lexFrom_step hstep, lexFrom_bare hall, lexFrom_bare_end hrest]
    simp

/-! ### Quoted texts -/

theorem hexNumber?_hex : ∀ n < 0x20, Text.hexNumber? (Text.hex 4 n) = some n := by
  decide

theorem lexFrom_backslash :
    lexFrom ⟨before, .text read⟩ ('\\' :: rest) = lexFrom ⟨before, .escape read⟩ rest :=
  lexFrom_step rfl rest

theorem lexFrom_letter {letter c : Char} (h : unescaped? letter = some c) (hletter : letter ≠ 'u') :
    lexFrom ⟨before, .text read⟩ ('\\' :: letter :: rest) = lexFrom ⟨before, .text (c :: read)⟩ rest := by
  rw [lexFrom_backslash]
  apply lexFrom_step
  simp [lexStep, lexEscape, hletter, h]

theorem lexFrom_code {c : Char} (h : c.toNat < 0x20) :
    lexFrom ⟨before, .text read⟩ ('\\' :: 'u' :: Text.hex 4 c.toNat ++ rest) =
      lexFrom ⟨before, .text (c :: read)⟩ rest := by
  have hnumber := hexNumber?_hex c.toNat h
  have hcoded : coded read none c.toNat = .text (c :: read) := by
    have hhigh : ¬ (0xD800 ≤ c.toNat ∧ c.toNat < 0xDC00) := by omega
    have hlow : ¬ (0xDC00 ≤ c.toNat ∧ c.toNat < 0xE000) := by omega
    rw [coded, if_neg hhigh, if_neg hlow, Char.ofNat_toNat]
    rfl
  generalize hdigits : Text.hex 4 c.toNat = digits at *
  obtain ⟨d₁, d₂, d₃, d₄, rfl⟩ : ∃ d₁ d₂ d₃ d₄, digits = [d₁, d₂, d₃, d₄] :=
    ⟨_, _, _, _, hdigits.symm⟩
  simp only [List.cons_append, List.nil_append]
  rw [lexFrom_backslash]
  iterate 4 rw [lexFrom_step rfl]
  apply lexFrom_step
  simp [lexStep, hnumber, hcoded]

theorem lexFrom_escaped (c : Char) (read : List Char) :
    lexFrom ⟨before, .text read⟩ (escaped c ++ rest) = lexFrom ⟨before, .text (c :: read)⟩ rest := by
  unfold escaped
  split_ifs with hquote hbackslash _ _ _ _ _ hcode
  iterate 7
    subst_vars
    exact lexFrom_letter rfl (by decide)
  · exact lexFrom_code hcode
  · apply lexFrom_step
    simp [lexStep, lexText, hquote, hbackslash, hcode]

theorem lexFrom_flatMap_escaped (text read : List Char) :
    lexFrom ⟨before, .text read⟩ (text.flatMap escaped ++ rest) =
      lexFrom ⟨before, .text (text.reverse ++ read)⟩ rest := by
  induction text generalizing read with
  | nil => rfl
  | cons c text ih =>
    rw [List.flatMap_cons, List.append_assoc, lexFrom_escaped, ih]
    simp

theorem lexFrom_quoted (s : String) :
    lexFrom ⟨before, .between⟩ (quoted s ++ rest) = lexFrom ⟨.text s :: before, .between⟩ rest := by
  have hopen : lexStep ⟨before, .between⟩ '"' = some ⟨before, .text []⟩ := rfl
  rw [quoted, List.cons_append, lexFrom_step hopen, List.append_assoc, lexFrom_flatMap_escaped]
  apply lexFrom_step
  simp [lexStep, lexText]

/-! ### Documents -/

def bareEnds : List Char :=
  [' ', '\t', '\n', '\r', '[', ']', '\x7b', '\x7d', ',', ':', '"']

theorem mem_of_endsBare {c : Char} (h : endsBare c = true) : c ∈ bareEnds := by
  simp only [endsBare, isSpace, Bool.or_eq_true, beq_iff_eq] at h
  rcases h with (((((h | h) | h) | h) | h) | h)
  · simp [bareEnds, h]
  · simp [bareEnds, h]
  · simp [bareEnds, h]
  · simp [bareEnds, h]
  · unfold punctuation? at h
    split at h
    all_goals simp_all [bareEnds]
  · simp [bareEnds, h]

theorem endsBare_of_isDigit {c : Char} (h : c.isDigit = true) : endsBare c = false := by
  have hdigits : bareEnds.all (fun c => !c.isDigit) = true := rfl
  by_contra hends
  have hnot := List.all_eq_true.mp hdigits c (mem_of_endsBare (Bool.eq_true_of_not_eq_false hends))
  rw [h] at hnot
  cases hnot

theorem isBare_of_isDigits {digits : List Char} (h : Sql.IsDigits digits) : IsBare digits :=
  ⟨h.1, fun c hc => endsBare_of_isDigit (h.2 c hc)⟩

theorem IsBare.cons {c : Char} (hc : endsBare c = false) (h : ∀ c ∈ text, endsBare c = false) :
    IsBare (c :: text) :=
  ⟨List.cons_ne_nil _ _, List.forall_mem_cons.mpr ⟨hc, h⟩⟩

theorem IsBare.minus (h : IsBare text) (negative : Bool) :
    IsBare (if negative then '-' :: text else text) := by
  cases negative with
  | true => exact .cons (by decide) h.unbroken
  | false => exact h

theorem isBare_integerDigits (n : Int) : IsBare (integerDigits n) := by
  have h := (isBare_of_isDigits (Sql.isDigits_digitsOf n.natAbs)).minus (decide (n < 0))
  simpa [integerDigits] using h

theorem IsBare.append {a b : List Char} (ha : IsBare a) (hb : ∀ c ∈ b, endsBare c = false) :
    IsBare (a ++ b) :=
  ⟨List.append_ne_nil_of_left_ne_nil ha.nonempty b, List.forall_mem_append.mpr ⟨ha.unbroken, hb⟩⟩

theorem isBare_of_spells {d : ScaledDigits} (h : Spells text d) : IsBare text := by
  cases h with
  | point hwhole hfraction =>
    exact (isBare_of_isDigits hwhole.digits).append
      (IsBare.cons (by decide) (isBare_of_isDigits hfraction).unbroken).unbroken
  | power hwhole hfraction minus hpower =>
    have hplaces := fun c hc => endsBare_of_isDigit (hfraction c hc)
    have hsign : endsBare (if minus then '-' else '+') = false := by cases minus <;> rfl
    have hpowered := IsBare.cons (c := 'e') (by decide)
      (IsBare.cons hsign (isBare_of_isDigits hpower).unbroken).unbroken
    refine ((isBare_of_isDigits hwhole.digits).append ?_).append hpowered.unbroken
    split
    · simp
    · exact (IsBare.cons (by decide) hplaces).unbroken

theorem isBare_of_all {text : List Char} (hne : text ≠ []) (h : text.all (fun c => !endsBare c) = true) :
    IsBare text :=
  ⟨hne, fun c hc => by simpa using List.all_eq_true.mp h c hc⟩

theorem isBare_null : IsBare "null".toList :=
  isBare_of_all (List.cons_ne_nil _ _) rfl

theorem isBare_boolean (b : Bool) : IsBare (boolean b).render := by
  cases b with
  | true => exact isBare_of_all (List.cons_ne_nil _ _) rfl
  | false => exact isBare_of_all (List.cons_ne_nil _ _) rfl

theorem isBare_number (x : Binary64) : IsBare (number x) := by
  cases x with
  | finite negative magnitude =>
    obtain ⟨d, hspells, -⟩ := spells_digits jsonLayout magnitude.shortest
    exact (isBare_of_spells hspells).minus negative
  | infinite negative => exact isBare_null
  | nan => exact isBare_null

theorem lexes_intercalate {texts : List (List Char)} {parts : List (List Token)}
    (h : List.Forall₂ Lexes texts parts) :
    Lexes ([','].intercalate texts) ([Token.comma].intercalate parts) := by
  induction h with
  | nil =>
    intro before rest _
    rfl
  | @cons text part texts parts hfirst hrest ih =>
    cases hrest with
    | nil => simpa using hfirst
    | @cons next nextPart texts parts hnext hrest =>
      intro before rest hend
      have hcomma : Meets endsBare (',' :: ([','].intercalate (next :: texts) ++ rest)) :=
        Sql.meets_cons.mpr rfl
      rw [List.intercalate_cons_cons, List.intercalate_cons_cons, List.append_assoc, List.append_assoc,
        List.singleton_append, hfirst _ _ hcomma, lexFrom_punctuation rfl rfl, ih _ _ hend]
      simp

theorem meets_closing {c : Char} (h : endsBare c = true) (rest : List Char) : Meets endsBare (c :: rest) :=
  Sql.meets_cons.mpr h

mutual
theorem lexes_render : ∀ d : Json, Lexes d.render d.tokens
  | .null => isBare_null.lexes
  | .boolean true => (isBare_boolean true).lexes
  | .boolean false => (isBare_boolean false).lexes
  | .integer n => (isBare_integerDigits n).lexes
  | .float x => (isBare_number x).lexes
  | .text s => fun before rest _ => lexFrom_quoted s
  | .list items => by
    intro before rest _
    have hitems := lexes_intercalate (lexes_renderItems items)
    rw [render, tokens, List.cons_append, lexFrom_punctuation rfl rfl, List.append_assoc,
      List.singleton_append, hitems _ _ (meets_closing rfl _), lexFrom_punctuation rfl rfl]
    simp
  | .object fields => by
    intro before rest _
    have hfields := lexes_intercalate (lexes_renderFields fields)
    rw [render, tokens, List.cons_append, lexFrom_punctuation rfl rfl, List.append_assoc,
      List.singleton_append, hfields _ _ (meets_closing rfl _), lexFrom_punctuation rfl rfl]
    simp

theorem lexes_renderItems : ∀ items : List Json, List.Forall₂ Lexes (renderItems items) (itemTokens items)
  | [] => .nil
  | item :: rest => .cons (lexes_render item) (lexes_renderItems rest)

theorem lexes_renderFields :
    ∀ fields : List (String × Json), List.Forall₂ Lexes (renderFields fields) (fieldTokens fields)
  | [] => .nil
  | (name, item) :: rest => by
    refine .cons ?_ (lexes_renderFields rest)
    intro before rest hend
    rw [List.append_assoc, List.cons_append, lexFrom_quoted, lexFrom_punctuation rfl rfl,
      lexes_render item _ _ hend]
    simp
end

/-- The tokens of the text of a document are those of the document. -/
theorem tokens?_render (d : Json) : tokens? d.render = some d.tokens := by
  have h := lexes_render d [] [] Sql.meets_nil
  rw [List.append_nil, List.append_nil] at h
  have hend : lexFrom ⟨d.tokens.reverse, .between⟩ [] = some d.tokens :=
    congrArg some (List.reverse_reverse d.tokens)
  exact h.trans hend

end Insights.Json
