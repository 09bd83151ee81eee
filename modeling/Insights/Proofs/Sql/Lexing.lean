import Insights.Proofs.Sql.Token
import Insights.Sql.Statement

/-!
Fragments of a statement that are cut into tokens on their own, whatever follows them. A fragment says at
which characters it may stop; two fragments fit together when the second one begins with such a character.
-/

namespace Insights.Sql

/-- The text is empty, or begins with a character of the class. -/
def Meets (stops : Char → Bool) (text : List Char) : Prop :=
  ∀ c ∈ text.head?, stops c = true

/-- The text followed by anything that meets `stops'` meets `stops`. -/
def Leads (stops : Char → Bool) (text : String) (stops' : Char → Bool) : Prop :=
  ∀ rest, Meets stops' rest → Meets stops (text.toList ++ rest)

/-- The text gives the tokens, and what follows it gives its own, as long as it meets `stops`. -/
def Lexes (stops : Char → Bool) (text : String) (tokens : List Token) : Prop :=
  ∀ rest, Meets stops rest → lex (text.toList ++ rest) = (lex rest).map (tokens ++ ·)

def anything (_ : Char) : Bool :=
  true

/-- The characters that follow the items, names and values of a statement. -/
def isBreak (c : Char) : Bool :=
  c = ' ' || c = ',' || c = ')'

variable {stops stops' : Char → Bool} {a b text : String} {s t tokens : List Token}

theorem meets_nil : Meets stops [] := by
  simp [Meets]

theorem meets_cons {c : Char} {rest : List Char} : Meets stops (c :: rest) ↔ stops c = true := by
  simp [Meets]

theorem Meets.mono {rest : List Char} (h : Meets stops rest) (hsub : ∀ c, stops c = true → stops' c = true) :
    Meets stops' rest := by
  intro c hc
  exact hsub c (h c hc)

/-! ### What may stand next to each other -/

theorem leads_anything : Leads anything text stops := by
  intro rest _ c _
  rfl

theorem leads_head {c : Char} (htext : text.toList.head? = some c) (hc : stops c = true) :
    Leads stops text stops' := by
  intro rest _ d hd
  rw [List.head?_append, htext, Option.some_or, Option.mem_def, Option.some.injEq] at hd
  exact hd ▸ hc

theorem leads_append {c : Char} (ha : a.toList.head? = some c) (hc : stops c = true) :
    Leads stops (a ++ b) stops' :=
  leads_head (by simp [List.head?_append, ha]) hc

theorem leads_optional (htext : Meets stops text.toList) : Leads stops text stops := by
  intro rest hrest
  cases hlist : text.toList with
  | nil => exact hrest
  | cons c tail =>
    rw [hlist, meets_cons] at htext
    exact meets_cons.mpr htext

/-! ### Composition -/

theorem Lexes.append (first : Lexes stops a s) (second : Lexes stops' b t) (hb : Leads stops b stops') :
    Lexes stops' (a ++ b) (s ++ t) := by
  intro rest hrest
  rw [String.toList_append, List.append_assoc, first _ (hb rest hrest), second rest hrest]
  simp [Option.map_map, Function.comp_def]

/-- Anything may follow a fragment that may stop everywhere. -/
theorem Lexes.andThen (first : Lexes anything a s) (second : Lexes stops b t) :
    Lexes stops (a ++ b) (s ++ t) :=
  first.append second leads_anything

theorem Lexes.mono (h : Lexes stops text tokens) (hsub : ∀ c, stops' c = true → stops c = true) :
    Lexes stops' text tokens := by
  intro rest hrest
  exact h rest (hrest.mono hsub)

/-- A fragment may stop at a break when it may stop at each of them. -/
theorem Lexes.atBreak (h : Lexes stops text tokens)
    (hstops : (stops ' ' && stops ',' && stops ')') = true) : Lexes isBreak text tokens := by
  simp only [Bool.and_eq_true] at hstops
  apply h.mono
  intro c hc
  simp only [isBreak, Bool.or_eq_true, decide_eq_true_eq] at hc
  obtain (rfl | rfl) | rfl := hc
  · exact hstops.1.1
  · exact hstops.1.2
  · exact hstops.2

theorem Lexes.atPoint (h : Lexes stops text tokens) (hstop : stops '.' = true) :
    Lexes (· = '.') text tokens := by
  apply h.mono
  intro c hc
  obtain rfl : c = '.' := by simpa using hc
  exact hstop

theorem Lexes.congr (h : Lexes stops text s) (heq : s = t) : Lexes stops text t :=
  heq ▸ h

theorem Lexes.lex_eq (h : Lexes stops text tokens) : lex text.toList = some tokens := by
  have := h [] meets_nil
  simpa using this

theorem lexes_empty : Lexes stops "" [] := by
  intro rest _
  simp

theorem separated_singleton (separator text : String) : separated separator [text] = text := by
  apply String.toList_inj.mp
  simp [separated]

theorem separated_cons_cons (separator a b : String) (texts : List String) :
    separated separator (a :: b :: texts) = a ++ separator ++ separated separator (b :: texts) := by
  apply String.toList_inj.mp
  simp [separated, String.toList_intercalate, String.toList_append]

/-- Fragments with a separator between them give their tokens with those of the separator between. -/
theorem lexes_separated {α : Type} {separator : String} {between : List Token} {render : α → String}
    {tokensOf : α → List Token} (hbetween : Lexes anything separator between)
    (hlead : Leads stops separator anything) (parts : List α)
    (h : ∀ part ∈ parts, Lexes stops (render part) (tokensOf part)) :
    Lexes stops (separated separator (parts.map render)) (between.intercalate (parts.map tokensOf)) := by
  induction parts with
  | nil => exact lexes_empty
  | cons part rest ih =>
    have hpart := h part (List.mem_cons_self ..)
    cases rest with
    | nil => simpa [separated_singleton] using hpart
    | cons next rest =>
      have hrest := ih fun p hp => h p (List.mem_cons_of_mem _ hp)
      simp only [List.map_cons] at hrest ⊢
      rw [separated_cons_cons, List.intercalate_cons_cons]
      exact (hpart.append hbetween hlead).andThen hrest

/-! ### Single tokens -/

theorem takeWhile_of_meets {p : Char → Bool} {rest : List Char} (h : Meets (!p ·) rest) :
    rest.takeWhile p = [] := by
  cases rest with
  | nil => rfl
  | cons c tail =>
    have hc : p c = false := by simpa [meets_cons] using h
    simp [hc]

theorem dropWhile_of_meets {p : Char → Bool} {rest : List Char} (h : Meets (!p ·) rest) :
    rest.dropWhile p = rest := by
  cases rest with
  | nil => rfl
  | cons c tail =>
    have hc : p c = false := by simpa [meets_cons] using h
    simp [hc]

theorem lex_token {c : Char} {front rest : List Char} {token : Token}
    (hc : Text.isAsciiSpace c = false) (h : token? (c :: (front ++ rest)) = some (token, rest)) :
    lex (c :: front ++ rest) = (lex rest).map ([token] ++ ·) :=
  lex_of_token? hc h

theorem lexes_name (name : String) : Lexes (· ≠ '"') (quoteName name) [.name name] := by
  intro rest hrest
  have hhead : rest.head? ≠ some '"' := by
    intro h
    simpa using hrest '"' h
  have hscan := Text.scan_doubled '"' name.toList rest hhead
  rw [quoteName, String.toList_ofList, Text.quoted]
  apply lex_token (by decide)
  simp [token?, hscan]

theorem lexes_text (s : String) : Lexes (· ≠ '\'') (quoteText s) [.text s] := by
  intro rest hrest
  have hhead : rest.head? ≠ some '\'' := by
    intro h
    simpa using hrest '\'' h
  have hscan := Text.scan_doubled '\'' s.toList rest hhead
  rw [quoteText, String.toList_ofList, Text.quoted]
  apply lex_token (by decide)
  simp [token?, hscan]

/-- Whether a text is one bare word. -/
def isWord (s : String) : Bool :=
  match s.toList with
  | [] => false
  | c :: rest => isWordStart c && rest.all isWordPart

theorem not_isAsciiSpace {c : Char} (h : 32 < c.toNat) : Text.isAsciiSpace c = false := by
  rw [Bool.eq_false_iff]
  intro hspace
  simp only [Text.isAsciiSpace, Text.isWhiteSpace, Text.whiteSpaceRanges, List.any_cons, List.any_nil,
    Bool.or_false, Bool.and_eq_true, Bool.or_eq_true, decide_eq_true_eq] at hspace
  omega

theorem isAlpha_eq (c : Char) : c.isAlpha =
    (decide (c.val ≥ 'A'.val ∧ c.val ≤ 'Z'.val) || (decide (c.val ≥ 'a'.val) && decide (c.val ≤ 'z'.val))) :=
  rfl

theorem lt_toNat_of_isWordPart {c : Char} (h : isWordPart c = true) : 47 < c.toNat := by
  simp only [isWordPart, Char.isAlphanum, isAlpha_eq, Char.isDigit,
    Bool.or_eq_true, Bool.and_eq_true, decide_eq_true_eq, ge_iff_le, UInt32.le_iff_toNat_le] at h
  have hval : c.toNat = c.val.toNat := rfl
  obtain ((h | h) | h) | rfl := h
  · have : 'A'.val.toNat = 65 := rfl
    omega
  · have : 'a'.val.toNat = 97 := rfl
    omega
  · have : '0'.val.toNat = 48 := rfl
    omega
  · decide

theorem isWordPart_of_isWordStart {c : Char} (h : isWordStart c = true) : isWordPart c = true := by
  simp only [isWordStart, Bool.or_eq_true] at h
  simp only [isWordPart, Char.isAlphanum, Bool.or_eq_true]
  exact h.imp_left Or.inl

theorem lexes_word {word : String} (h : isWord word = true) :
    Lexes (!isWordPart ·) word [.word word] := by
  intro rest hrest
  cases hlist : word.toList with
  | nil => simp [isWord, hlist] at h
  | cons c tail =>
    simp only [isWord, hlist, Bool.and_eq_true, List.all_eq_true] at h
    have hcode := lt_toNat_of_isWordPart (isWordPart_of_isWordStart h.1)
    have hname : c ≠ '"' := by
      rintro rfl
      exact absurd hcode (by decide)
    have htext : c ≠ '\'' := by
      rintro rfl
      exact absurd hcode (by decide)
    have hword : String.ofList (c :: tail) = word := by rw [← hlist, String.ofList_toList]
    have htake : (tail ++ rest).takeWhile isWordPart = tail := by
      rw [List.takeWhile_append_of_pos h.2, takeWhile_of_meets hrest, List.append_nil]
    have hdrop : (tail ++ rest).dropWhile isWordPart = rest := by
      rw [List.dropWhile_append_of_pos h.2, dropWhile_of_meets hrest]
    apply lex_token (not_isAsciiSpace (by omega))
    simp [token?, hname, htext, h.1, htake, hdrop, hword]

/-- The characters of punctuation. -/
def marks : List Char :=
  ['<', '>', '!', '=', '(', ')', ',', '.', '*', ';']

theorem token?_of_mark {c : Char} {rest after : List Char} {symbol : String} (hc : c ∈ marks)
    (h : cutSymbol? (c :: rest) = some (symbol, after)) :
    token? (c :: rest) = some (.symbol symbol, after) := by
  simp only [marks, List.mem_cons, List.not_mem_nil, or_false] at hc
  obtain rfl | rfl | rfl | rfl | rfl | rfl | rfl | rfl | rfl | rfl := hc
  all_goals simp [token?, isWordStart, cutNumber?, cutSign, cutDigits?, h]

theorem not_isAsciiSpace_of_mark {c : Char} (hc : c ∈ marks) : Text.isAsciiSpace c = false := by
  simp only [marks, List.mem_cons, List.not_mem_nil, or_false] at hc
  obtain rfl | rfl | rfl | rfl | rfl | rfl | rfl | rfl | rfl | rfl := hc
  all_goals rfl

theorem lexes_mark {text : String} {c : Char} (hc : c ∈ marks) (htext : text.toList = [c])
    (hcut : ∀ rest, cutSymbol? (c :: rest) = some (text, rest)) :
    Lexes anything text [.symbol text] := by
  intro rest _
  rw [htext]
  exact lex_of_token? (not_isAsciiSpace_of_mark hc) (token?_of_mark hc (hcut rest))

theorem lexes_open : Lexes anything "(" [.symbol "("] :=
  lexes_mark (c := '(') (by decide) rfl (by simp [cutSymbol?, symbols])

theorem lexes_close : Lexes anything ")" [.symbol ")"] :=
  lexes_mark (c := ')') (by decide) rfl (by simp [cutSymbol?, symbols])

theorem lexes_point : Lexes anything "." [.symbol "."] :=
  lexes_mark (c := '.') (by decide) rfl (by simp [cutSymbol?, symbols])

theorem lexes_star : Lexes anything "*" [.symbol "*"] :=
  lexes_mark (c := '*') (by decide) rfl (by simp [cutSymbol?, symbols])

theorem lexes_equals : Lexes anything "=" [.symbol "="] :=
  lexes_mark (c := '=') (by decide) rfl (by simp [cutSymbol?, symbols])

theorem lexes_comparison (comparison : Comparison) :
    Lexes (· = ' ') comparison.symbol [.symbol comparison.symbol] := by
  intro rest hrest
  have hcut : cutSymbol? (comparison.symbol.toList ++ rest) = some (comparison.symbol, rest) := by
    cases rest with
    | nil => cases comparison <;> simp [cutSymbol?, symbols, Comparison.symbol]
    | cons c tail =>
      obtain rfl : c = ' ' := by simpa [meets_cons] using hrest
      cases comparison <;> simp [cutSymbol?, symbols, Comparison.symbol]
  cases comparison
  all_goals exact lex_of_token? (by decide) (token?_of_mark (by decide) hcut)

theorem lexes_space : Lexes anything " " [] := by
  intro rest _
  have hspace : lex (' ' :: rest) = lex rest := lex_space rest (by decide)
  have htext : " ".toList = [' '] := rfl
  simp [htext, hspace]

/-! ### Keywords and separators -/

theorem leads_space (h : stops ' ' = true) : Leads stops " " stops' :=
  leads_head (c := ' ') rfl h

theorem Lexes.spaced (h : Lexes stops text tokens) (hstop : stops ' ' = true) :
    Lexes anything (text ++ " ") tokens := by
  have hspaced := h.append lexes_space (leads_space hstop)
  rwa [List.append_nil] at hspaced

theorem Lexes.afterSpace (h : Lexes stops text tokens) : Lexes stops (" " ++ text) tokens :=
  lexes_space.andThen h

theorem intercalate_nil {α : Type} (parts : List (List α)) : [].intercalate parts = parts.flatten := by
  induction parts with
  | nil => rfl
  | cons part rest ih =>
    cases rest with
    | nil => simp
    | cons next rest => simp [List.intercalate_cons_cons, ih]

/-- Bare words with spaces between them. -/
theorem lexes_phrase {text : String} (words : List String) (h : ∀ word ∈ words, isWord word = true)
    (htext : text = separated " " words) : Lexes (!isWordPart ·) text (words.map .word) := by
  have hlex : Lexes (!isWordPart ·) (separated " " (words.map id))
      ([].intercalate (words.map fun word => [Token.word word])) :=
    lexes_separated lexes_space (leads_space rfl) words fun word hword => lexes_word (h word hword)
  rw [List.map_id, intercalate_nil, ← List.flatMap_def, ← List.map_eq_flatMap] at hlex
  rw [htext]
  exact hlex

/-- A bare word between two spaces. -/
theorem lexes_keyword {text word : String} (h : isWord word = true) (htext : text = " " ++ word ++ " ") :
    Lexes anything text [.word word] := by
  rw [htext]
  exact (lexes_word h).afterSpace.spaced rfl

theorem lexes_comma : Lexes anything ", " [.symbol ","] := by
  have hmark : Lexes anything "," [.symbol ","] :=
    lexes_mark (c := ',') (by decide) rfl (by simp [cutSymbol?, symbols])
  have htext : ", " = "," ++ " " := rfl
  rw [htext]
  exact hmark.spaced rfl

end Insights.Sql
