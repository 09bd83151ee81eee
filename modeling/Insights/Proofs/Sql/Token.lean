import Insights.Text.Character
import Insights.Text.Quoted

/-!
The tokens of a statement and how its text is cut into them. Names stand between double quotes and
texts between single ones, a quote inside is doubled; beside them there are bare words, numbers with an
optional sign, fraction and exponent, and punctuation. A sign or a slash by itself is no token, so a text
in which a comment begins has none.
-/

namespace Insights.Sql

inductive Token where
  | name (s : String)
  | text (s : String)
  | word (s : String)
  | number (spelling : String)
  | symbol (s : String)
deriving DecidableEq, Repr

def isWordStart (c : Char) : Bool :=
  c.isAlpha || c = '_'

def isWordPart (c : Char) : Bool :=
  c.isAlphanum || c = '_'

/-! ### Numbers

Each reader takes as much as it can from the front of a text, and gives that and what follows it. -/

def cutDigits? (text : List Char) : Option (List Char × List Char) :=
  match text.takeWhile Char.isDigit with
  | [] => none
  | digits => some (digits, text.dropWhile Char.isDigit)

def cutSign : List Char → List Char × List Char
  | '-' :: rest => (['-'], rest)
  | '+' :: rest => (['+'], rest)
  | text => ([], text)

/-- A point belongs to a number only when a digit follows it. -/
def cutFraction : List Char → List Char × List Char
  | '.' :: rest =>
    match cutDigits? rest with
    | some (digits, after) => ('.' :: digits, after)
    | none => ([], '.' :: rest)
  | text => ([], text)

def isPowerMark (c : Char) : Bool :=
  c = 'e' || c = 'E'

/-- An exponent mark belongs to a number only when a digit follows it, perhaps behind a sign. -/
def cutPower : List Char → List Char × List Char
  | [] => ([], [])
  | c :: rest =>
    if isPowerMark c then
      match cutDigits? (cutSign rest).2 with
      | some (digits, after) => (c :: ((cutSign rest).1 ++ digits), after)
      | none => ([], c :: rest)
    else ([], c :: rest)

def cutNumber? (text : List Char) : Option (List Char × List Char) :=
  (cutDigits? (cutSign text).2).map fun (whole, behindWhole) =>
    let (fraction, behindFraction) := cutFraction behindWhole
    let (power, rest) := cutPower behindFraction
    ((cutSign text).1 ++ whole ++ fraction ++ power, rest)

/-! ### Tokens -/

/-- The punctuation, a longer spelling before its own beginning. -/
def symbols : List String :=
  ["<=", ">=", "<>", "!=", "<", ">", "=", "(", ")", ",", ".", "*", ";"]

def cutSymbol? (text : List Char) : Option (String × List Char) :=
  (symbols.find? fun symbol => symbol.toList.isPrefixOf text).map fun symbol =>
    (symbol, text.drop symbol.toList.length)

/-- The token at the front of a text, and what follows it. -/
def token? : List Char → Option (Token × List Char)
  | [] => none
  | c :: rest =>
    if c = '"' then (Text.scan '"' rest).map fun (s, after) => (.name (String.ofList s), after)
    else if c = '\'' then (Text.scan '\'' rest).map fun (s, after) => (.text (String.ofList s), after)
    else if isWordStart c then
      some (.word (String.ofList (c :: rest.takeWhile isWordPart)), rest.dropWhile isWordPart)
    else
      match cutNumber? (c :: rest) with
      | some (spelling, after) => some (.number (String.ofList spelling), after)
      | none => (cutSymbol? (c :: rest)).map fun (symbol, after) => (.symbol symbol, after)

/-! ### Every token takes something off the text -/

theorem cutDigits?_length {text digits after : List Char}
    (h : cutDigits? text = some (digits, after)) : after.length < text.length := by
  cases text with
  | nil => simp [cutDigits?] at h
  | cons c rest =>
    by_cases hc : c.isDigit
    · have hrest := (List.dropWhile_suffix (l := rest) Char.isDigit).length_le
      simp only [cutDigits?, List.takeWhile_cons, List.dropWhile_cons, hc, if_true, Option.some.injEq,
        Prod.mk.injEq] at h
      rw [← h.2, List.length_cons]
      omega
    · simp [cutDigits?, hc] at h

theorem cutSign_length (text : List Char) : (cutSign text).2.length ≤ text.length := by
  unfold cutSign
  split <;> simp

theorem cutFraction_length (text : List Char) : (cutFraction text).2.length ≤ text.length := by
  unfold cutFraction
  split
  · next rest =>
      split
      · next digits after h =>
          have := cutDigits?_length h
          simp only [List.length_cons]
          omega
      · exact Nat.le_refl _
  · exact Nat.le_refl _

theorem cutPower_length (text : List Char) : (cutPower text).2.length ≤ text.length := by
  cases text with
  | nil => exact Nat.le_refl _
  | cons c rest =>
    simp only [cutPower]
    split
    · split
      · next digits after h =>
          have := cutDigits?_length h
          have := cutSign_length rest
          simp only [List.length_cons]
          omega
      · exact Nat.le_refl _
    · exact Nat.le_refl _

theorem cutNumber?_length {text spelling after : List Char}
    (h : cutNumber? text = some (spelling, after)) : after.length < text.length := by
  simp only [cutNumber?, Option.map_eq_some_iff] at h
  obtain ⟨⟨whole, behind⟩, hwhole, heq⟩ := h
  have hdigits := cutDigits?_length hwhole
  have hsign := cutSign_length text
  have hfraction := cutFraction_length behind
  have hpower := cutPower_length (cutFraction behind).2
  have hafter : (cutPower (cutFraction behind).2).2 = after := congrArg Prod.snd heq
  rw [← hafter]
  omega

theorem symbols_nonempty : ∀ symbol ∈ symbols, 0 < symbol.toList.length := by
  decide

theorem cutSymbol?_length {c : Char} {rest after : List Char} {symbol : String}
    (h : cutSymbol? (c :: rest) = some (symbol, after)) : after.length < (c :: rest).length := by
  simp only [cutSymbol?, Option.map_eq_some_iff, Prod.mk.injEq] at h
  obtain ⟨found, hfound, rfl, rfl⟩ := h
  have hpos := symbols_nonempty found (List.mem_of_find?_eq_some hfound)
  simp only [List.length_drop, List.length_cons]
  omega

theorem scan_length {quote : Char} {text s after : List Char}
    (h : Text.scan quote text = some (s, after)) : after.length < text.length := by
  induction text using Text.scan.induct quote generalizing s with
  | case1 => simp [Text.scan] at h
  | case2 => 
    simp [Text.scan] at h
    simp [h]
  | case3 c hc => simp [Text.scan, hc] at h
  | case4 rest ih =>
    simp only [Text.scan, if_true, Option.map_eq_some_iff, Prod.mk.injEq] at h
    obtain ⟨read, hread, -, rfl⟩ := h
    have := ih hread
    simp only [List.length_cons]
    omega
  | case5 d rest hd =>
    simp [Text.scan, hd] at h
    simp [← h.2]
  | case6 c d rest hc ih =>
    simp only [Text.scan, if_neg hc, Option.map_eq_some_iff, Prod.mk.injEq] at h
    obtain ⟨read, hread, -, rfl⟩ := h
    have := ih hread
    simp only [List.length_cons] at this ⊢
    omega

theorem token?_length {text after : List Char} {token : Token}
    (h : token? text = some (token, after)) : after.length < text.length := by
  cases text with
  | nil => simp [token?] at h
  | cons c rest =>
    simp only [token?] at h
    split at h
    · simp only [Option.map_eq_some_iff, Prod.mk.injEq] at h
      obtain ⟨read, hread, -, rfl⟩ := h
      have := scan_length hread
      simp only [List.length_cons]
      omega
    · split at h
      · simp only [Option.map_eq_some_iff, Prod.mk.injEq] at h
        obtain ⟨read, hread, -, rfl⟩ := h
        have := scan_length hread
        simp only [List.length_cons]
        omega
      · split at h
        · simp only [Option.some.injEq, Prod.mk.injEq] at h
          have hrest := (List.dropWhile_suffix (l := rest) isWordPart).length_le
          rw [← h.2, List.length_cons]
          omega
        · split at h
          · next spelling behind hnumber =>
              simp only [Option.some.injEq, Prod.mk.injEq] at h
              exact h.2 ▸ cutNumber?_length hnumber
          · simp only [Option.map_eq_some_iff, Prod.mk.injEq] at h
            obtain ⟨read, hread, -, rfl⟩ := h
            exact cutSymbol?_length hread

/-! ### Statements -/

/-- The tokens of a text. There are none when some part of it outside quotes is no token, or when a
quote stays open. -/
def lex (text : List Char) : Option (List Token) :=
  match text with
  | [] => some []
  | c :: rest =>
    if Text.isAsciiSpace c then lex rest
    else
      match _h : token? (c :: rest) with
      | none => none
      | some (token, after) => (lex after).map (token :: ·)
termination_by text.length
decreasing_by
  · simp
  · exact token?_length _h

@[simp] theorem lex_nil : lex [] = some [] := by
  rw [lex]

theorem lex_space {c : Char} (rest : List Char) (h : Text.isAsciiSpace c = true) :
    lex (c :: rest) = lex rest := by
  rw [lex, if_pos h]

theorem lex_of_token? {c : Char} {rest after : List Char} {token : Token}
    (hc : Text.isAsciiSpace c = false) (h : token? (c :: rest) = some (token, after)) :
    lex (c :: rest) = (lex after).map (token :: ·) := by
  rw [lex, if_neg (by simp [hc])]
  split
  · next hnone => simp [h] at hnone
  · next found behind hsome =>
      obtain ⟨rfl, rfl⟩ : token = found ∧ after = behind := by simpa [h] using hsome
      rfl

end Insights.Sql
