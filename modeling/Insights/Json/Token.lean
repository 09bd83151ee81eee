import Insights.Json.Basic

/-!
The tokens of JSON text. The lexer goes through the text once, character by character, so that reading
a text in two parts is reading the parts one after the other.
-/

namespace Insights.Json

inductive Token where
  | openList
  | closeList
  | openObject
  | closeObject
  | comma
  | colon
  | text (s : String)
  /-- A number or one of the three words, as it is spelt. -/
  | bare (spelling : List Char)
deriving DecidableEq, Repr

/-- What the next character continues. Collected characters are kept with the last one first. -/
inductive LexMode where
  | between
  | bare (read : List Char)
  | text (read : List Char)
  | escape (read : List Char)
  /-- Inside the digits of a coded character, perhaps after the first half of a coded pair. -/
  | code (read : List Char) (high : Option Nat) (digits : List Char)
  /-- After the first half of a coded pair. -/
  | half (read : List Char) (high : Nat)
  /-- After the first half of a coded pair and a backslash. -/
  | halfEscape (read : List Char) (high : Nat)
deriving DecidableEq, Repr

structure LexState where
  /-- The tokens so far, the last one first. -/
  tokens : List Token
  mode : LexMode
deriving DecidableEq, Repr

/-- The character that an escape letter stands for. -/
def unescaped? : Char → Option Char
  | '"' => some '"'
  | '\\' => some '\\'
  | '/' => some '/'
  | 'b' => some '\x08'
  | 'f' => some '\x0c'
  | 'n' => some '\n'
  | 'r' => some '\r'
  | 't' => some '\t'
  | _ => none

def punctuation? : Char → Option Token
  | '[' => some .openList
  | ']' => some .closeList
  | '\x7b' => some .openObject
  | '\x7d' => some .closeObject
  | ',' => some .comma
  | ':' => some .colon
  | _ => none

def isSpace (c : Char) : Bool :=
  c == ' ' || c == '\t' || c == '\n' || c == '\r'

/-- A character that begins a token or stands between two. -/
def beginToken (tokens : List Token) (c : Char) : LexState :=
  if isSpace c then ⟨tokens, .between⟩
  else match punctuation? c with
    | some token => ⟨token :: tokens, .between⟩
    | none => if c = '"' then ⟨tokens, .text []⟩ else ⟨tokens, .bare [c]⟩

/-- Whether a character ends a number or a word. -/
def endsBare (c : Char) : Bool :=
  isSpace c || (punctuation? c).isSome || c == '"'

/-- The character of a pair of halves. -/
def pairedChar (high low : Nat) : Char :=
  Char.ofNat (0x10000 + (high - 0xD800) * 0x400 + (low - 0xDC00))

/-- The character in the place of half of a pair that stands alone. -/
def lonelyHalf : Char := '\uFFFD'

/-- A character of a quoted text. -/
def lexText (state : LexState) (read : List Char) (c : Char) : Option LexState :=
  if c = '"' then some ⟨.text (String.ofList read.reverse) :: state.tokens, .between⟩
  else if c = '\\' then some { state with mode := .escape read }
  else if c.toNat < 0x20 then none
  else some { state with mode := .text (c :: read) }

/-- A character behind a backslash. -/
def lexEscape (state : LexState) (read : List Char) (c : Char) : Option LexState :=
  if c = 'u' then some { state with mode := .code read none [] }
  else (unescaped? c).map fun d => { state with mode := .text (d :: read) }

/-- What follows a coded character, of which half of a pair may have come before. -/
def coded (read : List Char) (high : Option Nat) (n : Nat) : LexMode :=
  let before := (high.map fun _ => lonelyHalf).toList ++ read
  if 0xD800 ≤ n ∧ n < 0xDC00 then .half before n
  else if 0xDC00 ≤ n ∧ n < 0xE000 then
    .text ((high.map fun high => pairedChar high n).getD lonelyHalf :: read)
  else .text (Char.ofNat n :: before)

def lexStep (state : LexState) (c : Char) : Option LexState :=
  match state.mode with
  | .between => some (beginToken state.tokens c)
  | .bare read =>
    if endsBare c then some (beginToken (.bare read.reverse :: state.tokens) c)
    else some { state with mode := .bare (c :: read) }
  | .text read => lexText state read c
  | .escape read => lexEscape state read c
  | .code read high digits =>
    let digits := digits ++ [c]
    if digits.length < 4 then some { state with mode := .code read high digits }
    else (Text.hexNumber? digits).map fun n => { state with mode := coded read high n }
  | .half read high =>
    if c = '\\' then some { state with mode := .halfEscape read high }
    else lexText state (lonelyHalf :: read) c
  | .halfEscape read high =>
    if c = 'u' then some { state with mode := .code read (some high) [] }
    else lexEscape state (lonelyHalf :: read) c

/-- The tokens of a text, if no quoted text in it is broken. -/
def tokens? (text : List Char) : Option (List Token) := do
  let state ← text.foldlM lexStep ⟨[], .between⟩
  match state.mode with
  | .between => return state.tokens.reverse
  | .bare read => return (.bare read.reverse :: state.tokens).reverse
  | _ => none

end Insights.Json
