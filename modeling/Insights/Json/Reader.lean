import Insights.Json.Token
import Insights.Number.Whole

/-!
Reading a JSON document from its tokens. The reader keeps the lists and objects that are still open, so
each token is one step. A number is an integer unless it has a point or an exponent, and an integer with
too many digits is not read. Of two fields of one name the later value counts, in the place of the
earlier.
-/

namespace Insights.Json

/-- A list or an object that is still open; the items of a list are kept with the last one first. -/
inductive Frame where
  | list (before : List Json)
  | object (before : Fields Json)
  | field (before : Fields Json) (name : String)

/-- What may come next. -/
inductive ReadState where
  /-- A value, or the end of a list that is still empty. -/
  | value (mayClose : Bool) (frames : List Frame)
  /-- The name of a field, or the end of an object that is still empty. -/
  | name (mayClose : Bool) (before : Fields Json) (frames : List Frame)
  | colon (before : Fields Json) (name : String) (frames : List Frame)
  /-- A comma or the end of the innermost frame. -/
  | next (frame : Frame) (frames : List Frame)
  | finished (document : Json)

/-- A value has been read. -/
def complete (document : Json) : List Frame → ReadState
  | [] => .finished document
  | .list before :: frames => .next (.list (document :: before)) frames
  | .object before :: frames => .next (.object before) frames
  | .field before name :: frames => .next (.object (Fields.put name document before)) frames

/-- The digits of a number: a sign, digits without a superfluous zero, a fraction, an exponent. -/
def number? (spelling : List Char) : Option Json := do
  let (negative, digits) := match spelling with
    | '-' :: rest => (true, rest)
    | _ => (false, spelling)
  let (mantissa, power) := Text.cutAt (fun c => c = 'e' || c = 'E') digits
  let (whole, fraction) := Text.cutAt (· = '.') mantissa
  if whole.isEmpty || (whole.length != 1 && whole.head? == some '0') || fraction == some [] then none
  match fraction, power with
  | none, none =>
    let n := withSign negative (← Text.natural? whole)
    if fitsDigitLimit n then return .integer n else none
  | _, _ =>
    let d ← Text.scaledDigits? digits
    return .float (.ofDecimal negative d.digits d.exponent)

/-- What a spelling without quotes stands for: one of the three words, a number, or one of the words for
the numbers that are not finite, which are read although they are never written. -/
def bare? (spelling : List Char) : Option Json :=
  if spelling = "null".toList then some .null
  else if spelling = "true".toList then some (.boolean true)
  else if spelling = "false".toList then some (.boolean false)
  else if spelling = "NaN".toList then some (.float .nan)
  else if spelling = "Infinity".toList then some (.float (.infinite false))
  else if spelling = "-Infinity".toList then some (.float (.infinite true))
  else number? spelling

def readStep (state : ReadState) (token : Token) : Option ReadState :=
  match state, token with
  | .value _ frames, .text s => some (complete (.text s) frames)
  | .value _ frames, .bare spelling => (bare? spelling).map (complete · frames)
  | .value _ frames, .openList => some (.value true (.list [] :: frames))
  | .value _ frames, .openObject => some (.name true [] frames)
  | .value true (.list before :: frames), .closeList =>
    some (complete (.list before.reverse) frames)
  | .name _ before frames, .text s => some (.colon before s frames)
  | .name true before frames, .closeObject => some (complete (.object before) frames)
  | .colon before name frames, .colon => some (.value false (.field before name :: frames))
  | .next (.list before) frames, .comma => some (.value false (.list before :: frames))
  | .next (.list before) frames, .closeList => some (complete (.list before.reverse) frames)
  | .next (.object before) frames, .comma => some (.name false before frames)
  | .next (.object before) frames, .closeObject => some (complete (.object before) frames)
  | _, _ => none

/-- The document that a list of tokens spells. -/
def ofTokens? (tokens : List Token) : Option Json := do
  match ← tokens.foldlM readStep (.value false []) with
  | .finished document => return document
  | _ => none

/-- The document that a text spells, if it spells one. -/
def read? (text : List Char) : Option Json := do
  ofTokens? (← tokens? text)

end Insights.Json
