import Insights.Number.Decimal
import Insights.Time.Calendar

/-!
Moments with a precision of one microsecond: a day, a time of day, and for some a distance from
universal time. Two written forms are in use. The full form has the fraction only when there is one,
and the offset. The literal form has exactly three places, cut off and not rounded, and is shifted to
universal time when there is an offset, which it then shows by a final `Z`; it does not exist for
moments that leave the calendar by the shift.
-/

namespace Insights

def microsPerSecond : Nat := 1000000

def microsPerDay : Nat := 86400000000

/-- A moment of the calendar. The offset counts seconds east of universal time. -/
structure Timestamp where
  date : Date
  /-- Microseconds since midnight. -/
  micros : Nat
  micros_lt : micros < microsPerDay
  offset : Option Int
deriving DecidableEq

def Timestamp.ofParts? (date : Date) (micros : Nat) (offset : Option Int) : Option Timestamp :=
  if h : micros < microsPerDay then some ⟨date, micros, h, offset⟩ else none

/-- Microseconds of the wall clock since the beginning of the calendar. -/
def Timestamp.wall (t : Timestamp) : Nat :=
  t.date.number * microsPerDay + t.micros

/-- The moment without offset at a distance from the beginning of the calendar. -/
def Timestamp.ofWall? (wall : Int) : Option Timestamp :=
  if wall < 0 then none
  else do
    let date ← Date.ofNumber? (wall.toNat / microsPerDay)
    ofParts? date (wall.toNat % microsPerDay) none

/-- The same moment in universal time, if the calendar reaches that far. -/
def Timestamp.utc? (t : Timestamp) : Option Timestamp :=
  match t.offset with
  | none => some t
  | some seconds => ofWall? (t.wall - seconds * microsPerSecond)

def Date.iso (d : Date) : List Char :=
  paddedDigits 4 d.year ++ '-' :: paddedDigits 2 d.month ++ '-' :: paddedDigits 2 d.day

/-- Hours, minutes and seconds of a number of seconds. -/
def clock (seconds : Nat) : List Char :=
  paddedDigits 2 (seconds / 3600) ++ ':' :: paddedDigits 2 (seconds / 60 % 60) ++
    ':' :: paddedDigits 2 (seconds % 60)

/-- An offset as hours and minutes, and seconds if there are any. -/
def offsetText (offset : Int) : List Char :=
  let seconds := offset.natAbs
  (if offset < 0 then '-' else '+') ::
    (if seconds % 60 = 0 then paddedDigits 2 (seconds / 3600) ++ ':' :: paddedDigits 2 (seconds / 60 % 60)
     else clock seconds)

/-- The wall clock with as many places as the fraction needs: none or six. -/
def Timestamp.wallText (separator : Char) (t : Timestamp) : List Char :=
  let fraction := t.micros % microsPerSecond
  t.date.iso ++ separator :: clock (t.micros / microsPerSecond) ++
    (if fraction = 0 then [] else '.' :: paddedDigits 6 fraction)

/-- The full form. -/
def Timestamp.iso (t : Timestamp) : List Char :=
  t.wallText 'T' ++ (t.offset.map offsetText).getD []

/-- The full form with a space between day and time. -/
def Timestamp.spaced (t : Timestamp) : List Char :=
  t.wallText ' ' ++ (t.offset.map offsetText).getD []

/-- An offset as hours and minutes, with `Z` for zero. Seconds are cut off and leave the sign behind. -/
def zoneText (offset : Int) : List Char :=
  if offset = 0 then ['Z']
  else
    let minutes := offset.natAbs / 60
    (if offset < 0 then '-' else '+') ::
      (paddedDigits 2 (minutes / 60) ++ ':' :: paddedDigits 2 (minutes % 60))

/-- The full form with a `Z` for the offset zero, and no seconds in an offset. -/
def Timestamp.zoned (t : Timestamp) : List Char :=
  t.wallText 'T' ++ (t.offset.map zoneText).getD []

/-- The wall clock with three places. -/
def Timestamp.millis (t : Timestamp) : List Char :=
  t.date.iso ++ 'T' :: clock (t.micros / microsPerSecond) ++
    '.' :: paddedDigits 3 (t.micros % microsPerSecond / 1000)

/-- The literal form: three places, in universal time if the moment has an offset. -/
def Timestamp.literal? (t : Timestamp) : Option (List Char) :=
  match t.offset with
  | none => some t.millis
  | some _ => t.utc?.map fun utc => utc.millis ++ ['Z']

/-! ### Reading -/

/-- A natural of exactly `width` digits at the front of a text, and the rest. -/
def fixedNumber? (width : Nat) (text : List Char) : Option (Nat × List Char) :=
  let digits := text.take width
  if digits.length = width then (Text.natural? digits).map fun n => (n, text.drop width) else none

/-- A text without the given first character. -/
def dropChar? (c : Char) : List Char → Option (List Char)
  | [] => none
  | d :: rest => if d = c then some rest else none

def readDate? (text : List Char) : Option (Date × List Char) := do
  let (year, rest) ← fixedNumber? 4 text
  let (month, rest) ← fixedNumber? 2 (← dropChar? '-' rest)
  let (day, rest) ← fixedNumber? 2 (← dropChar? '-' rest)
  return (← Date.ofParts? year month day, rest)

/-- Hours and minutes, and seconds behind a second colon. -/
def readClock? (text : List Char) : Option (Nat × List Char) := do
  let (hours, rest) ← fixedNumber? 2 text
  let (minutes, rest) ← fixedNumber? 2 (← dropChar? ':' rest)
  match dropChar? ':' rest with
  | none => return (3600 * hours + 60 * minutes, rest)
  | some rest =>
    let (seconds, rest) ← fixedNumber? 2 rest
    return (3600 * hours + 60 * minutes + seconds, rest)

/-- A fraction of a second in microseconds; digits after the sixth are dropped. -/
def readFraction? (text : List Char) : Option (Nat × List Char) :=
  match dropChar? '.' text with
  | none => some (0, text)
  | some rest =>
    let digits := rest.takeWhile Char.isDigit
    (Text.natural? ((digits ++ zeros 6).take 6)).map fun n => (n, rest.drop digits.length)

def readOffset? (text : List Char) : Option (Option Int) :=
  match text with
  | [] => some none
  | ['Z'] => some (some 0)
  | sign :: rest => do
    let (seconds, rest) ← readClock? rest
    if !rest.isEmpty then none
    else if sign = '+' then some (some seconds)
    else if sign = '-' then some (some (-seconds))
    else none

def Date.read? (text : List Char) : Option Date := do
  let (date, rest) ← readDate? text
  if rest.isEmpty then some date else none

def Timestamp.read? (text : List Char) : Option Timestamp := do
  let (date, rest) ← readDate? text
  let (seconds, rest) ← readClock? (← dropChar? 'T' rest)
  let (fraction, rest) ← readFraction? rest
  ofParts? date (seconds * microsPerSecond + fraction) (← readOffset? rest)

end Insights
