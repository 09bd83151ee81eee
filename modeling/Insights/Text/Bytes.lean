/-!
Strings of bytes, and the two forms in which they are texts: their digits, and what they encode.
-/

namespace Insights

/-! ### Hexadecimal digits

Hexadecimal digits: numbers written with a fixed number of digits, and bytes as two digits each.
Digits above nine are written in lower case; both cases are read. -/

/-- A string of bytes: a stored payload, or a binary cell. -/
abbrev Bytes := List UInt8

namespace Text

def hexDigit (n : Nat) : Char :=
  if n < 10 then Char.ofNat (48 + n) else Char.ofNat (87 + n)

/-- The last `width` hexadecimal digits of a number, with leading zeros. -/
def hex : (width : Nat) → Nat → List Char
  | 0, _ => []
  | width + 1, n => hex width (n / 16) ++ [hexDigit (n % 16)]

def hexValue? (c : Char) : Option Nat :=
  if '0' ≤ c ∧ c ≤ '9' then some (c.toNat - 48)
  else if 'a' ≤ c ∧ c ≤ 'f' then some (c.toNat - 87)
  else if 'A' ≤ c ∧ c ≤ 'F' then some (c.toNat - 55)
  else none

def isHexDigit (c : Char) : Bool :=
  (hexValue? c).isSome

/-- The number that a run of hexadecimal digits stands for. -/
def hexNumber? (digits : List Char) : Option Nat :=
  digits.foldlM (fun n c => (hexValue? c).map (16 * n + ·)) 0

def hexOfBytes (bytes : Bytes) : List Char :=
  bytes.flatMap fun b => hex 2 b.toNat

def bytesOfHex? : List Char → Option Bytes
  | [] => some []
  | [_] => none
  | a :: b :: rest => do
    let n ← hexNumber? [a, b]
    return UInt8.ofNat n :: (← bytesOfHex? rest)

/-! ### UTF-8

Bytes as the text that they encode in UTF-8. -/

/-- The text that a byte string encodes, if it encodes one. -/
def ofBytes? (bytes : Bytes) : Option String :=
  String.fromUTF8? (ByteArray.mk bytes.toArray)

/-- The bytes of a text. -/
def toBytes (text : String) : Bytes :=
  text.toUTF8.data.toList

end Text
end Insights
