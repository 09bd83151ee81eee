import Insights.Text.Bytes

/-!
The SHA-1 digest of a byte string, which names the files of a stored payload.
-/

namespace Insights.Sha1

/-- The five words of a digest in progress. -/
structure State where
  a : UInt32
  b : UInt32
  c : UInt32
  d : UInt32
  e : UInt32
deriving DecidableEq, Repr

def initial : State := ⟨0x67452301, 0xEFCDAB89, 0x98BADCFE, 0x10325476, 0xC3D2E1F0⟩

def rotate (n : UInt32) (x : UInt32) : UInt32 :=
  (x <<< n) ||| (x >>> (32 - n))

/-- The eight bytes of a length, the most significant first. -/
def lengthBytes (n : Nat) : Bytes :=
  (List.range 8).map fun i => UInt8.ofNat (n / Nat.pow 256 (7 - i))

/-- The message with a set bit, zeros up to a multiple of 64 bytes, and its length in bits. -/
def pad (message : Bytes) : Bytes :=
  let fill := (119 - message.length % 64) % 64
  message ++ 0x80 :: List.replicate fill 0 ++ lengthBytes (8 * message.length)

/-- Four bytes each as a word; a rest of fewer than four bytes is dropped. -/
def words : Bytes → List UInt32
  | a :: b :: c :: d :: rest =>
    (a.toUInt32 <<< 24 ||| b.toUInt32 <<< 16 ||| c.toUInt32 <<< 8 ||| d.toUInt32) :: words rest
  | _ => []

/-- Adds `n` words to a schedule that is kept with its last word first. -/
def extend : (n : Nat) → List UInt32 → List UInt32
  | 0, schedule => schedule
  | n + 1, schedule =>
    extend n (rotate 1 (schedule.getD 2 0 ^^^ schedule.getD 7 0 ^^^ schedule.getD 13 0 ^^^
      schedule.getD 15 0) :: schedule)

def round (s : State) (step : Nat × UInt32) : State :=
  let (f, k) : UInt32 × UInt32 :=
    if step.1 < 20 then ((s.b &&& s.c) ||| ((~~~s.b) &&& s.d), 0x5A827999)
    else if step.1 < 40 then (s.b ^^^ s.c ^^^ s.d, 0x6ED9EBA1)
    else if step.1 < 60 then ((s.b &&& s.c) ||| (s.b &&& s.d) ||| (s.c &&& s.d), 0x8F1BBCDC)
    else (s.b ^^^ s.c ^^^ s.d, 0xCA62C1D6)
  ⟨rotate 5 s.a + f + s.e + k + step.2, s.a, rotate 30 s.b, s.c, s.d⟩

/-- One block of sixteen words. -/
def block (s : State) (input : List UInt32) : State :=
  let schedule := (extend 64 input.reverse).reverse
  let r := ((List.range 80).zip schedule).foldl round s
  ⟨s.a + r.a, s.b + r.b, s.c + r.c, s.d + r.d, s.e + r.e⟩

/-- The blocks of a list of words. -/
def blocks : (count : Nat) → List UInt32 → List (List UInt32)
  | 0, _ => []
  | count + 1, input => input.take 16 :: blocks count (input.drop 16)

/-- The digest as forty hexadecimal digits. -/
def hexDigest (message : Bytes) : List Char :=
  let padded := pad message
  let s := (blocks (padded.length / 64) (words padded)).foldl block initial
  [s.a, s.b, s.c, s.d, s.e].flatMap fun w => Text.hex 8 w.toNat

example : hexDigest [] = "da39a3ee5e6b4b0d3255bfef95601890afd80709".toList := by decide +kernel

end Insights.Sha1
