import Mathlib.Data.List.Basic
import Mathlib.Data.UInt

/-!
# Lossy decoding of UTF-8

Bytes are decoded character by character.  Where they are not well formed, the
longest beginning of a character, or a single byte, is replaced by U+FFFD.
-/

namespace Utf8Lossy

def isContinuation (byte : UInt8) : Bool := 0x80 ≤ byte && byte ≤ 0xBF

/-- The length that the first byte of a character announces; zero for a byte
that starts none. -/
def width (lead : UInt8) : Nat :=
  if lead < 0x80 then 1
  else if 0xC2 ≤ lead && lead ≤ 0xDF then 2
  else if 0xE0 ≤ lead && lead ≤ 0xEF then 3
  else if 0xF0 ≤ lead && lead ≤ 0xF4 then 4
  else 0

/-- The second bytes that exclude overlong forms, surrogates and code points
beyond the last one. -/
def continues (lead second : UInt8) : Bool :=
  if lead = 0xE0 then 0xA0 ≤ second && second ≤ 0xBF
  else if lead = 0xED then 0x80 ≤ second && second ≤ 0x9F
  else if lead = 0xF0 then 0x90 ≤ second && second ≤ 0xBF
  else if lead = 0xF4 then 0x80 ≤ second && second ≤ 0x8F
  else isContinuation second

/-- How many bytes at the start belong together. -/
def stretch (lead : UInt8) (bytes : List UInt8) : Nat :=
  match bytes.take (width lead - 1) with
  | [] => 1
  | second :: others =>
      if continues lead second then 2 + (others.takeWhile isContinuation).length else 1

def codePoint (lead : UInt8) (bytes : List UInt8) : Char :=
  let high :=
    if width lead = 1 then lead.toNat
    else if width lead = 2 then lead.toNat % 32
    else if width lead = 3 then lead.toNat % 16
    else lead.toNat % 8
  Char.ofNat (bytes.foldl (fun value byte => 64 * value + byte.toNat % 64) high)

def decode : Nat → List UInt8 → List Char
  | 0, _ => []
  | _, [] => []
  | fuel + 1, lead :: bytes =>
      let taken := stretch lead bytes
      let char :=
        if taken = width lead then codePoint lead (bytes.take (taken - 1)) else '\uFFFD'
      char :: decode fuel (bytes.drop (taken - 1))

/-- `String::from_utf8_lossy` -/
def fromUtf8Lossy (bytes : List UInt8) : List Char := decode bytes.length bytes

example : fromUtf8Lossy [0x61, 0xC3, 0xA9, 0xE2, 0x82, 0x62] = ['a', 'é', '\uFFFD', 'b'] := by
  decide

end Utf8Lossy
