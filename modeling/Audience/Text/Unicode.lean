/-!
# Decoding UTF-8

Bytes are decoded one at a time; each longest piece that cannot be part of a
character becomes one replacement character.
-/

namespace Audience
namespace Text

/-- The character that stands for what cannot be decoded. -/
def replacement : Char := '\uFFFD'

/-- A character of which some bytes have come.  The next byte has to lie
between two bounds. -/
structure Partial where
  needed : Nat
  value : Nat
  low : Nat
  high : Nat
  deriving DecidableEq, Repr, Inhabited

namespace Partial

/-- No character has begun. -/
def none : Partial := { needed := 0, value := 0, low := 0x80, high := 0xBF }

/-- A character that begins with the given bits and needs more bytes. -/
def needing (needed value : Nat) : Partial :=
  { none with needed, value }

/-- Begin a character with its first byte: the characters that are complete
and the one that is not. -/
def first (byte : Nat) : List Char × Partial :=
  if byte < 0x80 then ([Char.ofNat byte], none)
  else if byte < 0xC2 then ([replacement], none)
  else if byte < 0xE0 then ([], needing 1 (byte % 0x20))
  else if byte = 0xE0 then ([], { needing 2 0 with low := 0xA0 })
  else if byte = 0xED then ([], { needing 2 0xD with high := 0x9F })
  else if byte < 0xF0 then ([], needing 2 (byte % 0x10))
  else if byte = 0xF0 then ([], { needing 3 0 with low := 0x90 })
  else if byte < 0xF4 then ([], needing 3 (byte % 0x08))
  else if byte = 0xF4 then ([], { needing 3 4 with high := 0x8F })
  else ([replacement], none)

/-- Take one more byte. -/
def next (begun : Partial) (byte : Nat) : List Char × Partial :=
  if begun.needed = 0 then first byte
  else if begun.low ≤ byte ∧ byte ≤ begun.high then
    let value := begun.value * 0x40 + byte % 0x40
    if begun.needed = 1 then ([Char.ofNat value], none)
    else ([], needing (begun.needed - 1) value)
  else
    let (chars, rest) := first byte
    (replacement :: chars, rest)

/-- Decode the remaining bytes. -/
def decode (begun : Partial) : List Nat → List Char
  | [] => if begun.needed = 0 then [] else [replacement]
  | byte :: bytes =>
      let (chars, rest) := begun.next byte
      chars ++ rest.decode bytes

end Partial

/-- Decode bytes. -/
def decodeBytes (bytes : List Nat) : List Char :=
  Partial.none.decode bytes

/-- The bytes of a character. -/
def encodeChar (char : Char) : List Nat :=
  (String.utf8EncodeChar char).map UInt8.toNat

end Text
end Audience
