/-!
# Halves of surrogate pairs

In UTF-16 a character beyond the first 65536 is a pair of code units, and
escaped text may hold one half of such a pair alone.  A half is no character.
It is kept as a stand-in, the private character whose code point lies `0x100000`
above the code unit, so that text with halves is text like any other until it
has to be encoded.
-/

namespace Audience
namespace Text

/-- A code unit that opens a surrogate pair. -/
def isHighHalf (unit : Nat) : Bool :=
  0xD800 ≤ unit && unit ≤ 0xDBFF

/-- A code unit that closes a surrogate pair. -/
def isLowHalf (unit : Nat) : Bool :=
  0xDC00 ≤ unit && unit ≤ 0xDFFF

/-- A code unit that is half of a surrogate pair. -/
def isHalf (unit : Nat) : Bool :=
  isHighHalf unit || isLowHalf unit

/-- The character of a surrogate pair. -/
def pairChar (high low : Nat) : Char :=
  Char.ofNat (0x10000 + (high - 0xD800) * 0x400 + (low - 0xDC00))

/-- How far the stand-in of a half lies above it. -/
def standInShift : Nat := 0x100000

/-- The character of a code unit, or of a code point that may be a half. -/
def unitChar (unit : Nat) : Char :=
  Char.ofNat (if isHalf unit then standInShift + unit else unit)

/-- The half that a character stands for. -/
def half? (char : Char) : Option Nat :=
  let unit := char.toNat - standInShift
  if isHalf unit then some unit else none

/-- No half stands alone in the text, so that it has an encoding. -/
def isEncodable (text : String) : Bool :=
  text.toList.all fun char => (half? char).isNone

/-- The text is all ASCII. -/
def isAscii (text : String) : Bool :=
  text.toList.all fun char => char.toNat < 0x80

/-- A stand-in stands for its half. -/
theorem half?_unitChar (unit : Nat) (half : isHalf unit = true) :
    half? (unitChar unit) = some unit := by
  have bounds : 0xD800 ≤ unit ∧ unit ≤ 0xDFFF := by
    simp [isHalf, isHighHalf, isLowHalf] at half
    omega
  have valid : (standInShift + unit).isValidChar := by
    simp [Nat.isValidChar, standInShift]
    omega
  have value : (Char.ofNat (standInShift + unit)).toNat = standInShift + unit := by
    rw [Char.ofNat, dif_pos valid]
    rfl
  simp [half?, unitChar, half, value]

end Text
end Audience
