import Audience.Number.Decimal
import Audience.Text.Blank

/-!
# Decimal digits of every script

Each script's ten digits are ten consecutive code points that start with its
zero.  Underscores may stand between digits, one at a time, and no integer in
text has more digits than `maxDigits`.
-/

namespace Audience
namespace Text

/-- The code points of the digit zero, one for each series of decimal
digits. -/
def zeroDigits : List Nat :=
  [ 0x30, 0x660, 0x6F0, 0x7C0, 0x966, 0x9E6, 0xA66, 0xAE6, 0xB66, 0xBE6,
    0xC66, 0xCE6, 0xD66, 0xDE6, 0xE50, 0xED0, 0xF20, 0x1040, 0x1090, 0x17E0,
    0x1810, 0x1946, 0x19D0, 0x1A80, 0x1A90, 0x1B50, 0x1BB0, 0x1C40, 0x1C50,
    0xA620, 0xA8D0, 0xA900, 0xA9D0, 0xA9F0, 0xAA50, 0xABF0, 0xFF10, 0x104A0,
    0x10D30, 0x11066, 0x110F0, 0x11136, 0x111D0, 0x112F0, 0x11450, 0x114D0,
    0x11650, 0x116C0, 0x11730, 0x118E0, 0x11950, 0x11C50, 0x11D50, 0x11DA0,
    0x16A60, 0x16AC0, 0x16B50, 0x1D7CE, 0x1D7D8, 0x1D7E2, 0x1D7EC, 0x1D7F6,
    0x1E140, 0x1E2F0, 0x1E950, 0x1FBF0]

/-- The value of a decimal digit of any script. -/
def digitOfAnyScript? (char : Char) : Option Nat :=
  (zeroDigits.find? fun first => first ≤ char.toNat && char.toNat < first + 10).map
    fun first => char.toNat - first

/-- The greatest number of digits that an integer in text may have. -/
def maxDigits : Nat := 4300

/-- Underscores stand only between other characters, one at a time. -/
def underscoresFit : List Char → Bool
  | [] => true
  | ['_'] => false
  | '_' :: '_' :: _ => false
  | _ :: rest => underscoresFit rest

/-- Take out underscores that stand between other characters. -/
def withoutUnderscores? (chars : List Char) : Option (List Char) :=
  if chars.head? == some '_' || !underscoresFit chars then none
  else some (chars.filter (· != '_'))

/-- The value of a list of digits of any script. -/
def wholeOfDigits? (digits : List Char) : Option Nat :=
  if digits.isEmpty || maxDigits < digits.length then none
  else
    digits.foldlM (fun value char => do
      let digit ← digitOfAnyScript? char
      return 10 * value + digit) 0

/-- Read an integer in digits of any script: trimmed, with an optional sign and
with single underscores between the digits. -/
def integer? (chars : List Char) : Option Int := do
  let (negative, body) := Decimal.splitSign (trimBy isWhite chars)
  let magnitude ← wholeOfDigits? (← withoutUnderscores? body)
  return Double.signed negative magnitude

end Text
end Audience
