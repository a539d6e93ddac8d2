import Audience.Text.Half
import Audience.Text.Unicode

/-!
# Encodings of sent text

Text is sent in UTF-8, UTF-16 or UTF-32.  Which of them it is shows in the zero
bytes among the first four, as long as the text begins with a character of
ASCII.
-/

namespace Audience
namespace Text

/-- How text is put into bytes. -/
inductive Encoding where
  | utf8
  | utf16 (bigEndian : Bool)
  | utf32 (bigEndian : Bool)
  deriving DecidableEq, Repr, Inhabited

namespace Encoding

/-- The encoding that the first bytes speak for. -/
def detect : List Nat → Encoding
  | first :: second :: third :: fourth :: _ =>
      if first = 0 then if second = 0 then utf32 true else utf16 true
      else if second = 0 then
        if third = 0 ∧ fourth = 0 then utf32 false else utf16 false
      else utf8
  | [first, second] =>
      if first = 0 then utf16 true
      else if second = 0 then utf16 false
      else utf8
  | _ => utf8

end Encoding

/-- The number of two bytes. -/
def number2 (bigEndian : Bool) (first second : Nat) : Nat :=
  if bigEndian then 0x100 * first + second else 0x100 * second + first

/-- The code units of two bytes each; none when a byte is left over. -/
def units16? (bigEndian : Bool) : List Nat → Option (List Nat)
  | [] => some []
  | [_] => none
  | first :: second :: rest =>
      (units16? bigEndian rest).map (number2 bigEndian first second :: ·)

/-- Join the halves of surrogate pairs; a half that stands alone is kept. -/
def joinHalves : List Nat → List Char
  | [] => []
  | [unit] => [unitChar unit]
  | high :: low :: rest =>
      if isHighHalf high && isLowHalf low then
        pairChar high low :: joinHalves rest
      else unitChar high :: joinHalves (low :: rest)

/-- The code points of four bytes each; none when bytes are left over or a
number is no code point. -/
def codePoints? (bigEndian : Bool) : List Nat → Option (List Char)
  | [] => some []
  | first :: second :: third :: fourth :: rest => do
      let upper := number2 bigEndian first second
      let lower := number2 bigEndian third fourth
      let code := if bigEndian then 0x10000 * upper + lower
        else 0x10000 * lower + upper
      if 0x10FFFF < code then none
      else (codePoints? bigEndian rest).map (unitChar code :: ·)
  | _ => none

/-- Drop a byte order mark from the front. -/
def withoutMark : List Char → List Char
  | '\uFEFF' :: rest => rest
  | chars => chars

/-- The bytes of characters in UTF-8. -/
def bytesOf (chars : List Char) : List Nat :=
  chars.flatMap encodeChar

/-- What a text says whose bytes may be those of another encoding than the
UTF-8 in which it came.  Only UTF-8 may begin with a byte order mark. -/
def saidBy? (chars : List Char) : Option (List Char) :=
  match Encoding.detect (bytesOf (chars.take 4)) with
  | .utf8 => some (withoutMark chars)
  | .utf16 bigEndian => (units16? bigEndian (bytesOf chars)).map joinHalves
  | .utf32 bigEndian => codePoints? bigEndian (bytesOf chars)

end Text
end Audience
