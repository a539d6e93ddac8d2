/-!
# Base64

Bytes in ASCII: every three bytes become four characters of six bits each, and
equals signs fill up the last four.
-/

namespace Audience
namespace Text

/-- The character of six bits. -/
def base64Char (bits : Nat) : Char :=
  if bits < 26 then Char.ofNat (0x41 + bits)
  else if bits < 52 then Char.ofNat (0x61 + (bits - 26))
  else if bits < 62 then Char.ofNat (0x30 + (bits - 52))
  else if bits = 62 then '+'
  else '/'

/-- Bytes in base 64. -/
def base64 : List Nat → List Char
  | [] => []
  | [a] => [base64Char (a / 4), base64Char (a % 4 * 16), '=', '=']
  | [a, b] =>
      [ base64Char (a / 4), base64Char (a % 4 * 16 + b / 16),
        base64Char (b % 16 * 4), '=' ]
  | a :: b :: c :: rest =>
      base64Char (a / 4) :: base64Char (a % 4 * 16 + b / 16) ::
        base64Char (b % 16 * 4 + c / 64) :: base64Char (c % 64) :: base64 rest

end Text
end Audience
