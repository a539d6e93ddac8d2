import Audience.Json.Literal
import Audience.Json.Reader

/-!
# Percent escapes

In an address a character that cannot stand for itself is written as its bytes,
each as a percent sign and two hexadecimal digits.  Which characters can stand
for themselves depends on the part of the address.
-/

namespace Audience
namespace Address

/-- Replace percent escapes by the bytes that they stand for, and every other
character by its own bytes. -/
def bytes : List Char → List Nat
  | [] => []
  | '%' :: a :: b :: rest =>
      match Json.Reader.hexDigit? a, Json.Reader.hexDigit? b with
      | some high, some low => (16 * high + low) :: bytes rest
      | _, _ => Text.encodeChar '%' ++ bytes (a :: b :: rest)
  | char :: rest => Text.encodeChar char ++ bytes rest

/-- Decode percent escapes. -/
def decode (chars : List Char) : List Char :=
  Text.decodeBytes (bytes chars)

/-- A byte as a percent escape. -/
def escapedByte (byte : Nat) : List Char :=
  '%' :: (Json.hexText 2 byte).map Char.toUpper

/-- Escape the characters that cannot stand for themselves. -/
def encode (isPlain : Char → Bool) (chars : List Char) : List Char :=
  chars.flatMap fun char =>
    if isPlain char then [char]
    else (Text.encodeChar char).flatMap escapedByte

/-- A printed character of ASCII, apart from the space and those of a list. -/
def isPrintedBut (excluded : String) (char : Char) : Bool :=
  0x21 ≤ char.toNat && char.toNat ≤ 0x7E && !excluded.toList.contains char

/-- The characters that stand for themselves in a path. -/
def isPathChar : Char → Bool :=
  isPrintedBut "\"#<>?`\x7b\x7d"

/-- The characters that stand for themselves in a query. -/
def isQueryChar : Char → Bool :=
  isPrintedBut "\"#<>"

/-- The characters that stand for themselves in the name of a host. -/
def isHostChar (char : Char) : Bool :=
  char.isAlphanum || "-._~!$&'()*+,;=\"`\x7b\x7d%|\\".toList.contains char

/-- The characters that stand for themselves in the address of a redirect. -/
def isTargetChar (char : Char) : Bool :=
  char.isAlphanum || "_.-~:/%#?=@[]!$&'()*+,;".toList.contains char

end Address
end Audience
