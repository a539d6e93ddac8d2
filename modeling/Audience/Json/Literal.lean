import Audience.Json.Basic
import Audience.Number.Decimal
import Audience.Text.Half
import Audience.Text.Printable

/-!
# Plain text of values

How any JSON value reads when it is used as text: a string stands for itself,
every other value is spelled out, and strings inside containers are quoted.
-/

namespace Audience
namespace Json

/-- A number in hexadecimal, padded with zeros to a width. -/
def hexText (width value : Nat) : List Char :=
  let digits := Nat.toDigits 16 value
  List.replicate (width - digits.length) '0' ++ digits

/-- One character between quotes.  The quote in use, the backslash and the
characters without a printed form are escaped. -/
def quotedChar (quote char : Char) : List Char :=
  if char == quote || char == '\\' then ['\\', char]
  else if char == '\t' then ['\\', 't']
  else if char == '\n' then ['\\', 'n']
  else if char == '\r' then ['\\', 'r']
  else if Text.isPrintable char then [char]
  else
    let code := (Text.half? char).getD char.toNat
    if code < 0x100 then '\\' :: 'x' :: hexText 2 code
    else if code < 0x10000 then '\\' :: 'u' :: hexText 4 code
    else '\\' :: 'U' :: hexText 8 code

/-- A quoted string.  Single quotes, unless the text holds a single quote and
no double quote. -/
def quoted (text : String) : List Char :=
  let chars := text.toList
  let quote :=
    if chars.contains '\'' && !chars.contains '"' then '"' else '\''
  quote :: chars.flatMap (quotedChar quote) ++ [quote]

mutual

/-- A value spelled out, strings quoted. -/
def spelled : Json → List Char
  | null => "None".toList
  | bool value => (if value then "True" else "False").toList
  | int value => (toString value).toList
  | double value => (Decimal.text value).toList
  | str text => quoted text
  | arr items => '[' :: spelledItems items ++ [']']
  | obj fields => '\x7b' :: spelledFields fields ++ ['\x7d']

/-- Array items separated by a comma and a space. -/
def spelledItems : List Json → List Char
  | [] => []
  | [item] => spelled item
  | item :: rest => spelled item ++ ',' :: ' ' :: spelledItems rest

/-- Object fields, each a quoted key, a colon and a value. -/
def spelledFields : Fields → List Char
  | [] => []
  | [(name, value)] => quoted name ++ ':' :: ' ' :: spelled value
  | (name, value) :: rest =>
      quoted name ++ ':' :: ' ' :: spelled value ++
        ',' :: ' ' :: spelledFields rest

end

/-- A value as text. -/
def plainText : Json → String
  | str text => text
  | json => String.ofList (spelled json)

end Json
end Audience
