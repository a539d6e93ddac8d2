import Audience.Json.Literal

/-!
# Writing JSON text

Values on one line, in ASCII: characters outside it are written as escaped
UTF-16 code units, and so are the halves that stand alone.
-/

namespace Audience
namespace Json
namespace Writer

/-- An escaped code unit. -/
def unit (code : Nat) : List Char :=
  '\\' :: 'u' :: hexText 4 code

/-- One character inside a string. -/
def char (char : Char) : List Char :=
  if char == '"' || char == '\\' then ['\\', char]
  else
    let code := char.toNat
    if 0x20 ≤ code ∧ code < 0x7F then [char]
    else if code < 0x10000 then unit code
    else
      match Text.half? char with
      | some half => unit half
      | none =>
          let offset := code - 0x10000
          unit (0xD800 + offset / 0x400) ++ unit (0xDC00 + offset % 0x400)

/-- A string with its quotes. -/
def string (text : String) : List Char :=
  '"' :: text.toList.flatMap char ++ ['"']

/-- A double; NaN and the infinities are named. -/
def double : Double → String
  | .nan => "NaN"
  | .infinity negative => if negative then "-Infinity" else "Infinity"
  | number => Decimal.text number

mutual

/-- Any value. -/
def value : Json → List Char
  | null => "null".toList
  | bool value => (if value then "true" else "false").toList
  | int value => (toString value).toList
  | .double number => (double number).toList
  | str text => string text
  | arr items => '[' :: values items ++ [']']
  | obj fields => '\x7b' :: entries fields ++ ['\x7d']

/-- Array items separated by commas. -/
def values : List Json → List Char
  | [] => []
  | [item] => value item
  | item :: rest => value item ++ ',' :: values rest

/-- Object fields separated by commas. -/
def entries : Fields → List Char
  | [] => []
  | [(name, json)] => string name ++ ':' :: value json
  | (name, json) :: rest =>
      string name ++ ':' :: value json ++ ',' :: entries rest

end

end Writer

/-- A value as JSON text. -/
def write (json : Json) : String :=
  String.ofList (Writer.value json)

end Json
end Audience
