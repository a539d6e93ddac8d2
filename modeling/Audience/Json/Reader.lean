import Audience.Json.Basic
import Audience.Text.Digit
import Audience.Text.Encoding

/-!
# Reading JSON text

A recursive-descent reader.  When a text is not JSON the reader says at which
character it stopped.  Beyond the standard it accepts `NaN`, `Infinity` and
`-Infinity`, and of several fields with one key the last value counts, at the
place of the first.  An integer with too many digits makes the whole text
unreadable.

Positions are kept as the number of characters still to read, so that a step
needs no counter; `Json.read` turns them into offsets.
-/

namespace Audience
namespace Json
namespace Reader

/-- Why a step fails. -/
inductive Halt where
  /-- The text is no JSON where so many characters are left. -/
  | stuck (left : Nat)
  /-- An integer has too many digits. -/
  | tooLong
  deriving DecidableEq, Repr, Inhabited

/-- A step: the value read and the characters after it. -/
abbrev Step (α : Type) := Except Halt (α × List Char)

/-- Fail where so many characters are left. -/
def fail (left : Nat) : Step α :=
  .error (.stuck left)

/-- White space between tokens. -/
def isSpace (char : Char) : Bool :=
  char == ' ' || char == '\t' || char == '\n' || char == '\r'

/-- Skip white space. -/
def skip (chars : List Char) : List Char :=
  chars.dropWhile isSpace

/-- The value of a hexadecimal digit. -/
def hexDigit? (char : Char) : Option Nat :=
  if '0' ≤ char ∧ char ≤ '9' then some (char.toNat - '0'.toNat)
  else if 'a' ≤ char ∧ char ≤ 'f' then some (char.toNat - 'a'.toNat + 10)
  else if 'A' ≤ char ∧ char ≤ 'F' then some (char.toNat - 'A'.toNat + 10)
  else none

/-- The code unit written by four hexadecimal digits. -/
def unit? (a b c d : Char) : Option Nat := do
  let a ← hexDigit? a
  let b ← hexDigit? b
  let c ← hexDigit? c
  let d ← hexDigit? d
  return ((a * 16 + b) * 16 + c) * 16 + d

/-- The character that a one-letter escape stands for. -/
def escape? : Char → Option Char
  | '"' => some '"'
  | '\\' => some '\\'
  | '/' => some '/'
  | 'b' => some '\x08'
  | 'f' => some '\x0c'
  | 'n' => some '\n'
  | 'r' => some '\r'
  | 't' => some '\t'
  | _ => none

/-- Put a character in front of the text read by a step. -/
def consChar (char : Char) (step : Step (List Char)) : Step (List Char) :=
  step.map fun (text, rest) => (char :: text, rest)

/-- Read the rest of a string after its opening quote, at which `opening`
characters were left. -/
def string (opening : Nat) : List Char → Step (List Char)
  | [] => fail opening
  | '"' :: rest => .ok ([], rest)
  | '\\' :: [] => fail opening
  | '\\' :: 'u' :: a :: b :: c :: d :: '\\' :: 'u' :: e :: f :: g :: h ::
      next :: rest =>
      let left := rest.length + 12
      match unit? a b c d with
      | none => fail left
      | some high =>
          if Text.isHighHalf high then
            match unit? e f g h with
            | none => fail (left - 6)
            | some low =>
                if Text.isLowHalf low then
                  consChar (Text.pairChar high low) (string opening (next :: rest))
                else
                  consChar (Text.unitChar high)
                    (string opening
                      ('\\' :: 'u' :: e :: f :: g :: h :: next :: rest))
          else
            consChar (Text.unitChar high)
              (string opening
                ('\\' :: 'u' :: e :: f :: g :: h :: next :: rest))
  | '\\' :: 'u' :: a :: b :: c :: d :: next :: rest =>
      match unit? a b c d with
      | none => fail (rest.length + 6)
      | some unit => consChar (Text.unitChar unit) (string opening (next :: rest))
  | '\\' :: 'u' :: rest => fail (rest.length + 1)
  | '\\' :: mark :: rest =>
      match escape? mark with
      | some char => consChar char (string opening rest)
      | none => fail (rest.length + 2)
  | char :: rest =>
      if char.toNat < 0x20 then fail (rest.length + 1)
      else consChar char (string opening rest)

/-- Split the digits off the front. -/
def digits (chars : List Char) : List Char × List Char :=
  (chars.takeWhile Decimal.isDigit, chars.dropWhile Decimal.isDigit)

/-- The whole part of a number: a zero, or digits that start with none. -/
def wholePart? : List Char → Option (List Char × List Char)
  | '0' :: rest => some (['0'], rest)
  | chars =>
      match digits chars with
      | ([], _) => none
      | found => some found

/-- The part after the point, when a point and a digit follow. -/
def fractionPart : List Char → Option (List Char) × List Char
  | '.' :: rest =>
      match digits rest with
      | ([], _) => (none, '.' :: rest)
      | (found, after) => (some found, after)
  | chars => (none, chars)

/-- The exponent, when its mark and at least one digit follow. -/
def exponentPart : List Char → Option Int × List Char
  | mark :: rest =>
      if mark == 'e' || mark == 'E' then
        let (negative, body) := Decimal.splitSign rest
        match digits body with
        | ([], _) => (none, mark :: rest)
        | (found, after) =>
            (some (Double.signed negative (Decimal.valueFrom 0 found)), after)
      else (none, mark :: rest)
  | [] => (none, [])

/-- Read a number: an integer unless it has a fraction or an exponent. -/
def number (chars : List Char) : Step Json :=
  let (negative, body) :=
    match chars with
    | '-' :: rest => (true, rest)
    | _ => (false, chars)
  match wholePart? body with
  | none => fail chars.length
  | some (whole, afterWhole) =>
      let (part, afterPart) := fractionPart afterWhole
      let (exponent, rest) := exponentPart afterPart
      let value := Decimal.valueFrom 0 whole
      match part, exponent with
      | none, none =>
          if Text.maxDigits < whole.length then .error .tooLong
          else .ok (int (Double.signed negative value), rest)
      | _, _ =>
          let part := part.getD []
          let digits := Decimal.valueFrom value part
          let exponent := exponent.getD 0 - part.length
          .ok (double (Decimal.toDouble negative digits exponent), rest)

mutual

/-- Read one value; `fuel` bounds the depth and the number of tokens. -/
def value : Nat → List Char → Step Json
  | 0, chars => fail chars.length
  | fuel + 1, chars =>
      match chars with
      | '"' :: rest =>
          (string chars.length rest).map fun (text, after) =>
            (str (String.ofList text), after)
      | '\x7b' :: rest =>
          match skip rest with
          | '\x7d' :: after => .ok (obj [], after)
          | inside => field fuel [] inside
      | '[' :: rest =>
          match skip rest with
          | ']' :: after => .ok (arr [], after)
          | inside => item fuel [] inside
      | 'n' :: 'u' :: 'l' :: 'l' :: rest => .ok (null, rest)
      | 't' :: 'r' :: 'u' :: 'e' :: rest => .ok (bool true, rest)
      | 'f' :: 'a' :: 'l' :: 's' :: 'e' :: rest => .ok (bool false, rest)
      | 'N' :: 'a' :: 'N' :: rest => .ok (double .nan, rest)
      | 'I' :: 'n' :: 'f' :: 'i' :: 'n' :: 'i' :: 't' :: 'y' :: rest =>
          .ok (double (.infinity false), rest)
      | '-' :: 'I' :: 'n' :: 'f' :: 'i' :: 'n' :: 'i' :: 't' :: 'y' :: rest =>
          .ok (double (.infinity true), rest)
      | _ => number chars

/-- Read the items of an array from the next item on, up to its end. -/
def item : Nat → List Json → List Char → Step Json
  | 0, _, chars => fail chars.length
  | fuel + 1, before, chars =>
      match value fuel chars with
      | .error halt => .error halt
      | .ok (json, rest) =>
          match skip rest with
          | ']' :: after => .ok (arr (before ++ [json]), after)
          | ',' :: after => item fuel (before ++ [json]) (skip after)
          | stuck => fail stuck.length

/-- Read the fields of an object from the next field on, up to its end. -/
def field : Nat → Fields → List Char → Step Json
  | 0, _, chars => fail chars.length
  | fuel + 1, before, chars =>
      match chars with
      | '"' :: rest =>
          match string chars.length rest with
          | .error halt => .error halt
          | .ok (name, afterName) =>
              match skip afterName with
              | ':' :: afterColon =>
                  match value fuel (skip afterColon) with
                  | .error halt => .error halt
                  | .ok (json, afterValue) =>
                      let fields := Keyed.put (String.ofList name) json before
                      match skip afterValue with
                      | '\x7d' :: after => .ok (obj fields, after)
                      | ',' :: after => field fuel fields (skip after)
                      | stuck => fail stuck.length
              | stuck => fail stuck.length
      | stuck => fail stuck.length

end

end Reader

/-- Why a text has no JSON value. -/
inductive Refusal where
  /-- The text is no JSON from the character at this offset on. -/
  | notJson (offset : Nat)
  /-- The bytes are no text, or an integer in it has too many digits. -/
  | unreadable
  deriving DecidableEq, Repr, Inhabited

/-- Read characters as one value. -/
def readChars (chars : List Char) : Except Refusal Json :=
  match Reader.value (chars.length + 1) (Reader.skip chars) with
  | .error (.stuck left) => .error (.notJson (chars.length - left))
  | .error .tooLong => .error .unreadable
  | .ok (json, rest) =>
      match Reader.skip rest with
      | [] => .ok json
      | extra => .error (.notJson (chars.length - extra.length))

/-- Read a whole text as one value. -/
def read (text : String) : Except Refusal Json :=
  readChars text.toList

/-- Read a text that was sent, in whichever encoding its bytes are. -/
def readSent (text : String) : Except Refusal Json :=
  match Text.saidBy? text.toList with
  | some chars => readChars chars
  | none => .error .unreadable

end Json
end Audience
