import Audience.Address.Escape
import Audience.Address.Punycode
import Audience.Text.Split
import Audience.Text.Upper

/-!
# Hosts

The host of an address is a number of four or of sixteen bytes, the latter in
brackets, or a name.  Names in other scripts are written in ASCII, label by
label.
-/

namespace Audience
namespace Host

/-- A byte in decimal digits, without a zero in front. -/
def isByte (digits : List Char) : Bool :=
  !digits.isEmpty && digits.all Decimal.isDigit && digits.length ≤ 3 &&
    (digits.head? != some '0' || digits == ['0']) &&
    Decimal.valueFrom 0 digits ≤ 255

/-- Four bytes with points between them. -/
def isDotted (chars : List Char) : Bool :=
  let parts := Text.split '.' chars
  parts.length == 4 && parts.all isByte

/-- The lengths of the runs of digits between other characters. -/
def runLengths : List Char → List Nat
  | [] => [0]
  | char :: rest =>
      match runLengths rest with
      | [] => []
      | length :: more =>
          if Decimal.isDigit char then (length + 1) :: more
          else 0 :: length :: more

/-- The text looks like four numbers, whatever single character stands between
each two of them. -/
def looksDotted (chars : List Char) : Bool :=
  let runs := runLengths chars
  runs.all (0 < ·) && runs.length ≤ 4 &&
    4 ≤ runs.foldl (fun total length => total + (length - 1) / 2) runs.length

/-- A part of at most four hexadecimal digits. -/
def isHexPart (part : List Char) : Bool :=
  !part.isEmpty && part.length ≤ 4 &&
    part.all fun char => (Json.Reader.hexDigit? char).isSome

/-- Sixteen bytes in eight parts, of which one run of zeros may be left out
between two colons.  The last four bytes may be dotted. -/
def isColoned (chars : List Char) : Bool :=
  let parts := Text.split ':' chars
  let last := parts.getLastD []
  let dotted := last.contains '.'
  let parts :=
    if dotted then parts.dropLast ++ [['0'], ['0']] else parts
  let inner := (parts.drop 1).dropLast
  let shown := parts.filter fun part => !part.isEmpty
  (Text.split ':' chars).length ≥ 3 && parts.length ≤ 9 &&
    (!dotted || isDotted last) && shown.all isHexPart &&
    (match inner.countP List.isEmpty with
      | 0 => parts.length == 8 && shown.length == 8
      | 1 =>
          shown.length ≤ 7 &&
            (parts.head? != some [] || inner.head? == some []) &&
            (parts.getLast? != some [] || inner.getLast? == some [])
      | _ => false)

/-- A bracketed number, which may name a zone after a percent sign. -/
def isBracketed (chars : List Char) : Bool :=
  !chars.contains '/' &&
    (match Text.split '%' chars with
      | [number] => isColoned number
      | [number, zone] => !zone.isEmpty && isColoned number
      | _ => false)

/-- The ranges of letters without case that may stand in names. -/
def letterRanges : List (Nat × Nat) :=
  [ (0x300, 0x36F), (0x5D0, 0x5EA), (0x620, 0x64A), (0x660, 0x669),
    (0x671, 0x6D3), (0x6F0, 0x6F9), (0x900, 0xDFF), (0xE01, 0xE32),
    (0xE34, 0xE3A), (0xE40, 0xE4E), (0x10D0, 0x10F0), (0x3041, 0x3096),
    (0x30A1, 0x30FA), (0x30FC, 0x30FE), (0x3400, 0x4DBF), (0x4E00, 0x9FFF),
    (0xAC00, 0xD7A3), (0x20000, 0x2A6DF) ]

/-- A character that may stand in a name that is not all ASCII. -/
def isNameChar (char : Char) : Bool :=
  let code := char.toNat
  if code < 0x80 then char.isLower || char.isDigit || char == '-'
  else
    char == '\u00DF' || Text.upperInRuns code != code ||
      letterRanges.any fun range => range.1 ≤ code && code ≤ range.2

/-- The greatest length of a label. -/
def maxLabel : Nat := 63

/-- A label in ASCII. -/
def label? (chars : List Char) : Option (List Char) :=
  if chars.isEmpty || !chars.all isNameChar || chars.head? == some '-' ||
      chars.getLast? == some '-' || (chars.drop 2).take 2 == ['-', '-'] then
    none
  else
    let written :=
      if chars.all fun char => char.toNat < 0x80 then chars
      else "xn--".toList ++ Punycode.encode chars
    if written.length ≤ maxLabel then some written else none

/-- The points that separate the labels of a name. -/
def asPoint (char : Char) : Char :=
  if char == '\u3002' || char == '\uFF0E' || char == '\uFF61' then '.'
  else char

/-- A name that is not all ASCII, in ASCII; a point may end it. -/
def name? (chars : List Char) : Option (List Char) := do
  let labels := Text.split '.' (chars.map asPoint)
  let (labels, closing) :=
    if labels.getLast? == some [] then (labels.dropLast, ['.']) else (labels, [])
  let written ← labels.mapM label?
  return Text.join '.' written ++ closing

/-- The lower case of a letter, where its upper case is the letter itself. -/
def lowerChar (char : Char) : Char :=
  if char.toNat < 0x80 then char.toLower
  else
    match Text.upperRuns.find? fun (first, last, step, shift) =>
        let lower := (char.toNat : Int) - shift
        (first : Int) ≤ lower && lower ≤ last &&
          (lower - first) % step == 0 with
    | some (_, _, _, shift) => Char.ofNat ((char.toNat : Int) - shift).toNat
    | none => char

/-- The host that a text names, in ASCII and without brackets; `[]` when it
names none. -/
def read? (chars : List Char) : Option (List Char) :=
  if looksDotted chars then
    if isDotted chars then some chars else none
  else if chars.head? == some '[' && chars.getLast? == some ']' then
    let number := (chars.drop 1).dropLast
    if isBracketed number then some number else none
  else if chars.all fun char => char.toNat < 0x80 then
    some (Address.encode Address.isHostChar (chars.map Char.toLower))
  else name? (chars.map lowerChar)

/-- A host as it stands in an address. -/
def text (host : List Char) : List Char :=
  if host.contains ':' then '[' :: host ++ [']'] else host

end Host
end Audience
