import Audience.Number.Double

/-!
# Decimal text of doubles

Writing picks the fewest significant digits that read back as the same double
and, of those, the digits nearest to its value.  Numbers whose decimal exponent
lies in `[-4, 16)` are written positionally, all others with an exponent of at
least two digits.  Reading rounds the written value to the nearest double.
-/

namespace Audience
namespace Decimal

/-- The number of decimal digits of a natural number; zero has one. -/
def width (value : Nat) : Nat :=
  (Nat.toDigits 10 value).length

/-- The double nearest to `± digits * 10 ^ exponent`.  Exponents that put every
double with so many digits out of range are decided without computing the
power. -/
def toDouble (negative : Bool) (digits : Nat) (exponent : Int) : Double :=
  if digits = 0 then .finite negative 0 0
  else if 400 < exponent + width digits then .infinity negative
  else if exponent + width digits < -400 then .finite negative 0 0
  else if 0 ≤ exponent then
    Double.ofRatio negative (digits * Nat.pow 10 exponent.toNat) 1
  else Double.ofRatio negative digits (Nat.pow 10 (-exponent).toNat)

/-- The decimal exponent of the leading digit of a positive quotient. -/
def leadingExponent (numerator denominator : Nat) : Int :=
  if denominator ≤ numerator then width (numerator / denominator) - 1
  else
    let inverse := (denominator + numerator - 1) / numerator
    Int.negOfNat (width (inverse - 1))

/-- The grid points next to a quotient, on the grid of spacing
`10 ^ exponent`, nearer one first and the even one first when they are equally
near. -/
def neighbours (numerator denominator : Nat) (exponent : Int) : List Nat :=
  let scaled : Nat × Nat :=
    if 0 ≤ exponent then (numerator, denominator * Nat.pow 10 exponent.toNat)
    else (numerator * Nat.pow 10 (-exponent).toNat, denominator)
  let low := scaled.1 / scaled.2
  let nearest := Double.roundHalfEven scaled.1 scaled.2
  if nearest = low then [low, low + 1] else [low + 1, low]

/-- The first of the given digit counts whose grid has a point that reads back
as the double, with that point and the grid's exponent. -/
def shortestAmong (number : Double) (numerator denominator : Nat)
    (leading : Int) : List Nat → Option (Nat × Int)
  | [] => none
  | count :: counts =>
      let exponent := leading - count + 1
      let hits := (neighbours numerator denominator exponent).filter
        fun digits => toDouble false digits exponent == number
      match hits with
      | digits :: _ => some (digits, exponent)
      | [] => shortestAmong number numerator denominator leading counts

/-- Fewest digits that read back as a positive finite double, with the decimal
exponent of the last one.  Seventeen digits are always enough. -/
def shortest (significand : Nat) (exponent : Int) : Nat × Int :=
  let pair := Double.fraction false significand exponent
  let numerator := pair.1.toNat
  let denominator := pair.2
  let number := Double.ofScaled false significand exponent
  let leading := leadingExponent numerator denominator
  (shortestAmong number numerator denominator leading
    [1, 2, 3, 4, 5, 6, 7, 8, 9, 10, 11, 12, 13, 14, 15, 16, 17]).getD
    (significand, exponent)

/-- Drop zeros from the end of a list of digits. -/
def dropTrailingZeros (digits : List Char) : List Char :=
  (digits.reverse.dropWhile (· == '0')).reverse

/-- An exponent with its sign and at least two digits. -/
def exponentText (exponent : Int) : List Char :=
  let digits := Nat.toDigits 10 exponent.natAbs
  (if exponent < 0 then '-' else '+') ::
    (if digits.length < 2 then '0' :: digits else digits)

/-- Lay out significant digits whose first one has the given decimal
exponent. -/
def layout (digits : List Char) (leading : Int) : List Char :=
  if leading < -4 ∨ 16 ≤ leading then
    match digits with
    | [] => []
    | [digit] => digit :: 'e' :: exponentText leading
    | digit :: more => digit :: '.' :: more ++ 'e' :: exponentText leading
  else if leading < 0 then
    '0' :: '.' :: List.replicate (-leading - 1).toNat '0' ++ digits
  else
    let count := leading.toNat + 1
    let whole := digits.take count
    let padding := List.replicate (count - whole.length) '0'
    match digits.drop count with
    | [] => whole ++ padding ++ ['.', '0']
    | part => whole ++ '.' :: part

/-- Text of a double. -/
def text : Double → String
  | .nan => "nan"
  | .infinity negative => if negative then "-inf" else "inf"
  | .finite negative significand exponent =>
      let body :=
        if significand = 0 then ['0', '.', '0']
        else
          let found := shortest significand exponent
          let digits := Nat.toDigits 10 found.1
          let leading := found.2 + digits.length - 1
          layout (dropTrailingZeros digits) leading
      String.ofList (if negative then '-' :: body else body)

/-- The value of one decimal digit. -/
def digitValue? (char : Char) : Option Nat :=
  if '0' ≤ char ∧ char ≤ '9' then some (char.toNat - '0'.toNat) else none

/-- A character from `0` to `9`. -/
def isDigit (char : Char) : Bool :=
  (digitValue? char).isSome

/-- The number written by a list of decimal digits, continuing `start`. -/
def valueFrom (start : Nat) (digits : List Char) : Nat :=
  digits.foldl (fun value digit => 10 * value + (digitValue? digit).getD 0) start

/-- A decimal number in scientific form, as far as it is written out. -/
structure Scientific where
  negative : Bool
  digits : Nat
  exponent : Int

/-- The double nearest to a scientific form. -/
def Scientific.toDouble (number : Scientific) : Double :=
  Decimal.toDouble number.negative number.digits number.exponent

/-- Split an optional sign from the front of a text. -/
def splitSign : List Char → Bool × List Char
  | '-' :: rest => (true, rest)
  | '+' :: rest => (false, rest)
  | chars => (false, chars)

/-- Read an exponent part: nothing, or `e` or `E`, an optional sign and
digits up to the end. -/
def exponentPart? : List Char → Option Int
  | [] => some 0
  | mark :: rest =>
      if mark == 'e' || mark == 'E' then
        let (negative, digits) := splitSign rest
        if digits.isEmpty || !digits.all isDigit then none
        else some (Double.signed negative (valueFrom 0 digits))
      else none

/-- Read digits with an optional point and an optional exponent part, all the
way to the end; at least one digit is needed before the exponent. -/
def scientific? (chars : List Char) : Option Scientific :=
  let (negative, body) := splitSign chars
  let whole := body.takeWhile isDigit
  let afterWhole := body.dropWhile isDigit
  let (part, tail) :=
    match afterWhole with
    | '.' :: rest => (rest.takeWhile isDigit, rest.dropWhile isDigit)
    | rest => ([], rest)
  if whole.isEmpty && part.isEmpty then none
  else
    (exponentPart? tail).map fun exponent =>
      { negative
        digits := valueFrom (valueFrom 0 whole) part
        exponent := exponent - part.length }

/-- Lower the case of an ASCII text. -/
def lower (chars : List Char) : List Char :=
  chars.map Char.toLower

/-- Read a special value: `nan`, `inf` or `infinity`, in any case, with an
optional sign. -/
def special? (chars : List Char) : Option Double :=
  let (negative, body) := splitSign chars
  let name := String.ofList (lower body)
  if name == "inf" || name == "infinity" then some (.infinity negative)
  else if name == "nan" then some .nan
  else none

/-- Read the text of a double: a special value or a decimal number. -/
def double? (chars : List Char) : Option Double :=
  match special? chars with
  | some value => some value
  | none => (scientific? chars).map Scientific.toDouble

end Decimal
end Audience
