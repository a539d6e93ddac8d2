/-!
# Binary64 numbers, exactly

A finite double is a sign, a significand and a power of two, so that every
question about its value is a question about integers.  Main operations:
rounding a quotient of naturals to the nearest double, exact comparison with
integers and with other doubles, and the integer part.
-/

namespace Audience

/-- A binary64 value.  `finite negative significand exponent` denotes
`± significand * 2 ^ exponent`; both zeros keep their sign. -/
inductive Double where
  | nan
  | infinity (negative : Bool)
  | finite (negative : Bool) (significand : Nat) (exponent : Int)
  deriving DecidableEq, Repr, Inhabited

namespace Double

/-- Remove trailing zero bits from a significand, at most `fuel` of them. -/
def stripTwos : Nat → Nat → Int → Nat × Int
  | 0, significand, exponent => (significand, exponent)
  | fuel + 1, significand, exponent =>
      if significand % 2 = 0 then
        stripTwos fuel (significand / 2) (exponent + 1)
      else (significand, exponent)

/-- The finite value `± significand * 2 ^ exponent` with an odd significand,
or a zero with exponent zero. -/
def ofScaled (negative : Bool) (significand : Nat) (exponent : Int) : Double :=
  if significand = 0 then finite negative 0 0
  else
    let stripped := stripTwos significand.log2 significand exponent
    finite negative stripped.1 stripped.2

/-- Positive zero. -/
def zero : Double := finite false 0 0

/-- The quotient rounded to an integer, a half going to the even neighbour. -/
def roundHalfEven (numerator denominator : Nat) : Nat :=
  let quotient := numerator / denominator
  let twice := 2 * (numerator % denominator)
  if twice < denominator then quotient
  else if denominator < twice then quotient + 1
  else quotient + quotient % 2

/-- The nonnegative rational `numerator / denominator * 2 ^ (-exponent)` as a
quotient of naturals. -/
def scaleDown (numerator denominator : Nat) (exponent : Int) : Nat × Nat :=
  if 0 ≤ exponent then (numerator, denominator * Nat.pow 2 exponent.toNat)
  else (numerator * Nat.pow 2 (-exponent).toNat, denominator)

/-- The exponent of the last significand bit of the double nearest to a
positive quotient: 53 bits are kept, and no bit below `2 ^ (-1074)`. -/
def unitExponent (numerator denominator : Nat) : Int :=
  let low : Int := (numerator.log2 : Int) - (denominator.log2 : Int) - 53
  let scaled := scaleDown numerator denominator low
  let exponent := if Nat.pow 2 53 ≤ scaled.1 / scaled.2 then low + 1 else low
  max exponent (-1074)

/-- The double nearest to `± numerator / denominator`, ties to even, beyond the
largest finite double an infinity.  The denominator is positive. -/
def ofRatio (negative : Bool) (numerator denominator : Nat) : Double :=
  if numerator = 0 then finite negative 0 0
  else
    let exponent := unitExponent numerator denominator
    let scaled := scaleDown numerator denominator exponent
    let significand := roundHalfEven scaled.1 scaled.2
    if 971 < exponent ∨ (exponent = 971 ∧ Nat.pow 2 53 ≤ significand) then
      infinity negative
    else ofScaled negative significand exponent

/-- The double nearest to an integer. -/
def ofInt (value : Int) : Double :=
  ofRatio (decide (value < 0)) value.natAbs 1

/-- Neither infinite nor a NaN. -/
def isFinite : Double → Bool
  | finite _ _ _ => true
  | _ => false

/-- A zero of either sign. -/
def isZero : Double → Bool
  | finite _ significand _ => significand == 0
  | _ => false

/-- Finite with no fractional part. -/
def isIntegral : Double → Bool
  | finite _ significand exponent =>
      decide (0 ≤ exponent) || significand % Nat.pow 2 (-exponent).toNat == 0
  | _ => false

/-- Give a natural number a sign. -/
def signed (negative : Bool) (magnitude : Nat) : Int :=
  if negative then -(magnitude : Int) else magnitude

/-- The integer part, toward zero; infinities and NaN give zero. -/
def truncate : Double → Int
  | finite negative significand exponent =>
      signed negative <|
        if 0 ≤ exponent then significand * Nat.pow 2 exponent.toNat
        else significand / Nat.pow 2 (-exponent).toNat
  | _ => 0

/-- The largest integer not above the value; infinities and NaN give zero. -/
def floor : Double → Int
  | finite negative significand exponent =>
      if 0 ≤ exponent then
        signed negative (significand * Nat.pow 2 exponent.toNat)
      else
        (signed negative significand).fdiv (Nat.pow 2 (-exponent).toNat)
  | _ => 0

/-- The smallest integer not below the value; infinities and NaN give zero. -/
def ceiling : Double → Int
  | finite negative significand exponent =>
      if 0 ≤ exponent then
        signed negative (significand * Nat.pow 2 exponent.toNat)
      else
        -((-(signed negative significand)).fdiv (Nat.pow 2 (-exponent).toNat))
  | _ => 0

/-- How far a value lies above its floor, as a double; infinities and NaN give
zero. -/
def aboveFloor : Double → Double
  | finite negative significand exponent =>
      if 0 ≤ exponent then zero
      else
        let denominator : Nat := Nat.pow 2 (-exponent).toNat
        ofRatio false
          ((signed negative significand).fmod denominator).toNat denominator
  | _ => zero

/-- The nearest natural number to a multiple of a value that is not negative.
The multiple is a double, and a half of one goes up. -/
def roundedMultiple (factor : Nat) : Double → Nat
  | finite _ significand exponent =>
      let product := scaleDown (significand * factor) 1 (-exponent)
      match ofRatio false product.1 product.2 with
      | finite _ m k =>
          let value := scaleDown m 1 (-k)
          (2 * value.1 + value.2) / (2 * value.2)
      | _ => 0
  | _ => 0

/-- A finite value as an integer over a power of two. -/
def fraction (negative : Bool) (significand : Nat) (exponent : Int) :
    Int × Nat :=
  if 0 ≤ exponent then
    (signed negative (significand * Nat.pow 2 exponent.toNat), 1)
  else (signed negative significand, Nat.pow 2 (-exponent).toNat)

/-- Order of two doubles by value; `none` when one of them is a NaN. -/
def compare : Double → Double → Option Ordering
  | nan, _ => none
  | _, nan => none
  | infinity first, infinity second =>
      some (Ord.compare second first)
  | infinity negative, finite _ _ _ => some (if negative then .lt else .gt)
  | finite _ _ _, infinity negative => some (if negative then .gt else .lt)
  | finite first m k, finite second n l =>
      let left := fraction first m k
      let right := fraction second n l
      some (Ord.compare (left.1 * right.2) (right.1 * left.2))

/-- Equality of values: zeros are equal, a NaN equals nothing. -/
def sameValue (first second : Double) : Bool :=
  compare first second == some .eq

/-- An integer has exactly this value. -/
def sameValueAsInt (number : Double) (value : Int) : Bool :=
  match number with
  | finite negative significand exponent =>
      let pair := fraction negative significand exponent
      pair.1 == value * pair.2
  | _ => false

end Double
end Audience
