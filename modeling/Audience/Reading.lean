import Audience.Fault
import Audience.Number.Decimal
import Audience.Text.Blank
import Audience.Text.Digit

/-!
# Reading values against a schema

A reading gives a value, or all field errors of its parts in order, or stops at
a misuse.  The readers for single values accept what can be understood without
loss: integers written as text, whole doubles, the usual words for a flag.
-/

namespace Audience

/-- The outcome of reading a value against a schema. -/
inductive Reading (α : Type) where
  | value (value : α)
  | rejected (errors : List FieldError)
  | misused (misuse : Misuse)
  deriving Repr

/-- A schema: how to read a value of type `α`. -/
abbrev Reader (α : Type) := Json → Reading α

namespace Reading

/-- Apply a function to the value read. -/
def map (change : α → β) : Reading α → Reading β
  | value result => value (change result)
  | rejected errors => rejected errors
  | misused misuse => misused misuse

/-- Read two parts.  Field errors of both are kept, in order; a misuse in
either ends the reading. -/
def both (change : Reading (α → β)) (part : Reading α) : Reading β :=
  match change, part with
  | misused misuse, _ => misused misuse
  | _, misused misuse => misused misuse
  | rejected first, rejected second => rejected (first ++ second)
  | rejected errors, value _ => rejected errors
  | value _, rejected errors => rejected errors
  | value function, value result => value (function result)

/-- Go on with the value read. -/
def andThen (first : Reading α) (next : α → Reading β) : Reading β :=
  match first with
  | value result => next result
  | rejected errors => rejected errors
  | misused misuse => misused misuse

instance : Functor Reading where
  map := Reading.map

instance : Seq Reading where
  seq change part := Reading.both change (part ())

/-- Refuse the value itself. -/
def fail (flaw : Flaw) : Reading α :=
  rejected [{ path := [], flaw }]

/-- Put a key in front of the place of every error. -/
def inside (key : String) : Reading α → Reading α
  | rejected errors =>
      rejected (errors.map fun error => { error with path := key :: error.path })
  | reading => reading

/-- The reading as a result. -/
def toExcept : Reading α → Except Fault α
  | value result => .ok result
  | rejected errors => .error (.rejected errors)
  | misused misuse => .error (.misuse misuse)

/-- A result that can only fail by misuse, as a reading. -/
def ofExcept : Except Misuse α → Reading α
  | .ok result => value result
  | .error misuse => misused misuse

/-- The first of several names under which a field is present. -/
def pick : List String → Fields → Option (String × Json)
  | [], _ => none
  | name :: names, fields =>
      match Keyed.get? name fields with
      | some json => some (name, json)
      | none => pick names fields

/-- A field with a default, under the first of its names that is present. -/
def optional (names : List String) (default : α) (read : Reader α)
    (fields : Fields) : Reading α :=
  match pick names fields with
  | some (name, json) => (read json).inside name
  | none => value default

/-- A field that must be there; when missing it is reported under its first
name. -/
def required (names : List String) (read : Reader α) (fields : Fields) :
    Reading α :=
  match pick names fields with
  | some (name, json) => (read json).inside name
  | none => (fail .missing).inside (names.headD "")

/-- An object with the given schema of its fields. -/
def model (name : String) (read : Fields → Reading α) : Reader α
  | .obj fields => read fields
  | _ => fail (.notModel name)

/-- Null, or a value of the schema. -/
def nullable (read : Reader α) : Reader (Option α)
  | .null => value none
  | json => (read json).map some

/-- Read all items, each under its position. -/
def items (read : Reader α) : Nat → List Json → Reading (List α)
  | _, [] => value []
  | position, json :: rest =>
      both (((read json).inside (toString position)).map List.cons)
        (items read (position + 1) rest)

/-- A list of values of the schema. -/
def list (read : Reader α) : Reader (List α)
  | .arr values => items read 0 values
  | _ => fail .notList

/-- Any object. -/
def object : Reader Fields
  | .obj fields => value fields
  | _ => fail .notObject

/-- Any value. -/
def anything : Reader Json := value

/-- A text. -/
def text : Reader String
  | .str text => value text
  | _ => fail .notText

/-- The greatest number of characters of an integer that is written plainly. -/
def maxPlainLength : Nat := 4300

/-- Read an integer that is written plainly: an optional minus sign, and digits
of which the first is no zero unless it is the only one. -/
def plainInteger (chars : List Char) : Except Flaw Int :=
  let (negative, body) :=
    match chars with
    | '-' :: rest => (true, rest)
    | _ => (false, chars)
  let digits := body.takeWhile Decimal.isDigit
  let rest := body.dropWhile Decimal.isDigit
  let length := digits.length + (if negative then 1 else 0)
  if digits.isEmpty || (digits.head? == some '0' && body != ['0']) then
    .error .integerText
  else if maxPlainLength < length then .error .integerSize
  else if rest.isEmpty then
    .ok (Double.signed negative (Decimal.valueFrom 0 digits))
  else .error .integerText

/-- What follows zeros at the front and underscores between them, up to a minus
sign, another digit, or the last zero before a point. -/
def afterZeros? (previous : Char) : List Char → Option (List Char)
  | [] => some [previous]
  | char :: rest =>
      if char == '0' || char == '_' then afterZeros? char rest
      else if char == '-' || Decimal.isDigit char then some (char :: rest)
      else if char == '.' then some (previous :: char :: rest)
      else none

/-- Drop zeros from the front of a number, but not the last one. -/
def withoutLeadingZeros? : List Char → Option (List Char)
  | [] => none
  | '0' :: rest => afterZeros? '0' rest
  | char :: rest =>
      if char == '-' || Decimal.isDigit char then some (char :: rest) else none

/-- Drop a point that zeros and nothing else follow. -/
def withoutZeroFraction (chars : List Char) : List Char :=
  match chars.dropWhile (· != '.') with
  | '.' :: '0' :: zeros =>
      if zeros.all (· == '0') then chars.takeWhile (· != '.') else chars
  | _ => chars

/-- The plain form of an integer that is written with blanks around it, a plus
sign, zeros in front, underscores between digits, or a fraction of zeros. -/
def plainForm? (chars : List Char) : Option (List Char) := do
  let trimmed := Text.trimBy Text.isWhite chars
  let unmarked ← match trimmed with
    | '+' :: '-' :: _ => none
    | '+' :: rest => some rest
    | _ => some trimmed
  let (sign, body) :=
    match unmarked with
    | '-' :: rest => (['-'], rest)
    | _ => ([], unmarked)
  let body ← withoutLeadingZeros? body
  let digits ← Text.withoutUnderscores? (withoutZeroFraction body)
  return sign ++ digits

/-- Read an integer from text. -/
def integerOfText (chars : List Char) : Except Flaw Int :=
  match plainInteger chars with
  | .ok number => .ok number
  | .error .integerSize => .error .integerSize
  | .error _ =>
      match (plainForm? chars).map plainInteger with
      | some (.ok number) => .ok number
      | _ => .error .integerText

/-- Read something from text, in which no half of a surrogate pair may stand
alone. -/
def ofText (read : List Char → Except Flaw α) (text : String) : Reading α :=
  if !Text.isEncodable text then fail .notUnicode
  else
    match read text.toList with
    | .ok result => value result
    | .error flaw => fail flaw

/-- A text of at least one character. -/
def nonemptyText : Reader String
  | .str text =>
      ofText (fun chars => if chars = [] then .error .tooShort else .ok text) text
  | _ => fail .notText

/-- The words for true. -/
def yesWords : List String := ["1", "on", "t", "true", "y", "yes"]

/-- The words for false. -/
def noWords : List String := ["0", "off", "f", "false", "n", "no"]

/-- Read a word for a flag. -/
def flagOfText (chars : List Char) : Except Flaw Bool :=
  let word := String.ofList (Decimal.lower chars)
  if yesWords.contains word then .ok true
  else if noWords.contains word then .ok false
  else .error .flagText

/-- The magnitudes that a double may have to count as an integer lie strictly
below this bound. -/
def integerBound : Int := Nat.pow 2 63

/-- The integer that a finite, whole double of moderate size stands for. -/
def wholeNumber (number : Double) : Except Flaw Int :=
  if !number.isFinite then .error .notFinite
  else if !number.isIntegral then .error .integerFraction
  else
    let whole := number.truncate
    if -integerBound < whole ∧ whole < integerBound then .ok whole
    else .error .integerSize

/-- Read zero or one as a flag. -/
def flagOfInteger (number : Int) : Reading Bool :=
  if number = 0 then value false
  else if number = 1 then value true
  else fail .flagText

/-- A flag: a boolean, zero or one, or a word for it in any case.  Integers of
more than 64 bits are no candidates. -/
def flag : Reader Bool
  | .bool flag => value flag
  | .int number =>
      if -integerBound ≤ number ∧ number < integerBound then flagOfInteger number
      else fail .notFlag
  | .double number =>
      match wholeNumber number with
      | .ok whole => flagOfInteger whole
      | .error _ => fail .notFlag
  | .str text => ofText flagOfText text
  | _ => fail .notFlag

/-- An integer: also a boolean, a whole double of moderate size, or text. -/
def integer : Reader Int
  | .int number => value number
  | .bool flag => value (if flag then 1 else 0)
  | .double number =>
      match wholeNumber number with
      | .ok whole => value whole
      | .error flaw => fail flaw
  | .str text => ofText integerOfText text
  | _ => fail .notInteger

/-- An integer of at least `low`. -/
def integerFrom (low : Int) : Reader Int := fun json =>
  (integer json).andThen fun number =>
    if number < low then fail (.below low) else value number

/-- An integer between two bounds, both included. -/
def integerBetween (low high : Int) : Reader Int := fun json =>
  (integerFrom low json).andThen fun number =>
    if high < number then fail (.above high) else value number

/-- Read a double from text: trimmed, or else as it stands with single
underscores between other characters. -/
def doubleOfText (chars : List Char) : Except Flaw Double :=
  match Decimal.double? (Text.trimBy Text.isWhite chars),
    (Text.withoutUnderscores? chars).bind Decimal.double? with
  | some number, _ => .ok number
  | none, some number => .ok number
  | none, none => .error .numberText

/-- A double: also an integer within the range of doubles, a boolean or text. -/
def double : Reader Double
  | .double number => value number
  | .int number =>
      let nearest := Double.ofInt number
      if nearest.isFinite then value nearest else fail .notNumber
  | .bool flag => value (Double.ofInt (if flag then 1 else 0))
  | .str text => ofText doubleOfText text
  | _ => fail .notNumber

/-- Refuse a value read, with a reason, unless it passes a test. -/
def ensure (passes : α → Bool) (reason : String) (read : Reader α) :
    Reader α := fun json =>
  (read json).andThen fun result =>
    if passes result then value result else fail (.refused reason)

end Reading
end Audience
