import Audience.Json.Basic

/-!
# What can go wrong with a value

A value read against a schema is refused with located field errors.  A value
that does not support what is asked of it at all is misused.  Both are causes;
their wording stands in one function each.
-/

namespace Audience

/-- An operation that a value does not support. -/
inductive Misuse where
  /-- A value of another type was needed. -/
  | wrongType
  /-- The value has no such member. -/
  | noMember
  /-- The type fits, the value does not. -/
  | badValue
  /-- The result is too large. -/
  | overflow
  /-- A number was divided by zero. -/
  | divisionByZero
  /-- The text is not an address. -/
  | badAddress
  /-- The text has characters that the encoding in use does not have. -/
  | notEncodable
  /-- The object has no such key. -/
  | noKey
  deriving DecidableEq, Repr, Inhabited

/-- A value that can be sent: every number in it has a spelling, every text an
encoding. -/
def Json.ensureSendable (json : Json) : Except Misuse Unit :=
  if !json.isFinite then .error .badValue
  else if !json.isEncodable then .error .notEncodable
  else .ok ()

/-- Why a schema refuses a value. -/
inductive Flaw where
  | missing
  | notText
  | notUnicode
  | tooShort
  | notInteger
  | integerText
  | integerFraction
  | notFinite
  | integerSize
  | below (bound : Int)
  | above (bound : Int)
  | notNumber
  | numberText
  | notFlag
  | flagText
  | notOrder
  | notList
  | notObject
  | notModel (name : String)
  | notBody
  | notTimestamp
  | unexpected
  | notJson
  | refused (reason : String)
  deriving DecidableEq, Repr, Inhabited

namespace Flaw

/-- The machine-readable name of a flaw. -/
def kind : Flaw → String
  | missing => "missing"
  | notText => "string_type"
  | notUnicode => "string_unicode"
  | tooShort => "string_too_short"
  | notInteger => "int_type"
  | integerText => "int_parsing"
  | integerFraction => "int_from_float"
  | notFinite => "finite_number"
  | integerSize => "int_parsing_size"
  | below _ => "greater_than_equal"
  | above _ => "less_than_equal"
  | notNumber => "float_type"
  | numberText => "float_parsing"
  | notFlag => "bool_type"
  | flagText => "bool_parsing"
  | notOrder => "literal_error"
  | notList => "list_type"
  | notObject => "dict_type"
  | notModel _ => "model_type"
  | notBody => "model_attributes_type"
  | notTimestamp => "datetime_invalid"
  | unexpected => "extra_forbidden"
  | notJson => "json_invalid"
  | refused _ => "value_error"

/-- The message of a flaw. -/
def message : Flaw → String
  | missing => "Field required"
  | notText => "Input should be a valid string"
  | notUnicode =>
      "Input should be a valid string, unable to parse raw data as a " ++
        "unicode string"
  | tooShort => "String should have at least 1 character"
  | notInteger => "Input should be a valid integer"
  | integerText =>
      "Input should be a valid integer, unable to parse string as an integer"
  | integerFraction =>
      "Input should be a valid integer, got a number with a fractional part"
  | notFinite => "Input should be a finite number"
  | integerSize =>
      "Unable to parse input string as an integer, exceeded maximum size"
  | below bound =>
      "Input should be greater than or equal to " ++ toString bound
  | above bound => "Input should be less than or equal to " ++ toString bound
  | notNumber => "Input should be a valid number"
  | numberText =>
      "Input should be a valid number, unable to parse string as a number"
  | notFlag => "Input should be a valid boolean"
  | flagText => "Input should be a valid boolean, unable to interpret input"
  | notOrder => "Input should be 'asc' or 'desc'"
  | notList => "Input should be a valid list"
  | notObject => "Input should be a valid dictionary"
  | notModel name =>
      "Input should be a valid dictionary or instance of " ++ name
  | notBody =>
      "Input should be a valid dictionary or object to extract fields from"
  | notTimestamp => "Input should be a valid datetime"
  | unexpected => "Extra inputs are not permitted"
  | notJson => "JSON decode error"
  | refused reason => "Value error, " ++ reason

end Flaw

/-- A flaw and where it is: the keys and positions that lead to the value. -/
structure FieldError where
  path : List String
  flaw : Flaw
  deriving DecidableEq, Repr, Inhabited

namespace FieldError

/-- The path as one text. -/
def place (error : FieldError) : String :=
  ".".intercalate error.path

end FieldError

end Audience
