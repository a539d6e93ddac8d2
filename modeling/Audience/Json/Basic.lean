import Audience.Keyed
import Audience.Number.Double
import Audience.Text.Half

/-!
# JSON values

Values keep integers and doubles apart and keep the fields of an object in
the order in which they came.  Besides the type this module holds field lookup,
the notion of an empty value, equality of values across number types, and the
tests for numbers and texts that cannot be sent.
-/

namespace Audience

/-- A JSON value.  The keys of an object are pairwise different. -/
inductive Json where
  | null
  | bool (value : Bool)
  | int (value : Int)
  | double (value : Double)
  | str (text : String)
  | arr (items : List Json)
  | obj (fields : List (String × Json))
  deriving Repr, Inhabited, BEq

/-- The fields of an object. -/
abbrev Fields := Keyed String Json

/-- A number: an integer of any size or a double. -/
inductive Number where
  | int (value : Int)
  | double (value : Double)
  deriving DecidableEq, Repr, Inhabited

namespace Number

/-- The number as a JSON value. -/
def toJson : Number → Json
  | int value => .int value
  | double value => .double value

/-- Equality of values, computed exactly across the two types. -/
def sameValue : Number → Number → Bool
  | int first, int second => first == second
  | int first, double second => second.sameValueAsInt first
  | double first, int second => first.sameValueAsInt second
  | double first, double second => first.sameValue second

end Number

namespace Fields

/-- The value of a key, or null. -/
def getD (key : String) (fields : Fields) : Json :=
  (Keyed.get? key fields).getD .null

end Fields

namespace Json

/-- The fields of an object, none for any other value. -/
def fields? : Json → Option Fields
  | obj fields => some fields
  | _ => none

/-- The value of a key of an object; null for other values and keys. -/
def get (key : String) : Json → Json
  | obj fields => Fields.getD key fields
  | _ => null

/-- An optional text as a JSON value. -/
def ofText? : Option String → Json
  | some text => str text
  | none => null

/-- An optional integer as a JSON value. -/
def ofInt? : Option Int → Json
  | some value => int value
  | none => null

/-- The number that a value counts as: booleans count as zero and one. -/
def number? : Json → Option Number
  | bool value => some (.int (if value then 1 else 0))
  | int value => some (.int value)
  | double value => some (.double value)
  | _ => none

/-- Every value is full except null, false, zero, and the empty text, array
and object. -/
def isFull : Json → Bool
  | null => false
  | bool value => value
  | int value => value != 0
  | double value => !value.isZero
  | str text => text != ""
  | arr items => !items.isEmpty
  | obj fields => !fields.isEmpty

/-- Null, or any value that is not full. -/
def isHollow (json : Json) : Bool :=
  !json.isFull

mutual

/-- Equality of values: numbers and booleans by number, arrays in order,
objects in any order of their keys. -/
def sameValue : Json → Json → Bool
  | null, null => true
  | str first, str second => first == second
  | arr first, arr second => sameItems first second
  | obj first, obj second =>
      first.length == second.length && sameFields first second
  | first, second =>
      match first.number?, second.number? with
      | some left, some right => left.sameValue right
      | _, _ => false

/-- Equality of arrays, item by item. -/
def sameItems : List Json → List Json → Bool
  | [], [] => true
  | first :: firsts, second :: seconds =>
      sameValue first second && sameItems firsts seconds
  | _, _ => false

/-- Every field on the left has an equal field on the right. -/
def sameFields : Fields → Fields → Bool
  | [], _ => true
  | (name, value) :: rest, others =>
      (match Keyed.get? name others with
        | some other => sameValue value other
        | none => false) && sameFields rest others

end

mutual

/-- No NaN and no infinity anywhere inside. -/
def isFinite : Json → Bool
  | double value => value.isFinite
  | arr items => itemsFinite items
  | obj fields => fieldsFinite fields
  | _ => true

/-- All items are finite. -/
def itemsFinite : List Json → Bool
  | [] => true
  | item :: rest => isFinite item && itemsFinite rest

/-- All field values are finite. -/
def fieldsFinite : Fields → Bool
  | [] => true
  | (_, value) :: rest => isFinite value && fieldsFinite rest

end

mutual

/-- No half of a surrogate pair stands alone in any text inside. -/
def isEncodable : Json → Bool
  | str text => Text.isEncodable text
  | arr items => itemsEncodable items
  | obj fields => fieldsEncodable fields
  | _ => true

/-- All items are encodable. -/
def itemsEncodable : List Json → Bool
  | [] => true
  | item :: rest => isEncodable item && itemsEncodable rest

/-- All keys and field values are encodable. -/
def fieldsEncodable : Fields → Bool
  | [] => true
  | (name, value) :: rest =>
      Text.isEncodable name && isEncodable value && fieldsEncodable rest

end

mutual

/-- The value without the fields, at any depth, whose key passes a test. -/
def withoutKeys (drop : String → Bool) : Json → Json
  | arr items => .arr (itemsWithoutKeys drop items)
  | obj fields => .obj (fieldsWithoutKeys drop fields)
  | json => json

/-- All items without such fields. -/
def itemsWithoutKeys (drop : String → Bool) : List Json → List Json
  | [] => []
  | item :: rest => item.withoutKeys drop :: itemsWithoutKeys drop rest

/-- The other fields, and their values without such fields. -/
def fieldsWithoutKeys (drop : String → Bool) : Fields → Fields
  | [] => []
  | (name, value) :: rest =>
      if drop name then fieldsWithoutKeys drop rest
      else (name, value.withoutKeys drop) :: fieldsWithoutKeys drop rest

end

mutual

/-- The value with null in place of NaN and the infinities, which the wire form
of JSON does not have. -/
def onWire : Json → Json
  | double value => if value.isFinite then .double value else .null
  | arr items => .arr (itemsOnWire items)
  | obj fields => .obj (fieldsOnWire fields)
  | json => json

/-- All items on the wire. -/
def itemsOnWire : List Json → List Json
  | [] => []
  | item :: rest => item.onWire :: itemsOnWire rest

/-- All field values on the wire. -/
def fieldsOnWire : Fields → Fields
  | [] => []
  | (name, value) :: rest => (name, value.onWire) :: fieldsOnWire rest

end

end Json
end Audience
