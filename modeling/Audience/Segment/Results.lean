import Audience.Segment.Page

/-!
# Results of running a segment

The persons on the page that was run, the number of persons in the whole
segment, the page itself when the backend reports one, and debug information.
-/

namespace Audience

/-- The result of running a segment. -/
structure Results where
  persons : List Fields
  total : Int
  page : Option Page
  debug : Option Fields
  deriving Repr, Inhabited

namespace Results

/-- A whole number in the JSON sense: an integer or a boolean. -/
def isWhole : Json → Bool
  | .int _ => true
  | .bool _ => true
  | _ => false

/-- Read the page of a result; one without number or size is dropped. -/
def readPage : Reader (Option Page)
  | .obj fields =>
      if isWhole (Fields.getD "page" fields) &&
          isWhole (Fields.getD "size" fields) then
        (Page.readFields fields).map some
      else .value none
  | json => Reading.nullable Page.read json

/-- Read a result. -/
def read : Reader Results := Reading.model "SegmentResults" fun fields =>
  Results.mk
    <$> Reading.optional ["crmPersons", "crm_persons"] []
      (Reading.list Reading.object) fields
    <*> Reading.optional ["total"] 0 Reading.integer fields
    <*> Reading.optional ["pagination"] none readPage fields
    <*> Reading.optional ["debug"] none (Reading.nullable Reading.object)
      fields

/-- An optional page as a JSON value. -/
def pageJson : Option Page → Json
  | some page => page.toJson
  | none => .null

/-- Optional fields as a JSON value. -/
def fieldsJson : Option Fields → Json
  | some fields => .obj fields
  | none => .null

/-- A result as an object. -/
def toJson (results : Results) : Json :=
  .obj
    [ ("crmPersons", .arr (results.persons.map .obj)),
      ("total", .int results.total),
      ("pagination", pageJson results.page),
      ("debug", fieldsJson results.debug) ]

end Results
end Audience
