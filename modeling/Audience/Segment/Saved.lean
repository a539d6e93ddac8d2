import Audience.Filter.Normalize
import Audience.Segment.Results
import Audience.Timestamp

/-!
# Saved segments

A segment that is kept under an identifier with the prompt that produced it,
the changes that can be made to it, and the answer of the service that turns a
prompt into a segment.  Filter trees are normalized on the way in.
-/

namespace Audience

/-- Read a filter root; whatever the value, it is normalized. -/
def Filter.Root.read : Reader Filter.Root := fun json =>
  Reading.ofExcept (Filter.Root.ofJson json)

/-- A text in which everything that is not full counts as empty. -/
def Reading.looseText : Reader String := fun json =>
  if json.isHollow then .value "" else Reading.text json

/-- The segment generated from a prompt, with its first results. -/
structure Generated where
  segment : Filter.Root
  results : Results
  deriving Repr

namespace Generated

/-- Read a generated segment. -/
def read : Reader Generated := Reading.model "GenerateResponse" fun fields =>
  Generated.mk
    <$> Reading.required ["segment"] Filter.Root.read fields
    <*> Reading.required ["results"] Results.read fields

/-- A generated segment as an object. -/
def toJson (generated : Generated) : Json :=
  .obj
    [ ("segment", generated.segment.toJson),
      ("results", generated.results.toJson) ]

end Generated

/-- A segment that can be run again. -/
structure SavedSegment where
  id : String
  title : String
  prompt : String
  ast : Filter.Root
  favorite : Bool
  lastUsed : Option Timestamp
  createdAt : Option Timestamp
  updatedAt : Option Timestamp
  deriving Repr, Inhabited

namespace SavedSegment

/-- An optional timestamp under one of several names. -/
def readTime (names : List String) (fields : Fields) :
    Reading (Option Timestamp) :=
  Reading.optional names none (Reading.nullable Timestamp.read) fields

/-- Read a saved segment. -/
def read : Reader SavedSegment := Reading.model "SavedSegment" fun fields =>
  SavedSegment.mk
    <$> Reading.required ["id"] Reading.text fields
    <*> Reading.optional ["title"] "" Reading.looseText fields
    <*> Reading.optional ["prompt"] "" Reading.looseText fields
    <*> Reading.required ["ast"] Filter.Root.read fields
    <*> Reading.optional ["favorite"] false Reading.flag fields
    <*> readTime ["lastUsed", "last_used"] fields
    <*> readTime ["createdAt", "created_at"] fields
    <*> readTime ["updatedAt", "updated_at"] fields

/-- An optional timestamp as a JSON value. -/
def timeJson : Option Timestamp → Json
  | some time => time.toJson
  | none => .null

/-- A saved segment as an object. -/
def toJson (segment : SavedSegment) : Json :=
  .obj
    [ ("id", .str segment.id),
      ("title", .str segment.title),
      ("prompt", .str segment.prompt),
      ("ast", segment.ast.toJson),
      ("favorite", .bool segment.favorite),
      ("lastUsed", timeJson segment.lastUsed),
      ("createdAt", timeJson segment.createdAt),
      ("updatedAt", timeJson segment.updatedAt) ]

/-- Changes to a saved segment.  A part that is not given is `none`; a part
given as null is `some none` and changes nothing. -/
structure Patch where
  title : Option (Option String)
  favorite : Option (Option Bool)
  lastUsed : Option (Option Timestamp)
  deriving DecidableEq, Repr, Inhabited

namespace Patch

/-- A field that is remembered as given. -/
def given (names : List String) (read : Reader α) (fields : Fields) :
    Reading (Option (Option α)) :=
  Reading.optional names none
    (fun json => (Reading.nullable read json).map some) fields

/-- Read the parts of changes. -/
def readFields (fields : Fields) : Reading Patch :=
  Patch.mk
    <$> given ["title"] Reading.nonemptyText fields
    <*> given ["favorite"] Reading.flag fields
    <*> given ["lastUsed", "last_used"] Timestamp.read fields

/-- Read changes. -/
def read : Reader Patch := Reading.model "SavedSegmentUpdate" readFields

/-- No changes. -/
def empty : Patch := { title := none, favorite := none, lastUsed := none }

/-- A new title. -/
def ofTitle (title : String) : Patch := { empty with title := some (some title) }

/-- A time of last use. -/
def ofLastUsed (time : Timestamp) : Patch :=
  { empty with lastUsed := some (some time) }

/-- A field that is written when it has a value. -/
def field (key : String) (toJson : α → Json) : Option (Option α) → Fields
  | some (some value) => [(key, toJson value)]
  | _ => []

/-- The changes as an object of the parts that have a value. -/
def toJson (patch : Patch) : Json :=
  .obj <|
    field "title" .str patch.title ++
    field "favorite" .bool patch.favorite ++
    field "lastUsed" Timestamp.toJson patch.lastUsed

/-- The names of the parts that were given, in alphabetical order. -/
def givenNames (patch : Patch) : List String :=
  (if patch.favorite.isSome then ["favorite"] else []) ++
  (if patch.lastUsed.isSome then ["last_used"] else []) ++
  (if patch.title.isSome then ["title"] else [])

end Patch
end SavedSegment
end Audience
