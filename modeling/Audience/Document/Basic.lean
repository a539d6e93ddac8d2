import Audience.Reading
import Audience.Json.Literal

/-!
# The filter document

What is remembered per event: the manual filters of the table and the AI
filter.  The two blocks are independent of each other.
-/

namespace Audience

/-- A table filter reduced to what survives changes of the table: the label of
its column, the operation and the value. -/
structure ManualFilter where
  label : String
  operation : Option String
  value : Json
  deriving Repr, Inhabited

namespace ManualFilter

/-- A filter that says nothing. -/
def empty : ManualFilter := { label := "", operation := none, value := .null }

/-- Any value as a label or a search text; null is empty. -/
def plain : Reader String
  | .null => .value ""
  | json => .value json.plainText

/-- Read the parts of a filter. -/
def readFields (fields : Fields) : Reading ManualFilter :=
  ManualFilter.mk
    <$> Reading.optional ["label"] "" plain fields
    <*> Reading.optional ["operation"] none (Reading.nullable Reading.text)
      fields
    <*> Reading.optional ["value"] .null Reading.anything fields

/-- Read a filter from an object. -/
def read : Reader ManualFilter :=
  Reading.model "MinimalFilter" readFields

/-- A filter as an object. -/
def toJson (filter : ManualFilter) : Json :=
  .obj
    [ ("label", .str filter.label),
      ("operation", Json.ofText? filter.operation),
      ("value", filter.value) ]

/-- Equality of filters, their values compared as values. -/
def same (first second : ManualFilter) : Bool :=
  first.label == second.label && first.operation == second.operation &&
    first.value.sameValue second.value

end ManualFilter

/-- The manual filters of a table. -/
structure ManualState where
  search : String
  filters : List ManualFilter
  deriving Repr, Inhabited

namespace ManualState

/-- No search and no filters. -/
def empty : ManualState := { search := "", filters := [] }

/-- Read the list of filters; anything but a list is no filters. -/
def readFilters : Reader (List ManualFilter)
  | .arr items => Reading.items ManualFilter.read 0 items
  | _ => .value []

/-- Read manual filters. -/
def read : Reader ManualState := Reading.model "ManualFilterState" fun fields =>
  ManualState.mk
    <$> Reading.optional ["search"] "" ManualFilter.plain fields
    <*> Reading.optional ["filters"] [] readFilters fields

/-- Manual filters as an object. -/
def toJson (state : ManualState) : Json :=
  .obj
    [ ("search", .str state.search),
      ("filters", .arr (state.filters.map ManualFilter.toJson)) ]

/-- Equality of lists of filters. -/
def sameFilters : List ManualFilter → List ManualFilter → Bool
  | [], [] => true
  | first :: firsts, second :: seconds =>
      first.same second && sameFilters firsts seconds
  | _, _ => false

/-- Equality of manual filters, their values compared as values. -/
def same (first second : ManualState) : Bool :=
  first.search == second.search && sameFilters first.filters second.filters

end ManualState

/-- The AI filter of an event.  The tree is kept as it was stored: an object,
or a list of conditions. -/
structure AiBlock where
  enabled : Bool
  savedSegmentId : Option String
  ast : Option Json
  title : String
  deriving Repr, Inhabited

namespace AiBlock

/-- The explicitly cleared block. -/
def cleared : AiBlock :=
  { enabled := false, savedSegmentId := none, ast := none, title := "" }

/-- Read a stored tree; anything but an object or a list is no tree. -/
def readAst : Reader (Option Json)
  | .obj fields => .value (some (.obj fields))
  | .arr items => .value (some (.arr items))
  | _ => .value none

/-- Read a text in which everything that is not full counts as empty. -/
def readTitle : Reader String := fun json =>
  if json.isHollow then .value "" else Reading.text json

/-- Read an AI block. -/
def read : Reader AiBlock := Reading.model "AiFilterState" fun fields =>
  AiBlock.mk
    <$> Reading.optional ["enabled"] false Reading.flag fields
    <*> Reading.optional ["savedSegmentId", "saved_segment_id"] none
      (Reading.nullable Reading.text) fields
    <*> Reading.optional ["ast"] none readAst fields
    <*> Reading.optional ["title"] "" readTitle fields

/-- An AI block as an object. -/
def toJson (block : AiBlock) : Json :=
  .obj
    [ ("enabled", .bool block.enabled),
      ("savedSegmentId", Json.ofText? block.savedSegmentId),
      ("ast", block.ast.getD .null),
      ("title", .str block.title) ]

end AiBlock

/-- The filter document of an event. -/
structure Document where
  manual : ManualState
  ai : AiBlock
  deriving Repr, Inhabited

namespace Document

/-- The document of an event that has none stored. -/
def empty : Document := { manual := .empty, ai := .cleared }

/-- A block that may be null, in which case it is read from an empty object. -/
def block (read : Reader α) : Reader α
  | .null => read (.obj [])
  | json => read json

/-- Read a document. -/
def read : Reader Document := Reading.model "PersistedFilterConfig" fun fields =>
  Document.mk
    <$> Reading.optional ["manual"] .empty (block ManualState.read) fields
    <*> Reading.optional ["ai"] .cleared (block AiBlock.read) fields

/-- A document as an object. -/
def toJson (document : Document) : Json :=
  .obj
    [ ("manual", document.manual.toJson),
      ("ai", document.ai.toJson) ]

end Document
end Audience
