import Audience.Reading
import Audience.Segment.Page

/-!
# Request bodies

What callers of the service send: a prompt, a refined prompt, a page of the
table, or manual filters.
-/

namespace Audience

/-- A new prompt, or a saved segment to run again. -/
structure PromptBody where
  prompt : String
  title : String
  savedSegmentId : Option String
  debug : Bool
  deriving Repr, Inhabited

namespace PromptBody

/-- Read the parts of a prompt. -/
def readFields (fields : Fields) : Reading PromptBody :=
  PromptBody.mk
    <$> Reading.optional ["prompt"] "" Reading.text fields
    <*> Reading.optional ["title"] "" Reading.text fields
    <*> Reading.optional ["savedSegmentId", "saved_segment_id"] none
      (Reading.nullable Reading.text) fields
    <*> Reading.optional ["debug"] false Reading.flag fields

/-- Read a prompt from an object. -/
def read : Reader PromptBody := Reading.model "PromptRequest" readFields

/-- A prompt as an object. -/
def toJson (body : PromptBody) : Json :=
  .obj
    [ ("prompt", .str body.prompt),
      ("title", .str body.title),
      ("savedSegmentId", Json.ofText? body.savedSegmentId),
      ("debug", .bool body.debug) ]

end PromptBody

/-- A refined prompt. -/
structure RefineBody where
  prompt : String
  title : String
  debug : Bool
  deriving Repr, Inhabited

namespace RefineBody

/-- Read the parts of a refined prompt. -/
def readFields (fields : Fields) : Reading RefineBody :=
  RefineBody.mk
    <$> Reading.optional ["prompt"] "" Reading.text fields
    <*> Reading.optional ["title"] "" Reading.text fields
    <*> Reading.optional ["debug"] false Reading.flag fields

/-- Read a refined prompt from an object. -/
def read : Reader RefineBody := Reading.model "RefineRequest" readFields

/-- A refined prompt as an object. -/
def toJson (body : RefineBody) : Json :=
  .obj
    [ ("prompt", .str body.prompt),
      ("title", .str body.title),
      ("debug", .bool body.debug) ]

end RefineBody

/-- The page of the table that a caller moves to: page one and up, one to five
hundred rows, and a column to sort by. -/
structure PageBody where
  page : Page
  deriving Repr, Inhabited

namespace PageBody

/-- The greatest number of rows on a page. -/
def maxSize : Int := 500

/-- Read the parts of a page. -/
def readFields (fields : Fields) : Reading PageBody :=
  (fun number size orderBy order =>
      { page := { number, size, orderBy, order } })
    <$> Reading.optional ["page"] Page.standard.number
      (Reading.integerFrom 1) fields
    <*> Reading.optional ["size"] Page.standard.size
      (Reading.integerBetween 1 maxSize) fields
    <*> Reading.optional ["orderBy", "order_by"] Page.standard.orderBy
      Reading.nonemptyText fields
    <*> Reading.optional ["order"] Page.standard.order SortOrder.read fields

/-- Read a page from an object. -/
def read : Reader PageBody := Reading.model "PaginationRequest" readFields

/-- A page as an object. -/
def toJson (body : PageBody) : Json :=
  body.page.toJson

end PageBody

/-- Manual filters, with the custom columns that their labels may name. -/
structure ManualBody where
  search : String
  filters : List Fields
  columns : List Fields
  deriving Repr, Inhabited

namespace ManualBody

/-- Read the parts of manual filters. -/
def readFields (fields : Fields) : Reading ManualBody :=
  ManualBody.mk
    <$> Reading.optional ["search"] "" Reading.text fields
    <*> Reading.optional ["filters"] [] (Reading.list Reading.object) fields
    <*> Reading.optional ["crmFields", "crm_fields"] []
      (Reading.list Reading.object) fields

/-- Read manual filters from an object. -/
def read : Reader ManualBody := Reading.model "ManualFiltersRequest" readFields

/-- The filters as they came. -/
def filterList (body : ManualBody) : Json :=
  .arr (body.filters.map .obj)

/-- The custom columns as they came. -/
def columnList (body : ManualBody) : Json :=
  .arr (body.columns.map .obj)

/-- Manual filters as an object. -/
def toJson (body : ManualBody) : Json :=
  .obj
    [ ("search", .str body.search),
      ("filters", body.filterList),
      ("crmFields", body.columnList) ]

end ManualBody

end Audience
