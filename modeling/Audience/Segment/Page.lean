import Audience.Reading
import Audience.Json.Literal

/-!
# Pages

Which page of a sorted table is meant: its number, the rows per page and the
sort order.  Requests and the results they produce both carry one.
-/

namespace Audience

/-- Sort direction. -/
inductive SortOrder where
  | ascending
  | descending
  deriving DecidableEq, Repr, Inhabited

namespace SortOrder

/-- The name of a direction. -/
def text : SortOrder → String
  | ascending => "asc"
  | descending => "desc"

/-- Anything but `asc`, in any case, sorts descending. -/
def ofJson (json : Json) : SortOrder :=
  if String.ofList (Decimal.lower json.plainText.toList) = "asc" then
    ascending
  else descending

/-- The direction with exactly this name. -/
def ofName (chars : List Char) : Except Flaw SortOrder :=
  if chars = ascending.text.toList then .ok ascending
  else if chars = descending.text.toList then .ok descending
  else .error .notOrder

/-- Exactly one of the two names. -/
def read : Reader SortOrder
  | .str name => Reading.ofText ofName name
  | _ => Reading.fail .notOrder

end SortOrder

/-- A page of a sorted table. -/
structure Page where
  number : Int
  size : Int
  orderBy : String
  order : SortOrder
  deriving DecidableEq, Repr, Inhabited

namespace Page

/-- The first 25 rows, newest first. -/
def standard : Page :=
  { number := 1, size := 25, orderBy := "createdAt", order := .descending }

/-- Read a page; missing parts are those of the standard page. -/
def readFields (fields : Fields) : Reading Page :=
  Page.mk
    <$> Reading.optional ["page"] standard.number Reading.integer fields
    <*> Reading.optional ["size"] standard.size Reading.integer fields
    <*> Reading.optional ["orderBy", "order_by"] standard.orderBy
      Reading.text fields
    <*> Reading.optional ["order"] standard.order
      (fun json => .value (SortOrder.ofJson json)) fields

/-- Read a page from an object. -/
def read : Reader Page :=
  Reading.model "SegmentPagination" readFields

/-- A page as an object. -/
def toJson (page : Page) : Json :=
  .obj
    [ ("page", .int page.number),
      ("size", .int page.size),
      ("orderBy", .str page.orderBy),
      ("order", .str page.order.text) ]

/-- The page asked for is the page at hand, if there is one at hand. -/
def matches? (page : Page) (other : Option Page) : Bool :=
  other == some page

end Page
end Audience
