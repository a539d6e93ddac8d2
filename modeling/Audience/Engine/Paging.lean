import Audience.Client
import Audience.Text.Digit

/-!
# Moving the table

While a segment is active, moving the table to another page runs the segment
again, unless the results on screen are those of that page already.  Each run
takes a request token, so that the answer to an older run never replaces newer
results.  Without a segment the table is kept inside the rows that there are.
-/

namespace Audience

/-- Any value as a whole number: doubles are cut, text is trimmed and read. -/
def Json.whole : Json → Except Misuse Int
  | .int value => .ok value
  | .bool value => .ok (if value then 1 else 0)
  | .double value =>
      match value with
      | .nan => .error .badValue
      | .infinity _ => .error .overflow
      | _ => .ok value.truncate
  | .str text =>
      match Text.integer? text.toList with
      | some number => .ok number
      | none => .error .badValue
  | _ => .error .wrongType

namespace Engine

/-- The number of the last page, of at least one. -/
def lastPage (total size : Int) : Except Misuse Int :=
  if size = 0 then .error .divisionByZero
  else
    let negative := decide (total < 0) != decide (size < 0)
    match Double.ofRatio negative total.natAbs size.natAbs with
    | .infinity _ => .error .overflow
    | pages => .ok (max 1 pages.ceiling)

/-- The page of a table without a segment: not beyond the last one. -/
def clampedPage (engine : Engine) : Except Misuse Page :=
  match engine.table.manualTotal with
  | none => .ok engine.table.page
  | some total =>
      if engine.state.usesAi then .ok engine.table.page
      else do
        let last ← lastPage total engine.table.page.size
        return if last < engine.table.page.number then
          { engine.table.page with number := last } else engine.table.page

/-- Keep the table inside the rows that there are. -/
def clamp (id : EngineId) : Flow Registry Unit :=
  Flow.attempt fun registry : Registry =>
    match (registry.engine id).clampedPage with
    | .ok page => .ok ((), registry.modifyEngine id (Engine.moveTo page))
    | .error misuse => .error (.misuse misuse)

/-- Run the segment on screen for a page. -/
def execute (id : EngineId) (page : Page) :
    Flow Registry (Outcome Results) := do
  let token ← Flow.transact fun registry : Registry =>
    (registry.modifyEngine id fun engine =>
      { engine with
        table :=
          { engine.table with
            executions := engine.table.executions + 1 } }).takeToken id
  let engine ← Flow.query fun registry : Registry => registry.engine id
  let result ← Client.runSegment (some engine.event)
    (engine.state.ast.map Filter.Root.filter) false (some page)
  match result with
  | .ok results =>
      let _ ← Flow.transact fun registry : Registry =>
        registry.updateResults id results token
      return .ok results
  | .error problem => return .error problem

/-- The page that the results on screen are from. -/
def resultPage (engine : Engine) : Option Page :=
  engine.state.results.bind Results.page

/-- Move the table to a page.  The outcome of a run, if there was one. -/
def setPage (id : EngineId) (page : Page) :
    Flow Registry (Option (Outcome Results)) := do
  let before ← Flow.query fun registry : Registry => registry.engine id
  Flow.modify fun registry : Registry =>
    registry.modifyEngine id (Engine.moveTo page)
  if !before.state.usesAi then
    clamp id
    return none
  if page.matches? (some before.table.page) then return none
  if page.matches? before.resultPage then return none
  let outcome ← execute id page
  return some outcome

/-- The page that the table is on. -/
def pageOf (id : EngineId) : Flow Registry Page :=
  Flow.query fun registry : Registry => (registry.engine id).table.page

/-- Move the table to the page with a number of at least one. -/
def setPageNumber (id : EngineId) (number : Json) :
    Flow Registry (Option (Outcome Results)) := do
  let page ← pageOf id
  let number ← Flow.ofNormal number.whole
  setPage id { page with number := max 1 number }

/-- Show so many rows per page, at least one, and go to the first page. -/
def setPageSize (id : EngineId) (size : Json) :
    Flow Registry (Option (Outcome Results)) := do
  let page ← pageOf id
  let size ← Flow.ofNormal size.whole
  setPage id { page with size := max 1 size, number := 1 }

/-- Sort the table and go to the first page. -/
def setPageOrder (id : EngineId) (orderBy order : Json) :
    Flow Registry (Option (Outcome Results)) := do
  let page ← pageOf id
  let sorted ← Flow.ofResult (Page.readFields
    [ ("page", .int 1), ("size", .int page.size), ("order_by", orderBy),
      ("order", order) ]).toExcept
  setPage id sorted

/-- Say how many rows the table has without a segment. -/
def setManualTotal (id : EngineId) (total : Option Int) :
    Flow Registry Unit := do
  Flow.modify fun registry : Registry =>
    registry.modifyEngine id fun engine =>
      { engine with table := { engine.table with manualTotal := total } }
  clamp id

/-- What the table shows: its rows, their number, and the page. -/
structure Shown where
  rows : Json
  total : Int
  page : Page
  deriving Repr, Inhabited

/-- What the table shows as an object. -/
def Shown.toJson (shown : Shown) : Json :=
  .obj
    [ ("data", shown.rows),
      ("totalRows", .int shown.total),
      ("page", .int shown.page.number),
      ("size", .int shown.page.size),
      ("orderBy", .str shown.page.orderBy),
      ("order", .str shown.page.order.text) ]

/-- What the table shows, given its rows and their number for the time without
a segment. -/
def tableShown (id : EngineId) (rows : Json) (total : Option Int) :
    Flow Registry Shown := do
  let before ← Flow.query fun registry : Registry => registry.engine id
  if total.isSome && total != before.table.manualTotal then
    setManualTotal id total
  let engine ← Flow.query fun registry : Registry => registry.engine id
  let page := engine.table.page
  match engine.state.results with
  | some results =>
      return { rows := .arr (results.persons.map .obj)
               total := results.total
               page }
  | none =>
      return { rows := if rows.isFull then rows else .arr []
               total := total.getD 0
               page }

end Engine
end Audience
