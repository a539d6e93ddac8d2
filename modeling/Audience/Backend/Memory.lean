import Audience.Backend.Message
import Audience.Backend.Route
import Audience.Filter.Wire

/-!
# A backend in memory

Keeps the filter documents and saved segments of all events, and answers every
call from them.  For trials it can be told to hold requests back at a gate, to
give scripted replies first, and to fail.

Main rules: a write of filters replaces the blocks that it carries and keeps the
others; saved segments are listed with favorites first, then by last use, then
by last change.
-/

namespace Audience

/-- The state of a backend. -/
structure Memory where
  persons : Nat
  documents : Keyed String Json
  saved : List Json
  generated : Json
  suggested : Json
  /-- How many segments were created. -/
  created : Nat
  /-- How often the clock was read. -/
  ticks : Nat
  holds : Keyed String (List String)
  openGates : List String
  scripts : Keyed String (List Reply)
  failures : Keyed String Reply
  deriving Repr, Inhabited

namespace Memory

/-- The filter that is generated from any prompt. -/
def standardFilter : Filter.Node :=
  .group .all false
    [ .involvement
        { role := .participant
          iteration := .year (some 2024)
          holds := true
          participant := some
            { tierId := none, tierName := none, periodId := none
              periodName := some "Last Minute", createdFrom := none
              createdTo := none }
          volunteer := none } ]

/-- A backend with five persons and nothing stored. -/
def standard : Memory :=
  { persons := 5
    documents := []
    saved := []
    generated := Filter.Root.toJson { filter := standardFilter }
    suggested := .str "Suggested Title"
    created := 0
    ticks := 0
    holds := []
    openGates := []
    scripts := []
    failures := [] }

/-- A successful response with a JSON value. -/
def respond (json : Json) : Reply :=
  .response 200 (.json json)

/-- A response with a message. -/
def complain (status : Int) (message : String) : Reply :=
  .response status (.json (.obj [("message", .str message)]))

/-- The reply to a call that no route matches. -/
def noRoute : Reply := complain 404 "No such route"

/-- The reply to a failure that is not described further. -/
def explosion (status : Int) : Reply := complain status "Backend exploded"

/-- The person at a position, counted from one. -/
def person (position : Nat) : Json :=
  let number := toString position
  .obj [("id", .str ("crm_" ++ number)), ("name", .str ("Person " ++ number))]

/-- All persons, in order. -/
def allPersons (memory : Memory) : List Json :=
  (List.range memory.persons).map fun index => person (index + 1)

/-- Two digits. -/
def twoDigits (value : Nat) : String :=
  if value < 10 then "0" ++ toString value else toString value

/-- The time after so many ticks of one second. -/
def tickText (ticks : Nat) : String :=
  "2025-01-01T00:" ++ twoDigits (ticks / 60) ++ ":" ++ twoDigits (ticks % 60) ++
    "Z"

/-- Read the clock. -/
def tick (memory : Memory) : String × Memory :=
  (tickText (memory.ticks + 1), { memory with ticks := memory.ticks + 1 })

/-- Copy the blocks that a body carries into a document. -/
def mergeBlocks (body : Json) (document : Fields) : List String → Fields
  | [] => document
  | key :: keys =>
      match body with
      | .obj fields =>
          match Keyed.get? key fields with
          | some block => mergeBlocks body (Keyed.put key block document) keys
          | none => mergeBlocks body document keys
      | _ => document

/-- The blocks of a filter document. -/
def blocks : List String := ["manual", "ai"]

/-- The stored fields of the document of an event. -/
def documentFields (event : String) (memory : Memory) : Fields :=
  match Keyed.get? event memory.documents with
  | some (.obj fields) => fields
  | _ => []

/-- The reply that carries a document. -/
def documentReply (document : Json) : Reply :=
  respond (.obj [("filters", document)])

/-- Read the filter document of an event. -/
def readFilters (event : String) (memory : Memory) : Reply :=
  match Keyed.get? event memory.documents with
  | some document => documentReply document
  | none => complain 404 "No stored filters"

/-- Write blocks of the filter document of an event. -/
def writeFilters (event : String) (body : Json) (memory : Memory) :
    Reply × Memory :=
  let document : Json :=
    .obj (mergeBlocks body (memory.documentFields event) blocks)
  (documentReply document,
    { memory with documents := Keyed.put event document memory.documents })

/-- The whole number of a value, zero for any other. -/
def wholeOf : Json → Int
  | .int value => value
  | .bool true => 1
  | _ => 0

/-- The rows of a page. -/
def rowsOf (page : Json) (rows : List Json) : List Json :=
  let size := wholeOf (page.get "size")
  let start := (wholeOf (page.get "page") - 1) * size
  (rows.drop start.toNat).take size.toNat

/-- Run a segment: all persons, or the page of them that is asked for. -/
def runSegment (body : Json) (memory : Memory) : Reply :=
  let rows := memory.allPersons
  let result (shown : List Json) (page : Json) : Reply :=
    respond <| .obj
      [ ("crmPersons", .arr shown),
        ("total", .int memory.persons),
        ("pagination", page) ]
  match body.get "pagination" with
  | .null =>
      result rows <| .obj
        [ ("page", .int 1), ("size", .int memory.persons),
          ("orderBy", .str "createdAt"), ("order", .str "desc") ]
  | page => result (rowsOf page rows) page

/-- Generate a segment. -/
def generate (memory : Memory) : Reply :=
  respond <| .obj
    [ ("segment", memory.generated),
      ("results", .obj
        [ ("crmPersons", .arr memory.allPersons),
          ("total", .int memory.persons) ]) ]

/-- A text, empty for any other value. -/
def textOf : Json → String
  | .str text => text
  | _ => ""

/-- Saved segments are listed by this key, greatest first. -/
def listKey (row : Json) : Bool × String × String :=
  ((row.get "favorite").isFull, textOf (row.get "lastUsed"),
    textOf (row.get "updatedAt"))

/-- The first key is smaller than the second. -/
def keyBelow (first second : Bool × String × String) : Bool :=
  if first.1 != second.1 then second.1
  else if first.2.1 != second.2.1 then decide (first.2.1 < second.2.1)
  else decide (first.2.2 < second.2.2)

/-- List the saved segments. -/
def listSaved (memory : Memory) : Reply :=
  let rows := memory.saved.mergeSort fun first second =>
    !keyBelow (listKey first) (listKey second)
  respond (.obj [("savedSegments", .arr rows)])

/-- The reply that carries a saved segment. -/
def rowReply (status : Int) (row : Json) : Reply :=
  .response status (.json (.obj [("savedSegment", row)]))

/-- Create a saved segment. -/
def create (body : Json) (memory : Memory) : Reply × Memory :=
  let (time, memory) := memory.tick
  let row : Json :=
    .obj
      [ ("id", .str ("seg_new_" ++ toString (memory.created + 1))),
        ("title", body.get "title"),
        ("prompt", body.get "prompt"),
        ("ast", body.get "ast"),
        ("favorite", body.get "favorite"),
        ("lastUsed", .null),
        ("createdAt", .str time),
        ("updatedAt", .str time) ]
  (rowReply 201 row,
    { memory with
      created := memory.created + 1
      saved := memory.saved ++ [row] })

/-- The parts of a saved segment that can be changed. -/
def changeable : List String := ["title", "favorite", "lastUsed"]

/-- A row with the given parts replaced and a new time of change. -/
def changed (body : Json) (time : String) (row : Json) : Json :=
  match row with
  | .obj fields =>
      .obj (Keyed.put "updatedAt" (.str time)
        (mergeBlocks body fields changeable))
  | other => other

/-- Replace the first row that passes a test. -/
def replaceFirst (passes : Json → Bool) (change : Json → Json) :
    List Json → Option (Json × List Json)
  | [] => none
  | row :: rest =>
      if passes row then some (change row, change row :: rest)
      else
        (replaceFirst passes change rest).map fun found =>
          (found.1, row :: found.2)

/-- Change a saved segment. -/
def change (identifier : String) (body : Json) (memory : Memory) :
    Reply × Memory :=
  let isRow (row : Json) : Bool := row.get "id" == .str identifier
  if memory.saved.any isRow then
    let (time, memory) := memory.tick
    match replaceFirst isRow (changed body time) memory.saved with
    | some (row, rows) => (rowReply 200 row, { memory with saved := rows })
    | none => (complain 404 "No such saved segment", memory)
  else (complain 404 "No such saved segment", memory)

/-- Answer a call from what is stored. -/
def serve (event : String) (route : Route) (method : String) (body : Json)
    (memory : Memory) : Reply × Memory :=
  match method, route with
  | "GET", .filters => (memory.readFilters event, memory)
  | "PUT", .filters => memory.writeFilters event body
  | "POST", .segments => (memory.runSegment body, memory)
  | "POST", .generative => (memory.generate, memory)
  | "GET", .savedSegments => (memory.listSaved, memory)
  | "POST", .savedSegments => memory.create body
  | "PATCH", .savedSegment identifier => memory.change identifier body
  | "POST", .suggestTitle =>
      (respond (.obj [("title", memory.suggested)]), memory)
  | _, _ => (noRoute, memory)

/-- Answer a call that no gate holds back: by the next scripted reply, else by
the failure that is set, else from what is stored. -/
def answer (call : Call) (memory : Memory) : Reply × Memory :=
  match Route.ofPath? call.path with
  | none => (noRoute, memory)
  | some (event, route) =>
      let key := route.key call.method
      match Keyed.get? key memory.scripts with
      | some (reply :: rest) =>
          (reply, { memory with scripts := Keyed.put key rest memory.scripts })
      | _ =>
          match Keyed.get? key memory.failures with
          | some reply => (reply, memory)
          | none => memory.serve event route call.method (call.body.getD .null)

/-- The gate at which a call is to be held back, if there is one: the first
that was asked for, and only once. -/
def gate? (call : Call) (memory : Memory) : Option String × Memory :=
  match Route.ofPath? call.path with
  | none => (none, memory)
  | some (_, route) =>
      let key := route.key call.method
      match Keyed.get? key memory.holds with
      | some (gate :: rest) =>
          let memory :=
            { memory with holds := Keyed.put key rest memory.holds }
          if memory.openGates.contains gate then (none, memory)
          else (some gate, memory)
      | _ => (none, memory)

/-- Hold the next call of a kind at a gate. -/
def hold (key gate : String) (memory : Memory) : Memory :=
  let queue := (Keyed.get? key memory.holds).getD []
  { memory with holds := Keyed.put key (queue ++ [gate]) memory.holds }

/-- Add scripted replies. -/
def script (key : String) (replies : List Reply) (memory : Memory) : Memory :=
  let queue := (Keyed.get? key memory.scripts).getD []
  { memory with scripts := Keyed.put key (queue ++ replies) memory.scripts }

/-- Fail every call of a kind. -/
def failWith (key : String) (reply : Reply) (memory : Memory) : Memory :=
  { memory with failures := Keyed.put key reply memory.failures }

/-- Fail calls of a kind no more. -/
def recover (key : String) (memory : Memory) : Memory :=
  { memory with failures := Keyed.erase key memory.failures }

/-- Open a gate for good. -/
def openGate (gate : String) (memory : Memory) : Memory :=
  { memory with openGates := gate :: memory.openGates }

end Memory
end Audience
