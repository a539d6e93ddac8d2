import Audience.Engine.Hydration
import Audience.Engine.Paging
import Audience.Engine.Prompting
import Audience.Service.Answer
import Audience.Service.Body
import Audience.Service.Place
import Audience.Service.Request

/-!
# Endpoints

What the service does at a place for a method, and how the outcome is answered.
A request that a schema refuses is answered before anything happens; a problem
on the way becomes a problem document; every other failure is internal.
-/

namespace Audience
namespace Service

/-- The version of the service. -/
def version : String := "1.0.0"

/-- The engine of an event. -/
def engineFor (event : String) : Flow Registry EngineId :=
  Flow.transact fun registry : Registry => registry.engineFor event

/-- Everything that is needed to show the AI filter of an event. -/
def stateJson (settings : Settings) (engine : Engine) : Json :=
  let state := engine.state
  .obj
    [ ("eventId", .str engine.event),
      ("aiResults",
        match state.results with
        | some results => results.toJson.onWire
        | none => .null),
      ("aiTitle", .str (state.title settings.fallbackTitle)),
      ("usingAi", .bool state.usesAi),
      ("currentSavedId", Json.ofText? state.savedId),
      ("lastPrompt", .str state.prompt),
      ("lastAst",
        match state.ast with
        | some root => root.toJson
        | none => .null),
      ("savedTitle", .str state.savedTitle),
      ("hydration", .str engine.phase.text) ]

/-- The state of an engine as it is shown. -/
def showState (id : EngineId) : Flow Registry Json :=
  Flow.query fun registry : Registry =>
    stateJson registry.settings (registry.engine id)

/-- What the service says about itself. -/
def about : Flow Registry Json :=
  Flow.query fun registry : Registry =>
    .obj <|
      [ ("name", .str "CRM AI Segments API"),
        ("version", .str version),
        ("health", .str "/health") ] ++
      (if registry.settings.servesDocs then [("docs", .str "/docs")] else [])

/-- The service is up. -/
def health : Flow Registry Json :=
  Flow.query fun registry : Registry =>
    .obj
      [ ("status", .str "healthy"),
        ("version", .str version),
        ("environment", .str registry.settings.environment) ]

/-- Restore the AI filter of an event and show it. -/
def getState (event : String) : Flow Registry Json := do
  let id ← engineFor event
  let _ ← Engine.hydrate id
  showState id

/-- Clear the AI filter of an event. -/
def clearState (event : String) : Flow Registry Json := do
  let id ← engineFor event
  Engine.clear id
  showState id

/-- The outcome of a question must be a success, or a dismissal. -/
def settle (turn : Engine.Turn) : Flow Registry Unit :=
  match turn.outcome with
  | some outcome => Flow.unwrap outcome
  | none => return ()

/-- Answer the question for a prompt. -/
def submit (event : String) (submission : Submission) : Flow Registry Json := do
  let id ← engineFor event
  let turn ← Engine.openPrompt id
    { prompt := "", title := "", savedSegmentId := none }
    (some { answer := some submission })
  settle turn
  showState id

/-- Answer the question for a refined prompt. -/
def refine (event : String) (body : RefineBody) : Flow Registry Json := do
  let id ← engineFor event
  let turn ← Engine.openRefine id
    (some
      { answer := some
          { prompt := body.prompt, title := body.title
            savedSegmentId := none, debug := body.debug } })
  settle turn
  showState id

/-- Move the table of an event to a page and show it. -/
def setPage (event : String) (body : PageBody) : Flow Registry Json := do
  let id ← engineFor event
  let moved ← Engine.setPage id body.page
  match moved with
  | some outcome =>
      let _ ← Flow.unwrap outcome
  | none => pure ()
  let shown ← Engine.tableShown id .null none
  return shown.toJson.onWire

/-- List the saved segments of an event. -/
def listSaved (event : String) (refresh : Bool) : Flow Registry Json := do
  let id ← engineFor event
  let loaded ← Engine.loadSaved id refresh
  let segments ← Flow.unwrap loaded
  return .obj [("savedSegments", .arr (segments.map SavedSegment.toJson))]

/-- Change a saved segment of an event. -/
def updateSaved (event segment : String) (patch : SavedSegment.Patch) :
    Flow Registry Json := do
  let id ← engineFor event
  let updated ← Engine.updateSaved id segment patch
  let saved ← Flow.unwrap updated
  return .obj [("savedSegment", saved.toJson)]

/-- Keys that begin like this are internal and not shown. -/
def isInternalKey (key : String) : Bool :=
  key.startsWith "_sa"

/-- Save the manual filters of an event, and show them also as the query that
lists persons. -/
def saveManual (event : String) (body : ManualBody) : Flow Registry Json := do
  let written ← Store.writeTable event (.str body.search) body.filterList
  let document ← Flow.unwrap written
  let query ← Flow.ofResult
    (QueryFilter.ofTable body.filterList body.columnList).toExcept
  let shown : Json :=
    .obj (Keyed.put "serverFilters" (.arr (query.map QueryFilter.toJson))
      [ ("manual", document.manual.toJson.onWire),
        ("ai", document.ai.toJson.onWire) ])
  return shown.withoutKeys isInternalKey

/-- What is done at a place for a method, after reading the request; nothing
for any other method. -/
def endpoint? (place : Place) (request : Request) :
    Option (Reading (Flow Registry Json)) :=
  match place, request.method with
  | .root, "GET" => some (.value about)
  | .health, "GET" => some (.value health)
  | .ai event, "GET" => some (.value (getState event))
  | .ai event, "DELETE" => some (.value (clearState event))
  | .prompt event, "POST" =>
      some <| (request.readBody PromptBody.readFields).map fun body =>
        submit event
          { prompt := body.prompt, title := body.title
            savedSegmentId := body.savedSegmentId, debug := body.debug }
  | .previous event segment, "POST" =>
      some <| .value <| submit event
        { prompt := "", title := "", savedSegmentId := some segment
          debug := false }
  | .refine event, "POST" =>
      some <| (request.readBody RefineBody.readFields).map (refine event)
  | .page event, "PUT" =>
      some <| (request.readBody PageBody.readFields).map (setPage event)
  | .savedSegments event, "GET" =>
      some <| (request.flag "refresh").map (listSaved event)
  | .savedSegment event segment, "PATCH" =>
      some <| (request.readBody SavedSegment.Patch.readFields).map
        (updateSaved event segment)
  | .manual event, "PUT" =>
      some <| (request.readBody ManualBody.readFields).map (saveManual event)
  | _, _ => none

end Service
end Audience
