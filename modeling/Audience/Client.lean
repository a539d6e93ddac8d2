import Audience.Address.Basic
import Audience.Registry

/-!
# Calling the backend

One flow per call that the backend understands.  Whatever the backend does, the
flow ends with an outcome: the value that it sent, or the problem that stands
in its place.
-/

namespace Audience
namespace Client

/-- The credentials that go with every call. -/
def authorization? (client : Client) : Option String :=
  match client.token with
  | some token => if token = "" then none else some ("Bearer " ++ token)
  | none => none

/-- The instance that goes with every call. -/
def instance? (client : Client) : Option String :=
  match client.instanceId with
  | some name => if name = "" then none else some name
  | none => none

/-- The problem that the backend took too long. -/
def timedOut : Problem :=
  .requestWith "The CRM backend timed out" none .timeout 502 none

/-- The problem that the backend was not reached. -/
def unreachable (cause : String) : Problem :=
  .request ("Could not reach the CRM backend (" ++ cause ++ ")") none

/-- The problem that a successful response holds no JSON. -/
def notJson (status : Int) : Problem :=
  .request "The CRM backend returned a non-JSON response" (some status)

/-- The problem that a response has the wrong form. -/
def unexpected (model : String) : Problem :=
  .request ("The CRM backend returned an unexpected " ++ model ++ " payload")
    (some 200)

/-- The problem that no event was named. -/
def noEvent : Problem :=
  .request "An event is required for this request" none

/-- The problem that the backend suggested no title. -/
def noTitle : Problem :=
  .requestWith "The title suggestion was empty" none .aiService 502 none

/-- The problem of an unsuccessful response.  `missing` names the resource that
a 404 means. -/
def rejected (missing : Option (String × String)) (status : Int)
    (payload : Payload) : Problem :=
  let message := Reply.errorMessage status payload
  match missing with
  | some (resource, identifier) =>
      if status = 404 then .notFound resource identifier none
      else if status = 400 ∨ status = 422 then
        .validation message none (some status)
      else .request message (some status)
  | none =>
      if status = 400 ∨ status = 422 then
        .validation message none (some status)
      else .request message (some status)

/-- The JSON value of a reply; a success without content is an empty
object. -/
def valueOf (missing : Option (String × String)) : Reply → Outcome Json
  | .timeout => .error timedOut
  | .unreachable cause => .error (unreachable cause)
  | .response status payload =>
      if Status.isSuccess status then
        if payload.isEmpty then .ok (.obj [])
        else
          match payload.json? with
          | some json => .ok json
          | none => .error (notJson status)
      else .error (rejected missing status payload)

/-- What goes with every call is sent in headers, which have only ASCII. -/
def ensureOpen (client : Client) : Except Misuse Client :=
  let sent := client.authorization?.toList ++ client.instance?.toList
  if sent.all Text.isAscii then .ok { client with opened := true }
  else .error .notEncodable

/-- The call that goes out.  Credentials in the address win. -/
def call (client : Client) (method path : String) (body : Option Json) :
    Except Misuse Call := do
  let address ← client.service.resolve path
  body.forM Json.ensureSendable
  return { method := Text.upper method
           path := address.path
           body
           authorization := address.authorization?.or client.authorization?
           instanceId := client.instance? }

/-- Call the backend and take the JSON value of its reply. -/
def request (method path : String) (body : Option Json)
    (missing : Option (String × String)) : Flow Registry Json := do
  let before ← Flow.query fun registry : Registry => registry.client
  let client ← Flow.ofNormal before.ensureOpen
  Flow.modify fun registry : Registry => { registry with client }
  let outgoing ← Flow.ofNormal (client.call method path body)
  Flow.send outgoing fun reply => do
    Flow.ofNormal reply.ensureSendable
    Flow.unwrap (valueOf missing reply)

/-- Read a value that the backend sent. -/
def parse (model : String) (read : Reader α) (json : Json) : Except Fault α :=
  match read json with
  | .value value => .ok value
  | .rejected _ => .error (.problem (unexpected model))
  | .misused misuse => .error (.misuse misuse)

/-- Read all of several values that the backend sent. -/
def parseAll (model : String) (read : Reader α) :
    List Json → Except Fault (List α)
  | [] => .ok []
  | json :: rest => do
      let value ← parse model read json
      let values ← parseAll model read rest
      return value :: values

/-- A member of an answer; an answer that is not full has none. -/
def member (key : String) : Json → Except Misuse Json
  | .obj fields => .ok (Fields.getD key fields)
  | json => if json.isFull then .error .noMember else .ok .null

/-- The path of something that belongs to an event. -/
def pathOf (event suffix : String) : String :=
  "/events/" ++ event ++ "/crm/" ++ suffix

/-- The path of something that belongs to an event, which must be named. -/
def eventPath (event : Option String) (suffix : String) :
    Flow Registry String :=
  match Registry.nonempty? event with
  | some event => .done (pathOf event suffix)
  | none => Flow.refuse noEvent

/-- The path of a saved segment below its event. -/
def segmentSuffix (segment : String) : String :=
  "saved-segments/" ++ segment

/-- The body of a request to run a filter. -/
def runBody (filter : Filter.Node) (debug : Bool) (page : Option Page) :
    Json :=
  .obj <|
    [("filter", filter.toJson), ("debug", .bool debug)] ++
    (match page with
      | some page => [("pagination", page.toJson)]
      | none => [])

/-- Run a filter.  Without a filter there is nothing that could be sent. -/
def runSegment (event : Option String) (filter : Option Filter.Node)
    (debug : Bool) (page : Option Page) : Flow Registry (Outcome Results) :=
  Flow.guard do
    let path ← eventPath event "segments"
    match filter with
    | none => .fail (.misuse .noMember)
    | some filter =>
        let json ← request "POST" path (some (runBody filter debug page)) none
        Flow.ofResult (parse "SegmentResults" Results.read json)

/-- How a prompt is turned into a segment; what is not said comes from the
settings. -/
structure Generation where
  temperature : Option Number
  includeContext : Option Bool
  debug : Bool
  deriving Repr, Inhabited

/-- The body of a request to turn a prompt into a segment. -/
def generateBody (settings : Settings) (prompt : String)
    (generation : Generation) : Json :=
  .obj
    [ ("prompt", .str prompt),
      ("temperature",
        match generation.temperature with
        | some temperature => temperature.toJson
        | none => .double settings.temperature),
      ("includeContext",
        .bool (generation.includeContext.getD settings.includeContext)),
      ("debug", .bool generation.debug) ]

/-- Turn a prompt into a segment.  A blank prompt is refused at once. -/
def generate (event : Option String) (prompt : String)
    (generation : Generation) : Flow Registry (Outcome Generated) :=
  if Text.isBlankText prompt then
    .done (.error (.emptyPrompt Problem.blankPromptDetail))
  else
    Flow.guard do
      let path ← eventPath event "segments/generative"
      let settings ← Flow.query fun registry : Registry => registry.settings
      let json ← request "POST" path
        (some (generateBody settings prompt generation)) none
      Flow.ofResult (parse "GenerateResponse" Generated.read json)

/-- The rows under `savedSegments`. -/
def savedRows (json : Json) : Except Misuse (List Json) :=
  (json.get "savedSegments").elements

/-- List the saved segments of an event. -/
def listSaved (event : Option String) :
    Flow Registry (Outcome (List SavedSegment)) :=
  Flow.guard do
    let path ← eventPath event "saved-segments"
    let json ← request "GET" path none none
    let rows ← Flow.ofNormal (savedRows json)
    Flow.ofResult (parseAll "SavedSegment" SavedSegment.read rows)

/-- The saved segment in an answer. -/
def savedRow (json : Json) : Flow Registry SavedSegment := do
  let row ← Flow.ofNormal (member "savedSegment" json)
  Flow.ofResult (parse "SavedSegment" SavedSegment.read row)

/-- The body of a request to save a segment; a blank title is left out. -/
def createBody (prompt : String) (ast : Filter.Root) (title : String)
    (favorite : Bool) : Json :=
  .obj <|
    [ ("prompt", .str prompt), ("ast", ast.toJson),
      ("favorite", .bool favorite) ] ++
    (if Text.isBlankText title then []
      else [("title", .str (Text.trimmed title))])

/-- Save a segment. -/
def createSaved (event : Option String) (prompt : String) (ast : Filter.Root)
    (title : String) (favorite : Bool) :
    Flow Registry (Outcome SavedSegment) :=
  Flow.guard do
    let path ← eventPath event "saved-segments"
    let json ← request "POST" path
      (some (createBody prompt ast title favorite)) none
    savedRow json

/-- What the resource is called that a saved segment is. -/
def savedResource : String := "Saved segment"

/-- Send changes of a saved segment. -/
def sendPatch (event : Option String) (segment : String)
    (patch : SavedSegment.Patch) : Flow Registry SavedSegment := do
  let path ← eventPath event (segmentSuffix segment)
  let json ← request "PATCH" path (some patch.toJson)
    (some (savedResource, segment))
  savedRow json

/-- Change a saved segment. -/
def updateSaved (event : Option String) (segment : String)
    (patch : SavedSegment.Patch) : Flow Registry (Outcome SavedSegment) :=
  Flow.guard (sendPatch event segment patch)

/-- One field error as it is reported for changes. -/
def patchError (error : FieldError) : Json :=
  .obj
    [("field", .str error.place), ("message", .str error.flaw.message)]

/-- Read changes of a saved segment. -/
def readPatch (json : Json) : Except Fault SavedSegment.Patch :=
  match SavedSegment.Patch.read json with
  | .value patch => .ok patch
  | .rejected errors =>
      .error (.problem (.validation "Invalid saved segment update"
        (some (errors.map patchError)) none))
  | .misused misuse => .error (.misuse misuse)

/-- Change a saved segment as a value says. -/
def updateSavedWith (event : Option String) (segment : String) (json : Json) :
    Flow Registry (Outcome SavedSegment) :=
  Flow.guard do
    let patch ← Flow.ofResult (readPatch json)
    sendPatch event segment patch

/-- Say that a saved segment was used now. -/
def markUsed (event : Option String) (segment : String) :
    Flow Registry (Outcome SavedSegment) := do
  let now ← Flow.query fun registry : Registry => registry.now
  updateSaved event segment (.ofLastUsed now)

/-- The body of a request for a title. -/
def titleBody (prompt : String) (ast : Option Filter.Root) : Json :=
  .obj <|
    ("prompt", .str prompt) ::
    (match ast with
      | some root => [("ast", root.toJson)]
      | none => [])

/-- Ask for a title.  An empty one is a problem. -/
def suggestTitle (event : Option String) (prompt : String)
    (ast : Option Filter.Root) : Flow Registry (Outcome String) :=
  Flow.guard do
    let path ← eventPath event "saved-segments/suggest-title"
    let json ← request "POST" path (some (titleBody prompt ast)) none
    let title ← Flow.ofNormal (member "title" json)
    let title := Title.ofJson title
    if title = "" then Flow.refuse noTitle else return title

end Client
end Audience
