import Audience.Flaw

/-!
# Problems

A failure that is reported to the caller as a problem document: a status, a
code that a machine can read, a title and a detail.  The kinds of problem are a
blank prompt, a missing resource, a failed request to the backend, a payload
refused before or by the backend, and any other.
-/

namespace Audience

/-- The codes of problems. -/
inductive ProblemCode where
  | validation
  | format
  | missingField
  | notFound
  | conflict
  | externalService
  | aiService
  | internal
  | unavailable
  | timeout
  deriving DecidableEq, Repr, Inhabited

namespace ProblemCode

/-- The text of a code. -/
def text : ProblemCode → String
  | validation => "VAL_001"
  | format => "VAL_002"
  | missingField => "VAL_003"
  | notFound => "RES_001"
  | conflict => "RES_003"
  | externalService => "EXT_001"
  | aiService => "EXT_003"
  | internal => "SRV_001"
  | unavailable => "SRV_002"
  | timeout => "SRV_003"

/-- All codes. -/
def all : List ProblemCode :=
  [validation, format, missingField, notFound, conflict, externalService,
    aiService, internal, unavailable, timeout]

/-- The code with a given text. -/
def ofText? (code : String) : Option ProblemCode :=
  all.find? fun candidate => candidate.text == code

/-- The address that names the type of a problem with this code. -/
def address (code : ProblemCode) : String :=
  let name := String.ofList <| code.text.toList.map fun char =>
    if char == '_' then '-' else char.toLower
  "https://crm-segments.local/problems/" ++ name

end ProblemCode

/-- The title of a problem with this status when it has none of its own. -/
def defaultTitle (status : Int) : String :=
  match status with
  | 400 => "Bad Request"
  | 401 => "Unauthorized"
  | 403 => "Forbidden"
  | 404 => "Not Found"
  | 409 => "Conflict"
  | 422 => "Validation Error"
  | 429 => "Too Many Requests"
  | 500 => "Internal Server Error"
  | 502 => "Bad Gateway"
  | 503 => "Service Unavailable"
  | 504 => "Gateway Timeout"
  | _ => "Error"

/-- The kinds of problem, with what only that kind knows. -/
inductive ProblemKind where
  /-- No special kind. -/
  | general
  /-- A prompt without words. -/
  | emptyPrompt
  /-- A resource that does not exist. -/
  | notFound (resource identifier : String)
  /-- A call that failed, with the status that the backend answered if it
  answered at all. -/
  | request (answered : Option Int)
  /-- A payload that was refused, with the status that the backend answered if
  it was the backend who refused it. -/
  | validation (answered : Option Int)
  deriving DecidableEq, Repr, Inhabited

/-- A failure as it is reported to the caller. -/
structure Problem where
  kind : ProblemKind
  status : Int
  code : ProblemCode
  title : String
  detail : String
  place : Option String
  errors : Option (List Json)
  headers : List (String × String)
  deriving Repr, Inhabited

namespace Problem

/-- A problem of no special kind; an empty title is replaced by the default
for the status. -/
def general (status : Int) (code : ProblemCode) (detail : String)
    (title : Option String) (place : Option String)
    (errors : Option (List Json)) (headers : List (String × String)) :
    Problem :=
  let title :=
    match title with
    | some text => if text = "" then defaultTitle status else text
    | none => defaultTitle status
  { kind := .general, status, code, title, detail, place, errors, headers }

/-- What a blank prompt is answered with. -/
def blankPromptDetail : String := "Please enter a prompt"

/-- A prompt that is blank, rejected before anything is sent. -/
def emptyPrompt (detail : String) : Problem :=
  { general 422 .missingField detail none none none [] with
    kind := .emptyPrompt }

/-- A resource that does not exist. -/
def notFound (resource identifier : String) (place : Option String) :
    Problem :=
  let detail := resource ++ " with ID " ++ identifier ++ " was not found"
  { general 404 .notFound detail none place none [] with
    kind := .notFound resource identifier }

/-- A failed request to the backend with every part given. -/
def requestWith (detail : String) (answered : Option Int) (code : ProblemCode)
    (status : Int) (errors : Option (List Json)) : Problem :=
  { general status code detail none none errors [] with
    kind := .request answered }

/-- A failed request to the backend. -/
def request (detail : String) (answered : Option Int) : Problem :=
  requestWith detail answered .externalService 502 none

/-- A payload refused before or by the backend. -/
def validation (detail : String) (errors : Option (List Json))
    (answered : Option Int) : Problem :=
  { general 422 .validation detail none none errors [] with
    kind := .validation answered }

/-- The problem as a document.  With `nulls`, absent parts are null, otherwise
they are left out. -/
def document (problem : Problem) (nulls : Bool) (timestamp trace : String) :
    Json :=
  let optional (key : String) (value : Option Json) : Fields :=
    match value with
    | some json => [(key, json)]
    | none => if nulls then [(key, .null)] else []
  .obj <|
    [ ("type", .str problem.code.address),
      ("title", .str problem.title),
      ("status", .int problem.status),
      ("detail", .str problem.detail) ] ++
    optional "instance" (problem.place.map .str) ++
    [ ("code", .str problem.code.text),
      ("timestamp", .str timestamp),
      ("trace_id", .str trace) ] ++
    optional "errors" (problem.errors.map .arr)

end Problem

end Audience
