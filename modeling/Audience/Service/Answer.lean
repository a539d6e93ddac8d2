import Audience.Fault
import Audience.Json.Literal
import Audience.Status
import Audience.Trace

/-!
# Answers

What the service answers to a request, and how failures become problem
documents.  A browser on an allowed origin is told so in the headers.
-/

namespace Audience

/-- The body of an answer. -/
inductive Content where
  | empty
  | json (json : Json)
  deriving Repr, Inhabited

/-- An answer.  Header names are lower case. -/
structure Answer where
  status : Int
  contentType : Option String
  headers : List (String × String)
  content : Content
  deriving Repr, Inhabited

namespace Answer

/-- Set a header: all values that it had are gone. -/
def setHeader (name value : String) (answer : Answer) : Answer :=
  { answer with headers := Keyed.put name value answer.headers }

/-- Add a value to a header that may have one already. -/
def addHeader (name value : String) (answer : Answer) : Answer :=
  let joined :=
    match Keyed.get? name answer.headers with
    | some present => present ++ ", " ++ value
    | none => value
  answer.setHeader name joined

/-- A successful answer with a JSON body. -/
def success (json : Json) : Answer :=
  { status := 200, contentType := some "application/json", headers := [],
    content := .json json }

/-- The content type of problem documents, unless a problem has its own. -/
def problemType : String := "application/problem+json"

/-- The name of the header that says what the content is. -/
def typeHeader : String := "content-type"

/-- The text can stand in a header of an answer. -/
def fitsHeader (text : String) : Bool :=
  text.toList.all fun char => char.toNat < 0x100

/-- Whether an answer can be sent: its content, and then its headers. -/
def ensureSendable (answer : Answer) : Except Misuse Unit := do
  match answer.content with
  | .empty => pure ()
  | .json json => json.ensureSendable
  let texts := answer.contentType.toList ++
    answer.headers.flatMap fun header => [header.1, header.2]
  if !texts.all fitsHeader then throw .notEncodable

/-- Where an answer goes and what it is made under: the path of the request as
it is reported, its origin if it names one, the origins that are allowed, the time and the
identifiers for tracing. -/
structure Context where
  path : String
  origin : Option String
  allowed : List String
  timestamp : String
  trace : Trace
  fresh : String

/-- Tell a browser on an allowed origin that it may read the answer. -/
def allowOrigin (context : Context) (answer : Answer) : Answer :=
  let origin := context.origin.getD ""
  if context.allowed.contains origin then
    ((answer.setHeader "access-control-allow-origin" origin).setHeader
      "access-control-allow-credentials" "true").setHeader "vary" "Origin"
  else answer

/-- A problem as an answer, found again under the given identifier. -/
def ofProblemWith (context : Context) (traceId : String) (problem : Problem) :
    Answer :=
  let placed :=
    { problem with place := some (problem.place.getD context.path) }
  let headers := problem.headers.map fun header =>
    (header.1.toLower, header.2)
  allowOrigin context
    { status := problem.status
      contentType := (Keyed.get? typeHeader headers).or (some problemType)
      headers := headers.filter fun header => header.1 != typeHeader
      content := .json (placed.document false context.timestamp traceId) }

/-- A problem as an answer. -/
def ofProblem (context : Context) (problem : Problem) : Answer :=
  ofProblemWith context (context.trace.problemId context.fresh) problem

/-- The code that goes with a status. -/
def codeOfStatus (status : Int) : ProblemCode :=
  match status with
  | 400 => .validation
  | 404 => .notFound
  | 409 => .conflict
  | 422 => .validation
  | 500 => .internal
  | 502 => .externalService
  | 503 => .unavailable
  | 504 => .timeout
  | _ => .internal

/-- The answer of a bare status with a detail. -/
def ofStatus (context : Context) (status : Int) (detail : String) : Answer :=
  ofProblem context
    (Problem.general status (codeOfStatus status) detail none none none [])

/-- One field error as the service reports it. -/
def errorJson (error : FieldError) : Json :=
  .obj
    [ ("field", .str error.place),
      ("message", .str error.flaw.message),
      ("type", .str error.flaw.kind) ]

/-- The detail of an answer to a request that a schema refuses. -/
def rejectedDetail : String := "Request validation failed"

/-- The answer to a request that a schema refuses, given the reported
errors. -/
def ofErrors (context : Context) (errors : List Json) : Answer :=
  ofProblem context
    (Problem.general 422 .validation rejectedDetail none none (some errors) [])

/-- The text of a path: its parts, which are those of a list, the characters of
a text, or the keys of an object. -/
def pathText : Json → Except Misuse String
  | .arr parts => .ok (".".intercalate (parts.map Json.plainText))
  | .str text =>
      .ok (".".intercalate (text.toList.map fun char => char.toString))
  | .obj fields => .ok (".".intercalate (fields.map Prod.fst))
  | _ => .error .wrongType

/-- A part of an error that was found elsewhere, which must be there. -/
def foundPart (key : String) : Json → Except Misuse Json
  | .obj fields =>
      match Keyed.get? key fields with
      | some part => .ok part
      | none => .error .noKey
  | _ => .error .wrongType

/-- An error that was found elsewhere, with its place, message and type, as the
service reports it. -/
def foundJson (error : Json) : Except Misuse Json := do
  let path ← pathText (← foundPart "loc" error)
  let message ← foundPart "msg" error
  let kind ← foundPart "type" error
  return .obj
    [("field", .str path), ("message", message), ("type", kind)]

/-- The answer to a request that a schema refuses. -/
def ofRejection (context : Context) (errors : List FieldError) : Answer :=
  ofErrors context (errors.map errorJson)

/-- What callers learn about an unexpected failure when details are hidden. -/
def hiddenDetail : String := "An unexpected error occurred"

/-- The answer to an unexpected failure.  It is made outside the request, so
its identifier is always a fresh one. -/
def ofUnexpected (context : Context) (showDetail : Bool) (detail : String) :
    Answer :=
  ofProblemWith context context.fresh
    (Problem.general 500 .internal (if showDetail then detail else hiddenDetail)
      none none none [])

end Answer
end Audience
