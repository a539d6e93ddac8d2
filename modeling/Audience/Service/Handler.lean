import Audience.Service.Endpoint

/-!
# Handling requests

Every request is answered.  All answers but those to internal failures carry
the identifiers of the request, and tell a browser whether it may read them.
-/

namespace Audience
namespace Service

/-- What the answers to a request are made under. -/
def context (registry : Registry) (request : Request) : Answer.Context :=
  { path := Address.reported request.address.path
    origin := request.header? "origin"
    allowed := registry.settings.allowedOrigins
    timestamp := registry.now.fullText
    trace := request.trace registry.freshId
    fresh := registry.freshId }

/-- What stands for the detail of an internal failure. -/
def internalDetail : String := "<internal>"

/-- The answer at a path that ends in slashes which it should not have. -/
def redirect (request : Request) (path : String) : Answer :=
  { status := 307
    contentType := none
    headers := [("location", request.address.redirectTo path)]
    content := .empty }

/-- The answer at a path that stands for nothing. -/
def nowhere (context : Answer.Context) (request : Request) : Answer :=
  match Place.withoutSlashes? request.address.path with
  | some path =>
      if (Place.ofPath? path).isSome then redirect request path
      else .ofStatus context 404 "Not Found"
  | none => .ofStatus context 404 "Not Found"

/-- Mark an answer with the identifiers of its request, and tell a browser
whether it may read it. -/
def mark (context : Answer.Context) (answer : Answer) : Answer :=
  let answer :=
    match context.origin with
    | none => answer
    | some origin =>
        let credited :=
          answer.setHeader "access-control-allow-credentials" "true"
        if context.allowed.contains origin then
          credited.setHeader "access-control-allow-origin" origin
        else credited
  ((answer.addHeader "vary" "Origin").setHeader "x-correlation-id"
    context.trace.correlation).setHeader "x-request-id" context.trace.request

/-- Give an answer that can be sent, or say that something went wrong. -/
def deliver (context : Answer.Context) (settings : Settings)
    (answer : Answer) : Answer :=
  match answer.ensureSendable with
  | .ok () => mark context answer
  | .error _ => .ofUnexpected context settings.debug internalDetail

/-- Answer with the end of an endpoint's flow. -/
def conclude (context : Answer.Context) (settings : Settings) :
    Except Fault Json → Answer
  | .ok json => deliver context settings (.success json)
  | .error (.problem problem) =>
      deliver context settings (.ofProblem context problem)
  | .error _ => .ofUnexpected context settings.debug internalDetail

/-- What is said about a body that cannot be read at all. -/
def unreadableDetail : String := "There was an error parsing the body"

/-- Answer a request. -/
def answer (request : Request) : Flow Registry Answer := do
  let registry ← Flow.query (id : Registry → Registry)
  let context := context registry request
  match Place.ofPath? request.address.path with
  | none => return mark context (nowhere context request)
  | some place =>
      match endpoint? place request with
      | none =>
          return mark context (.ofStatus context 405 "Method Not Allowed")
      | some (.rejected errors) =>
          return mark context (.ofRejection context errors)
      | some (.misused _) =>
          return mark context (.ofStatus context 400 unreadableDetail)
      | some (.value flow) =>
          flow.finish fun result =>
            .done (conclude context registry.settings result)

/-- Handle a request.  The answer to `HEAD` has no content. -/
def handle (request : Request) : Flow Registry Answer := do
  let answer ← answer request
  return if request.method = "HEAD" then { answer with content := .empty }
    else answer

end Service
end Audience
