import Audience.Client

/-!
# Filter documents of events

Reading asks the backend once per event and answers from the cache afterwards.
A write is tried on the cache first; when the backend refuses it, the document
is read again.
-/

namespace Audience
namespace Store

/-- The path of the filter document of an event. -/
def path (event : String) : String :=
  Client.pathOf event "filters"

/-- What the resource is called that a filter document is. -/
def resource : String := "Filter configuration"

/-- Ask the backend for a document; one that does not exist is empty. -/
def fetch (event : String) : Flow Registry Document := do
  let answer ← Flow.guard
    (Client.request "GET" (path event) none (some (resource, event)))
  match answer with
  | .ok json => Flow.unwrap (Document.ofStored json)
  | .error problem =>
      match problem.kind with
      | .notFound _ _ => return .empty
      | _ => Flow.refuse problem

/-- Ask the backend for a document and keep it. -/
def load (event : String) : Flow Registry Document := do
  let document ← fetch event
  Flow.modify fun registry : Registry =>
    (registry.modifyCache (Cache.rememberManual event document.manual)).setDocument
      event document
  return document

/-- The document of an event, from the cache unless it is to be refreshed.
Only one reader of an event asks the backend at a time. -/
def read (event : String) (refresh : Bool) : Flow Registry Document :=
  Flow.locked (.document event) do
    let known ← Flow.query fun registry : Registry =>
      Keyed.get? event registry.cache.documents
    match known with
    | some document => if refresh then load event else return document
    | none => load event

/-- Try a change on the cache. -/
def stage (event : String) (change : Change) : Flow Registry PendingWrite :=
  Flow.attempt fun registry : Registry => do
    let pending ← PendingWrite.stage event change registry.cache
    return (pending, registry.setDocument event pending.staged)

/-- Take over what the backend answered to a write. -/
def confirm (pending : PendingWrite) (reply : Json) :
    Flow Registry Document := do
  let document := pending.confirmed reply
  Flow.modify fun registry : Registry =>
    registry.setDocument pending.event document
  return document

/-- Drop a write that was tried: ask the backend again, and go back to the
previous document when that fails too. -/
def rollback (pending : PendingWrite) : Flow Registry Document := do
  let fetched ← Flow.guard (fetch pending.event)
  let document :=
    match fetched with
    | .ok document => document
    | .error _ => pending.previous
  Flow.modify fun registry : Registry =>
    registry.setDocument pending.event document
  return document

/-- Change the document of an event. -/
def write (event : String) (change : Change) :
    Flow Registry (Outcome Document) := do
  let pending ← stage event change
  let answer ← Flow.guard
    (Client.request "PUT" (path event) (some change.wire) none)
  match answer with
  | .error problem =>
      let _ ← rollback pending
      return .error problem
  | .ok json =>
      let document ← confirm pending json
      if change.manual.isSome then
        Flow.modify fun registry : Registry =>
          registry.modifyCache (Cache.rememberManual event document.manual)
      return .ok document

/-- Change the manual filters of an event, unless they are the ones that were
read or written last. -/
def writeManual (event : String) (manual : ManualState) :
    Flow Registry (Outcome Document) := do
  let cache ← Flow.query fun registry : Registry => registry.cache
  if (cache.manual event).same manual then return .ok (cache.document event)
  Flow.modify fun registry : Registry =>
    registry.modifyCache (Cache.rememberManual event manual)
  let result ← write event (.ofManual manual)
  match result with
  | .ok document => return .ok document
  | .error problem =>
      Flow.modify fun registry : Registry =>
        registry.modifyCache fun cache =>
          cache.rememberManual event (cache.document event).manual
      return .error problem

/-- Change the manual filters of an event to those of the table. -/
def writeTable (event : String) (search filters : Json) :
    Flow Registry (Outcome Document) := do
  let manual ← Flow.ofResult (ManualState.ofTable search filters).toExcept
  writeManual event manual

/-- Forget what is known of the document of an event. -/
def forget (event : String) : Flow Registry Unit :=
  Flow.modify fun registry : Registry =>
    registry.modifyCache (Cache.forget event)

end Store
end Audience
