import Audience.Document.Manual
import Audience.Flow.Basic
import Audience.Problem

/-!
# The cache of filter documents

What is known here of the documents that the backend stores, who is told when
that changes, and the write that is tried on the cache before the backend has
confirmed it.

A stored document comes bare or wrapped under `filters`; blocks that a write
carries replace those of the document, the others stay.
-/

namespace Audience

/-- Who hears of changed documents. -/
inductive Subscriber where
  | engine (engine : EngineId)
  | observer
  deriving DecidableEq, Repr, Inhabited

/-- The documents known here. -/
structure Cache where
  documents : Keyed String Document
  /-- The manual filters that were read or written last. -/
  lastManual : Keyed String ManualState
  /-- In the order in which they subscribed. -/
  subscribers : List Subscriber
  deriving Repr, Inhabited

namespace Cache

/-- Nothing is known and nobody listens. -/
def empty : Cache := { documents := [], lastManual := [], subscribers := [] }

/-- The document of an event, the empty one when none is known. -/
def document (event : String) (cache : Cache) : Document :=
  (Keyed.get? event cache.documents).getD .empty

/-- The manual filters of an event that were read or written last. -/
def manual (event : String) (cache : Cache) : ManualState :=
  (Keyed.get? event cache.lastManual).getD .empty

/-- Remember the manual filters of an event. -/
def rememberManual (event : String) (manual : ManualState) (cache : Cache) :
    Cache :=
  { cache with lastManual := Keyed.put event manual cache.lastManual }

/-- Forget an event. -/
def forget (event : String) (cache : Cache) : Cache :=
  { cache with
    documents := Keyed.erase event cache.documents
    lastManual := Keyed.erase event cache.lastManual }

end Cache

namespace Document

/-- The fields of a stored document, bare or wrapped. -/
def unwrapFields : Json → Fields
  | .obj fields =>
      match Fields.getD "filters" fields with
      | .obj inner => inner
      | _ => fields
  | _ => []

/-- The detail of the problem that a stored document cannot be read. -/
def unreadableDetail : String :=
  "The CRM backend returned an unreadable filter configuration"

/-- Read a stored document. -/
def ofStored (json : Json) : Except Problem Document :=
  match read (.obj (unwrapFields json)) with
  | .value document => .ok document
  | _ => .error (.request unreadableDetail none)

end Document

/-- A block to be written: one of the library's own, or any value. -/
inductive Block (α : Type) where
  | own (block : α)
  | raw (json : Json)
  deriving Repr, Inhabited

/-- The blocks of a document that a write carries. -/
structure Change where
  manual : Option (Block ManualState)
  ai : Option (Block AiBlock)
  deriving Repr, Inhabited

namespace Change

/-- What a caller may put under a key of a change. -/
inductive Part where
  | manual (block : ManualState)
  | ai (block : AiBlock)
  | raw (json : Json)
  deriving Repr, Inhabited

namespace Part

/-- The manual filters that are given.  An AI block in their place goes out in
its wire form, as any value does. -/
def asManual : Part → Block ManualState
  | manual block => .own block
  | ai block => .raw block.toJson.onWire
  | raw json => .raw json

/-- The AI block that is given. -/
def asAi : Part → Block AiBlock
  | manual block => .raw block.toJson.onWire
  | ai block => .own block
  | raw json => .raw json

end Part

/-- The blocks of a change among what a caller gives.  Other keys are passed
over. -/
def ofParts (parts : Keyed String Part) : Change :=
  { manual := (Keyed.get? "manual" parts).map Part.asManual
    ai := (Keyed.get? "ai" parts).map Part.asAi }

/-- A change of the manual filters alone. -/
def ofManual (manual : ManualState) : Change :=
  { manual := some (.own manual), ai := none }

/-- A change of the AI block alone. -/
def ofAi (ai : AiBlock) : Change :=
  { manual := none, ai := some (.own ai) }

/-- A block in its wire form; a raw value goes out as it is. -/
def wireBlock (toJson : α → Json) : Block α → Json
  | .own block => (toJson block).onWire
  | .raw json => json

/-- The fields of the blocks that a change carries. -/
def wireFields (change : Change) : Fields :=
  (match change.manual with
    | some block => [("manual", wireBlock ManualState.toJson block)]
    | none => []) ++
  (match change.ai with
    | some block => [("ai", wireBlock AiBlock.toJson block)]
    | none => [])

/-- The wire form of a change. -/
def wire (change : Change) : Json := .obj change.wireFields

/-- A document with the blocks of a change in place of its own. -/
def mergedFields (previous : Document) (change : Change) : Fields :=
  let blocks : Fields :=
    [ ("manual", previous.manual.toJson.onWire),
      ("ai", previous.ai.toJson.onWire) ]
  change.wireFields.foldl
    (fun fields block => Keyed.put block.1 block.2 fields) blocks

end Change

/-- A write that is tried on the cache but not confirmed yet. -/
structure PendingWrite where
  event : String
  change : Change
  previous : Document
  staged : Document
  deriving Repr, Inhabited

namespace PendingWrite

/-- Try a change on the document that is known of an event. -/
def stage (event : String) (change : Change) (cache : Cache) :
    Except Fault PendingWrite := do
  let previous := cache.document event
  let staged ← (Document.read (.obj (change.mergedFields previous))).toExcept
  return { event, change, previous, staged }

/-- The document that a confirmed write leaves: the one that the backend sent
along if it can be read, otherwise the staged one. -/
def confirmed (reply : Json) (pending : PendingWrite) : Document :=
  match Document.unwrapFields reply with
  | [] => pending.staged
  | fields =>
      match Document.ofStored (.obj fields) with
      | .ok document => document
      | .error _ => pending.staged

end PendingWrite
end Audience
