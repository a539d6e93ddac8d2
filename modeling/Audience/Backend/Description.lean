import Audience.Backend.Memory

/-!
# Descriptions of a backend

A backend in memory, and the replies that it is told to give, described as JSON
objects.
-/

namespace Audience

/-- A key that is there, even when its value is null. -/
def Json.given? (key : String) : Json → Option Json
  | obj fields => Keyed.get? key fields
  | _ => none

namespace Reply

/-- The payload that is described: under `json` unless that is null, else the
text under `text`. -/
def describedPayload (description : Json) : Payload :=
  match description.get "json", description.get "text" with
  | .null, .str text => .text text
  | .null, _ => .empty
  | json, _ => .json json

/-- The status that is described, or the given one. -/
def describedStatus (status : Int) (description : Json) : Int :=
  match description.get "status" with
  | .int described => described
  | _ => status

/-- The reply that is described: a cause under `raise`, or a response. -/
def described (status : Int) (description : Json) : Reply :=
  match description.get "raise" with
  | .str cause => ofCause cause
  | _ =>
      .response (describedStatus status description)
        (describedPayload description)

/-- The failure that is described; when nothing but the status is said, it
carries a message. -/
def describedFailure (description : Json) : Reply :=
  let said := ["json", "text", "raise"].any fun key =>
    (description.given? key).isSome
  if said then described 500 description
  else Memory.explosion (describedStatus 500 description)

end Reply

namespace Memory

/-- Set what a description says, and keep the rest. -/
def describe (description : Json) (memory : Memory) : Memory :=
  { memory with
    persons :=
      match description.get "persons" with
      | .int count => count.toNat
      | _ => memory.persons
    documents :=
      match description.get "filters" with
      | .obj documents => documents
      | _ => memory.documents
    saved :=
      match description.get "saved" with
      | .arr rows => rows
      | _ => memory.saved
    generated := (description.given? "generated").getD memory.generated
    suggested := (description.given? "suggested").getD memory.suggested }

/-- The documents and saved segments that are stored. -/
def stored (memory : Memory) : Json :=
  .obj [("filters", .obj memory.documents), ("saved", .arr memory.saved)]

end Memory
end Audience
