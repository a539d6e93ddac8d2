import Audience.Proofs.Client.Outcomes
import Audience.Proofs.Engine.Persisting
import Audience.Proofs.Flow.Solo
import Audience.Proofs.Store.Coherence

/-!
# Trying a change

A change is tried on the cache before it is sent.  The blocks that are given are
validated and take the place of those that were known; a block that is not given
goes through the wire form of the document and comes back as it was.  If one of
the given blocks cannot be validated, nothing happens at all.
-/

namespace Audience

/-- A notice of a document. -/
def Notice.document? : Notice → Option (String × Document)
  | .document event shown => some (event, shown)
  | .engine _ _ => none

namespace Change

/-- What is sent of a part. -/
def Part.wire : Part → Json
  | .manual block => block.toJson.onWire
  | .ai block => block.toJson.onWire
  | .raw json => json

@[simp] theorem wireBlock_asManual (part : Part) :
    wireBlock ManualState.toJson part.asManual = part.wire := by
  cases part <;> rfl

@[simp] theorem wireBlock_asAi (part : Part) :
    wireBlock AiBlock.toJson part.asAi = part.wire := by
  cases part <;> rfl

variable {parts : Keyed String Part} {part : Part}

/-- What is given is sent under its key. -/
theorem get?_manual_ofParts (given : Keyed.get? "manual" parts = some part) :
    Keyed.get? "manual" (ofParts parts).wireFields = some part.wire := by
  simp [ofParts, given]

theorem get?_ai_ofParts (given : Keyed.get? "ai" parts = some part) :
    Keyed.get? "ai" (ofParts parts).wireFields = some part.wire := by
  simp [ofParts, given]

/-- The blocks among what is given, as they are sent. -/
def body (parts : Keyed String Part) : Json :=
  .obj (["manual", "ai"].filterMap fun key =>
    (Keyed.get? key parts).map fun part => (key, part.wire))

/-- Nothing else is sent. -/
theorem wire_ofParts (parts : Keyed String Part) :
    (ofParts parts).wire = body parts := by
  cases manual : Keyed.get? "manual" parts <;>
    cases ai : Keyed.get? "ai" parts <;>
      simp [wire, wireFields, ofParts, body, manual, ai]

end Change

namespace Staging

open Store
open Tidiness (Readable)
open Persisting (Treelike treelike_of_readable)

section Documents

end Documents

section Parts

variable {parts : Keyed String Change.Part} {document own : Document}

/-- The blocks that are given are validated as those of a document. -/
structure Validates (parts : Keyed String Change.Part) (own : Document) :
    Prop where
  manual : ∀ part, Keyed.get? "manual" parts = some part →
    Document.block ManualState.read part.wire = .value own.manual
  ai : ∀ part, Keyed.get? "ai" parts = some part →
    Document.block AiBlock.read part.wire = .value own.ai

/-- A document with the given blocks in place of its own. -/
def laid (parts : Keyed String Change.Part) (own document : Document) :
    Document :=
  { manual := if (Keyed.get? "manual" parts).isSome then own.manual
      else document.manual
    ai := if (Keyed.get? "ai" parts).isSome then own.ai else document.ai }

/-- What is validated can be read; a block that is not given is empty then. -/
theorem Validates.read (validates : Validates parts own) :
    Document.read (Change.ofParts parts).wire =
      .value (laid parts own .empty) := by
  refine Document.read_eq_value.mpr ⟨?_, ?_⟩
  · cases given : Keyed.get? "manual" parts with
    | none =>
        have missing : (Change.ofParts parts).manual.isSome = false := by
          simp [Change.ofParts, given]
        rw [Change.manualIn_wireFields _ missing, laid, given]
        rfl
    | some part =>
        rw [Document.manualIn,
          Reading.optional_of_get (Change.get?_manual_ofParts given),
          validates.manual part given, laid, given]
        rfl
  · cases given : Keyed.get? "ai" parts with
    | none =>
        have missing : (Change.ofParts parts).ai.isSome = false := by
          simp [Change.ofParts, given]
        rw [Change.aiIn_wireFields _ missing, laid, given]
        rfl
    | some part =>
        rw [Document.aiIn,
          Reading.optional_of_get (Change.get?_ai_ofParts given),
          validates.ai part given, laid, given]
        rfl

variable {event : String} {cache : Cache}

end Parts

section Notices

variable {event : String} {document : Document}

/-- The documents that observers heard of, latest last. -/
def told (registry : Registry) : List (String × Document) :=
  registry.heard.filterMap Notice.document?

end Notices

section Sending

variable {event : String} {registry : Registry}
variable {said : List (Call × Reply)}

/-- What is said when a change is written: nothing if it cannot be sent, and
otherwise first the blocks that are given, and nothing is written later. -/
inductive Puts (event : String) (parts : Keyed String Change.Part)
    (registry : Registry) : List (Call × Reply) → Prop where
  | unsendable (unsendable : ¬ registry.client.Sendable (path event)
      (some (Change.body parts))) : Puts event parts registry []
  | sent {call : Call} {reply : Reply} {rest : List (Call × Reply)}
      (writes : isWrite call = true)
      (body : call.body = some (Change.body parts))
      (reads : ∀ exchange ∈ rest, isWrite exchange.1 = false) :
      Puts event parts registry ((call, reply) :: rest)

/-- Taking a change back writes nothing. -/
theorem alone_rollback (pending : PendingWrite) :
    (rollback pending).Alone Flow.Transcribes (fun _ _ after => ∃ rest,
      after = said ++ rest ∧ ∀ exchange ∈ rest, isWrite exchange.1 = false)
      registry said := by
  rw [rollback_eq, Flow.alone_finish]
  apply Client.alone_request
  · intro misuse later _
    exact ⟨[], (List.append_nil said).symm, nofun⟩
  · rintro call made reply after rfl
    have reads : ∀ exchange ∈ [(call, reply)], isWrite exchange.1 = false := by
      rintro exchange among
      obtain rfl := List.mem_singleton.mp among
      exact isWrite_of_get made
    split
    · exact ⟨_, rfl, reads⟩
    · exact ⟨_, rfl, reads⟩

/-- Once its reply is there, a write writes nothing more. -/
theorem alone_settle (pending : PendingWrite) (change : Audience.Change)
    (answer : Except Fault Json) :
    (settle pending change answer).Alone Flow.Transcribes
      (fun _ _ after => ∃ rest, after = said ++ rest ∧
        ∀ exchange ∈ rest, isWrite exchange.1 = false) registry said := by
  have nothing : ∃ rest, said = said ++ rest ∧
      ∀ exchange ∈ rest, isWrite exchange.1 = false :=
    ⟨[], (List.append_nil said).symm, nofun⟩
  cases answer with
  | ok json =>
      show Flow.Alone _ (if change.manual.isSome then _ else _) _ _ _
      split
      · exact nothing
      · exact nothing
  | error fault =>
      cases fault with
      | problem problem =>
          apply Flow.alone_bind.mpr
          apply (alone_rollback pending).mono
          rintro (fault | back) later after ended
          · exact ended
          · exact ended
      | _ => exact nothing

variable {parts : Keyed String Change.Part}

/-- A change that was tried is sent if it can be. -/
theorem alone_put (pending : PendingWrite) :
    ((put event (.ofParts parts)).finish
      (settle pending (.ofParts parts))).Alone Flow.Transcribes
        (fun _ _ after => Puts event parts registry after)
        (registry.setDocument event pending.staged) [] := by
  have sent {call : Call} (made : registry.client.call "PUT" (path event)
      (some (Change.body parts)) = .ok call) (reply : Reply) :
      (settle pending (.ofParts parts) (Client.ended none reply)).Alone
        Flow.Transcribes (fun _ _ after => Puts event parts registry after)
        (registry.setDocument event pending.staged).opened [(call, reply)] := by
    apply (alone_settle pending _ _).mono
    rintro result later after ⟨rest, rfl, reads⟩
    exact .sent (isWrite_of_put made) (Client.body_of_call made) reads
  unfold put
  rw [Change.wire_ofParts]
  rw [Flow.alone_finish]
  by_cases sendable : registry.client.Sendable (path event)
      (some (Change.body parts))
  · obtain ⟨⟨opened, fits⟩, call, made⟩ :=
      (Client.sendable_iff registry.client "PUT" _ _).mp sendable
    obtain unfit | opens := Client.ensureOpen_cases registry.client
    · rw [unfit] at fits
      cases fits
    rw [← Registry.setDocument_client event pending.staged] at made opens
    apply Client.alone_sent opens made
    rintro reply after rfl
    rw [Registry.setDocument_client] at made
    exact sent made reply
  · apply Client.alone_request
    · exact fun misuse later _ => .unsendable sendable
    · rintro call made reply after rfl
      rw [Registry.setDocument_client] at made
      exact sent made reply

end Sending

section Trying

variable {event : String} {registry : Registry}
variable {parts : Keyed String Change.Part}

end Trying

section Search

/-- A document with an old tree, which is a list of conditions. -/
def legacy : Document :=
  { manual :=
      { search := ""
        filters :=
          [{ label := "Attended", operation := some "is", value := .int 1 }] }
    ai :=
      { enabled := true
        savedSegmentId := none
        ast := some (.arr [.obj [("type", .str "upsell")]])
        title := "Buyers" } }

/-- That document is known, and an observer listens. -/
def watched : Registry :=
  (kept "event" legacy Coherence.unread).subscribe .observer

/-- A search, and something that is no block. -/
def search : Keyed String Change.Part :=
  [ ("title", .raw (.str "Ada")),
    ("manual", .raw (.obj [("search", .str "ada")])) ]

end Search

end Staging
end Audience
