import Audience.Proofs.Client.Solo
import Audience.Proofs.Flow.Crossed

/-!
# Calls that are crossed

Others may change the registry in any way while a call waits for its reply.  What is
said to the backend, and how that ends, depends only on the client that the call began
with and on the reply.
-/

namespace Audience
namespace Client

variable {α : Type} {registry : Registry} {event : Option String}
variable {method path suffix : String} {body : Option Json}
variable {missing : Option (String × String)} {read : Json → Except Fault α}

/-- A request that is crossed cannot be sent, or is sent and ends as its reply
says. -/
theorem crossing_sending
    {ends : List (Call × Reply) → Except Fault Json → Registry → Prop}
    (refused : ∀ misuse later, ¬ Sendable registry.client path body →
      ends [] (.error (.misuse misuse)) later)
    (asked : ∀ call reply later, Sendable registry.client path body →
      registry.client.call method path body = .ok call →
        ends [(call, reply)] (ended missing reply) later) :
    (request method path body missing).Crossing ends registry := by
  have fits := sendable_iff registry.client method path body
  rw [request_eq]
  obtain unfit | fit := ensureOpen_cases registry.client
  · simp only [Flow.Crossing, unfit]
    exact refused _ _ (by simp [fits, unfit])
  · simp only [Flow.Crossing, fit, call_opened]
    cases made : registry.client.call method path body with
    | error misuse => exact refused misuse _ (by simp [fits, made])
    | ok call =>
        have sendable := fits.mpr ⟨⟨_, fit⟩, call, made⟩
        exact fun reply found =>
          Flow.crossing_ofResult.mpr (asked call reply found sendable made)

/-- It does so whether it can be sent or not. -/
theorem crossing_request
    {ends : List (Call × Reply) → Except Fault Json → Registry → Prop}
    (refused : ∀ misuse later, ends [] (.error (.misuse misuse)) later)
    (asked : ∀ call reply later, ends [(call, reply)] (ended missing reply) later) :
    (request method path body missing).Crossing ends registry :=
  crossing_sending (fun misuse later _ => refused misuse later)
    fun call reply later _ _ => asked call reply later

/-- Whatever is asked about an event ends as if it were not crossed. -/
theorem crossing_asking {rest : String → Flow Registry α}
    {ends : List (Call × Reply) → Except Fault (Outcome α) → Registry → Prop}
    (asks : ∀ path
      (ends : List (Call × Reply) → Except Fault α → Registry → Prop),
      ((request method path body missing).bind fun json =>
        .ofResult (read json)).Crossing ends registry →
      (rest path).Crossing ends registry)
    (ended : ∀ said result later,
      Exchanged registry.client event suffix method body missing read said
        result → ends said result later) :
    (Flow.guard ((eventPath event suffix).bind rest)).Crossing ends registry := by
  unfold eventPath
  cases named : Registry.nonempty? event with
  | none => exact ended _ _ _ (.unnamed named)
  | some name =>
      rw [Flow.crossing_guard]
      apply asks
      rw [Flow.crossing_bind]
      apply crossing_sending
      · exact fun misuse later unsendable =>
          ended _ _ _ (.unsendable misuse named unsendable)
      · intro call reply later sendable made
        have told := ended [(call, reply)] (outcome missing read reply) later
          (.answered reply named made sendable)
        unfold outcome at told
        cases answered : Client.ended missing reply with
        | error fault => rwa [answered] at told
        | ok json =>
            rw [answered] at told
            exact Flow.crossing_ofResult.mpr told

theorem crossing_suggestTitle {prompt : String} {ast : Option Filter.Root}
    {ends : List (Call × Reply) → Except Fault (Outcome String) → Registry → Prop}
    (ended : ∀ said result later,
      Exchanged registry.client event "saved-segments/suggest-title" "POST"
        (some (titleBody prompt ast)) none readTitle said result →
        ends said result later) :
    (suggestTitle event prompt ast).Crossing ends registry := by
  rw [suggestTitle_eq]
  exact crossing_asking (fun _ _ asking => asking) ended

theorem crossing_updateSaved {segment : String} {patch : SavedSegment.Patch}
    {ends : List (Call × Reply) → Except Fault (Outcome SavedSegment) →
      Registry → Prop}
    (ended : ∀ said result later,
      Updating registry.client event segment patch said result →
        ends said result later) :
    (updateSaved event segment patch).Crossing ends registry := by
  unfold updateSaved sendPatch
  simp only [savedRow_eq]
  exact crossing_asking (fun _ _ asking => asking) ended

/-- A prompt without words is refused at once, and any other one is asked. -/
theorem crossing_generate {prompt : String} {generation : Generation}
    {ends : List (Call × Reply) → Except Fault (Outcome Generated) →
      Registry → Prop}
    (blank : Text.isBlankText prompt = true →
      ends [] (.ok (.error (.emptyPrompt Problem.blankPromptDetail))) registry)
    (ended : ∀ said result later, Text.isBlankText prompt = false →
      Asking registry.client registry.settings event prompt generation said
        result → ends said result later) :
    (generate event prompt generation).Crossing ends registry := by
  unfold generate
  split
  case isTrue none => exact blank none
  case isFalse given =>
    exact crossing_asking (fun _ _ asking => asking) fun said result later =>
      ended said result later (by simpa using given)

end Client
end Audience
