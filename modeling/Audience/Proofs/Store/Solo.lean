import Audience.Proofs.Client.Solo
import Audience.Proofs.Quiet

/-!
# Reading a document on one's own

A document that is known is not asked for.  Any other is asked for once, and
kept if the reply brings it.
-/

namespace Audience
namespace Store

/-- What is said when the document of an event is read, and what comes of it. -/
inductive Reads (client : Client) (event : String) (known : Option Document) :
    List (Call × Reply) → Except Fault Document → Prop where
  | known {document : Document} (cached : known = some document) :
      Reads client event known [] (.ok document)
  /-- The call cannot be sent. -/
  | unsendable (misuse : Misuse) (unknown : known = none)
      (unsendable : ¬ client.Sendable (path event) none) :
      Reads client event known [] (.error (.misuse misuse))
  /-- It was sent and answered. -/
  | answered {call : Call} (reply : Reply) (unknown : known = none)
      (made : client.call "GET" (path event) none = .ok call) :
      Reads client event known [(call, reply)]
        (fetched (Client.ended (some (resource, event)) reply))

/-- At most one call is sent, and it writes nothing. -/
theorem Reads.calls {client : Client} {event : String}
    {known : Option Document} {said : List (Call × Reply)}
    {result : Except Fault Document}
    (reads : Reads client event known said result) :
    said.length ≤ 1 ∧ ∀ exchange ∈ said,
      client.call "GET" (path event) none = .ok exchange.1 := by
  cases reads with
  | known cached => exact ⟨by simp, fun _ => nofun⟩
  | unsendable misuse unknown unsendable => exact ⟨by simp, fun _ => nofun⟩
  | answered reply unknown made =>
      refine ⟨Nat.le_refl 1, fun exchange member => ?_⟩
      obtain rfl := List.mem_singleton.mp member
      exact made

/-- What is said does not depend on whether the client was opened. -/
theorem Reads.unopened {client : Client} {opened : Bool} {event : String}
    {known : Option Document} {said : List (Call × Reply)}
    {result : Except Fault Document}
    (reads : Reads { client with opened } event known said result) :
    Reads client event known said result := by
  cases reads with
  | known cached => exact .known cached
  | unsendable misuse unknown unsendable =>
      exact .unsendable misuse unknown fun sendable =>
        unsendable { sendable with }
  | answered reply unknown made => exact .answered reply unknown made

/-- More than a problem comes of it only if the call cannot be sent, or the reply
is none that can be. -/
theorem Reads.stopped {client : Client} {event : String}
    {known : Option Document} {said : List (Call × Reply)} {fault : Fault}
    (reads : Reads client event known said (.error fault)) :
    (∃ problem, fault = .problem problem) ∨
      ¬ client.Sendable (path event) none ∨
        ∃ exchange ∈ said, exchange.2.ensureSendable ≠ .ok () := by
  generalize same : Except.error fault = result at reads
  cases reads with
  | known cached => cases same
  | unsendable misuse unknown unsendable => exact .inr (.inl unsendable)
  | @answered call reply unknown made =>
      by_cases sent : reply.ensureSendable = .ok ()
      · left
        obtain ⟨json, ended⟩ | ⟨problem, ended⟩ :=
          Client.ended_of_sent (some (resource, event)) sent
        · rw [ended, fetched] at same
          cases stored : Document.ofStored json with
          | error problem =>
              rw [stored] at same
              exact ⟨problem, Except.error.inj same⟩
          | ok document =>
              rw [stored] at same
              cases same
        · rw [ended, fetched] at same
          split at same
          · cases same
          · exact ⟨problem, Except.error.inj same⟩
      · exact .inr (.inr ⟨_, List.mem_singleton_self _, sent⟩)

variable {terms : Terms Registry} {event : String}

/-- Reading a document is quiet, and ends in one of these ways. -/
theorem solo_read {course : Course Registry}
    {ends : Except Fault Document → Course Registry → Prop}
    (quiet : ∀ before after : Registry, before.Quiet after →
      terms.changes before after)
    (free : terms.live → Lock.document event ∉ course.held)
    (ended : ∀ said result later,
      Reads course.state.client event
        (Keyed.get? event course.state.cache.documents) said result →
      course.state.Quiet later →
      (∃ opened, later.client = { course.state.client with opened }) →
      ends result
        { state := later
          log := course.log ++ said
          held := course.held.filter (· ≠ .document event) }) :
    (Store.read event false).Solo terms ends course := by
  have released : ((course.hold (.document event)).free
      (.document event)).held = course.held.filter (· ≠ .document event) := by
    simp [Course.hold, Course.free]
  have ended' {said result later} (reads : Reads course.state.client event
      (Keyed.get? event course.state.cache.documents) said result)
      (quiet : course.state.Quiet later)
      (client : ∃ opened, later.client = { course.state.client with opened }) :
      ends result
        { state := later
          log := course.log ++ said
          held := ((course.hold (.document event)).free
            (.document event)).held } := by
    rw [released]
    exact ended said result later reads quiet client
  rw [read_eq, Flow.solo_locked]
  refine ⟨free, ?_⟩
  simp only [Flow.Solo, Course.hold]
  cases known : Keyed.get? event course.state.cache.documents with
  | some document =>
      have told := ended' (.known known) (.refl _) ⟨_, rfl⟩
      rw [List.append_nil] at told
      exact told
  | none =>
      show (load event).Solo terms _ _
      rw [load_eq, Flow.solo_finish]
      apply Client.solo_request (quiet _ _ Registry.quiet_opened)
      · intro misuse later unsendable before
        have reads := Reads.unsendable misuse known unsendable
        obtain rfl | rfl := before
        · have told := ended' reads (.refl _) ⟨_, rfl⟩
          rw [List.append_nil] at told
          exact told
        · have told := ended' reads Registry.quiet_opened ⟨true, rfl⟩
          rw [List.append_nil] at told
          exact told
      · intro call reply made
        have reads := Reads.answered reply known made
        cases answer : fetched (Client.ended (some (resource, event)) reply) with
        | error fault =>
            rw [answer] at reads
            exact ended' reads Registry.quiet_opened ⟨true, rfl⟩
        | ok document =>
            rw [answer] at reads
            have keeping : course.state.opened.Quiet
                (kept event document course.state.opened) :=
              (Registry.quiet_modifyCache _).trans
                (Registry.quiet_setDocument _ _)
            exact ⟨quiet _ _ keeping,
              ended' reads (Registry.quiet_opened.trans keeping)
                ⟨true, Registry.setDocument_client _ _ _⟩⟩

end Store
end Audience
