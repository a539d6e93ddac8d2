import Audience.Proofs.Client.Solo
import Audience.Proofs.Document.Wire
import Audience.Proofs.Quiet

/-!
# Writing a document on one's own

A write that nothing overlaps is sent once if it can be sent, and asks for the
document afterwards at most.  It always ends with an outcome then.
-/

namespace Audience
namespace Store

/-- What is said when a document is changed, and how that ends. -/
inductive Writes (client : Client) (event : String) (change : Change) :
    List (Call × Reply) → Except Fault (Outcome Document) → Prop where
  /-- The write cannot be sent. -/
  | unsendable (misuse : Misuse)
      (unsendable : ¬ client.Sendable (path event) (some change.wire)) :
      Writes client event change [] (.error (.misuse misuse))
  /-- It was sent, and the document may have been asked for again. -/
  | answered {call : Call} {reply : Reply} {again : List (Call × Reply)}
      {result : Except Fault (Outcome Document)}
      (sendable : client.Sendable (path event) (some change.wire))
      (made : client.call "PUT" (path event) (some change.wire) = .ok call)
      (asks : ∀ exchange ∈ again,
        client.call "GET" (path event) none = .ok exchange.1)
      (ends : reply.ensureSendable = .ok () →
        (∀ exchange ∈ again, exchange.2.ensureSendable = .ok ()) →
          ∃ outcome, result = .ok outcome) :
      Writes client event change ((call, reply) :: again) result

/-- What is said does not depend on whether the client was opened. -/
theorem Writes.unopened {client : Client} {opened : Bool} {event : String}
    {change : Change} {said : List (Call × Reply)}
    {result : Except Fault (Outcome Document)}
    (writes : Writes { client with opened } event change said result) :
    Writes client event change said result := by
  cases writes with
  | unsendable misuse unsendable =>
      exact .unsendable misuse fun sendable => unsendable { sendable with }
  | answered sendable made asks ends =>
      exact .answered { sendable with } made asks ends

/-- A document that is changed is put once, if it can be sent. -/
theorem Writes.puts {client : Client} {event : String} {change : Change}
    {said : List (Call × Reply)} {result : Except Fault (Outcome Document)}
    (writes : Writes client event change said result)
    (sendable : client.Sendable (path event) (some change.wire)) :
    ∃ put again, said = put :: again ∧
      client.call "PUT" (path event) (some change.wire) = .ok put.1 ∧
      ∀ exchange ∈ again,
        client.call "GET" (path event) none = .ok exchange.1 := by
  cases writes with
  | unsendable misuse unsendable => exact absurd sendable unsendable
  | answered sendable made asks ends => exact ⟨_, _, rfl, made, asks⟩

/-- It ends with an outcome exactly then. -/
theorem Writes.ended_iff {client : Client} {event : String} {change : Change}
    {said : List (Call × Reply)} {result : Except Fault (Outcome Document)}
    (writes : Writes client event change said result)
    (sent : ∀ exchange ∈ said, exchange.2.ensureSendable = .ok ()) :
    (∃ outcome, result = .ok outcome) ↔
      client.Sendable (path event) (some change.wire) := by
  cases writes with
  | unsendable misuse unsendable => simp [unsendable]
  | answered sendable made asks ends =>
      refine iff_of_true (ends (sent _ List.mem_cons_self) ?_) sendable
      exact fun exchange member => sent exchange (List.mem_cons_of_mem _ member)

/-- Nothing else is sent. -/
theorem Writes.methods {client : Client} {event : String} {change : Change}
    {said : List (Call × Reply)} {result : Except Fault (Outcome Document)}
    (writes : Writes client event change said result) :
    ∀ exchange ∈ said,
      exchange.1.method = "PUT" ∨ exchange.1.method = "GET" := by
  have put : Text.upper "PUT" = "PUT" := Client.upper_method (by simp)
  have get : Text.upper "GET" = "GET" := Client.upper_method (by simp)
  cases writes with
  | unsendable misuse unsendable => exact fun _ => nofun
  | answered sendable made asks ends =>
      intro exchange member
      obtain rfl | again := List.mem_cons.mp member
      · exact .inl ((Client.parts_of_call made).1.trans put)
      · exact .inr ((Client.parts_of_call (asks exchange again)).1.trans get)

/-- What can be fetched is a document or a problem. -/
theorem fetched_of_sent {reply : Reply} {missing : Option (String × String)}
    (sent : reply.ensureSendable = .ok ()) :
    ∃ outcome, Flow.guarded (fetched (Client.ended missing reply)) =
      .ok outcome := by
  obtain ⟨json, ended⟩ | ⟨problem, ended⟩ := Client.ended_of_sent missing sent
  · rw [ended, fetched]
    cases Document.ofStored json <;> exact ⟨_, rfl⟩
  · rw [ended, fetched]
    split <;> exact ⟨_, rfl⟩

/-- Where a document is written, it can be asked for. -/
theorem sendable_get {client : Client} {event : String} {body : Option Json}
    (sendable : client.Sendable (path event) body) :
    client.Sendable (path event) none :=
  { sendable with numbers := nofun, texts := nofun }

variable {terms : Terms Registry} {event : String} {change : Change}
variable {pending : PendingWrite} {course : Course Registry}

/-- A write that is taken back asks for the document once. -/
theorem solo_rollback {ends : Except Fault Document → Course Registry → Prop}
    (quiet : ∀ before after : Registry, before.Quiet after →
      terms.changes before after)
    (sendable : course.state.client.Sendable (path pending.event) none)
    (ended : ∀ call reply result later,
      course.state.client.call "GET" (path pending.event) none = .ok call →
      (reply.ensureSendable = .ok () → ∃ document, result = .ok document) →
      course.state.Quiet later →
      ends result
        { course with state := later, log := course.log ++ [(call, reply)] }) :
    (rollback pending).Solo terms ends course := by
  rw [rollback_eq, Flow.solo_finish]
  apply Client.solo_request (quiet _ _ Registry.quiet_opened)
  · exact fun misuse later unsendable => absurd sendable unsendable
  · intro call reply made
    cases fetch : Flow.guarded
        (fetched (Client.ended (some (resource, pending.event)) reply)) with
    | ok outcome =>
        have kept : course.state.Quiet (course.state.opened.setDocument
            pending.event (outcome.toOption.getD pending.previous)) :=
          Registry.quiet_opened.trans (Registry.quiet_setDocument _ _)
        exact ⟨quiet _ _ (Registry.quiet_setDocument _ _),
          ended call reply (.ok _) _ made (fun _ => ⟨_, rfl⟩) kept⟩
    | error fault =>
        refine ended call reply (.error fault) _ made (fun sent => ?_)
          Registry.quiet_opened
        obtain ⟨outcome, fetched⟩ := fetched_of_sent sent
        rw [fetch] at fetched
        cases fetched

/-- A write that was sent is settled quietly. -/
theorem solo_settle {reply : Reply}
    {ends : Except Fault (Outcome Document) → Course Registry → Prop}
    (quiet : ∀ before after : Registry, before.Quiet after →
      terms.changes before after)
    (sendable : course.state.client.Sendable (path pending.event) none)
    (ended : ∀ again result later,
      (∀ exchange ∈ again, course.state.client.call "GET" (path pending.event)
        none = .ok exchange.1) →
      (reply.ensureSendable = .ok () →
        (∀ exchange ∈ again, exchange.2.ensureSendable = .ok ()) →
          ∃ outcome, result = .ok outcome) →
      course.state.Quiet later →
      ends result { course with state := later, log := course.log ++ again }) :
    (settle pending change (Client.ended none reply)).Solo terms ends
      course := by
  cases answer : Client.ended none reply with
  | ok json =>
      have confirmed : course.state.Quiet
          (course.state.setDocument pending.event (pending.confirmed json)) :=
        Registry.quiet_setDocument _ _
      have told := fun later => ended [] (.ok (.ok (pending.confirmed json)))
        later nofun fun _ _ => ⟨_, rfl⟩
      simp only [List.append_nil] at told
      refine ⟨quiet _ _ confirmed, ?_⟩
      show Flow.Solo _ _ (if change.manual.isSome then _ else _) _
      split
      · exact ⟨quiet _ _ (Registry.quiet_modifyCache _),
          told _ (confirmed.trans (Registry.quiet_modifyCache _))⟩
      · exact told _ confirmed
  | error fault =>
      have stopped (misuse : ∀ problem, fault ≠ .problem problem) :
          ends (.error fault) course := by
        have told := ended [] (.error fault) course.state nofun
          (fun sent _ => ?_) (.refl _)
        · simpa using told
        · obtain ⟨json, ended⟩ | ⟨problem, ended⟩ :=
            Client.ended_of_sent none sent
          · rw [answer] at ended
            cases ended
          · rw [answer] at ended
            exact absurd (Except.error.inj ended) (misuse problem)
      cases fault with
      | problem problem =>
          apply Flow.solo_bind.mpr
          apply solo_rollback quiet sendable
          intro call again result later made returns kept
          have told := fun result' returns' => ended [(call, again)] result'
            later (by simpa using made) returns' kept
          cases result with
          | error fault =>
              refine told (.error fault) fun _ sent => ?_
              obtain ⟨_, same⟩ := returns (sent _ (List.mem_singleton_self _))
              cases same
          | ok document => exact told _ fun _ _ => ⟨_, rfl⟩
      | _ => exact stopped (by simp)

/-- A write that can be tried is sent and settled quietly. -/
theorem solo_write
    {ends : Except Fault (Outcome Document) → Course Registry → Prop}
    (quiet : ∀ before after : Registry, before.Quiet after →
      terms.changes before after)
    (stages : ∃ pending,
      PendingWrite.stage event change course.state.cache = .ok pending)
    (ended : ∀ said result later,
      Writes course.state.client event change said result →
      course.state.Quiet later →
      ends result { course with state := later, log := course.log ++ said }) :
    (write event change).Solo terms ends course := by
  obtain ⟨pending, staged⟩ := stages
  obtain rfl := (PendingWrite.staged_of_stage staged).1
  have tried : course.state.Quiet
      (course.state.setDocument pending.event pending.staged) :=
    Registry.quiet_setDocument _ _
  rw [write_eq]
  simp only [Flow.Solo, staged]
  refine ⟨quiet _ _ tried, ?_⟩
  rw [Flow.solo_finish]
  apply Client.solo_sending (quiet _ _ Registry.quiet_opened)
  · intro misuse later unsendable before
    rw [Registry.setDocument_client] at unsendable
    have told := ended [] (.error (.misuse misuse)) later.state
      (.unsendable misuse unsendable)
    rw [List.append_nil] at told
    obtain rfl | rfl := before
    · exact told tried
    · exact told (tried.trans Registry.quiet_opened)
  · intro call reply sendable made
    rw [Registry.setDocument_client] at sendable made
    have client : (Registry.opened (course.state.setDocument pending.event
        pending.staged)).client = { course.state.client with opened := true } := by
      rw [← Registry.setDocument_client pending.event pending.staged
        course.state]
      rfl
    apply solo_settle quiet
    · show Client.Sendable (Registry.opened _).client _ _
      rw [client]
      exact { sendable_get sendable with }
    · intro again result later asks returns kept
      have told := ended ((call, reply) :: again) result later
        (.answered { sendable with } made (fun exchange member => ?_) returns)
        ((tried.trans Registry.quiet_opened).trans kept)
      · rw [← List.singleton_append, ← List.append_assoc] at told
        exact told
      · have asked : (Registry.opened (course.state.setDocument pending.event
            pending.staged)).client.call "GET" (path pending.event) none =
              .ok exchange.1 := asks exchange member
        rwa [client, Client.call_opened] at asked

end Store
end Audience
