import Audience.Client
import Audience.Proofs.Flow.Alone
import Audience.Proofs.Flow.Contract

/-!
# Requests

A request opens the client, sends one call unless that is impossible, and ends
as the reply says.  The rules here say how a flow ends that makes one alone,
and what it upholds among others.
-/

namespace Audience

/-- A text that counts as present is the one that was given. -/
theorem Registry.eq_of_nonempty? {text name : String}
    (named : Registry.nonempty? (some text) = some name) : name = text := by
  by_cases empty : text = ""
  · simp [Registry.nonempty?, empty] at named
  · simpa [Registry.nonempty?, empty, eq_comm] using named

/-- So is an identifier that counts as present. -/
theorem Registry.eq_some_of_nonempty? {given : Option String} {name : String}
    (named : Registry.nonempty? given = some name) : given = some name := by
  cases given with
  | none => cases named
  | some text => rw [Registry.eq_of_nonempty? named]

theorem Registry.ne_of_nonempty? {text : Option String} {name : String}
    (named : Registry.nonempty? text = some name) : name ≠ "" := by
  obtain _ | text := text
  · cases named
  · rw [Registry.eq_of_nonempty? named]
    rintro rfl
    cases named

/-- The state in which a call was made. -/
def Registry.opened (registry : Registry) : Registry :=
  { registry with client := { registry.client with opened := true } }

namespace Client

/-- How a request ends on a reply. -/
def ended (missing : Option (String × String)) (reply : Reply) :
    Except Fault Json :=
  match reply.ensureSendable with
  | .error misuse => .error (.misuse misuse)
  | .ok () =>
      match valueOf missing reply with
      | .ok json => .ok json
      | .error problem => .error (.problem problem)

/-- Opening a client only marks it as opened. -/
theorem ensureOpen_cases (client : Client) :
    client.ensureOpen = .error .notEncodable ∨
      client.ensureOpen = .ok { client with opened := true } := by
  unfold ensureOpen
  dsimp only
  split
  · exact .inr rfl
  · exact .inl rfl

/-- What goes out does not depend on whether the client was opened. -/
@[simp] theorem call_opened (client : Client) (method path : String)
    (body : Option Json) :
    ({ client with opened := true } : Client).call method path body =
      client.call method path body := rfl

/-- What goes out has the given method and body, and can be sent. -/
theorem parts_of_call {client : Client} {method path : String}
    {body : Option Json} {call : Call}
    (made : client.call method path body = .ok call) :
    call.method = Text.upper method ∧ call.body = body ∧
      body.forM Json.ensureSendable = .ok () := by
  unfold Client.call at made
  cases resolved : client.service.resolve path with
  | error misuse => rw [resolved] at made; cases made
  | ok address =>
      rw [resolved] at made
      cases sendable : body.forM Json.ensureSendable with
      | error misuse =>
          simp only [bind, Except.bind, sendable] at made
          cases made
      | ok _ =>
          simp only [bind, Except.bind, sendable, pure, Except.pure,
            Except.ok.injEq] at made
          rw [← made]
          exact ⟨rfl, rfl, rfl⟩

theorem body_of_call {client : Client} {method path : String}
    {body : Option Json} {call : Call}
    (made : client.call method path body = .ok call) : call.body = body :=
  (parts_of_call made).2.1

/-- Whether a reply is successful does not depend on what a missing resource
would mean. -/
theorem ended_eq_ok {missing other : Option (String × String)} {reply : Reply}
    {json : Json} (answered : ended missing reply = .ok json) :
    ended other reply = .ok json := by
  unfold ended at answered ⊢
  cases sendable : reply.ensureSendable with
  | error misuse =>
      rw [sendable] at answered
      cases answered
  | ok _ =>
      rw [sendable] at answered
      dsimp only at answered ⊢
      cases reply with
      | response status payload =>
          unfold valueOf at answered ⊢
          by_cases success : Status.isSuccess status
          · simpa only [success, if_true] using answered
          · simp [success] at answered
      | timeout => cases answered
      | unreachable cause => cases answered

/-- A request in its parts. -/
theorem request_eq (method path : String) (body : Option Json)
    (missing : Option (String × String)) :
    request method path body missing =
      .inspect fun registry : Registry =>
        match registry.client.ensureOpen with
        | .error misuse => .fail (.misuse misuse)
        | .ok client => .inspect fun registry : Registry =>
            .update { registry with client } <|
              match client.call method path body with
              | .error misuse => .fail (.misuse misuse)
              | .ok call => .send call fun reply =>
                  .ofResult (ended missing reply) := by
  have atReply (reply : Reply) :
      ((Flow.ofNormal reply.ensureSendable).bind fun _ =>
        Flow.unwrap (valueOf missing reply) : Flow Registry Json) =
          .ofResult (ended missing reply) := by
    unfold ended
    cases reply.ensureSendable with
    | error misuse => rfl
    | ok _ => cases valueOf missing reply <;> rfl
  show Flow.inspect _ = Flow.inspect _
  congr 1
  funext registry
  show (Flow.ofNormal registry.client.ensureOpen).bind _ = _
  cases registry.client.ensureOpen with
  | error misuse => rfl
  | ok client =>
      show Flow.inspect _ = Flow.inspect _
      congr 1
      funext registry
      show Flow.update _ _ = Flow.update _ _
      congr 1
      show (Flow.ofNormal (client.call method path body)).bind _ = _
      cases client.call method path body with
      | error misuse => rfl
      | ok call =>
          show Flow.send _ _ = Flow.send _ _
          congr 1
          funext reply
          exact atReply reply

section Alone

variable {β : Type} {serves : β → Call → Reply → β → Prop} {server : β}
variable {registry : Registry} {method path : String} {body : Option Json}
variable {missing : Option (String × String)}
variable {ends : Except Fault Json → Registry → β → Prop}

/-- A request that is made alone stops before it is sent, or ends as its reply
says. -/
theorem alone_request
    (refused : ∀ misuse later, later = registry ∨ later = registry.opened →
      ends (.error (.misuse misuse)) later server)
    (asked : ∀ call, registry.client.call method path body = .ok call →
      ∀ reply after, serves server call reply after →
        ends (ended missing reply) registry.opened after) :
    (request method path body missing).Alone serves ends registry server := by
  rw [request_eq]
  obtain unfit | fit := ensureOpen_cases registry.client
  · simp only [Flow.Alone, unfit]
    exact refused _ _ (.inl rfl)
  · simp only [Flow.Alone, fit]
    cases made : registry.client.call method path body with
    | error misuse =>
        rw [call_opened, made]
        exact refused misuse _ (.inr rfl)
    | ok call =>
        rw [call_opened, made]
        intro reply after served
        rw [Flow.alone_ofResult]
        exact asked call made reply after served

/-- A request that can be sent ends as its reply says. -/
theorem alone_sent {call : Call}
    (opens : registry.client.ensureOpen =
      .ok { registry.client with opened := true })
    (made : registry.client.call method path body = .ok call)
    (asked : ∀ reply after, serves server call reply after →
      ends (ended missing reply) registry.opened after) :
    (request method path body missing).Alone serves ends registry server := by
  rw [request_eq]
  simp only [Flow.Alone, opens, call_opened, made]
  intro reply after served
  rw [Flow.alone_ofResult]
  exact asked reply after served

end Alone

variable {contract : Contract Registry}
variable {ends : Except Fault Json → Registry → World Registry → Prop}
variable {start : Registry} {now : World Registry}

/-- What a request upholds: it may be impossible, before or after the client is
opened, or its call is sent and it ends as the reply says. -/
theorem upholds_request {method path : String} {body : Option Json}
    {missing : Option (String × String)}
    (opens : contract.change now.state now.state.opened)
    (closed : ∀ misuse, ends (.error (.misuse misuse)) start now)
    (refused : ∀ misuse, ends (.error (.misuse misuse)) start
      { now with state := now.state.opened })
    (asked : ∀ call, now.state.client.call method path body = .ok call →
      (Flow.send call fun reply => .ofResult (ended missing reply)).Upholds
        contract ends start { now with state := now.state.opened }) :
    (request method path body missing).Upholds contract ends start now := by
  rw [request_eq]
  obtain unfit | fit := ensureOpen_cases now.state.client
  · simp only [Flow.Upholds, unfit]
    exact closed _
  · simp only [Flow.Upholds, fit]
    refine ⟨opens, ?_⟩
    cases made : now.state.client.call method path body with
    | error misuse =>
        rw [call_opened, made]
        exact refused misuse
    | ok call =>
        rw [call_opened, made]
        exact asked call made

/-- The outcome of a request whose answer is read, as its reply says. -/
def outcome (missing : Option (String × String))
    (read : Json → Except Fault α) (reply : Reply) :
    Except Fault (Outcome α) :=
  Flow.guarded ((ended missing reply).bind read)

/-- What a request upholds whose answer is read and whose problems are
outcomes. -/
theorem upholds_asking {method path : String} {body : Option Json}
    {missing : Option (String × String)} {read : Json → Except Fault α}
    {ends : Except Fault (Outcome α) → Registry → World Registry → Prop}
    (opens : contract.change now.state now.state.opened)
    (closed : ∀ misuse, ends (.error (.misuse misuse)) start now)
    (refused : ∀ misuse, ends (.error (.misuse misuse)) start
      { now with state := now.state.opened })
    (asked : ∀ call, now.state.client.call method path body = .ok call →
      (Flow.send call fun reply =>
        .ofResult (outcome missing read reply)).Upholds contract ends start
          { now with state := now.state.opened }) :
    (Flow.guard ((request method path body missing).bind fun json =>
      .ofResult (read json))).Upholds contract ends start now := by
  rw [Flow.upholds_guard, Flow.upholds_bind]
  apply upholds_request opens closed refused
  intro call made
  obtain ⟨turn, rest⟩ := asked call made
  refine ⟨turn, fun reply later known moved => ?_⟩
  have atReply := rest reply later known moved
  rw [Flow.upholds_ofResult, outcome] at atReply
  rw [Flow.upholds_ofResult]
  cases answered : ended missing reply with
  | error fault => simpa only [answered, Except.bind] using atReply
  | ok json =>
      simpa only [answered, Except.bind, Flow.upholds_ofResult] using atReply

/-- The outcome of running a filter, as its reply says. -/
def runOutcome (reply : Reply) : Except Fault (Outcome Results) :=
  outcome none (parse "SegmentResults" Results.read) reply

/-- What running a filter upholds: nothing is sent, or the call for the filter,
the event and the page is, and its reply decides. -/
theorem upholds_runSegment {event : String} {filter : Option Filter.Node}
    {debug : Bool} {page : Option Page}
    {ends : Except Fault (Outcome Results) → Registry → World Registry → Prop}
    (opens : contract.change now.state now.state.opened)
    (unsent : ∀ result, (∀ results, result ≠ .ok (.ok results)) →
      ends result start now)
    (refused : ∀ misuse, ends (.error (.misuse misuse)) start
      { now with state := now.state.opened })
    (asked : ∀ node call, filter = some node →
      now.state.client.call "POST" (pathOf event "segments")
        (some (runBody node debug page)) = .ok call →
      (Flow.send call fun reply => .ofResult (runOutcome reply)).Upholds
        contract ends start { now with state := now.state.opened }) :
    (runSegment (some event) filter debug page).Upholds contract ends
      start now := by
  unfold runSegment eventPath
  cases named : Registry.nonempty? (some event) with
  | none => exact unsent _ (by simp)
  | some name =>
      have same := Registry.eq_of_nonempty? named
      subst same
      cases filter with
      | none => exact unsent _ (by simp)
      | some node =>
          exact upholds_asking opens (fun misuse => unsent _ (by simp)) refused
            fun call made => asked node call rfl made

section Exchanges

variable {α β : Type} {serves : β → Call → Reply → β → Prop} {server : β}
variable {registry : Registry} {event : String}

/-- What is asked of an event alone is not sent, and then brings nothing, or ends
as the reply says. -/
theorem alone_exchange {method suffix : String} {body : Option Json}
    {missing : Option (String × String)} {read : Json → Except Fault α}
    {ends : Except Fault (Outcome α) → Registry → β → Prop}
    (unsent : ∀ result later, (∀ value, result ≠ .ok (.ok value)) →
      later = registry ∨ later = registry.opened → ends result later server)
    (asked : ∀ call,
      registry.client.call method (pathOf event suffix) body = .ok call →
      ∀ reply after, serves server call reply after →
        ends (outcome missing read reply) registry.opened after) :
    (Flow.guard ((eventPath (some event) suffix).bind fun path =>
      (request method path body missing).bind fun json =>
        .ofResult (read json))).Alone serves ends registry server := by
  unfold eventPath
  cases named : Registry.nonempty? (some event) with
  | none => exact unsent _ _ (fun value => by simp) (.inl rfl)
  | some name =>
      obtain rfl := Registry.eq_of_nonempty? named
      show (Flow.guard (Flow.bind (request method _ body missing) _)).Alone
        _ _ _ _
      rw [Flow.guard_eq, Flow.alone_finish, Flow.alone_bind]
      apply alone_request
      · exact fun misuse later place => unsent _ _ (fun value => by simp) place
      · intro call made reply after served
        have ended := asked call made reply after served
        unfold outcome at ended
        cases answered : Client.ended missing reply with
        | error fault =>
            rw [answered] at ended
            exact Flow.alone_ofResult.mpr ended
        | ok json =>
            rw [answered] at ended
            exact Flow.alone_ofResult.mpr (Flow.alone_ofResult.mpr ended)

/-- Running a filter alone brings nothing without a call, or ends as the reply
says. -/
theorem alone_runSegment {filter : Option Filter.Node} {debug : Bool}
    {page : Option Page}
    {ends : Except Fault (Outcome Results) → Registry → β → Prop}
    (unsent : ∀ result later, (∀ results, result ≠ .ok (.ok results)) →
      later = registry ∨ later = registry.opened → ends result later server)
    (asked : ∀ node call, filter = some node →
      registry.client.call "POST" (pathOf event "segments")
        (some (runBody node debug page)) = .ok call →
      ∀ reply after, serves server call reply after →
        ends (runOutcome reply) registry.opened after) :
    (runSegment (some event) filter debug page).Alone serves ends registry
      server := by
  cases filter with
  | none =>
      unfold runSegment eventPath
      cases Registry.nonempty? (some event) with
      | none => exact unsent _ _ (by simp) (.inl rfl)
      | some name => exact unsent _ _ (by simp) (.inl rfl)
  | some node =>
      exact alone_exchange unsent fun call made => asked node call rfl made

end Exchanges

end Client
end Audience
