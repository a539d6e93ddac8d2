import Audience.Proofs.Flow.Ledger
import Audience.Service.Handler

/-!
# Answers that can be traced

Every answer that is made inside a request carries the identifiers of the
request, and a problem document can be found again under them.  An unexpected
failure is answered outside: its answer carries no identifiers, and its document
has a fresh one.  The calls of a request carry its correlation in any case.
-/

namespace Audience
namespace Service

/-- The answer has the identifiers in its headers. -/
structure Carries (trace : Trace) (answer : Answer) : Prop where
  correlation :
    Keyed.get? "x-correlation-id" answer.headers = some trace.correlation
  request : Keyed.get? "x-request-id" answer.headers = some trace.request

/-- If the answer is a problem document, it can be found under the identifier. -/
def Documents (id : String) (answer : Answer) : Prop :=
  ∀ fields, answer.contentType = some Answer.problemType →
    answer.content = .json (.obj fields) →
    Keyed.get? "trace_id" fields = some (.str id)

/-- The identifier under which a problem document can be found. -/
def documentId? (answer : Answer) : Option String :=
  match answer.contentType, answer.content with
  | some kind, .json (.obj fields) =>
      if kind = Answer.problemType then
        match Keyed.get? "trace_id" fields with
        | some (.str id) => some id
        | _ => none
      else none
  | _, _ => none

/-- The answer can be traced by its headers and by its problem document. -/
def Traced (trace : Trace) (answer : Answer) : Prop :=
  Carries trace answer ∧ Documents trace.request answer

/-- The answer as it is sent. -/
def sent (request : Request) (answer : Answer) : Answer :=
  if request.method = "HEAD" then { answer with content := .empty } else answer

/-- The answer says that a request met with an unexpected failure. -/
def Internal (request : Request) (answer : Answer) : Prop :=
  ∃ context shows, answer =
    sent request (.ofUnexpected context shows internalDetail)

section Headers

variable {context : Answer.Context} {answer : Answer}

@[simp] theorem mark_content : (mark context answer).content = answer.content := by
  simp only [mark, Answer.setHeader, Answer.addHeader]
  split
  · rfl
  · split <;> rfl

@[simp] theorem mark_contentType :
    (mark context answer).contentType = answer.contentType := by
  simp only [mark, Answer.setHeader, Answer.addHeader]
  split
  · rfl
  · split <;> rfl

/-- The headers of a marked answer carry the identifiers. -/
theorem carries_mark (context : Answer.Context) (answer : Answer) :
    Carries context.trace (mark context answer) := by
  constructor
  · simp only [mark, Answer.setHeader]
    rw [Keyed.get?_put_of_ne (by decide), Keyed.get?_put_self]
  · simp only [mark, Answer.setHeader, Keyed.get?_put_self]

theorem carries_sent {trace : Trace} {request : Request} :
    Carries trace (sent request answer) ↔ Carries trace answer := by
  unfold sent
  split
  · exact ⟨fun ⟨first, second⟩ => ⟨first, second⟩,
      fun ⟨first, second⟩ => ⟨first, second⟩⟩
  · rfl

/-- What is answered to an unexpected failure carries no identifiers. -/
theorem not_carries_ofUnexpected (trace : Trace) (context : Answer.Context)
    (shows : Bool) (detail : String) :
    ¬Carries trace (.ofUnexpected context shows detail) := by
  intro ⟨found, _⟩
  simp only [Answer.ofUnexpected, Answer.ofProblemWith, Answer.allowOrigin,
    Problem.general, List.map_nil, List.filter_nil, Answer.setHeader] at found
  split at found
  · simp [Keyed.put, Keyed.get?] at found
  · simp at found

end Headers

section Documents

variable {context : Answer.Context} {answer : Answer} {id : String}

theorem documents_mark :
    Documents id (mark context answer) ↔ Documents id answer := by
  simp only [Documents, mark_content, mark_contentType]

theorem Documents.sent {request : Request} (documents : Documents id answer) :
    Documents id (sent request answer) := by
  unfold Service.sent
  split
  · intro fields _ content
    cases content
  · exact documents

/-- A problem can be found under the identifier that it is answered with. -/
theorem documents_ofProblemWith (context : Answer.Context) (id : String)
    (problem : Problem) :
    Documents id (.ofProblemWith context id problem) := by
  intro fields _ content
  have whole : (Answer.ofProblemWith context id problem).content =
      .json ({ problem with
        place := some (problem.place.getD context.path) }.document false
          context.timestamp id) := by
    simp only [Answer.ofProblemWith, Answer.allowOrigin]
    split <;> rfl
  rw [whole] at content
  simp only [Problem.document, Content.json.injEq, Json.obj.injEq] at content
  subst content
  simp [Keyed.get?]

theorem documents_success (json : Json) : Documents id (.success json) := by
  intro fields kind _
  simp [Answer.success, Answer.problemType] at kind

theorem documents_redirect (request : Request) (path : String) :
    Documents id (redirect request path) := by
  intro fields kind _
  simp [redirect] at kind

end Documents

/-- What the answer to a request is: either it is made inside the request, and
a problem can be found, or it was an unexpected failure. -/
inductive Made (request : Request) (fresh : String) : Answer → Prop
  | inside (context : Answer.Context) (answer : Answer)
      (trace : context.trace = request.trace fresh)
      (documents : Documents (context.trace.problemId context.fresh) answer) :
      Made request fresh (mark context answer)
  | outside (context : Answer.Context) (shows : Bool) :
      Made request fresh (.ofUnexpected context shows internalDetail)

theorem made_conclude (request : Request) (registry : Registry)
    (settings : Settings) (result : Except Fault Json) :
    Made request registry.freshId
      (conclude (context registry request) settings result) := by
  have delivered : ∀ answer,
      Documents ((context registry request).trace.problemId registry.freshId)
        answer →
      Made request registry.freshId
        (deliver (context registry request) settings answer) := by
    intro answer documents
    unfold deliver
    split
    · exact .inside _ _ rfl documents
    · exact .outside _ _
  obtain fault | json := result
  · cases fault with
    | problem problem => exact delivered _ (documents_ofProblemWith _ _ problem)
    | rejected errors => exact .outside _ _
    | misuse misuse => exact .outside _ _
    | noSurface => exact .outside _ _
  · exact delivered _ (documents_success json)

/-- An endpoint ended with a result or a problem, and the answer that says so can
be sent. -/
def Foreseen (context : Answer.Context) : Except Fault Json → Prop
  | .ok json => (Answer.success json).ensureSendable = .ok ()
  | .error (.problem problem) =>
      (Answer.ofProblem context problem).ensureSendable = .ok ()
  | .error _ => False

/-- Every other end of an endpoint is an unexpected failure. -/
theorem carries_conclude_iff (context : Answer.Context) (settings : Settings)
    (result : Except Fault Json) :
    Carries context.trace (conclude context settings result) ↔
      Foreseen context result := by
  have delivered : ∀ answer : Answer,
      Carries context.trace (deliver context settings answer) ↔
        answer.ensureSendable = .ok () := by
    intro answer
    unfold deliver
    cases sendable : answer.ensureSendable with
    | ok _ => exact iff_of_true (carries_mark context answer) rfl
    | error misuse =>
        exact iff_of_false (not_carries_ofUnexpected _ _ _ _) (by simp)
  have unexpected := not_carries_ofUnexpected context.trace context
    settings.debug internalDetail
  obtain fault | json := result
  · cases fault with
    | problem problem => exact delivered _
    | rejected errors => exact iff_of_false unexpected id
    | misuse misuse => exact iff_of_false unexpected id
    | noSurface => exact iff_of_false unexpected id
  · exact delivered _

/-- Every request that ends is answered. -/
theorem made_of_canEnd {request : Request} {result : Except Fault Answer}
    (ends : (answer request).CanEnd result) :
    ∃ fresh answer, result = .ok answer ∧ Made request fresh answer := by
  obtain ⟨registry, ends⟩ := ends
  refine ⟨registry.freshId, ?_⟩
  have inside : ∀ answer,
      Documents ((context registry request).trace.problemId registry.freshId)
        answer →
      result = .ok (mark (context registry request) answer) →
      ∃ answer, result = .ok answer ∧ Made request registry.freshId answer :=
    fun answer documents same => ⟨_, same, .inside _ _ rfl documents⟩
  split at ends
  · refine inside _ ?_ ends
    unfold nowhere
    split
    · split
      · exact documents_redirect _ _
      · exact documents_ofProblemWith _ _ _
    · exact documents_ofProblemWith _ _ _
  split at ends
  · exact inside _ (documents_ofProblemWith _ _ _) ends
  · exact inside _ (documents_ofProblemWith _ _ _) ends
  · exact inside _ (documents_ofProblemWith _ _ _) ends
  · obtain ⟨first, same⟩ := ends.of_finish
    exact ⟨_, same, made_conclude request registry registry.settings first⟩

/-- The identifiers that a request names are those that it is handled under. -/
theorem trace_eq {request : Request} {correlation identifier : String}
    (session : request.header? "x-correlation-id" = some correlation)
    (named : request.header? "x-request-id" = some identifier)
    (correlated : correlation ≠ "") (identified : identifier ≠ "")
    (fresh : String) :
    request.trace fresh = { correlation, request := identifier } := by
  simp [Request.trace, Request.identifier, session, named, correlated,
    identified]

/-- The answer to an unexpected failure carries no identifiers. -/
theorem Internal.not_carries {request : Request} {answer : Answer}
    (internal : Internal request answer) (trace : Trace) :
    ¬Carries trace answer := by
  obtain ⟨context, shows, rfl⟩ := internal
  rw [carries_sent]
  exact not_carries_ofUnexpected trace context shows internalDetail

theorem status_ofUnexpected (context : Answer.Context) (shows : Bool)
    (detail : String) : (Answer.ofUnexpected context shows detail).status = 500 := by
  simp only [Answer.ofUnexpected, Answer.ofProblemWith, Answer.allowOrigin]
  split <;> rfl

theorem Internal.status {request : Request} {answer : Answer}
    (internal : Internal request answer) : answer.status = 500 := by
  obtain ⟨context, shows, rfl⟩ := internal
  unfold sent
  split <;> exact status_ofUnexpected context shows internalDetail

/-- What is not found under a fresh identifier is found under that of the
request. -/
theorem problemId_of_ne {trace : Trace} (named : trace.request ≠ "")
    (known : trace.request ≠ Trace.unknown) (fresh : String) :
    trace.problemId fresh = trace.request := by
  simp [Trace.problemId, Trace.shownRequest, Trace.shown, named, known]

namespace Made

variable {request : Request} {fresh : String} {answer : Answer}

/-- What is made inside a request carries its identifiers. -/
theorem carries_iff (made : Made request fresh answer) :
    Carries (request.trace fresh) (sent request answer) ↔
      ¬Internal request (sent request answer) := by
  refine ⟨fun carries internal => internal.not_carries _ carries, ?_⟩
  cases made with
  | inside context answer trace documents =>
      rw [← trace, carries_sent]
      exact fun _ => carries_mark context answer
  | outside context shows =>
      exact fun expected => absurd ⟨context, shows, rfl⟩ expected

/-- A problem that is answered inside a request is found under its
identifier. -/
theorem documents (made : Made request fresh answer)
    (named : (request.trace fresh).request ≠ "")
    (known : (request.trace fresh).request ≠ Trace.unknown)
    (expected : ¬Internal request (sent request answer)) :
    Documents (request.trace fresh).request (sent request answer) := by
  cases made with
  | inside context answer trace documents =>
      apply Documents.sent
      rw [documents_mark]
      rw [trace, problemId_of_ne named known] at documents
      exact documents
  | outside context shows => exact absurd ⟨context, shows, rfl⟩ expected

end Made

/-- A request is traced exactly if it did not meet with an unexpected failure.
Whatever else is done meanwhile, and however the backend behaves, its calls carry
its correlation, also those that restore an engine for it.  If it ends, there is
an answer, and the headers of the answer carry the identifiers unless the failure
was unexpected.  The identifier of a problem document is that of the request,
too, if that is not the text that stands for a missing one. -/
theorem traced_iff_expected {state : Registry} {memory : Memory}
    {tasks : List (Started Registry Answer)} {ledger : Ledger Registry Answer}
    (reached : Ledger.Reach Engine.restoring state memory tasks ledger)
    {number : Nat} {request : Request} {fresh : String}
    (started : tasks[number]? = some (request.trace fresh, handle request))
    {correlation identifier : String}
    (session : request.header? "x-correlation-id" = some correlation)
    (named : request.header? "x-request-id" = some identifier)
    (correlated : correlation ≠ "") (identified : identifier ≠ "") :
    (∀ received, (number, received) ∈ ledger.causes →
      received.correlation = some correlation) ∧
    ∀ result, ledger.machine.result? number = some result →
      ∃ answer, result = .ok answer ∧
        (Carries { correlation, request := identifier } answer ↔
          ¬Internal request answer) ∧
        (identifier ≠ Trace.unknown →
          (Traced { correlation, request := identifier } answer ↔
            ¬Internal request answer)) := by
  have sound := reached.sound
  have whole := trace_eq session named correlated identified
  constructor
  · intro received among
    obtain ⟨trace, flow, known, carried⟩ := sound.carried _ among
    rw [started, Option.some.injEq, Prod.mk.injEq] at known
    rw [carried, ← known.1, whole, Trace.carried_of_ne correlated]
  intro result found
  obtain ⟨trace, flow, known, ends⟩ := sound.staffed.results number result found
  rw [started, Option.some.injEq, Prod.mk.injEq] at known
  obtain ⟨rfl, rfl⟩ := known
  obtain ⟨answer, ends, last⟩ | ⟨fault, ends, -⟩ := ends.of_bind
  · obtain ⟨made, _, same, origin⟩ := made_of_canEnd ends
    cases same
    refine ⟨sent request answer, last, ?_⟩
    have carries := origin.carries_iff
    rw [trace_eq session named correlated identified made] at carries
    refine ⟨carries, fun known => ⟨fun traced => carries.mp traced.1, ?_⟩⟩
    intro expected
    refine ⟨carries.mpr expected, ?_⟩
    have documents := origin.documents
    rw [trace_eq session named correlated identified made] at documents
    exact documents identified known expected
  · obtain ⟨_, _, same, -⟩ := made_of_canEnd ends
    cases same

section Trial

/-- A request for the AI filter of an event, in a session. -/
def stateRequest : Request :=
  { method := "GET"
    address := .ofService "http" "test" "/api/v2/events/evt_1/crm/ai"
    headers :=
      [("x-correlation-id", "session-1"), ("x-request-id", "request-1")]
    body := "" }

/-- A prompt in that session. -/
def promptRequest : Request :=
  { stateRequest with
    method := "POST"
    address := .ofService "http" "test" "/api/v2/events/evt_1/crm/ai/prompt"
    headers := stateRequest.headers ++ [("content-type", "application/json")]
    body := (Json.obj [("prompt", .str "Everyone")]).write }

/-- A service that was not used yet. -/
def unused : Registry :=
  .initial .standard default "00000000-000"
    { service := .ofService "http" "crm.test" "/api", token := none
      instanceId := none, opened := false }

/-- A request that is started, and after which threads go on so many times. -/
def served (request : Request) (memory : Memory) :
    Nat → Ledger Registry Answer
  | 0 =>
      let start := Ledger.initial unused memory
      { start with
        machine := start.machine.start 0 (request.trace unused.freshId)
          (handle request) }
  | steps + 1 => (served request memory steps).step Engine.restoring

theorem reach_served (request : Request) (memory : Memory) (steps : Nat) :
    Ledger.Reach Engine.restoring unused memory
      [(request.trace unused.freshId, handle request)]
      (served request memory steps) := by
  induction steps with
  | zero => exact .start _ _ .initial
  | succ steps ih => exact ih.step

/-- A result is the answer that a test finds. -/
theorem exists_answer (result : Option (Except Fault Answer))
    (test : Answer → Bool)
    (found : result.any (fun ended => ended.toOption.any test) = true) :
    ∃ answer, result = some (.ok answer) ∧ test answer = true := by
  obtain _ | ⟨fault | answer⟩ := result
  · cases found
  · cases found
  · exact ⟨answer, rfl, found⟩

/-- The engine is restored for the request: the call for its document carries
the correlation of the request, and the answer carries both identifiers. -/
theorem traced_iff_expected_at_restoring :
    ∃ ledger received answer, Ledger.Reach Engine.restoring unused .standard
        [(stateRequest.trace unused.freshId, handle stateRequest)] ledger ∧
      ledger.causes = [(0, received)] ∧
      received.correlation = some "session-1" ∧
      ledger.machine.result? 0 = some (.ok answer) ∧
      Traced { correlation := "session-1", request := "request-1" } answer := by
  let ledger := served stateRequest .standard 3
  have reached := reach_served stateRequest .standard 3
  have started : [(stateRequest.trace unused.freshId, handle stateRequest)][0]? =
      some (stateRequest.trace unused.freshId, handle stateRequest) := rfl
  have session : stateRequest.header? "x-correlation-id" = some "session-1" := rfl
  have named : stateRequest.header? "x-request-id" = some "request-1" := rfl
  have traced := traced_iff_expected reached started session named (by decide)
    (by decide)
  obtain ⟨answer, ended, fine⟩ := exists_answer (ledger.machine.result? 0)
    (fun answer => answer.status == 200) (by decide +kernel)
  obtain ⟨⟨author, received⟩, alone⟩ := List.length_eq_one_iff.mp
    (by decide +kernel : ledger.causes.length = 1)
  have first : author = 0 := by
    have authors : ledger.causes.map Prod.fst = [0] := by decide +kernel
    rw [alone] at authors
    simpa using authors
  subst first
  obtain ⟨_, same, -, iff⟩ := traced.2 _ ended
  cases same
  refine ⟨ledger, received, answer, reached, alone,
    traced.1 received (alone ▸ List.mem_singleton_self _), ended,
    (iff (by decide)).mpr fun internal => ?_⟩
  rw [internal.status] at fine
  exact absurd fine (by decide)

/-- A generated segment that nobody can read: its type is a list. -/
def garbled : Memory :=
  Memory.standard.script "POST generative"
    [.response 200 (.json (.obj
      [("segment", .obj [("type", .arr [])]), ("results", .obj [])]))]

/-- A segment that cannot be read is an unexpected failure: the answer has no
identifiers in its headers, and its document has a fresh one. -/
theorem unexpected_failure_is_not_traced :
    ∃ ledger answer, Ledger.Reach Engine.restoring unused garbled
        [(promptRequest.trace unused.freshId, handle promptRequest)] ledger ∧
      promptRequest.header? "x-correlation-id" = some "session-1" ∧
      promptRequest.header? "x-request-id" = some "request-1" ∧
      ledger.machine.result? 0 = some (.ok answer) ∧
      answer.headers = [] ∧ documentId? answer = some unused.freshId ∧
      ¬Traced { correlation := "session-1", request := "request-1" } answer := by
  obtain ⟨answer, ended, found⟩ := exists_answer
    ((served promptRequest garbled 1).machine.result? 0)
    (fun answer => answer.headers.isEmpty &&
      decide (documentId? answer = some unused.freshId)) (by decide +kernel)
  simp only [Bool.and_eq_true, List.isEmpty_iff, decide_eq_true_eq] at found
  refine ⟨_, answer, reach_served promptRequest garbled 1, rfl, rfl, ended,
    found.1, found.2, ?_⟩
  rintro ⟨⟨carries, -⟩, -⟩
  rw [found.1] at carries
  cases carries

end Trial

end Service
end Audience
