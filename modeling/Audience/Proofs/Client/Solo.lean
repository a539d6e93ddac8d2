import Audience.Proofs.Client.Outcomes
import Audience.Proofs.Flow.Solo

/-!
# Calls on their own

A call that nothing overlaps is refused because no event is named, cannot be
sent, or is sent once and ends as its reply says.  The only change that it makes
is that the client is open.
-/

namespace Audience
namespace Client

variable {α : Type} {terms : Terms Registry} {course : Course Registry}
variable {method path suffix : String} {body : Option Json}
variable {missing : Option (String × String)} {read : Json → Except Fault α}

/-- The client was opened. -/
def opening (course : Course Registry) : Course Registry :=
  { course with state := course.state.opened }

/-- A request that is made on its own cannot be sent, or is sent and ends as its
reply says. -/
theorem solo_sending {ends : Except Fault Json → Course Registry → Prop}
    (opens : terms.changes course.state course.state.opened)
    (refused : ∀ misuse later,
      ¬ Sendable course.state.client path body →
      later = course ∨ later = opening course →
        ends (.error (.misuse misuse)) later)
    (asked : ∀ call reply, Sendable course.state.client path body →
      course.state.client.call method path body = .ok call →
        ends (ended missing reply) ((opening course).told call reply)) :
    (request method path body missing).Solo terms ends course := by
  have fits := sendable_iff course.state.client method path body
  rw [request_eq]
  obtain unfit | fit := ensureOpen_cases course.state.client
  · simp only [Flow.Solo, unfit]
    exact refused _ _ (by simp [fits, unfit]) (.inl rfl)
  · simp only [Flow.Solo, fit]
    refine ⟨opens, ?_⟩
    cases made : course.state.client.call method path body with
    | error misuse =>
        rw [call_opened, made]
        exact refused misuse _ (by simp [fits, made]) (.inr rfl)
    | ok call =>
        rw [call_opened, made]
        have sendable := fits.mpr ⟨⟨_, fit⟩, call, made⟩
        exact fun reply =>
          Flow.solo_ofResult.mpr (asked call reply sendable made)

/-- It ends as its reply says whenever there is such a call. -/
theorem solo_request {ends : Except Fault Json → Course Registry → Prop}
    (opens : terms.changes course.state course.state.opened)
    (refused : ∀ misuse later,
      ¬ Sendable course.state.client path body →
      later = course ∨ later = opening course →
        ends (.error (.misuse misuse)) later)
    (asked : ∀ call reply,
      course.state.client.call method path body = .ok call →
        ends (ended missing reply) ((opening course).told call reply)) :
    (request method path body missing).Solo terms ends course :=
  solo_sending opens refused fun call reply _ => asked call reply

/-- What is said when something is asked about an event, and how that ends. -/
inductive Exchanged (client : Client) (event : Option String)
    (suffix method : String) (body : Option Json)
    (missing : Option (String × String)) (read : Json → Except Fault α) :
    List (Call × Reply) → Except Fault (Outcome α) → Prop where
  /-- No event is named. -/
  | unnamed (none : Registry.nonempty? event = none) :
      Exchanged client event suffix method body missing read []
        (.ok (.error noEvent))
  /-- The call cannot be sent. -/
  | unsendable {name : String} (misuse : Misuse)
      (named : Registry.nonempty? event = some name)
      (unsendable : ¬ Sendable client (pathOf name suffix) body) :
      Exchanged client event suffix method body missing read []
        (.error (.misuse misuse))
  /-- It was sent and answered. -/
  | answered {name : String} {call : Call} (reply : Reply)
      (named : Registry.nonempty? event = some name)
      (made : client.call method (pathOf name suffix) body = .ok call)
      (sendable : Sendable client (pathOf name suffix) body) :
      Exchanged client event suffix method body missing read [(call, reply)]
        (outcome missing read reply)

/-- What is said does not depend on whether the client was opened. -/
theorem Exchanged.unopened {client : Client} {opened : Bool}
    {event : Option String} {said : List (Call × Reply)}
    {result : Except Fault (Outcome α)}
    (exchanged : Exchanged { client with opened } event suffix method body
      missing read said result) :
    Exchanged client event suffix method body missing read said result := by
  cases exchanged with
  | unnamed none => exact .unnamed none
  | unsendable misuse named unsendable =>
      exact .unsendable misuse named fun sendable =>
        unsendable { sendable with }
  | answered reply named made sendable =>
      exact .answered reply named made { sendable with }

/-- A call is sent if it can be. -/
theorem Exchanged.length_eq_one_iff {client : Client} {event : Option String}
    {said : List (Call × Reply)} {result : Except Fault (Outcome α)}
    (exchanged : Exchanged client event suffix method body missing read said
      result) :
    said.length = 1 ↔ ∃ name, Registry.nonempty? event = some name ∧
      Sendable client (pathOf name suffix) body := by
  cases exchanged with
  | unnamed none => simp [none]
  | unsendable misuse named unsendable => simp [named, unsendable]
  | answered reply named made sendable => simp [named, sendable]

/-- At most one call is sent, and it is the one that is meant. -/
theorem Exchanged.calls {client : Client} {event : Option String}
    {said : List (Call × Reply)} {result : Except Fault (Outcome α)}
    (exchanged : Exchanged client event suffix method body missing read said
      result) :
    said.length ≤ 1 ∧ ∀ exchange ∈ said, ∃ name, event = some name ∧
      client.call method (pathOf name suffix) body = .ok exchange.1 := by
  cases exchanged with
  | unnamed none => exact ⟨by simp, fun _ => nofun⟩
  | unsendable misuse named unsendable => exact ⟨by simp, fun _ => nofun⟩
  | answered reply named made sendable =>
      refine ⟨Nat.le_refl 1, fun exchange member => ?_⟩
      obtain rfl := List.mem_singleton.mp member
      cases event with
      | none => cases named
      | some text =>
          rw [Registry.eq_of_nonempty? named] at made
          exact ⟨text, rfl, made⟩

/-- The methods of requests are in upper case. -/
theorem upper_method {method : String}
    (used : method ∈ ["GET", "POST", "PUT", "PATCH"]) :
    Text.upper method = method := by
  revert method
  decide +kernel

theorem Exchanged.methods {client : Client} {event : Option String}
    {said : List (Call × Reply)} {result : Except Fault (Outcome α)}
    (exchanged : Exchanged client event suffix method body missing read said
      result) :
    ∀ exchange ∈ said, exchange.1.method = Text.upper method := by
  intro exchange member
  obtain ⟨name, -, made⟩ := exchanged.calls.2 exchange member
  exact (parts_of_call made).1

/-- What comes of a call that was answered is what the reply says. -/
theorem Exchanged.of_cons {client : Client} {event : Option String}
    {first : Call × Reply} {rest : List (Call × Reply)}
    {result : Except Fault (Outcome α)}
    (exchanged : Exchanged client event suffix method body missing read
      (first :: rest) result) :
    rest = [] ∧ result = outcome missing read first.2 := by
  cases exchanged with
  | answered reply named made sendable => exact ⟨rfl, rfl⟩

/-- What is successful was answered. -/
theorem Exchanged.exists_reply {client : Client} {event : Option String}
    {said : List (Call × Reply)} {value : α}
    (exchanged : Exchanged client event suffix method body missing read said
      (.ok (.ok value))) :
    ∃ exchange, said = [exchange] ∧
      outcome missing read exchange.2 = .ok (.ok value) := by
  generalize ended : Except.ok (Except.ok value) = result at exchanged
  cases exchanged with
  | unnamed none => cases ended
  | unsendable misuse named unsendable => cases ended
  | answered reply named made sendable => exact ⟨_, rfl, rfl⟩

/-- What a reply says was read in it. -/
theorem exists_read_of_outcome {reply : Reply} {value : α}
    (parses : outcome missing read reply = .ok (.ok value)) :
    ∃ json, read json = .ok value := by
  have read := Flow.guarded_eq_ok_iff.mp parses
  cases answered : Client.ended missing reply with
  | error fault =>
      rw [answered] at read
      cases read
  | ok json =>
      rw [answered] at read
      exact ⟨json, read⟩

/-- What is asked about an event cannot be sent, or the reply cannot be read. -/
abbrev Unanswered (client : Client) (event : Option String) (suffix : String)
    (body : Option Json) (missing : Option (String × String))
    (readable : Json → Prop) (said : List (Call × Reply)) : Prop :=
  (∃ name, event = some name ∧
    ¬ Sendable client (pathOf name suffix) body) ∨
    ∃ exchange ∈ said, exchange.2.ensureSendable ≠ .ok () ∨
      ¬ Legible missing readable exchange.2

/-- More than a problem comes of it only then. -/
theorem Exchanged.stopped {client : Client} {event : Option String}
    {readable : Json → Prop} {said : List (Call × Reply)} {fault : Fault}
    (settled : ∀ json, SettledIff (read json) (readable json))
    (exchanged : Exchanged client event suffix method body missing read said
      (.error fault)) :
    Unanswered client event suffix body missing readable said := by
  generalize same : Except.error fault = result at exchanged
  cases exchanged with
  | unnamed none => cases same
  | unsendable misuse named unsendable =>
      cases event with
      | none => cases named
      | some text =>
          rw [Registry.eq_of_nonempty? named] at unsendable
          exact .inl ⟨text, rfl, unsendable⟩
  | @answered _ call reply named made sendable =>
      refine .inr ⟨_, List.mem_singleton_self _, ?_⟩
      by_contra readable
      simp only [ne_eq, not_or, not_not] at readable
      obtain ⟨sent, legible⟩ := readable
      obtain ⟨⟨value, settled⟩, -⟩ | ⟨-, illegible⟩ :=
        returnsIff_outcome sent settled
      · rw [settled] at same
        cases same
      · exact illegible legible

/-- Where a course leads on which something is asked about an event. -/
structure Asked (event : Option String) (suffix method : String)
    (body : Option Json) (missing : Option (String × String))
    (read : Json → Except Fault α) (course : Course Registry)
    (result : Except Fault (Outcome α)) (later : Course Registry) : Prop where
  state : later.state = course.state ∨ later.state = course.state.opened
  held : later.held = course.held
  said : ∃ said, later.log = course.log ++ said ∧
    Exchanged course.state.client event suffix method body missing read said result

/-- Whatever is asked about an event ends in one of these ways. -/
theorem solo_asking {event : Option String} {rest : String → Flow Registry α}
    {ends : Except Fault (Outcome α) → Course Registry → Prop}
    (asks : ∀ path (ends : Except Fault α → Course Registry → Prop),
      ((request method path body missing).bind fun json =>
        .ofResult (read json)).Solo terms ends course →
      (rest path).Solo terms ends course)
    (opens : terms.changes course.state course.state.opened)
    (ended : ∀ result later,
      Asked event suffix method body missing read course result later →
        ends result later) :
    (Flow.guard ((eventPath event suffix).bind rest)).Solo terms ends
      course := by
  unfold eventPath
  cases named : Registry.nonempty? event with
  | none =>
      exact ended _ _ ⟨.inl rfl, rfl, [], (List.append_nil _).symm,
        .unnamed named⟩
  | some name =>
      rw [Flow.solo_guard]
      apply asks
      rw [Flow.solo_bind]
      apply solo_sending opens
      · intro misuse later unsendable before
        obtain rfl | rfl := before
        · exact ended _ _ ⟨.inl rfl, rfl, [], (List.append_nil _).symm,
            .unsendable misuse named unsendable⟩
        · exact ended _ _ ⟨.inr rfl, rfl, [], (List.append_nil _).symm,
            .unsendable misuse named unsendable⟩
      · intro call reply sendable made
        have told := ended (outcome missing read reply)
          ((opening course).told call reply)
          ⟨.inr rfl, rfl, _, rfl, .answered reply named made sendable⟩
        unfold outcome at told
        cases answered : Client.ended missing reply with
        | error fault => rwa [answered] at told
        | ok json =>
            rw [answered] at told
            exact Flow.solo_ofResult.mpr told

section Calls

variable {event : Option String}

/-- What is said when the saved segments are listed. -/
abbrev Listing (client : Client) (event : Option String) :
    List (Call × Reply) → Except Fault (Outcome (List SavedSegment)) → Prop :=
  Exchanged client event "saved-segments" "GET" none none readSavedRows

/-- Where listing the saved segments leads. -/
abbrev Listed (event : Option String) (course : Course Registry) :
    Except Fault (Outcome (List SavedSegment)) → Course Registry → Prop :=
  Asked event "saved-segments" "GET" none none readSavedRows course

theorem solo_listSaved
    {ends : Except Fault (Outcome (List SavedSegment)) →
      Course Registry → Prop}
    (opens : terms.changes course.state course.state.opened)
    (ended : ∀ result later, Listed event course result later →
      ends result later) :
    (listSaved event).Solo terms ends course := by
  rw [listSaved_eq]
  exact solo_asking (fun _ _ asking => asking) opens ended

/-- What is said when a filter is run. -/
abbrev Running (client : Client) (event : Option String)
    (filter : Filter.Node) (debug : Bool) (page : Option Page) :
    List (Call × Reply) → Except Fault (Outcome Results) → Prop :=
  Exchanged client event "segments" "POST" (some (runBody filter debug page))
    none (parse "SegmentResults" Results.read)

theorem solo_runSegment {filter : Filter.Node} {debug : Bool}
    {page : Option Page}
    {ends : Except Fault (Outcome Results) → Course Registry → Prop}
    (opens : terms.changes course.state course.state.opened)
    (ended : ∀ result later,
      Asked event "segments" "POST" (some (runBody filter debug page)) none
        (parse "SegmentResults" Results.read) course result later →
        ends result later) :
    (runSegment event (some filter) debug page).Solo terms ends course :=
  solo_asking (fun _ _ asking => asking) opens ended

/-- What is said when a segment is saved. -/
abbrev Creating (client : Client) (event : Option String) (prompt title : String)
    (root : Filter.Root) :
    List (Call × Reply) → Except Fault (Outcome SavedSegment) → Prop :=
  Exchanged client event "saved-segments" "POST"
    (some (createBody prompt root title false)) none readSavedRow

theorem solo_createSaved {prompt title : String} {root : Filter.Root}
    {ends : Except Fault (Outcome SavedSegment) → Course Registry → Prop}
    (opens : terms.changes course.state course.state.opened)
    (ended : ∀ result later,
      Asked event "saved-segments" "POST"
        (some (createBody prompt root title false)) none readSavedRow course
        result later →
        ends result later) :
    (createSaved event prompt root title false).Solo terms ends course := by
  unfold createSaved
  simp only [savedRow_eq]
  exact solo_asking (fun _ _ asking => asking) opens ended

/-- What is said when a title is asked for. -/
abbrev Suggesting (client : Client) (event : Option String) (prompt : String)
    (root : Filter.Root) :
    List (Call × Reply) → Except Fault (Outcome String) → Prop :=
  Exchanged client event "saved-segments/suggest-title" "POST"
    (some (titleBody prompt (some root))) none readTitle

theorem solo_suggestTitle {prompt : String} {root : Filter.Root}
    {ends : Except Fault (Outcome String) → Course Registry → Prop}
    (opens : terms.changes course.state course.state.opened)
    (ended : ∀ result later,
      Asked event "saved-segments/suggest-title" "POST"
        (some (titleBody prompt (some root))) none readTitle course result
        later →
        ends result later) :
    (suggestTitle event prompt (some root)).Solo terms ends course := by
  rw [suggestTitle_eq]
  exact solo_asking (fun _ _ asking => asking) opens ended

/-- What is said when a saved segment is changed. -/
abbrev Updating (client : Client) (event : Option String) (segment : String)
    (patch : SavedSegment.Patch) :
    List (Call × Reply) → Except Fault (Outcome SavedSegment) → Prop :=
  Exchanged client event (segmentSuffix segment) "PATCH" (some patch.toJson)
    (some (savedResource, segment)) readSavedRow

theorem solo_updateSaved {segment : String} {patch : SavedSegment.Patch}
    {ends : Except Fault (Outcome SavedSegment) → Course Registry → Prop}
    (opens : terms.changes course.state course.state.opened)
    (ended : ∀ result later,
      Asked event (segmentSuffix segment) "PATCH" (some patch.toJson)
        (some (savedResource, segment)) readSavedRow course result later →
        ends result later) :
    (updateSaved event segment patch).Solo terms ends course := by
  unfold updateSaved sendPatch
  simp only [savedRow_eq]
  exact solo_asking (fun _ _ asking => asking) opens ended

/-- What is said when a segment is generated. -/
abbrev Asking (client : Client) (settings : Settings) (event : Option String)
    (prompt : String) (generation : Generation) :
    List (Call × Reply) → Except Fault (Outcome Generated) → Prop :=
  Exchanged client event "segments/generative" "POST"
    (some (generateBody settings prompt generation)) none
    (parse "GenerateResponse" Generated.read)

theorem solo_generate {prompt : String} {generation : Generation}
    {ends : Except Fault (Outcome Generated) → Course Registry → Prop}
    (opens : terms.changes course.state course.state.opened)
    (blank : Text.isBlankText prompt = true →
      ends (.ok (.error (.emptyPrompt Problem.blankPromptDetail))) course)
    (ended : ∀ result later,
      Asked event "segments/generative" "POST"
        (some (generateBody course.state.settings prompt generation)) none
        (parse "GenerateResponse" Generated.read) course result later →
        ends result later) :
    (generate event prompt generation).Solo terms ends course := by
  unfold generate
  split
  case isTrue none => exact blank none
  case isFalse given => exact solo_asking (fun _ _ asking => asking) opens ended

end Calls

end Client
end Audience
