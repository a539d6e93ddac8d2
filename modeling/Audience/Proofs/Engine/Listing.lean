import Audience.Backend.Description
import Audience.Proofs.Engine.Applying
import Audience.Proofs.Engine.Rows
import Audience.Proofs.Flow.Heeding

/-!
# The list of saved segments

An engine keeps the list of saved segments that it loaded.  The reply to a list
replaces it, and the reply to a change of a saved segment replaces one row or
drops the list.  No other call and no other change of the registry touches it.
-/

namespace Audience

namespace Client

variable {α : Type} {read : Json → Except Fault α}

/-- What a reply says, if it is successful and can be read. -/
def said? (read : Json → Except Fault α) (reply : Reply) : Option α :=
  ((ended none reply).bind read).toOption

/-- A call ends well exactly with what its reply says. -/
theorem outcome_eq_ok_iff {missing : Option (String × String)} {reply : Reply}
    {value : α} : outcome missing read reply = .ok (.ok value) ↔
      said? read reply = some value := by
  have fits (json : Json) : Flow.guarded (read json) = .ok (.ok value) ↔
      (read json).toOption = some value := by
    rw [Flow.guarded_eq_ok_iff]
    cases read json <;> simp [Except.toOption]
  unfold outcome said?
  cases answered : ended missing reply with
  | ok json =>
      rw [ended_eq_ok answered]
      exact fits json
  | error fault =>
      have failed : ∀ json, ended none reply ≠ .ok json := fun json also => by
        rw [ended_eq_ok also] at answered
        cases answered
      cases also : ended none reply with
      | ok json => exact absurd also (failed json)
      | error other => cases fault <;> simp [Except.bind, Flow.guarded,
          Except.toOption]

/-- A request sends calls with its method and its body only. -/
theorem sends_request_parts (method path : String) (body : Option Json)
    (missing : Option (String × String)) :
    (request method path body missing).Sends
      fun call => call.method = Text.upper method ∧ call.body = body := by
  rw [request_eq]
  simp only [Flow.Sends]
  intro registry
  cases registry.client.ensureOpen with
  | error misuse => trivial
  | ok client =>
      intro later
      cases made : client.call method path body with
      | error misuse => trivial
      | ok call =>
          obtain ⟨sameMethod, sameBody, -⟩ := parts_of_call made
          exact ⟨⟨sameMethod, sameBody⟩, fun reply => Flow.sends_ofResult _⟩

end Client

namespace Listing

open Engine
open Registry (Quiet Alters)

/-- The call changes a saved segment. -/
def changes (call : Call) : Bool := call.method == "PATCH"

/-- The call saves a segment. -/
def creates (call : Call) : Bool :=
  call.method == "POST" && ((call.body.getD .null).given? "favorite").isSome

/-- The call says nothing about saved segments, but may ask for them. -/
def Silent (call : Call) : Prop := changes call = false ∧ creates call = false

/-- A client can send the call to list the saved segments of an event. -/
def Lists (event : String) (call : Call) : Prop :=
  ∃ client : Client, client.call "GET" (Client.pathOf event "saved-segments")
    none = .ok call

/-- The saved segments that a reply lists. -/
abbrev listed? : Reply → Option (List SavedSegment) :=
  Client.said? Client.readSavedRows

/-- The saved segment that a reply tells. -/
abbrev row? : Reply → Option SavedSegment := Client.said? Client.readSavedRow

/-- The reply that tells a saved segment. -/
def toldRow (row : Json) : Reply :=
  .response 200 (.json (.obj [("savedSegment", row)]))

/-- The reply that lists saved segments. -/
def toldRows (rows : List Json) : Reply :=
  .response 200 (.json (.obj [("savedSegments", .arr rows)]))

/-- A row takes the place of the one with its identifier. -/
def replaced (row : SavedSegment) (rows : List SavedSegment) :
    List SavedSegment :=
  rows.map fun other => if other.id = row.id then row else other

/-- The rows after a call, as its reply tells them. -/
def stored (call : Call) (reply : Reply) (rows : List SavedSegment) :
    List SavedSegment :=
  match row? reply with
  | some row =>
      if changes call then replaced row rows
      else if creates call then rows ++ [row]
      else rows
  | none => rows

/-- The backend handles a call successfully.  A list is one of those that the
rows allow, and whatever changes a row tells it. -/
structure Serves (event : String)
    (allows : List SavedSegment → List SavedSegment → Prop)
    (before : List SavedSegment) (call : Call) (reply : Reply)
    (after : List SavedSegment) : Prop where
  succeeds : ∃ json, Client.ended none reply = .ok json
  lists : Lists event call →
    ∃ rows, listed? reply = some rows ∧ allows before rows
  tells : (changes call || creates call) = true → ∃ row, row? reply = some row
  after : after = stored call reply before

theorem stored_of_silent {call : Call} (silent : Silent call) (reply : Reply)
    (rows : List SavedSegment) : stored call reply rows = rows := by
  unfold stored
  rw [silent.1, silent.2]
  cases row? reply <;> rfl

theorem replaced_perm {row : SavedSegment} {rows others : List SavedSegment}
    (perm : rows.Perm others) :
    (replaced row rows).Perm (replaced row others) :=
  perm.map _

theorem row?_toldRow {json : Json} {row : SavedSegment}
    (sends : (toldRow json).ensureSendable = .ok ())
    (read : SavedSegment.read json = .value row) :
    row? (toldRow json) = some row := by
  have tells : row? (toldRow json) =
      (Client.parse "SavedSegment" SavedSegment.read json).toOption := by
    unfold row? Client.said? Client.ended
    rw [sends]
    rfl
  rw [tells, Client.parse, read]
  rfl

/-- A list tells its rows one by one. -/
theorem listed?_toldRows {sent : List Json} {rows : List SavedSegment}
    (sends : (toldRows sent).ensureSendable = .ok ())
    (read : List.Forall₂ (fun json row => SavedSegment.read json = .value row)
      sent rows) :
    listed? (toldRows sent) = some rows := by
  have tells : listed? (toldRows sent) =
      (Client.parseAll "SavedSegment" SavedSegment.read sent).toOption := by
    unfold listed? Client.said? Client.ended
    rw [sends]
    rfl
  have reads : Client.parseAll "SavedSegment" SavedSegment.read sent =
      .ok rows := by
    clear sends tells
    induction read with
    | nil => rfl
    | cons one _ ih =>
        rw [Client.parseAll, ih, Client.parse, one]
        rfl
  rw [tells, reads]
  rfl

/-! ## What leaves the list alone -/

section Sparing

variable {id : EngineId} {event : String}

/-- The list that the engine of an event has loaded. -/
def outlook (id : EngineId) (event : String) :
    Outlook Registry (Option (List SavedSegment)) where
  view registry := (registry.engine id).saved
  proper registry := registry.Has id ∧ (registry.engine id).event = event

theorem spares_of_quiet {before after : Registry} (quiet : before.Quiet after) :
    (outlook id event).Spares before after := by
  rintro ⟨has, named⟩
  obtain ⟨title, same⟩ := quiet.engine id
  refine ⟨?_, (quiet.has id).mpr has, ?_⟩
  · show (after.engine id).saved = (before.engine id).saved
    rw [same]
  · rw [same]
    exact named

theorem spares_opened (registry : Registry) :
    (outlook id event).Spares registry registry.opened :=
  spares_of_quiet Registry.quiet_opened

/-- A change of an engine spares the list if it leaves the list of that engine
alone. -/
theorem spares_of_alters {other : EngineId} {change : Engine → Engine}
    {before after : Registry} (alters : Alters other change before after)
    (saved : ∀ engine, (change engine).saved = engine.saved)
    (named : ∀ engine, (change engine).event = engine.event) :
    (outlook id event).Spares before after := by
  rintro ⟨has, same⟩
  refine ⟨?_, (alters.has id).mpr has, ?_⟩
  · show (after.engine id).saved = (before.engine id).saved
    rw [alters.engine]
    split
    · exact saved _
    · rfl
  · rw [alters.engine]
    split
    · exact (named _).trans same
    · exact same

theorem spares_modifyEngine {other : EngineId} {change : Engine → Engine}
    (registry : Registry) (saved : ∀ engine, (change engine).saved = engine.saved)
    (named : ∀ engine, (change engine).event = engine.event) :
    (outlook id event).Spares registry (registry.modifyEngine other change) :=
  spares_of_alters (.of_modifyEngine change) saved named

theorem spares_transition (registry : Registry) (other : EngineId)
    (change : AiState → AiState) :
    (outlook id event).Spares registry (registry.transition other change) :=
  spares_of_alters (.of_transition change) (fun _ => rfl) fun _ => rfl

theorem spares_backfillPrompt (registry : Registry) (other : EngineId) :
    (outlook id event).Spares registry (registry.backfillPrompt other) := by
  unfold Registry.backfillPrompt
  cases (registry.engine other).missingPrompt? with
  | none => exact .refl registry
  | some prompt => exact spares_transition registry other _

/-- A flow that only opens the client spares the list. -/
theorem makes_opening {α : Type} {flow : Flow Registry α} {now : Registry}
    (opens : flow.Makes (fun before after => after = before.opened)
      (fun _ => True) now) :
    flow.Makes (outlook id event).Spares (fun _ => True) now :=
  opens.relax fun before _ same => same ▸ spares_opened before

theorem makes_quiet {α : Type} {flow : Flow Registry α} {now : Registry}
    (makes : flow.Makes Quiet (fun _ => True) now) :
    flow.Makes (outlook id event).Spares (fun _ => True) now :=
  makes.relax fun _ _ quiet => spares_of_quiet quiet

/-- A change by a user spares the list. -/
theorem makes_apply (other : EngineId) (change : Engine.Change)
    (now : Registry) :
    (apply other change).Makes (outlook id event).Spares (fun _ => True)
      now := by
  refine ⟨spares_of_alters (Provenance.alters_noted change now)
    (Provenance.noted_saved change)
    (fun engine => (Provenance.grows_noted change engine).event), ?_⟩
  show Flow.Makes _ _ (Flow.bind (Flow.ofNormal change.root) _) _
  cases change.root with
  | error misuse => trivial
  | ok root =>
      exact ⟨spares_transition _ _ _, makes_quiet (makes_persist other _ _)⟩

/-- So does bringing a segment on screen after moving the table. -/
theorem makes_moveAndApply (other : EngineId) (page : Page)
    (change : Engine.Change) (now : Registry) :
    (Flow.bind (Flow.modify fun registry : Registry =>
      registry.modifyEngine other (Engine.moveTo page)) fun _ =>
        (apply other change).bind fun _ => Flow.done (Except.ok ())).Makes
          (outlook id event).Spares
          (fun (_ : Except Fault (Outcome Unit)) => True) now :=
  ⟨spares_modifyEngine now (fun _ => rfl) fun _ => rfl,
    (makes_apply other change _).andThen fun _ _ => trivial⟩

end Sparing

/-! ## What says nothing about the list -/

section Silence

theorem silent_of_other {call : Call} (patch : (call.method == "PATCH") = false)
    (post : (call.method == "POST") = false) : Silent call :=
  ⟨patch, by rw [creates, post, Bool.false_and]⟩

theorem silent_of_get {call : Call} (get : call.method = Text.upper "GET") :
    Silent call := by
  apply silent_of_other <;> rw [get] <;> decide +kernel

theorem silent_of_put {call : Call} (put : call.method = Text.upper "PUT") :
    Silent call := by
  apply silent_of_other <;> rw [put] <;> decide +kernel

/-- A `POST` is silent unless it says whether the segment is a favorite. -/
theorem silent_of_post {call : Call} {body : Json}
    (post : call.method = Text.upper "POST") (carries : call.body = some body)
    (plain : (body.given? "favorite").isSome = false) : Silent call := by
  unfold Silent changes creates
  rw [post, carries]
  exact ⟨by decide +kernel, by simp [plain]⟩

theorem creates_of_post {call : Call} {body : Json}
    (post : call.method = Text.upper "POST") (carries : call.body = some body)
    (given : (body.given? "favorite").isSome = true) : creates call = true := by
  rw [creates, post, carries, Option.getD_some, given, Bool.and_true]
  decide +kernel

theorem changes_of_patch {call : Call}
    (patch : call.method = Text.upper "PATCH") : changes call = true := by
  rw [changes, patch]
  decide +kernel

/-- A call that changes a saved segment saves no other. -/
theorem creates_of_changes {call : Call} (changing : changes call = true) :
    creates call = false := by
  rw [creates, eq_of_beq changing]
  rfl

/-- A question about an event that is asked with a `POST` is silent unless it
says whether a segment is a favorite. -/
theorem sends_posting {α : Type} {event : Option String} {suffix : String}
    (body : Json) (read : Json → Except Fault α)
    (plain : (body.given? "favorite").isSome = false) :
    (Flow.guard ((Client.eventPath event suffix).bind fun path =>
      (Client.request "POST" path (some body) none).bind fun json =>
        .ofResult (read json))).Sends Silent := by
  apply Client.sends_ofEvent
  intro path
  apply ((Client.sends_request_parts "POST" path (some body) none).relax
    fun call parts => silent_of_post parts.1 parts.2 plain).bind
  exact fun json => Flow.sends_ofResult _

theorem sends_runSegment (event : Option String) (node : Filter.Node)
    (debug : Bool) (page : Option Page) :
    (Client.runSegment event (some node) debug page).Sends Silent := by
  refine sends_posting (Client.runBody node debug page)
    (Client.parse "SegmentResults" Results.read) ?_
  cases page <;> rfl

theorem sends_suggestTitle (event : Option String) (prompt : String)
    (root : Filter.Root) :
    (Client.suggestTitle event prompt (some root)).Sends Silent := by
  rw [Client.suggestTitle_eq]
  exact sends_posting _ _ rfl

theorem sends_generate (event : Option String) (prompt : String)
    (generation : Client.Generation) :
    (Client.generate event prompt generation).Sends Silent := by
  unfold Client.generate
  split
  · trivial
  · apply Client.sends_ofEvent
    intro path registry
    apply ((Client.sends_request_parts "POST" path _ none).relax
      fun call parts => silent_of_post parts.1 parts.2 rfl).bind
    exact fun json => Flow.sends_ofResult _

theorem sends_ask (event : String) : (Store.ask event).Sends Silent :=
  (Client.sends_request "GET" _ none _).relax fun _ get => silent_of_get get

/-- Taking a write back says nothing about saved segments. -/
theorem sends_rollback (pending : PendingWrite) :
    (Store.rollback pending).Sends Silent := by
  rw [Store.rollback_eq]
  apply (sends_ask pending.event).finish
  intro answer
  cases Flow.guarded (Store.fetched answer) with
  | error fault => trivial
  | ok outcome => exact fun _ => trivial

/-- Neither does writing a document. -/
theorem sends_write (event : String) (change : Audience.Change) :
    (Store.write event change).Sends Silent := by
  rw [Store.write_eq]
  intro registry
  dsimp only
  cases PendingWrite.stage event change registry.cache with
  | error fault => trivial
  | ok pending =>
      apply ((Client.sends_request "PUT" _ _ _).relax
        fun _ put => silent_of_put put).finish
      rintro (fault | json)
      · cases fault with
        | problem problem => exact (sends_rollback pending).bind fun _ => trivial
        | _ => trivial
      · intro later
        dsimp only [Flow.Sends]
        split
        · exact fun _ => trivial
        · trivial

/-- Nor does a change by a user. -/
theorem sends_apply (id : EngineId) (change : Engine.Change) :
    (apply id change).Sends Silent := by
  intro registry
  show Flow.Sends _ (Flow.bind (Flow.ofNormal change.root) _)
  cases change.root with
  | error misuse => trivial
  | ok root => exact fun _ _ _ => (sends_write _ _).bind fun _ => trivial

theorem sends_moveAndApply (id : EngineId) (page : Page)
    (change : Engine.Change) :
    (Flow.bind (Flow.modify fun registry : Registry =>
      registry.modifyEngine id (Engine.moveTo page)) fun _ =>
        (apply id change).bind fun _ =>
          (Flow.done (Except.ok ()) : Flow Registry (Outcome Unit))).Sends
            Silent :=
  fun _ => (sends_apply id change).bind fun _ => trivial

end Silence

end Listing
end Audience
