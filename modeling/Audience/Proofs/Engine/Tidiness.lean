import Audience.Engine.Hydration
import Audience.Proofs.Client
import Audience.Proofs.Engine.Rows
import Audience.Proofs.Flow.Keeping

/-!
# What holds of engines and the cache

Whatever users do with engines, and however the backend answers, an engine stays
that of its event, it never shows an empty identifier, and every document in the
cache is one that can be read.  A change that is taken back does not break that:
the document that it goes back to was in the cache before.
-/

namespace Audience
namespace Tidiness

open Engine
open Registry (Alters Quiet)

/-- A document that can be read. -/
def Readable (document : Document) : Prop :=
  ∃ fields, Document.read (.obj fields) = .value document

/-- No engine changed its event or shows an empty identifier, and every known
document can be read. -/
structure Tidy (start registry : Registry) : Prop where
  event : ∀ id, (registry.engine id).event = (start.engine id).event
  has : ∀ id, registry.Has id ↔ start.Has id
  savedId : ∀ id, (registry.engine id).state.savedId ≠ some ""
  readable : ∀ event, Readable (registry.cache.document event)

section Changes

variable {start registry before after : Registry} {id : EngineId}

theorem readable_empty : Readable .empty := ⟨[], Store.stored_empty.2⟩

/-- A document that the backend stores can be read. -/
theorem readable_of_stored {json : Json} {document : Document}
    (found : Document.ofStored json = .ok document) : Readable document :=
  ⟨_, Document.ofStored_eq_ok.mp found⟩

/-- So can a document that was asked for. -/
theorem readable_of_fetched {answer : Except Fault Json} {document : Document}
    (brought : Store.fetched answer = .ok document) : Readable document := by
  unfold Store.fetched at brought
  split at brought
  · rename_i json
    cases read : Document.ofStored json with
    | error problem =>
        rw [read] at brought
        cases brought
    | ok found =>
        rw [read] at brought
        cases brought
        exact readable_of_stored read
  · split at brought
    · cases brought
      exact readable_empty
    · cases brought
  · cases brought

/-- A confirmed write leaves a document that can be read. -/
theorem readable_confirmed {staged : Document} (readable : Readable staged)
    (json : Json) : Readable (Store.confirmed staged json) := by
  unfold Store.confirmed
  cases Document.unwrapFields json with
  | nil => exact readable
  | cons field rest =>
      dsimp only
      cases read : Document.ofStored (.obj (field :: rest)) with
      | error problem => exact readable
      | ok document => exact readable_of_stored read

/-- Before anything is done, all is tidy. -/
theorem tidy_initial
    (unused : ∀ id, (start.engine id).state.savedId = none)
    (unread : start.cache.documents = []) : Tidy start start where
  event _ := rfl
  has _ := Iff.rfl
  savedId id := by simp [unused id]
  readable event := by
    rw [Cache.document, unread]
    exact readable_empty

/-- A change of one engine that neither moves it to another event nor brings an
empty identifier on screen. -/
theorem Tidy.of_alters {change : Engine → Engine} (tidy : Tidy start before)
    (alters : Alters id change before after)
    (cache : after.cache.documents = before.cache.documents)
    (event : ∀ engine, (change engine).event = engine.event)
    (savedId : ∀ engine, engine.state.savedId ≠ some "" →
      (change engine).state.savedId ≠ some "") : Tidy start after where
  event other := by
    rw [alters.engine]
    split
    · rw [event, tidy.event]
    · exact tidy.event other
  has other := (alters.has other).trans (tidy.has other)
  savedId other := by
    rw [alters.engine]
    split
    · exact savedId _ (tidy.savedId other)
    · exact tidy.savedId other
  readable other := by
    rw [Cache.document, cache]
    exact tidy.readable other

/-- A quiet change that leaves documents which can be read. -/
theorem Tidy.of_quiet (tidy : Tidy start before) (quiet : before.Quiet after)
    (readable : ∀ event, Readable (after.cache.document event)) :
    Tidy start after where
  event other := by
    obtain ⟨title, same⟩ := quiet.engine other
    rw [same]
    exact tidy.event other
  has other := (quiet.has other).trans (tidy.has other)
  savedId other := by
    obtain ⟨title, same⟩ := quiet.engine other
    rw [same]
    exact tidy.savedId other
  readable := readable

theorem Tidy.opened (tidy : Tidy start registry) :
    Tidy start registry.opened :=
  tidy.of_quiet Registry.quiet_opened tidy.readable

theorem Tidy.remember (tidy : Tidy start registry) (event : String)
    (manual : ManualState) :
    Tidy start (registry.modifyCache (Cache.rememberManual event manual)) :=
  tidy.of_quiet (Registry.quiet_modifyCache _) tidy.readable

/-- A document that can be read may be put into the cache. -/
theorem Tidy.setDocument (tidy : Tidy start registry) {document : Document}
    (readable : Readable document) (event : String) :
    Tidy start (registry.setDocument event document) := by
  refine tidy.of_quiet (Registry.quiet_setDocument _ _) fun other => ?_
  rw [Registry.setDocument_cache, Cache.document]
  by_cases same : other = event
  · subst same
    rw [Keyed.get?_put_self]
    exact readable
  · rw [Keyed.get?_put_of_ne same]
    exact tidy.readable other

/-- What is learned of an engine besides its state is tidy. -/
theorem Tidy.modifyEngine {change : Engine → Engine}
    (tidy : Tidy start registry) (id : EngineId)
    (event : ∀ engine, (change engine).event = engine.event)
    (state : ∀ engine, (change engine).state = engine.state) :
    Tidy start (registry.modifyEngine id change) :=
  tidy.of_alters (.of_modifyEngine change) (by simp) event
    fun engine full => by rw [state]; exact full

/-- So is a change of the state that brings no empty identifier. -/
theorem Tidy.transition {change : AiState → AiState}
    (tidy : Tidy start registry) (id : EngineId)
    (savedId : ∀ state, state.savedId ≠ some "" →
      (change state).savedId ≠ some "") :
    Tidy start (registry.transition id change) :=
  tidy.of_alters (.of_transition change) (by simp) (fun _ => rfl)
    fun engine => savedId engine.state

theorem Tidy.backfillPrompt (tidy : Tidy start registry) (id : EngineId) :
    Tidy start (registry.backfillPrompt id) := by
  unfold Registry.backfillPrompt
  split
  · exact tidy.transition id fun _ full => full
  · exact tidy

/-- A text that counts as present is not empty. -/
theorem nonempty?_ne (text : Option String) :
    Registry.nonempty? text ≠ some "" := by
  obtain _ | text := text
  · simp [Registry.nonempty?]
  · by_cases empty : text = "" <;> simp [Registry.nonempty?, empty]

theorem Tidy.restore (tidy : Tidy start registry) (id : EngineId)
    (restored : Registry.Restored) (generation : Option Int) :
    Tidy start (registry.restore id restored generation).2 := by
  obtain refused | accepted :=
    Registry.restore_cases registry id restored generation
  · rw [refused]
    exact tidy
  · rw [accepted]
    apply Tidy.backfillPrompt
    apply Tidy.transition
    · exact tidy.modifyEngine id (fun _ => rfl) fun _ => rfl
    · exact fun _ _ => nonempty?_ne _

end Changes

section Documents

variable {start : Registry}

/-- A flow that only opens the client is tidy. -/
theorem keeps_opening {α : Type} {flow : Flow Registry α}
    (opens : ∀ now, flow.Makes (fun before after => after = before.opened)
      (fun _ => True) now) : flow.Keeps (Tidy start) fun _ => True :=
  Flow.Makes.keeps opens fun _ _ same tidy => same ▸ tidy.opened

theorem keeps_request (method path : String) (body : Option Json)
    (missing : Option (String × String)) :
    (Client.request method path body missing).Keeps (Tidy start)
      fun _ => True :=
  keeps_opening (Client.opens_request method path body missing)

/-- Reading a document is tidy. -/
theorem keeps_read (event : String) (refresh : Bool) :
    (Store.read event refresh).Keeps (Tidy start) fun _ => True := by
  have loads : (Store.load event).Keeps (Tidy start) fun _ => True := by
    rw [Store.load_eq]
    apply (keeps_request _ _ _ _).finish
    intro answer _
    cases brought : Store.fetched answer with
    | error fault => exact Flow.keeps_fail trivial
    | ok document =>
        apply Flow.keeps_inspect
        intro registry tidy
        apply Flow.keeps_update _ (Flow.keeps_done trivial)
        exact (tidy.remember event _).setDocument
          (readable_of_fetched brought) event
  rw [Store.read_eq]
  apply Flow.Keeps.locked
  apply Flow.keeps_inspect
  intro registry _
  cases Keyed.get? event registry.cache.documents with
  | none => exact loads
  | some document =>
      cases refresh with
      | true => exact loads
      | false => exact Flow.keeps_done trivial

/-- Taking a change back is tidy: the document from before it can be read. -/
theorem keeps_rollback {pending : PendingWrite}
    (previous : Readable pending.previous) :
    (Store.rollback pending).Keeps (Tidy start) fun _ => True := by
  rw [Store.rollback_eq]
  apply (keeps_request _ _ _ _).finish
  intro answer _
  cases brought : Store.fetched answer with
  | error fault =>
      cases fault with
      | problem problem =>
          exact Flow.keeps_inspect fun registry tidy => Flow.keeps_update
            (tidy.setDocument previous _) (Flow.keeps_done trivial)
      | _ => exact Flow.keeps_fail trivial
  | ok document =>
      exact Flow.keeps_inspect fun registry tidy => Flow.keeps_update
        (tidy.setDocument (readable_of_fetched brought) _)
        (Flow.keeps_done trivial)

/-- Writing a document is tidy. -/
theorem keeps_write (event : String) (change : Audience.Change) :
    (Store.write event change).Keeps (Tidy start) fun _ => True := by
  rw [Store.write_eq]
  apply Flow.keeps_inspect
  intro registry tidy
  cases tried : PendingWrite.stage event change registry.cache with
  | error fault => exact Flow.keeps_fail trivial
  | ok pending =>
      -- Whatever comes of it can be read: what is tried was read before it was
      -- sent, what is confirmed is that or what the reply carries, and what is
      -- gone back to was in the cache.
      obtain ⟨-, previous, staged⟩ := PendingWrite.staged_of_stage tried
      have readable : Readable pending.staged := ⟨_, staged⟩
      apply Flow.keeps_update (tidy.setDocument readable event)
      apply (keeps_request _ _ _ _).finish
      intro answer _
      obtain fault | json := answer
      · cases fault with
        | problem problem =>
            exact (keeps_rollback
              (previous ▸ tidy.readable event)).andThen
                fun _ _ => Flow.keeps_done trivial
        | _ => exact Flow.keeps_fail trivial
      · have confirmed : Readable (pending.confirmed json) :=
          Store.confirmed_eq pending json ▸ readable_confirmed readable json
        apply Flow.keeps_inspect
        intro registry tidy
        apply Flow.keeps_update (tidy.setDocument confirmed _)
        show Flow.Keeps _ _ (if change.manual.isSome then _ else _)
        split
        · exact Flow.keeps_inspect fun registry tidy => Flow.keeps_update
            (tidy.remember _ _) (Flow.keeps_done trivial)
        · exact Flow.keeps_done trivial

end Documents

section Saved

variable {start : Registry}

/-- Loading the saved segments is tidy. -/
theorem keeps_loadSaved (id : EngineId) (refresh : Bool) :
    (loadSaved id refresh).Keeps (Tidy start) fun _ => True := by
  have lists (event : String) (now : Registry) :
      (loadListOf id event).Makes (fun before after : Registry =>
        Tidy start before → Tidy start after) (fun _ => True) now := by
    apply ((Client.opens_listSaved event now).relax
      fun before _ same tidy => same ▸ tidy.opened).andThen
    intro outcome later
    cases outcome with
    | error problem => trivial
    | ok segments =>
        exact ⟨fun tidy => tidy.modifyEngine id (fun _ => rfl) fun _ => rfl,
          trivial⟩
  exact Flow.Makes.keeps (Provenance.makes_loadSaved lists
    (fun _ tidy => tidy.backfillPrompt id) refresh) fun _ _ kept => kept

theorem keeps_findSaved (id : EngineId) (segment : String) :
    (findSaved id segment).Keeps (Tidy start) fun _ => True :=
  Flow.keeps_query fun _ _ => trivial

theorem keeps_requireSaved (id : EngineId) (segment : String) :
    (requireSaved id segment).Keeps (Tidy start) fun _ => True := by
  apply (keeps_loadSaved id false).andThen
  intro outcome _
  obtain problem | segments := outcome
  · exact Flow.keeps_done trivial
  apply (keeps_findSaved id segment).andThen
  intro found _
  cases found with
  | some saved => exact Flow.keeps_done trivial
  | none =>
      apply (keeps_loadSaved id true).andThen
      intro outcome _
      obtain problem | segments := outcome
      · exact Flow.keeps_done trivial
      apply (keeps_findSaved id segment).andThen
      intro found _
      cases found with
      | some saved => exact Flow.keeps_done trivial
      | none => exact Flow.keeps_done trivial

/-- Changing a saved segment is tidy. -/
theorem keeps_updateSaved (id : EngineId) (segment : String)
    (patch : SavedSegment.Patch) :
    (updateSaved id segment patch).Keeps (Tidy start) fun _ => True := by
  apply Flow.keeps_inspect
  intro registry _
  apply (keeps_opening (Client.opens_updateSaved _ segment patch)).andThen
  intro outcome _
  obtain problem | saved := outcome
  · exact Flow.keeps_done trivial
  apply (Flow.keeps_modify fun registry tidy => ?_).andThen
    fun _ _ => Flow.keeps_done trivial
  have replaced : Tidy start
      (registry.modifyEngine id (Engine.replaceSaved saved)) :=
    tidy.modifyEngine id (fun _ => rfl) fun _ => rfl
  dsimp only
  split
  · exact replaced.transition id fun _ full => full
  · exact replaced

theorem keeps_dropSaved (id : EngineId) :
    (dropSaved id).Keeps (Tidy start) fun _ => True :=
  Flow.keeps_modify fun _ tidy =>
    tidy.modifyEngine id (fun _ => rfl) fun _ => rfl

end Saved

section Users

variable {start : Registry}

theorem keeps_persist (id : EngineId) (block : AiBlock) :
    (persist id block).Keeps (Tidy start) fun _ => True :=
  Flow.keeps_inspect fun _ _ =>
    (keeps_write _ (.ofAi block)).andThen fun _ _ => Flow.keeps_done trivial

/-- A user's change is tidy: an empty identifier counts as none. -/
theorem savedId_apply (change : Engine.Change)
    (root : Option (Option Filter.Root)) {state : AiState}
    (full : state.savedId ≠ some "") :
    (change.apply root state).savedId ≠ some "" := by
  unfold Engine.Change.apply
  dsimp only
  split
  · exact nonempty?_ne _
  · exact full

theorem keeps_apply (id : EngineId) (change : Engine.Change) :
    (apply id change).Keeps (Tidy start) fun _ => True := by
  apply Flow.keeps_inspect
  intro registry tidy
  apply Flow.keeps_update
  · apply tidy.of_alters (Provenance.alters_noted change registry)
    · split <;> rfl
    · exact fun engine => (Provenance.grows_noted change engine).event
    · intro engine full
      rw [Provenance.noted_state]
      exact full
  show Flow.Keeps _ _ (Flow.bind (Flow.ofNormal change.root) _)
  cases change.root with
  | error misuse => exact Flow.keeps_fail trivial
  | ok root =>
      apply Flow.keeps_inspect
      intro registry tidy
      apply Flow.keeps_update
      · exact tidy.transition id fun _ => savedId_apply change root
      · exact Flow.keeps_inspect fun _ _ => keeps_persist id _

/-- Clearing the screen is tidy. -/
theorem keeps_clear (id : EngineId) :
    (clear id).Keeps (Tidy start) fun _ => True := by
  apply Flow.keeps_inspect
  intro registry tidy
  have counted : Tidy start (registry.countUser id) :=
    tidy.modifyEngine id (fun _ => rfl) fun _ => rfl
  have numbered : Tidy start ((registry.countUser id).takeToken id).2 :=
    counted.modifyEngine id (fun _ => rfl) fun _ => rfl
  refine Flow.keeps_update (numbered.transition id fun _ _ => ?_)
    (keeps_persist id _)
  simp [cleared]

/-- So is bringing a segment on screen after moving the table. -/
theorem keeps_moveAndApply (id : EngineId) (page : Page)
    (change : Engine.Change) :
    (Flow.bind (Flow.modify fun registry : Registry =>
      registry.modifyEngine id (Engine.moveTo page)) fun _ =>
        (apply id change).bind fun _ => Flow.done (Except.ok ())).Keeps
          (Tidy start) (fun (_ : Except Fault (Outcome Unit)) => True) :=
  (Flow.keeps_modify fun _ tidy =>
    tidy.modifyEngine id (fun _ => rfl) fun _ => rfl).andThen
      fun _ _ => (keeps_apply id change).andThen
        fun _ _ => Flow.keeps_done trivial

/-- Running a saved segment again is tidy. -/
theorem keeps_runSaved (id : EngineId) (segment : SavedSegment) :
    (runSaved id segment).Keeps (Tidy start) fun _ => True := by
  apply Flow.keeps_inspect
  intro registry _
  apply (keeps_opening (Client.opens_runSegment _ _ false _)).andThen
  intro outcome _
  obtain problem | results := outcome
  · exact Flow.keeps_done trivial
  apply (keeps_opening (Client.opens_markUsed _ segment.id)).andThen
  intro used _
  dsimp only
  split
  · exact (keeps_dropSaved id).andThen fun _ _ => keeps_moveAndApply id _ _
  · exact keeps_moveAndApply id _ _

/-- Saving a generated segment is tidy. -/
theorem keeps_saveGenerated (id : EngineId) (prompt title : String)
    (root : Filter.Root) :
    (saveGenerated id prompt title root).Keeps (Tidy start) fun _ => True := by
  apply Flow.keeps_inspect
  intro registry _
  apply (keeps_opening
    (Client.opens_createSaved _ prompt root title false)).andThen
  intro outcome _
  obtain problem | saved := outcome
  · exact Flow.keeps_done trivial
  apply (keeps_dropSaved id).andThen
  intro _ _
  show Flow.Keeps _ _ (if title = "" then _ else _)
  split
  · exact (keeps_opening
      (Provenance.opens_titleSaved id saved.id prompt root)).andThen
      fun _ _ => Flow.keeps_done trivial
  · exact Flow.keeps_done trivial

/-- Generating a segment from a prompt is tidy. -/
theorem keeps_generate (id : EngineId) (prompt title : String)
    (debug : Bool) :
    (generate id prompt title debug).Keeps (Tidy start) fun _ => True := by
  apply Flow.keeps_inspect
  intro registry _
  apply (keeps_opening (Client.opens_generate _ prompt _)).andThen
  intro outcome _
  obtain problem | generated := outcome
  · exact Flow.keeps_done trivial
  apply (keeps_saveGenerated id prompt _ generated.segment).andThen
  intro saved _
  exact (keeps_apply id _).andThen fun _ _ => Flow.keeps_done trivial

theorem keeps_answerPrompt (id : EngineId) (submission : Submission) :
    (answerPrompt id submission).Keeps (Tidy start) fun _ => True := by
  unfold answerPrompt
  cases Registry.nonempty? submission.savedSegmentId with
  | none => exact keeps_generate id _ _ _
  | some segment =>
      apply (keeps_requireSaved id segment).andThen
      intro outcome _
      cases outcome with
      | error problem => exact Flow.keeps_done trivial
      | ok saved => exact keeps_runSaved id saved

/-- Opening the prompt is tidy. -/
theorem keeps_openPrompt (id : EngineId) (defaults : Defaults)
    (surface : Option Surface) :
    (openPrompt id defaults surface).Keeps (Tidy start) fun _ => True := by
  apply (keeps_opening (Provenance.opens_ask id surface)).andThen
  intro submission _
  cases submission with
  | none => exact Flow.keeps_done trivial
  | some submission =>
      exact (keeps_answerPrompt id submission).andThen
        fun _ _ => Flow.keeps_done trivial

/-- Renaming the segment on screen is tidy. -/
theorem keeps_rename (id : EngineId) (segment : String)
    (submission : Submission) :
    (rename id segment submission).Keeps (Tidy start) fun _ => True := by
  apply (keeps_updateSaved id segment _).andThen
  intro outcome _
  cases outcome with
  | error problem => exact Flow.keeps_done trivial
  | ok saved =>
      exact Flow.keeps_inspect fun _ _ => (keeps_apply id _).andThen
        fun _ _ => Flow.keeps_done trivial

theorem keeps_savedOnScreen (id : EngineId) :
    (savedOnScreen id).Keeps (Tidy start) fun _ => True := by
  rw [Provenance.savedOnScreen_eq]
  apply Flow.keeps_inspect
  intro registry _
  cases Registry.nonempty? (registry.engine id).state.savedId with
  | none => exact Flow.keeps_done trivial
  | some saved =>
      exact (keeps_loadSaved id false).andThen
        fun _ _ => Flow.keeps_query fun _ _ => trivial

theorem keeps_answerRefine (id : EngineId) (defaults : Defaults)
    (submission : Submission) :
    (answerRefine id defaults submission).Keeps (Tidy start)
      fun _ => True := by
  rw [Provenance.answerRefine_eq]
  apply Flow.keeps_inspect
  intro registry _
  cases Registry.nonempty? (registry.engine id).state.savedId with
  | none => exact keeps_generate id _ _ _
  | some saved =>
      dsimp only
      split
      · exact keeps_rename id saved submission
      · exact keeps_generate id _ _ _

/-- Refining the segment on screen is tidy. -/
theorem keeps_openRefine (id : EngineId) (surface : Option Surface) :
    (openRefine id surface).Keeps (Tidy start) fun _ => True := by
  apply (keeps_savedOnScreen id).andThen
  intro segment _
  apply Flow.keeps_inspect
  intro registry _
  apply (keeps_opening (Provenance.opens_ask id surface)).andThen
  intro submission _
  cases submission with
  | none => exact Flow.keeps_done trivial
  | some submission =>
      exact (keeps_answerRefine id _ submission).andThen
        fun _ _ => Flow.keeps_done trivial

end Users

section Restored

variable {start : Registry}

/-- Restoring an engine is tidy. -/
theorem keeps_restoreRun (id : EngineId) (filter : Filter.Root) (debug : Bool)
    (generation : Nat) (restored : Results → Registry.Restored) :
    (restoreRun id filter debug generation restored).Keeps (Tidy start)
      fun _ => True := by
  apply Flow.keeps_inspect
  intro registry _
  apply (keeps_opening (Client.opens_runSegment _ _ debug _)).andThen
  intro outcome _
  cases outcome with
  | error problem => exact Flow.keeps_fail trivial
  | ok results => exact Flow.keeps_modify fun _ tidy => tidy.restore id _ _

theorem keeps_restoreFromDocument (id : EngineId) :
    (restoreFromDocument id).Keeps (Tidy start) fun _ => True := by
  apply Flow.keeps_inspect
  intro registry _
  apply (keeps_read _ false).andThen
  intro document _
  dsimp only
  split
  · exact Flow.keeps_done trivial
  split
  · show Flow.Keeps _ _ (Flow.bind (Flow.ofNormal _) _)
    cases Filter.Root.ofJson (document.ai.ast.getD .null) with
    | error misuse => exact Flow.keeps_fail trivial
    | ok root => exact keeps_restoreRun id root _ _ _
  · split
    · rename_i segment _
      apply (keeps_requireSaved id segment).andThen
      intro outcome _
      cases outcome with
      | error problem => exact Flow.keeps_fail trivial
      | ok saved => exact keeps_restoreRun id saved.ast false _ _
    · exact Flow.keeps_done trivial

theorem keeps_setPhase (id : EngineId) (phase : Phase) :
    (setPhase id phase).Keeps (Tidy start) fun _ => True :=
  Flow.keeps_modify fun _ tidy =>
    tidy.modifyEngine id (fun _ => rfl) fun _ => rfl

theorem keeps_concludeRestoring (id : EngineId) (result : Except Fault Unit) :
    (concludeRestoring id result).Keeps (Tidy start) fun _ => True := by
  obtain fault | _ := result
  · cases fault with
    | problem problem =>
        exact (Flow.keeps_modify fun _ tidy =>
          tidy.modifyEngine id (fun _ => rfl) fun _ => rfl).andThen
            fun _ _ => (keeps_setPhase id .hydrated).andThen
              fun _ _ => Flow.keeps_done trivial
    | _ =>
        exact (keeps_setPhase id .hydrated).andThen
          fun _ _ => Flow.keeps_fail trivial
  · exact (keeps_setPhase id .hydrated).andThen
      fun _ _ => Flow.keeps_done trivial

/-- The one-time restoring of an engine is tidy. -/
theorem keeps_restoring (id : EngineId) :
    (restoring id).Keeps (Tidy start) fun _ => True :=
  (keeps_setPhase id .hydrating).andThen fun _ _ =>
    (keeps_restoreFromDocument id).finish
      fun result _ => keeps_concludeRestoring id result

/-- Waiting for an engine to be restored changes nothing. -/
theorem keeps_hydrate (id : EngineId) :
    (hydrate id).Keeps (Tidy start) fun _ => True :=
  Flow.keeps_restored fun result => by
    cases result with
    | error fault => exact Flow.keeps_fail trivial
    | ok _ => exact Flow.keeps_query fun _ _ => trivial

end Restored

end Tidiness
end Audience
