import Audience.Proofs.Engine.Rows

/-!
# What users have on screen

Whenever its user brings a segment on screen or clears the screen, an engine
counts a generation, and no flow takes one back.  What only loads data, keeps a
document or fills in a prompt that is missing spares the user: it leaves alone
what is on screen, the table and the token.
-/

namespace Audience
namespace Restoring

open Registry (Quiet Alters)
open Provenance (AllEngines counted noted)
open Engine

/-- What a user brought on screen stays, with its table and its token.  Only a
blank prompt may have been filled in, with that of the saved segment on
screen. -/
structure Spared (before after : Engine) : Prop where
  event : after.event = before.event
  firstPage : after.firstPage = before.firstPage
  table : after.table = before.table
  surface : after.surface = before.surface
  observed : after.observed = before.observed
  token : after.latestToken = before.latestToken
  generation : after.generation = before.generation
  results : after.state.results = before.state.results
  savedId : after.state.savedId = before.state.savedId
  ast : after.state.ast = before.state.ast
  savedTitle : after.state.savedTitle = before.state.savedTitle
  prompt : after.state.prompt = before.state.prompt ∨
    before.missingPrompt? = some after.state.prompt

/-- All users are spared.  The title of a document changed at most to the one in
the document that was just put into the cache. -/
structure Spares (before after : Registry) : Prop
    extends AllEngines Spared before after where
  title : ∀ id, (after.engine id).state.persistedTitle =
      (before.engine id).state.persistedTitle ∨
    ∃ document,
      Keyed.get? (before.engine id).event after.cache.documents =
        some document ∧
      (after.engine id).state.persistedTitle = document.ai.title

/-- No engine loses a change that its user made. -/
def Steady : Registry → Registry → Prop :=
  AllEngines fun before after => before.generation ≤ after.generation

section Changes

variable {registry before after : Registry} {id : EngineId}

/-- What is learned about saved segments, and how far an engine is restored, is
nothing that its user looks at. -/
theorem Spared.of_learned (engine : Engine)
    (saved : Option (List SavedSegment)) (phase : Phase)
    (hydrationError : Option Problem) :
    Spared engine { engine with saved, phase, hydrationError } :=
  ⟨rfl, rfl, rfl, rfl, rfl, rfl, rfl, rfl, rfl, rfl, rfl, .inl rfl⟩

theorem Spared.refl (engine : Engine) : Spared engine engine :=
  .of_learned engine _ _ _

theorem Spared.of_retitled {before after : Engine}
    (retitled : before.Retitled after) : Spared before after := by
  obtain ⟨title, rfl⟩ := retitled
  exact ⟨rfl, rfl, rfl, rfl, rfl, rfl, rfl, rfl, rfl, rfl, rfl, .inl rfl⟩

theorem Spares.refl (registry : Registry) : Spares registry registry :=
  ⟨⟨fun _ => .refl _, fun _ => Iff.rfl⟩, fun _ => .inl rfl⟩

theorem Steady.refl (registry : Registry) : Steady registry registry :=
  ⟨fun _ => Nat.le_refl _, fun _ => Iff.rfl⟩

theorem Steady.trans {first second third : Registry}
    (early : Steady first second) (late : Steady second third) :
    Steady first third :=
  ⟨fun id => Nat.le_trans (early.engine id) (late.engine id),
    fun id => (late.has id).trans (early.has id)⟩

theorem Spares.steady (spares : Spares before after) : Steady before after :=
  ⟨fun id => Nat.le_of_eq (spares.engine id).generation.symm, spares.has⟩

theorem steady_of_quiet (quiet : before.Quiet after) : Steady before after := by
  refine ⟨fun id => ?_, quiet.has⟩
  exact Nat.le_of_eq (Spared.of_retitled (quiet.engine id)).generation.symm

/-- A change of one engine spares all users if it spares that engine's. -/
theorem spares_of_alters {change : Engine → Engine}
    (alters : Alters id change before after)
    (spared : Spared (before.engine id) (change (before.engine id)))
    (title : (change (before.engine id)).state.persistedTitle =
      (before.engine id).state.persistedTitle) : Spares before after := by
  refine ⟨⟨fun other => ?_, alters.has⟩, fun other => .inl ?_⟩
  · rw [alters.engine]
    split
    · rename_i here
      rw [here.1]
      exact spared
    · exact .refl _
  · rw [alters.engine]
    split
    · rename_i here
      rw [here.1]
      exact title
    · rfl

theorem steady_of_alters {change : Engine → Engine}
    (alters : Alters id change before after)
    (grows : ∀ engine, engine.generation ≤ (change engine).generation) :
    Steady before after := by
  refine ⟨fun other => ?_, alters.has⟩
  rw [alters.engine]
  split
  · exact grows _
  · exact Nat.le_refl _

theorem spares_opened (registry : Registry) : Spares registry registry.opened :=
  ⟨⟨fun _ => .refl _, fun _ => Iff.rfl⟩, fun _ => .inl rfl⟩

/-- Filling in a prompt spares the user. -/
theorem spares_backfillPrompt (registry : Registry) (id : EngineId) :
    Spares registry (registry.backfillPrompt id) := by
  unfold Registry.backfillPrompt
  cases missing : (registry.engine id).missingPrompt? with
  | none => exact .refl registry
  | some prompt =>
      exact spares_of_alters (.of_transition _)
        ⟨rfl, rfl, rfl, rfl, rfl, rfl, rfl, rfl, rfl, rfl, rfl, .inr missing⟩
        rfl

/-- Telling of a document changes a title at most to that of the document, on
an engine of its event. -/
theorem title_tellSubscriber (event : String) (document : Document)
    (subscriber : Subscriber) (registry : Registry) (id : EngineId) :
    ((registry.tellSubscriber event document subscriber).engine
        id).state.persistedTitle =
      (registry.engine id).state.persistedTitle ∨
    (registry.engine id).event = event ∧
      ((registry.tellSubscriber event document subscriber).engine
        id).state.persistedTitle = document.ai.title := by
  cases subscriber with
  | observer => exact .inl rfl
  | engine other =>
      unfold Registry.tellSubscriber Registry.hearDocument
      dsimp only
      split
      · rename_i follows
        rw [Registry.engine_transition, Registry.engine_modifyEngine]
        split
        · rename_i here
          exact .inr ⟨here.1 ▸ follows.1, rfl⟩
        · exact .inl rfl
      · exact .inl rfl

theorem title_tellAll (event : String) (document : Document)
    (subscribers : List Subscriber) (registry : Registry) (id : EngineId) :
    ((subscribers.foldl (Registry.tellSubscriber event document)
        registry).engine id).state.persistedTitle =
      (registry.engine id).state.persistedTitle ∨
    (registry.engine id).event = event ∧
      ((subscribers.foldl (Registry.tellSubscriber event document)
        registry).engine id).state.persistedTitle = document.ai.title := by
  induction subscribers generalizing registry with
  | nil => exact .inl rfl
  | cons subscriber rest ih =>
      have told : registry.Quiet
          (registry.tellSubscriber event document subscriber) :=
        Registry.quiet_tellSubscriber event document subscriber
      have stays := (Spared.of_retitled (told.engine id)).event
      -- The last subscriber that is told of the document decides.
      obtain last | ⟨same, last⟩ :=
        ih (registry.tellSubscriber event document subscriber)
      · rw [List.foldl_cons, last]
        exact title_tellSubscriber event document subscriber registry id
      · exact .inr ⟨stays ▸ same, last⟩

/-- Keeping a document that was read spares all users. -/
theorem spares_keepDocument (change : Cache → Cache) (event : String)
    (document : Document) (registry : Registry) :
    Spares registry
      ((registry.modifyCache change).setDocument event document) := by
  have quiet : registry.Quiet
      ((registry.modifyCache change).setDocument event document) :=
    (Registry.quiet_modifyCache change).trans
      (Registry.quiet_setDocument event document)
  refine ⟨⟨fun id => .of_retitled (quiet.engine id), quiet.has⟩, fun id => ?_⟩
  obtain kept | ⟨same, follows⟩ := title_tellAll event document
    (registry.modifyCache change).cache.subscribers
    ((registry.modifyCache change).modifyCache fun cache =>
      { cache with documents := Keyed.put event document cache.documents }) id
  · exact .inl kept
  · refine .inr ⟨document, ?_, follows⟩
    rw [Registry.setDocument_cache]
    have same : (registry.engine id).event = event := same
    rw [same]
    exact Keyed.get?_put_self event document _

end Changes

section Loading

variable {now : Registry} {id : EngineId}

/-- A flow that only opens the client spares all users. -/
theorem makes_opening {α : Type} {flow : Flow Registry α}
    (opens : flow.Makes (fun before after => after = before.opened)
      (fun _ => True) now) : flow.Makes Spares (fun _ => True) now :=
  opens.relax fun before _ same => same ▸ spares_opened before

/-- A change of an engine that its user does not look at spares all users. -/
theorem spares_modifyEngine {change : Engine → Engine}
    (spared : Spared (now.engine id) (change (now.engine id)))
    (title : (change (now.engine id)).state.persistedTitle =
      (now.engine id).state.persistedTitle) :
    Spares now (now.modifyEngine id change) :=
  spares_of_alters (.of_modifyEngine change) spared title

/-- Reading a document spares all users. -/
theorem makes_read (event : String) (refresh : Bool) (now : Registry) :
    (Store.read event refresh).Makes Spares (fun _ => True) now := by
  have loads (later : Registry) :
      (Store.load event).Makes Spares (fun _ => True) later := by
    rw [Store.load_eq]
    apply Flow.Makes.finish
    apply (makes_opening (Client.opens_request _ _ _ _ later)).mono
    intro answer _ answered
    cases Store.fetched answer with
    | error fault => trivial
    | ok document =>
        exact ⟨spares_keepDocument _ event document answered, trivial⟩
  rw [Store.read_eq]
  apply Flow.Makes.locked
  intro later
  simp only [Flow.Makes]
  cases Keyed.get? event later.cache.documents with
  | none => exact loads later
  | some document =>
      cases refresh with
      | true => exact loads later
      | false => trivial

/-- So does loading the saved segments. -/
theorem makes_loadListOf (id : EngineId) (event : String) (now : Registry) :
    (loadListOf id event).Makes Spares (fun _ => True) now := by
  apply Flow.Makes.andThen (makes_opening (Client.opens_listSaved event now))
  intro outcome later
  cases outcome with
  | error problem => trivial
  | ok segments =>
      exact ⟨spares_modifyEngine (.of_learned _ _ _ _) rfl, trivial⟩

theorem makes_loadSaved (id : EngineId) (refresh : Bool) (now : Registry) :
    (loadSaved id refresh).Makes Spares (fun _ => True) now :=
  Provenance.makes_loadSaved (makes_loadListOf id)
    (fun later => spares_backfillPrompt later id) refresh now

theorem makes_requireSaved (id : EngineId) (segment : String)
    (now : Registry) :
    (requireSaved id segment).Makes Spares (fun _ => True) now :=
  Provenance.makes_requireSaved (makes_loadListOf id)
    (fun later => spares_backfillPrompt later id) segment now

theorem makes_dropSaved (id : EngineId) (now : Registry) :
    (dropSaved id).Makes Spares (fun _ => True) now :=
  ⟨spares_modifyEngine (.of_learned _ _ _ _) rfl, trivial⟩

/-- Saving a generated segment spares all users. -/
theorem makes_saveGenerated (id : EngineId) (prompt title : String)
    (root : Filter.Root) (now : Registry) :
    (saveGenerated id prompt title root).Makes Spares (fun _ => True) now := by
  show Flow.Makes _ _
    (Flow.bind (Client.createSaved _ prompt root title false) _) now
  apply (makes_opening
    (Client.opens_createSaved _ prompt root title false now)).andThen
  intro outcome later
  obtain problem | saved := outcome
  · trivial
  apply (makes_dropSaved id later).andThen
  intro _ later
  show Flow.Makes _ _ (if title = "" then _ else _) _
  split
  · exact (makes_opening
      (Provenance.opens_titleSaved id saved.id prompt root later)).andThen
        fun _ _ => trivial
  · trivial

/-- Looking for the saved segment on screen spares all users. -/
theorem makes_savedOnScreen (id : EngineId) (now : Registry) :
    (savedOnScreen id).Makes Spares (fun _ => True) now := by
  rw [Provenance.savedOnScreen_eq]
  simp only [Flow.Makes]
  cases Registry.nonempty? (now.engine id).state.savedId with
  | none => trivial
  | some saved =>
      exact (makes_loadSaved id false now).andThen fun _ _ => trivial

end Loading

section Users

variable {id : EngineId}

theorem makes_quiet {α : Type} {flow : Flow Registry α} {now : Registry}
    {ends : Except Fault α → Prop} (makes : flow.Makes Quiet ends now) :
    flow.Makes Steady (fun _ => True) now :=
  (makes.relax fun _ _ quiet => steady_of_quiet quiet).mono fun _ _ => trivial

theorem makes_sparing {α : Type} {flow : Flow Registry α} {now : Registry}
    (makes : flow.Makes Spares (fun _ => True) now) :
    flow.Makes Steady (fun _ => True) now :=
  makes.relax fun _ _ spares => spares.steady

/-- Changing an engine without losing a change of its user is steady. -/
theorem steady_modifyEngine (registry : Registry) {change : Engine → Engine}
    (grows : ∀ engine, engine.generation ≤ (change engine).generation) :
    Steady registry (registry.modifyEngine id change) :=
  steady_of_alters (.of_modifyEngine change) grows

theorem steady_transition (registry : Registry) (change : AiState → AiState) :
    Steady registry (registry.transition id change) :=
  steady_of_alters (.of_transition change) fun _ => Nat.le_refl _

theorem makes_persist (id : EngineId) (block : AiBlock) (now : Registry) :
    (persist id block).Makes Steady (fun _ => True) now := by
  show Flow.Makes _ _ (Flow.bind (Store.write _ (.ofAi block)) _) now
  exact (makes_quiet (Store.makes_write _ _ now)).andThen fun _ _ => trivial

theorem generation_noted (change : Engine.Change) (engine : Engine) :
    (noted change engine).generation = engine.generation + 1 := by
  unfold Provenance.noted
  split <;> rfl

/-- A change by a user is steady. -/
theorem makes_apply (id : EngineId) (change : Engine.Change)
    (now : Registry) :
    (apply id change).Makes Steady (fun _ => True) now := by
  refine ⟨steady_of_alters (Provenance.alters_noted change now) fun engine => ?_,
    ?_⟩
  · rw [generation_noted]
    exact Nat.le_succ _
  show Flow.Makes _ _ (Flow.bind (Flow.ofNormal change.root) _) _
  cases change.root with
  | error misuse => trivial
  | ok root =>
      exact ⟨steady_transition _ _, makes_persist id _ _⟩

/-- Clearing the screen is steady. -/
theorem makes_clear (id : EngineId) (now : Registry) :
    (clear id).Makes Steady (fun _ => True) now := by
  have alters : Alters id _ now _ :=
    ((Alters.of_modifyEngine counted).trans
      (.of_modifyEngine Engine.takeToken)).trans (.of_transition cleared)
  exact ⟨steady_of_alters alters fun _ => Nat.le_succ _,
    makes_persist id _ _⟩

/-- So is bringing a segment on screen after moving the table. -/
theorem makes_moveAndApply (id : EngineId) (page : Page)
    (change : Engine.Change) (now : Registry) :
    (Flow.bind (Flow.modify fun registry : Registry =>
      registry.modifyEngine id (Engine.moveTo page)) fun _ =>
        (apply id change).bind fun _ => Flow.done (Except.ok ())).Makes Steady
          (fun (_ : Except Fault (Outcome Unit)) => True) now :=
  ⟨steady_modifyEngine now fun _ => Nat.le_refl _,
    (makes_apply id change _).andThen fun _ _ => trivial⟩

/-- Running a saved segment again is steady. -/
theorem makes_runSaved (id : EngineId) (segment : SavedSegment)
    (now : Registry) :
    (runSaved id segment).Makes Steady (fun _ => True) now := by
  show Flow.Makes _ _
    (Flow.bind (Client.runSegment _ (some segment.ast.filter) false _) _) now
  apply (makes_sparing (makes_opening
    (Client.opens_runSegment _ _ false _ now))).andThen
  intro outcome later
  obtain problem | results := outcome
  · trivial
  apply (makes_quiet (Client.makes_markUsed _ segment.id later)).andThen
  intro used later
  dsimp only
  split
  · apply (makes_sparing (makes_dropSaved id later)).andThen
    exact fun _ dropped => makes_moveAndApply id _ _ dropped
  · exact makes_moveAndApply id _ _ later

/-- Generating a segment from a prompt is steady. -/
theorem makes_generate (id : EngineId) (prompt title : String) (debug : Bool)
    (now : Registry) :
    (generate id prompt title debug).Makes Steady (fun _ => True) now := by
  show Flow.Makes _ _ (Flow.bind (Client.generate _ prompt _) _) now
  apply (makes_sparing (makes_opening
    (Client.opens_generate _ prompt _ now))).andThen
  intro outcome later
  obtain problem | generated := outcome
  · trivial
  apply (makes_sparing
    (makes_saveGenerated id prompt _ generated.segment later)).andThen
  intro saved later
  exact (makes_apply id _ later).andThen fun _ _ => trivial

theorem makes_answerPrompt (id : EngineId) (submission : Submission)
    (now : Registry) :
    (answerPrompt id submission).Makes Steady (fun _ => True) now := by
  unfold answerPrompt
  cases Registry.nonempty? submission.savedSegmentId with
  | none => exact makes_generate id _ _ _ now
  | some segment =>
      apply (makes_sparing (makes_requireSaved id segment now)).andThen
      intro outcome later
      cases outcome with
      | error problem => trivial
      | ok saved => exact makes_runSaved id saved later

/-- Opening the prompt is steady. -/
theorem makes_openPrompt (id : EngineId) (defaults : Defaults)
    (surface : Option Surface) (now : Registry) :
    (openPrompt id defaults surface).Makes Steady (fun _ => True) now := by
  apply (makes_sparing (makes_opening
    (Provenance.opens_ask id surface now))).andThen
  intro submission later
  cases submission with
  | none => trivial
  | some submission =>
      exact (makes_answerPrompt id submission later).andThen fun _ _ => trivial

theorem makes_updateSaved (id : EngineId) (segment : String)
    (patch : SavedSegment.Patch) (now : Registry) :
    (updateSaved id segment patch).Makes Steady (fun _ => True) now := by
  show Flow.Makes _ _ (Flow.bind (Client.updateSaved _ segment patch) _) now
  apply (makes_quiet (Client.makes_updateSaved _ segment patch now)).andThen
  intro outcome later
  obtain problem | saved := outcome
  · trivial
  have replaced : Steady later
      (later.modifyEngine id (Engine.replaceSaved saved)) :=
    steady_modifyEngine later fun _ => Nat.le_refl _
  refine ⟨?_, trivial⟩
  dsimp only
  split
  · exact replaced.trans (steady_transition _ _)
  · exact replaced

/-- Renaming the segment on screen is steady. -/
theorem makes_rename (id : EngineId) (segment : String)
    (submission : Submission) (now : Registry) :
    (rename id segment submission).Makes Steady (fun _ => True) now := by
  apply (makes_updateSaved id segment _ now).andThen
  intro outcome later
  cases outcome with
  | error problem => trivial
  | ok saved => exact (makes_apply id _ later).andThen fun _ _ => trivial

theorem makes_answerRefine (id : EngineId) (defaults : Defaults)
    (submission : Submission) (now : Registry) :
    (answerRefine id defaults submission).Makes Steady (fun _ => True) now := by
  rw [Provenance.answerRefine_eq]
  simp only [Flow.Makes]
  cases Registry.nonempty? (now.engine id).state.savedId with
  | none => exact makes_generate id _ _ _ now
  | some saved =>
      cases Prompt.sameWords submission.prompt defaults.prompt with
      | true => exact makes_rename id saved submission now
      | false => exact makes_generate id _ _ _ now

/-- Refining the segment on screen is steady. -/
theorem makes_openRefine (id : EngineId) (surface : Option Surface)
    (now : Registry) :
    (openRefine id surface).Makes Steady (fun _ => True) now := by
  apply (makes_sparing (makes_savedOnScreen id now)).andThen
  intro segment later
  show Flow.Makes _ _ (Flow.bind (ask id surface) _) later
  apply (makes_sparing (makes_opening
    (Provenance.opens_ask id surface later))).andThen
  intro submission later
  cases submission with
  | none => trivial
  | some submission =>
      exact (makes_answerRefine id _ submission later).andThen
        fun _ _ => trivial

/-- Waiting for an engine to be restored changes nothing. -/
theorem makes_hydrate (id : EngineId) (now : Registry) :
    (hydrate id).Makes Steady (fun _ => True) now := by
  intro result later
  cases result <;> trivial

/-- Keeping the table inside the rows is steady. -/
theorem makes_clamp (id : EngineId) (now : Registry) :
    (clamp id).Makes Steady (fun _ => True) now := by
  rw [Provenance.clamp_eq]
  simp only [Flow.Makes]
  cases (now.engine id).clampedPage with
  | error misuse => trivial
  | ok page => exact ⟨steady_modifyEngine now fun _ => Nat.le_refl _, trivial⟩

/-- Running the segment on screen for a page is steady. -/
theorem makes_execute (id : EngineId) (page : Page) (now : Registry) :
    (execute id page).Makes Steady (fun _ => True) now := by
  rw [Paging.execute_eq]
  have alters : Alters id _ now
      ((now.modifyEngine id Paging.counted).takeToken id).2 :=
    (Alters.of_modifyEngine Paging.counted).trans
      (.of_modifyEngine Engine.takeToken)
  refine ⟨steady_of_alters alters fun _ => Nat.le_refl _, ?_⟩
  apply (makes_sparing (makes_opening
    (Client.opens_runSegment _ _ false _ _))).andThen
  intro outcome later
  obtain problem | results := outcome
  · trivial
  refine ⟨?_, trivial⟩
  unfold Registry.updateResults
  dsimp only
  split
  · exact steady_transition later fun state =>
      { state with results := some results }
  · exact .refl later

/-- Moving the table is steady. -/
theorem makes_setPage (id : EngineId) (page : Page) (now : Registry) :
    (setPage id page).Makes Steady (fun _ => True) now := by
  rw [Paging.setPage_eq]
  refine ⟨steady_modifyEngine now fun _ => Nat.le_refl _, ?_⟩
  split
  · exact (makes_clamp id _).andThen fun _ _ => trivial
  split
  · trivial
  split
  · trivial
  · exact (makes_execute id page _).andThen fun _ _ => trivial

theorem makes_move (id : EngineId) (move : Move) (now : Registry) :
    (move.flow id).Makes Steady (fun _ => True) now := by
  cases move with
  | toPage page => exact makes_setPage id page now
  | toNumber number =>
      show Flow.Makes _ _ ((Flow.ofNormal number.whole).bind _) now
      cases number.whole with
      | error misuse => trivial
      | ok number => exact makes_setPage id _ now
  | toSize size =>
      show Flow.Makes _ _ ((Flow.ofNormal size.whole).bind _) now
      cases size.whole with
      | error misuse => trivial
      | ok size => exact makes_setPage id _ now
  | toOrder orderBy order =>
      show Flow.Makes _ _ ((Flow.ofResult _).bind _) now
      apply (Flow.makes_ofResult.mpr trivial).andThen
      exact fun page later => makes_setPage id page later

/-- Whatever is done with engines is steady. -/
theorem makes_task (task : Provenance.Task) (now : Registry) :
    task.flow.Makes Steady (fun _ => True) now := by
  cases task with
  | hydrate id => exact (makes_hydrate id now).andThen fun _ _ => trivial
  | openPrompt id defaults surface =>
      exact (makes_openPrompt id defaults surface now).andThen
        fun _ _ => trivial
  | answerPrompt id submission =>
      exact (makes_answerPrompt id submission now).andThen fun _ _ => trivial
  | openRefine id surface =>
      exact (makes_openRefine id surface now).andThen fun _ _ => trivial
  | answerRefine id defaults submission =>
      exact (makes_answerRefine id defaults submission now).andThen
        fun _ _ => trivial
  | clear id => exact makes_clear id now
  | updateSaved id segment patch =>
      exact (makes_updateSaved id segment patch now).andThen fun _ _ => trivial
  | loadSaved id refresh =>
      exact (makes_sparing (makes_loadSaved id refresh now)).andThen
        fun _ _ => trivial
  | move id way => exact (makes_move id way now).andThen fun _ _ => trivial

end Users

end Restoring
end Audience
