import Audience.Proofs.Event.Matching

/-!
# Whatever an engine does is the same

Every flow of an engine goes on with what is the same in two registries that
look the same to its event.  So corresponding engines do the same, also when they
are restored, and so does everything else that is done about the event.
-/

namespace Audience
namespace Isolation

open Engine

variable {event : String} {old : List Notice} {pair : Pair Registry}
variable {α β : Type} {id twin : EngineId}

section Saved

theorem mirrors_loadListOf (looks : Looks event old pair)
    (same : pair.ids id twin) (name : String) :
    Mirrors event old (loadListOf id name) (loadListOf twin name) pair := by
  apply (mirrors_listSaved looks (some name)).bind
  intro later moved outcome
  cases outcome with
  | error problem => exact Flow.matches_done moved.holds _
  | ok segments =>
      apply mirrors_changing moved.holds (moved.ids _ _ same)
      · exact fun _ => ⟨rfl, rfl⟩
      · exact fun _ looks _ => Flow.matches_done looks _

theorem mirrors_loadList (same : pair.ids id twin) (refresh : Bool) :
    Mirrors event old (loadList id refresh) (loadList twin refresh) pair := by
  apply Flow.matches_locked (.savedSegments same)
  intro later moved
  have same := moved.ids _ _ same
  apply mirrors_engine moved.holds same fun engine => engine
  intro engine _
  have loads : Mirrors event old
      ((loadListOf id engine.event).bind fun result => .done (true, result))
      ((loadListOf twin engine.event).bind fun result => .done (true, result))
      later :=
    (mirrors_loadListOf moved.holds same _).bind
      fun _ moved _ => Flow.matches_done moved.holds _
  cases engine.saved with
  | none => exact loads
  | some segments =>
      cases refresh with
      | true => exact loads
      | false => exact Flow.matches_done moved.holds _

theorem mirrors_loadSaved (same : pair.ids id twin) (refresh : Bool) :
    Mirrors event old (loadSaved id refresh) (loadSaved twin refresh)
      pair := by
  apply (mirrors_loadList same refresh).bind
  rintro later moved ⟨loaded, result⟩
  have same := moved.ids _ _ same
  show Flow.Matches (likeness event old)
    (if (loaded && result.isOk) = true then _ else _)
    (if (loaded && result.isOk) = true then _ else _) later
  split
  · apply (Flow.matches_modify
      (Tends.backfillPrompt moved.holds same).steps).bind
    exact fun _ moved _ => Flow.matches_done moved.holds _
  · exact Flow.matches_done moved.holds _

theorem mirrors_findSaved (looks : Looks event old pair)
    (same : pair.ids id twin) (segment : String) :
    Mirrors event old (findSaved id segment) (findSaved twin segment)
      pair := by
  apply Flow.matches_query looks
  obtain ⟨engine, left, right, -⟩ := looks.shared same
  rw [left, right]

theorem mirrors_requireSaved (same : pair.ids id twin) (segment : String) :
    Mirrors event old (requireSaved id segment) (requireSaved twin segment)
      pair := by
  apply (mirrors_loadSaved same false).bind
  intro later moved outcome
  cases outcome with
  | error problem => exact Flow.matches_done moved.holds _
  | ok _ =>
      have same := moved.ids _ _ same
      apply (mirrors_findSaved moved.holds same segment).bind
      intro later moved found
      cases found with
      | some saved => exact Flow.matches_done moved.holds _
      | none =>
          -- The list is looked at once more.
          have same := moved.ids _ _ same
          apply (mirrors_loadSaved same true).bind
          intro later moved outcome
          cases outcome with
          | error problem => exact Flow.matches_done moved.holds _
          | ok _ =>
              have same := moved.ids _ _ same
              apply (mirrors_findSaved moved.holds same segment).bind
              intro later moved found
              cases found with
              | some saved => exact Flow.matches_done moved.holds _
              | none => exact Flow.matches_done moved.holds _

/-- A new title of the segment on screen is shown. -/
theorem Tends.retitle {ids : EngineId → EngineId → Prop}
    {left right : Registry} (looks : Looks event old ⟨ids, left, right⟩)
    (same : ids id twin) (segment : String) (retitled : Bool)
    (saved : SavedSegment) :
    Tends event old ids left right
      (if (left.engine id).state.savedId = some segment ∧ retitled then
        left.transition id fun state => { state with savedTitle := saved.title }
      else left)
      (if (right.engine twin).state.savedId = some segment ∧ retitled then
        right.transition twin fun state =>
          { state with savedTitle := saved.title }
      else right) := by
  have engine : left.engine id = right.engine twin :=
    looks.engine id twin same
  rw [engine]
  split
  · exact transition looks same _ fun _ => rfl
  · exact refl looks

theorem mirrors_updateSavedOf (looks : Looks event old pair)
    (same : pair.ids id twin) (segment : String)
    (patch : SavedSegment.Patch) :
    Mirrors event old (Engine.updateSaved id segment patch)
      (Engine.updateSaved twin segment patch) pair := by
  apply mirrors_engine looks same Engine.event
  intro engine _
  apply (mirrors_updateSaved looks _ segment patch).bind
  intro later moved outcome
  cases outcome with
  | error problem => exact Flow.matches_done moved.holds _
  | ok saved =>
      have same := moved.ids _ _ same
      have replaced := Tends.modifyEngine moved.holds same
        (Engine.replaceSaved saved) fun _ => ⟨rfl, rfl⟩
      have shown := Tends.retitle replaced.looks same segment
        patch.title.isSome saved
      apply (Flow.matches_modify (replaced.trans shown).steps).bind
      exact fun _ moved _ => Flow.matches_done moved.holds _

theorem mirrors_dropSaved (looks : Looks event old pair)
    (same : pair.ids id twin) :
    Mirrors event old (dropSaved id) (dropSaved twin) pair :=
  mirrors_modifyEngine looks same fun _ => ⟨rfl, rfl⟩

end Saved

section Users

theorem mirrors_persist (looks : Looks event old pair)
    (same : pair.ids id twin) (block : AiBlock) :
    Mirrors event old (persist id block) (persist twin block) pair := by
  apply mirrors_engine looks same Engine.event
  intro engine about
  rw [about]
  exact (mirrors_write looks _).bind
    fun _ moved _ => Flow.matches_done moved.holds ()

theorem mirrors_apply (looks : Looks event old pair) (same : pair.ids id twin)
    (change : Engine.Change) :
    Mirrors event old (Engine.apply id change) (Engine.apply twin change)
      pair := by
  have counted := Tends.modifyEngine looks same
    (fun engine => { engine with generation := engine.generation + 1 })
    fun _ => ⟨rfl, rfl⟩
  have noted : Tends event old pair.ids pair.left pair.right
      (if change.results.isSome then
        ((pair.left.countUser id).takeToken id).2
        else pair.left.countUser id)
      (if change.results.isSome then
        ((pair.right.countUser twin).takeToken twin).2
        else pair.right.countUser twin) := by
    split
    · exact counted.trans
        (Tends.modifyEngine counted.looks same _ fun _ => ⟨rfl, rfl⟩)
    · exact counted
  apply (Flow.matches_modify noted.steps).bind
  intro later moved _
  have same := moved.ids _ _ same
  apply (mirrors_ofNormal moved.holds change.root).bind
  intro later moved root
  have same := moved.ids _ _ same
  apply (Flow.matches_modify (Tends.transition moved.holds same
    (change.apply root) fun _ => rfl).steps).bind
  intro later moved _
  have same := moved.ids _ _ same
  have looks : Looks event old later := moved.holds
  -- The block is built on the one that is cached.
  obtain ⟨engine, left, right, about⟩ := looks.shared same
  apply Flow.matches_inspect
  show Mirrors event old
    (persist id (change.block root
      (later.left.cache.document (later.left.engine id).event).ai))
    (persist twin (change.block root
      (later.right.cache.document (later.right.engine twin).event).ai)) later
  rw [left, right, about, looks.cached]
  exact mirrors_persist looks same _

theorem mirrors_clear (looks : Looks event old pair)
    (same : pair.ids id twin) :
    Mirrors event old (Engine.clear id) (Engine.clear twin) pair := by
  have counted := Tends.modifyEngine looks same
    (fun engine => { engine with generation := engine.generation + 1 })
    fun _ => ⟨rfl, rfl⟩
  have taken := Tends.modifyEngine counted.looks same Engine.takeToken
    fun _ => ⟨rfl, rfl⟩
  have shown := Tends.transition taken.looks same cleared fun _ => rfl
  apply (Flow.matches_modify ((counted.trans taken).trans shown).steps).bind
  intro later moved _
  exact mirrors_persist moved.holds (moved.ids _ _ same) _

/-- Running a saved segment again. -/
theorem mirrors_runSaved (looks : Looks event old pair)
    (same : pair.ids id twin) (segment : SavedSegment) :
    Mirrors event old (runSaved id segment) (runSaved twin segment) pair := by
  have shows {later : Pair Registry} (looks : Looks event old later)
      (same : later.ids id twin) (page : Page) (change : Engine.Change) :
      Mirrors event old
        ((Flow.modify fun registry : Registry =>
          registry.modifyEngine id (Engine.moveTo page)).bind fun _ =>
            (Engine.apply id change).bind fun _ =>
              Flow.done (Except.ok () : Outcome Unit))
        ((Flow.modify fun registry : Registry =>
          registry.modifyEngine twin (Engine.moveTo page)).bind fun _ =>
            (Engine.apply twin change).bind fun _ =>
              Flow.done (Except.ok () : Outcome Unit)) later := by
    apply mirrors_changing looks same
    · exact fun _ => ⟨rfl, rfl⟩
    · exact fun _ looks same => (mirrors_apply looks same change).bind
        fun _ moved _ => Flow.matches_done moved.holds _
  apply mirrors_engine looks same fun engine => engine
  intro engine _
  apply (mirrors_runSegment looks _ _ _ _).bind
  intro later moved executed
  cases executed with
  | error problem => exact Flow.matches_done moved.holds _
  | ok results =>
      have same := moved.ids _ _ same
      apply (mirrors_markUsed moved.holds _ _).bind
      intro later moved used
      have same := moved.ids _ _ same
      dsimp only
      split
      · exact (mirrors_dropSaved moved.holds same).bind fun _ moved _ =>
          shows moved.holds (moved.ids _ _ same) _ _
      · exact shows moved.holds same _ _

theorem mirrors_titleSaved (looks : Looks event old pair)
    (same : pair.ids id twin) (segment prompt : String) (root : Filter.Root) :
    Mirrors event old (titleSaved id segment prompt root)
      (titleSaved twin segment prompt root) pair := by
  apply mirrors_engine looks same Engine.event
  intro engine _
  apply (mirrors_suggestTitle looks _ prompt (some root)).bind
  intro later moved suggestion
  cases suggestion with
  | error _ => exact Flow.matches_done moved.holds _
  | ok title =>
      apply (mirrors_updateSaved moved.holds _ segment (.ofTitle title)).bind
      intro last moved updated
      cases updated with
      | error _ => exact Flow.matches_done moved.holds _
      | ok saved => exact Flow.matches_done moved.holds _

theorem mirrors_saveGenerated (looks : Looks event old pair)
    (same : pair.ids id twin) (prompt title : String) (root : Filter.Root) :
    Mirrors event old (saveGenerated id prompt title root)
      (saveGenerated twin prompt title root) pair := by
  apply mirrors_engine looks same Engine.event
  intro engine _
  apply (mirrors_createSaved looks _ prompt root title false).bind
  intro later moved created
  have same := moved.ids _ _ same
  cases created with
  | error _ => exact Flow.matches_done moved.holds _
  | ok saved =>
      apply (mirrors_dropSaved moved.holds same).bind
      intro last moved _
      show Mirrors event old (if title = "" then _ else _)
        (if title = "" then _ else _) last
      split
      · exact (mirrors_titleSaved moved.holds (moved.ids _ _ same) _ prompt
          root).bind fun _ moved _ => Flow.matches_done moved.holds _
      · exact Flow.matches_done moved.holds _

theorem mirrors_generated (looks : Looks event old pair)
    (same : pair.ids id twin) (prompt title : String) (debug : Bool) :
    Mirrors event old (Engine.generate id prompt title debug)
      (Engine.generate twin prompt title debug) pair := by
  apply mirrors_engine looks same Engine.event
  intro engine _
  apply (mirrors_generate looks _ prompt _).bind
  intro later moved generated
  have same := moved.ids _ _ same
  cases generated with
  | error problem => exact Flow.matches_done moved.holds _
  | ok generated =>
      apply (mirrors_saveGenerated moved.holds same prompt _ _).bind
      rintro last moved ⟨savedId, title⟩
      exact (mirrors_apply moved.holds (moved.ids _ _ same) _).bind
        fun _ moved _ => Flow.matches_done moved.holds _

theorem mirrors_answerPrompt (looks : Looks event old pair)
    (same : pair.ids id twin) (submission : Submission) :
    Mirrors event old (answerPrompt id submission)
      (answerPrompt twin submission) pair := by
  unfold answerPrompt
  cases Registry.nonempty? submission.savedSegmentId with
  | none => exact mirrors_generated looks same _ _ _
  | some segment =>
      apply (mirrors_requireSaved same segment).bind
      intro later moved found
      cases found with
      | error problem => exact Flow.matches_done moved.holds _
      | ok saved =>
          exact mirrors_runSaved moved.holds (moved.ids _ _ same) saved

theorem mirrors_ask (looks : Looks event old pair) (same : pair.ids id twin)
    (surface : Option Surface) :
    Mirrors event old (ask id surface) (ask twin surface) pair := by
  apply mirrors_engine looks same Engine.surface
  intro engine _
  split
  · exact Flow.matches_done looks _
  · exact Flow.matches_done looks _
  · exact Flow.matches_fail looks _

theorem mirrors_openPrompt (looks : Looks event old pair)
    (same : pair.ids id twin) (defaults : Defaults)
    (surface : Option Surface) :
    Mirrors event old (openPrompt id defaults surface)
      (openPrompt twin defaults surface) pair := by
  apply (mirrors_ask looks same surface).bind
  intro later moved submission
  cases submission with
  | none => exact Flow.matches_done moved.holds _
  | some submission =>
      exact (mirrors_answerPrompt moved.holds (moved.ids _ _ same)
        submission).bind fun _ moved _ => Flow.matches_done moved.holds _

theorem mirrors_rename (looks : Looks event old pair)
    (same : pair.ids id twin) (segment : String) (submission : Submission) :
    Mirrors event old (rename id segment submission)
      (rename twin segment submission) pair := by
  apply (mirrors_updateSavedOf looks same segment _).bind
  intro later moved renamed
  have same := moved.ids _ _ same
  cases renamed with
  | error problem => exact Flow.matches_done moved.holds _
  | ok saved =>
      apply mirrors_engine moved.holds same Engine.state
      intro engine _
      exact (mirrors_apply moved.holds same _).bind
        fun _ moved _ => Flow.matches_done moved.holds _

theorem mirrors_savedOnScreen (looks : Looks event old pair)
    (same : pair.ids id twin) :
    Mirrors event old (savedOnScreen id) (savedOnScreen twin) pair := by
  apply mirrors_engine looks same Engine.state
  intro engine _
  dsimp only
  cases Registry.nonempty? engine.state.savedId with
  | none => exact Flow.matches_done looks _
  | some saved =>
      apply (mirrors_loadSaved same false).bind
      intro later moved _
      have looks : Looks event old later := moved.holds
      apply Flow.matches_query looks
      obtain ⟨engine, left, right, -⟩ := looks.shared (moved.ids _ _ same)
      rw [left, right]

theorem mirrors_answerRefine (looks : Looks event old pair)
    (same : pair.ids id twin) (defaults : Defaults)
    (submission : Submission) :
    Mirrors event old (answerRefine id defaults submission)
      (answerRefine twin defaults submission) pair := by
  apply mirrors_engine looks same Engine.state
  intro engine _
  cases Registry.nonempty? engine.state.savedId with
  | none => exact mirrors_generated looks same _ _ _
  | some saved =>
      dsimp only
      split
      · exact mirrors_rename looks same saved submission
      · exact mirrors_generated looks same _ _ _

theorem mirrors_openRefine (looks : Looks event old pair)
    (same : pair.ids id twin) (surface : Option Surface) :
    Mirrors event old (openRefine id surface) (openRefine twin surface)
      pair := by
  apply (mirrors_savedOnScreen looks same).bind
  intro later moved segment
  have same := moved.ids _ _ same
  apply mirrors_engine moved.holds same Engine.state
  intro engine _
  apply (mirrors_ask moved.holds same surface).bind
  intro last moved submission
  cases submission with
  | none => exact Flow.matches_done moved.holds _
  | some submission =>
      exact (mirrors_answerRefine moved.holds (moved.ids _ _ same) _
        submission).bind fun _ moved _ => Flow.matches_done moved.holds _

end Users

section Tables

theorem mirrors_clamp (looks : Looks event old pair)
    (same : pair.ids id twin) :
    Mirrors event old (clamp id) (clamp twin) pair := by
  rw [Provenance.clamp_eq, Provenance.clamp_eq]
  obtain ⟨engine, left, right, -⟩ := looks.shared same
  apply Flow.matches_inspect
  rw [left, right]
  cases engine.clampedPage with
  | error misuse => exact Flow.matches_fail looks _
  | ok page =>
      have steps := (Tends.modifyEngine looks same (Engine.moveTo page)
        fun _ => ⟨rfl, rfl⟩).steps
      exact Flow.matches_update steps (Flow.matches_done steps.holds ())

theorem mirrors_execute (looks : Looks event old pair)
    (same : pair.ids id twin) (page : Page) :
    Mirrors event old (execute id page) (execute twin page) pair := by
  rw [Paging.execute_eq, Paging.execute_eq]
  apply Flow.matches_inspect
  have counted := Tends.modifyEngine looks same Paging.counted
    fun _ => ⟨rfl, rfl⟩
  have taken := counted.trans
    (Tends.modifyEngine counted.looks same Engine.takeToken
      fun _ => ⟨rfl, rfl⟩)
  have looks := taken.looks
  obtain ⟨engine, left, right, -⟩ := looks.shared same
  apply Flow.matches_update taken.steps
  apply Flow.matches_inspect
  -- Both runs take the same token.
  show Mirrors event old
    ((Client.runSegment (some (Registry.engine id _).event) _ false
      (some page)).bind (Paging.landed id (Registry.engine id _).latestToken))
    ((Client.runSegment (some (Registry.engine twin _).event) _ false
      (some page)).bind
        (Paging.landed twin (Registry.engine twin _).latestToken)) _
  dsimp only at left right ⊢
  rw [left, right]
  apply (mirrors_runSegment looks _ _ _ _).bind
  intro later moved outcome
  cases outcome with
  | error problem => exact Flow.matches_done moved.holds _
  | ok results =>
      have steps := (Tends.updateResults moved.holds (moved.ids _ _ same)
        results engine.latestToken).steps
      exact Flow.matches_inspect (Flow.matches_update steps
        (Flow.matches_done steps.holds _))

theorem mirrors_setPage (looks : Looks event old pair)
    (same : pair.ids id twin) (page : Page) :
    Mirrors event old (setPage id page) (setPage twin page) pair := by
  apply mirrors_engine looks same fun engine => engine
  intro engine _
  apply mirrors_changing looks same
  · exact fun _ => ⟨rfl, rfl⟩
  intro later looks same
  split
  · exact (mirrors_clamp looks same).bind
      fun _ moved _ => Flow.matches_done moved.holds _
  split
  · exact Flow.matches_done looks _
  split
  · exact Flow.matches_done looks _
  · exact (mirrors_execute looks same page).bind
      fun _ moved _ => Flow.matches_done moved.holds _

theorem mirrors_move (looks : Looks event old pair) (same : pair.ids id twin)
    (way : Move) : Mirrors event old (way.flow id) (way.flow twin) pair := by
  cases way with
  | toPage page => exact mirrors_setPage looks same page
  | toNumber number =>
      apply mirrors_engine looks same fun engine => engine.table.page
      exact fun _ _ => (mirrors_ofNormal looks _).bind fun _ moved _ =>
        mirrors_setPage moved.holds (moved.ids _ _ same) _
  | toSize size =>
      apply mirrors_engine looks same fun engine => engine.table.page
      exact fun _ _ => (mirrors_ofNormal looks _).bind fun _ moved _ =>
        mirrors_setPage moved.holds (moved.ids _ _ same) _
  | toOrder orderBy order =>
      apply mirrors_engine looks same fun engine => engine.table.page
      exact fun _ _ => (Flow.matches_ofResult looks _).bind fun _ moved _ =>
        mirrors_setPage moved.holds (moved.ids _ _ same) _

theorem mirrors_setManualTotal (looks : Looks event old pair)
    (same : pair.ids id twin) (total : Option Int) :
    Mirrors event old (setManualTotal id total) (setManualTotal twin total)
      pair := by
  apply mirrors_changing looks same
  · exact fun _ => ⟨rfl, rfl⟩
  · exact fun _ looks same => mirrors_clamp looks same

theorem mirrors_tableShown (looks : Looks event old pair)
    (same : pair.ids id twin) (rows : Json) (total : Option Int) :
    Mirrors event old (tableShown id rows total) (tableShown twin rows total)
      pair := by
  apply mirrors_engine looks same fun engine => engine
  intro before _
  dsimp only
  split
  · apply (mirrors_setManualTotal looks same total).bind
    intro later moved _
    apply mirrors_engine moved.holds (moved.ids _ _ same) fun engine => engine
    intro engine _
    split <;> exact Flow.matches_done moved.holds _
  · apply mirrors_engine looks same fun engine => engine
    intro engine _
    split <;> exact Flow.matches_done looks _

end Tables

section Restored

theorem mirrors_restoreRun (looks : Looks event old pair)
    (same : pair.ids id twin) (filter : Filter.Root) (debug : Bool)
    (generation : Nat) (restored : Results → Registry.Restored) :
    Mirrors event old (restoreRun id filter debug generation restored)
      (restoreRun twin filter debug generation restored) pair := by
  apply mirrors_engine looks same fun engine => engine
  intro engine _
  apply (mirrors_runSegment looks _ _ _ _).bind
  intro later moved executed
  cases executed with
  | error problem => exact Flow.matches_fail moved.holds _
  | ok results =>
      exact Flow.matches_modify (Tends.restore moved.holds
        (moved.ids _ _ same) (restored results) _).steps

/-- Restoring from the document that is read. -/
theorem mirrors_restoreFromDocument (looks : Looks event old pair)
    (same : pair.ids id twin) :
    Mirrors event old (restoreFromDocument id) (restoreFromDocument twin)
      pair := by
  apply mirrors_engine looks same fun engine => engine
  intro engine about
  rw [about]
  apply (mirrors_read pair false).bind
  intro later moved document
  have same := moved.ids _ _ same
  dsimp only
  split
  · exact Flow.matches_done moved.holds ()
  split
  · exact (mirrors_ofNormal moved.holds _).bind fun _ moved root =>
      mirrors_restoreRun moved.holds (moved.ids _ _ same) root _ _ _
  · split
    · rename_i segment _
      apply (mirrors_requireSaved same segment).bind
      intro later moved found
      cases found with
      | error problem => exact Flow.matches_fail moved.holds _
      | ok saved =>
          exact mirrors_restoreRun moved.holds (moved.ids _ _ same) _ _ _ _
    · exact Flow.matches_done moved.holds ()

theorem mirrors_setPhase (looks : Looks event old pair)
    (same : pair.ids id twin) (phase : Phase) :
    Mirrors event old (setPhase id phase) (setPhase twin phase) pair :=
  mirrors_modifyEngine looks same fun _ => ⟨rfl, rfl⟩

theorem mirrors_concludeRestoring (looks : Looks event old pair)
    (same : pair.ids id twin) (result : Except Fault Unit) :
    Mirrors event old (concludeRestoring id result)
      (concludeRestoring twin result) pair := by
  obtain fault | _ := result
  · cases fault with
    | problem problem =>
        apply mirrors_changing looks same
        · exact fun _ => ⟨rfl, rfl⟩
        · exact fun _ looks same => (mirrors_setPhase looks same .hydrated).bind
            fun _ moved _ => Flow.matches_done moved.holds ()
    | _ =>
        exact (mirrors_setPhase looks same .hydrated).bind
          fun _ moved _ => Flow.matches_fail moved.holds _
  · exact (mirrors_setPhase looks same .hydrated).bind
      fun _ moved _ => Flow.matches_done moved.holds ()

theorem mirrors_restoring (looks : Looks event old pair)
    (same : pair.ids id twin) :
    Mirrors event old (restoring id) (restoring twin) pair := by
  apply (mirrors_setPhase looks same .hydrating).bind
  intro later moved _
  have same := moved.ids _ _ same
  exact (mirrors_restoreFromDocument moved.holds same).finish
    fun _ moved result =>
      mirrors_concludeRestoring moved.holds (moved.ids _ _ same) result

theorem mirrors_hydrate (same : pair.ids id twin) :
    Mirrors event old (hydrate id) (hydrate twin) pair := by
  apply Flow.matches_restored same
  intro result later moved
  have looks : Looks event old later := moved.holds
  cases result with
  | error fault => exact Flow.matches_fail looks fault
  | ok _ =>
      apply Flow.matches_query looks
      obtain ⟨engine, left, right, -⟩ := looks.shared (moved.ids _ _ same)
      rw [left, right]

end Restored

section Actions

theorem mirrors_use (looks : Looks event old pair) (same : pair.ids id twin)
    (use : Engine.Use) :
    Mirrors event old (use.flow id) (use.flow twin) pair := by
  have ends {α : Type} {flow other : Flow Registry α} {value : α → Learned}
      (mirrors : Mirrors event old flow other pair) :
      Mirrors event old (flow.bind fun result => .done (value result))
        (other.bind fun result => .done (value result)) pair :=
    mirrors.bind fun _ moved _ => Flow.matches_done moved.holds _
  cases use with
  | touch => exact Flow.matches_done looks _
  | observe =>
      apply mirrors_changing looks same
      · exact fun _ => ⟨rfl, rfl⟩
      · exact fun _ looks _ => Flow.matches_done looks _
  | disregard =>
      apply mirrors_changing looks same
      · exact fun _ => ⟨rfl, rfl⟩
      · exact fun _ looks _ => Flow.matches_done looks _
  | hydrate => exact ends (mirrors_hydrate same)
  | apply change => exact ends (mirrors_apply looks same change)
  | clear => exact ends (mirrors_clear looks same)
  | openPrompt defaults surface =>
      exact ends (mirrors_openPrompt looks same defaults surface)
  | openRefine surface => exact ends (mirrors_openRefine looks same surface)
  | move way => exact ends (mirrors_move looks same way)
  | setTotal total => exact ends (mirrors_setManualTotal looks same total)
  | showTable rows total => exact ends (mirrors_tableShown looks same rows total)
  | loadSaved refresh => exact ends (mirrors_loadSaved same refresh)
  | updateSaved segment patch =>
      exact ends (mirrors_updateSavedOf looks same segment patch)

/-- Whatever is done about the event is the same in both registries. -/
theorem mirrors_action (looks : Looks event old pair) (action : Action) :
    Mirrors event old (action.flow event) (action.flow event) pair := by
  cases action with
  | engine use =>
      obtain ⟨ids, same, steps⟩ := steps_engineFor looks
      exact Flow.matches_inspect (Flow.matches_update steps
        (mirrors_use steps.holds same use))
  | read refresh =>
      exact (mirrors_read pair refresh).bind
        fun _ moved _ => Flow.matches_done moved.holds _
  | write change =>
      exact (mirrors_write looks change).bind
        fun _ moved _ => Flow.matches_done moved.holds _
  | writeManual search filters =>
      exact (mirrors_writeTable looks search filters).bind
        fun _ moved _ => Flow.matches_done moved.holds _
  | reset =>
      exact (Flow.matches_modify (steps_reset looks)).bind
        fun _ moved _ => Flow.matches_done moved.holds _

end Actions

end Isolation
end Audience
