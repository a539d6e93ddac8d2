import Audience.Proofs.Engine.Pairing

/-!
# The saved segment on screen in every run

Any number of engines are restored, asked for prompts, refined, cleared and
moved, all at the same time.  A saved segment that is on screen, or that is
written, belongs to the tree that comes with it, unless a renaming of it went
astray.  A renaming does go astray: when the screen is cleared before it is
answered, the segment comes back without a tree.
-/

namespace Audience
namespace Pairing

open Registry (Alters)
open Provenance (AllEngines Task)
open Engine

section Prompting

variable {start : Registry} {now : World Registry} {id : EngineId}

/-- What passes makes no engine and loses none. -/
theorem has_of_passed {began : Registry} {ended : World Registry}
    (passed : contract.Passed now began ended) (has : now.state.Has id) :
    ended.state.Has id :=
  (passed.moved.has id).mpr has

/-- Moving the table keeps the pair. -/
theorem samePair_moveTo (registry : Registry) (id : EngineId) (page : Page) :
    AllEngines SamePair registry
      (registry.modifyEngine id (Engine.moveTo page)) :=
  samePair_modifyEngine ⟨rfl, rfl, rfl, fun canonical => canonical⟩

/-- Running a saved segment again upholds the contract, if it is on the list when
it is sent. -/
theorem upholds_runSaved (turn : contract.Turn start now)
    (has : now.state.Has id) {segment : SavedSegment}
    (listed : segment ∈ (now.state.engine id).savedSegments) :
    (runSaved id segment).Upholds contract
      (fun _ began ended => contract.Turn began ended) start now := by
  have canonical := (turn.1.1 id).saved segment listed
  show Flow.Upholds contract
    (Flow.bind (Client.runSegment _ (some segment.ast.filter) false _) _) _ _ _
  apply Flow.upholds_bind.mpr
  apply (Client.upholds_runSegment_answered tolerates_quiet turn _ _ _ _
    fun _ => fits_post).mono
  intro result began ended ⟨ran, answered⟩
  obtain fault | problem | results := result
  · exact ran.turn
  · exact ran.turn
  obtain ⟨node, json, filter, found, read⟩ := answered results rfl
  cases filter
  have belongs : Belongs ended id (now.state.engine id).event segment.id
      segment.ast := .listed found listed rfl rfl
  have shows {began : Registry} {later : World Registry} {page : Page}
      {change : Engine.Change} (passed : contract.Passed ended began later)
      (named : change.savedId = some (some segment.id))
      (tree : change.ast = some (some segment.ast.toJson)) :
      (Flow.bind (Flow.modify fun registry : Registry =>
        registry.modifyEngine id (Engine.moveTo page)) fun _ =>
          (apply id change).bind fun _ => Flow.done (Except.ok ())).Upholds
            contract (fun (_ : Except Fault (Outcome Unit)) began ended =>
              contract.Turn began ended) began later := by
    refine upholds_update passed.turn (samePair_moveTo _ id page)
      fun moved => ?_
    have all := (ran.trans passed).trans moved
    apply upholds_thenDone
    apply upholds_show moved.turn (has_of_passed all has) canonical named tree
    intro identifier same
    rw [event_of_passed all id, Registry.eq_of_nonempty? same]
    exact belongs.mono (passed.trans moved).grown
  apply Flow.upholds_bind.mpr
  apply (tolerates_quiet.upholds (Client.makes_markUsed _ segment.id ended.state)
    ((Client.sends_markUsed _ segment.id).relax fun _ => fits_patch)
    ran.turn).mono
  intro result began later ⟨marked, _⟩
  obtain fault | used := result
  · exact marked.turn
  dsimp only
  split
  · exact upholds_update marked.turn (samePair_dropSaved _ id)
      fun dropped => shows (marked.trans dropped) rfl rfl
  · exact shows marked rfl rfl

theorem sends_titleSaved (id : EngineId) (segment prompt : String)
    (root : Filter.Root) :
    (titleSaved id segment prompt root).Sends Restoring.WritesNothing := by
  intro registry
  apply ((Client.sends_suggestTitle _ prompt _).relax fun _ => fits_post).bind
  intro outcome
  obtain problem | title := outcome
  · trivial
  apply ((Client.sends_updateSaved _ segment (.ofTitle title)).relax
    fun _ => fits_patch).bind
  intro outcome
  cases outcome <;> trivial

/-- Saving a generated segment passes, and its identifier is the one that its
creation was answered with. -/
theorem upholds_saveGenerated (turn : contract.Turn start now)
    (id : EngineId) (prompt title : String) (root : Filter.Root) :
    (saveGenerated id prompt title root).Upholds contract
      (fun result began ended => contract.Passed now began ended ∧
        ∀ identifier shown, result = .ok (some identifier, shown) →
          ∃ json saved, Client.Replied ended "POST"
            (Client.pathOf (now.state.engine id).event "saved-segments")
            (some (Client.createBody prompt root title false)) json ∧
          Client.readSavedRow json = .ok saved ∧ saved.id = identifier)
      start now := by
  show Flow.Upholds contract
    (Flow.bind (Client.createSaved _ prompt root title false) _) _ _ _
  apply Flow.upholds_bind.mpr
  apply (Client.upholds_createSaved_answered tolerates_quiet turn _ prompt root
    title false fun _ => fits_post).mono
  intro result began ended ⟨created, answered⟩
  obtain fault | problem | saved := result
  · exact ⟨created, by simp⟩
  · exact ⟨created, by simp⟩
  obtain ⟨json, found, read⟩ := answered saved rfl
  refine upholds_update created.turn (samePair_dropSaved _ id)
    fun dropped => ?_
  have named {began : Registry} {later : World Registry} {shown : String}
      (passed : contract.Passed ended began later) :
      contract.Passed now began later ∧ ∀ identifier text,
        (Except.ok (some saved.id, shown) : Except Fault _) =
          .ok (some identifier, text) →
        ∃ json saved, Client.Replied later "POST"
          (Client.pathOf (now.state.engine id).event "saved-segments")
          (some (Client.createBody prompt root title false)) json ∧
        Client.readSavedRow json = .ok saved ∧ saved.id = identifier := by
    refine ⟨created.trans passed, fun identifier text same => ?_⟩
    cases same
    exact ⟨json, saved, found.mono passed.grown, read, rfl⟩
  show Flow.Upholds contract (if title = "" then _ else _) _ _ _
  split
  · apply Flow.upholds_bind.mpr
    apply (tolerates_quiet.upholds
      (Client.quiet_of_opens
        (Provenance.opens_titleSaved id saved.id prompt root _))
      (sends_titleSaved id saved.id prompt root) dropped.turn).mono
    intro result began later ⟨titled, _⟩
    obtain fault | suggested := result
    · exact ⟨created.trans (dropped.trans titled), by simp⟩
    · exact named (dropped.trans titled)
  · exact named dropped

/-- Generating a segment from a prompt upholds the contract. -/
theorem upholds_generate (turn : contract.Turn start now)
    (has : now.state.Has id) (prompt title : String) (debug : Bool) :
    (generate id prompt title debug).Upholds contract
      (fun _ began ended => contract.Turn began ended) start now := by
  show Flow.Upholds contract (Flow.bind (Client.generate _ prompt _) _) _ _ _
  apply Flow.upholds_bind.mpr
  apply (Client.upholds_generate_answered tolerates_quiet turn _ prompt _
    fun _ => fits_post).mono
  intro result began ended ⟨passed, replied⟩
  obtain fault | problem | generated := result
  · exact passed.turn
  · exact passed.turn
  obtain ⟨body, told, prompted, brought⟩ := replied generated rfl
  apply Flow.upholds_bind.mpr
  apply (upholds_saveGenerated passed.turn id prompt _ generated.segment).mono
  intro result began later ⟨saved, answered⟩
  obtain fault | ⟨savedId, shownTitle⟩ := result
  · exact saved.turn
  have all := passed.trans saved
  apply upholds_thenDone
  apply upholds_show saved.turn (has_of_passed all has)
    (Generated.canonical_read brought) rfl rfl
  intro identifier same
  obtain ⟨json, segment, created, read, named⟩ :=
    answered identifier shownTitle (by rw [Registry.eq_some_of_nonempty? same])
  rw [event_of_passed passed id] at created
  rw [event_of_passed all id]
  exact .generated (prompted.mono saved.grown) brought created read named

theorem sends_ask (id : EngineId) (surface : Option Surface) :
    (ask id surface).Sends Restoring.WritesNothing := by
  rw [Provenance.ask_eq]
  intro registry
  dsimp only
  split <;> trivial

/-- Asking for a prompt changes nothing. -/
theorem upholds_ask (turn : contract.Turn start now) (id : EngineId)
    (surface : Option Surface) :
    (ask id surface).Upholds contract
      (fun _ began ended => contract.Passed now began ended) start now :=
  (tolerates_quiet.upholds
    (Client.quiet_of_opens (Provenance.opens_ask id surface now.state))
    (sends_ask id surface) turn).mono fun _ _ _ => And.left

/-- Answering a question for a prompt upholds the contract. -/
theorem upholds_answerPrompt (turn : contract.Turn start now)
    (has : now.state.Has id) (submission : Submission) :
    (answerPrompt id submission).Upholds contract
      (fun _ began ended => contract.Turn began ended) start now := by
  unfold answerPrompt
  cases Registry.nonempty? submission.savedSegmentId with
  | none => exact upholds_generate turn has _ _ _
  | some segment =>
      apply Flow.upholds_bind.mpr
      apply (upholds_requireSaved turn id segment).mono
      intro result began ended ⟨passed, member⟩
      obtain fault | problem | saved := result
      · exact passed.turn
      · exact passed.turn
      · exact upholds_runSaved passed.turn (has_of_passed passed has)
          (member saved rfl)

/-- Opening the prompt upholds the contract. -/
theorem upholds_openPrompt (turn : contract.Turn start now)
    (has : now.state.Has id) (defaults : Defaults)
    (surface : Option Surface) :
    (openPrompt id defaults surface).Upholds contract
      (fun _ began ended => contract.Turn began ended) start now := by
  apply Flow.upholds_bind.mpr
  apply (upholds_ask turn id surface).mono
  intro result began ended passed
  obtain fault | _ | submission := result
  · exact passed.turn
  · exact passed.turn
  · exact upholds_thenDone
      (upholds_answerPrompt passed.turn (has_of_passed passed has) submission)

/-- Renaming the segment on screen upholds the contract: when another tree is on
screen in the end, it went astray. -/
theorem upholds_rename (turn : contract.Turn start now)
    (has : now.state.Has id) {segment : String}
    (shown : (now.state.engine id).state.savedId = some segment)
    (submission : Submission) :
    (rename id segment submission).Upholds contract
      (fun _ began ended => contract.Turn began ended) start now := by
  apply Flow.upholds_bind.mpr
  apply (upholds_updateSaved turn id segment _).mono
  intro result began ended ⟨passed, answered⟩
  obtain fault | problem | saved := result
  · exact passed.turn
  · exact passed.turn
  obtain ⟨json, found⟩ := answered saved rfl
  have sound := passed.inv.1 id
  have event := event_of_passed passed id
  apply upholds_thenDone
  refine upholds_apply passed.turn (has_of_passed passed has)
    (root_of_canonical sound.canonical rfl) rfl ?_
  refine ⟨fun identifier named => ?_, sound.canonical, sound.saved⟩
  obtain rfl := Registry.eq_of_nonempty? named
  -- The identifier is from before the request and the tree from after it: they
  -- belong together only if the tree is still the one from before.
  by_cases same : (now.state.engine id).state.ast =
    (ended.state.engine id).state.ast
  · have paired := ((turn.1.1 id).matched.mono passed.grown) identifier shown
    rw [same, ← event] at paired
    exact paired
  · exact .inr ⟨now.state.opened, _, json, found, shown, same⟩

/-- Looking for the saved segment on screen passes. -/
theorem upholds_savedOnScreen (turn : contract.Turn start now)
    (id : EngineId) :
    (savedOnScreen id).Upholds contract
      (fun _ began ended => contract.Passed now began ended) start now := by
  rw [Provenance.savedOnScreen_eq]
  simp only [Flow.Upholds]
  cases Registry.nonempty? (now.state.engine id).state.savedId with
  | none => exact .refl turn
  | some saved =>
      apply Flow.upholds_bind.mpr
      apply (upholds_loadSaved turn id false).mono
      intro result began ended passed
      obtain fault | _ := result
      · exact passed
      · exact passed

/-- Answering a question for a refined prompt upholds the contract. -/
theorem upholds_answerRefine (turn : contract.Turn start now)
    (has : now.state.Has id) (defaults : Defaults)
    (submission : Submission) :
    (answerRefine id defaults submission).Upholds contract
      (fun _ began ended => contract.Turn began ended) start now := by
  rw [Provenance.answerRefine_eq]
  simp only [Flow.Upholds]
  cases shown : Registry.nonempty? (now.state.engine id).state.savedId with
  | none => exact upholds_generate turn has _ _ _
  | some saved =>
      cases Prompt.sameWords submission.prompt defaults.prompt with
      | true =>
          exact upholds_rename turn has (Registry.eq_some_of_nonempty? shown) _
      | false => exact upholds_generate turn has _ _ _

/-- Refining the segment on screen upholds the contract. -/
theorem upholds_openRefine (turn : contract.Turn start now)
    (has : now.state.Has id) (surface : Option Surface) :
    (openRefine id surface).Upholds contract
      (fun _ began ended => contract.Turn began ended) start now := by
  apply Flow.upholds_bind.mpr
  apply (upholds_savedOnScreen turn id).mono
  intro result began ended found
  obtain fault | segment := result
  · exact found.turn
  show Flow.Upholds contract (Flow.bind (ask id surface) _) _ _ _
  apply Flow.upholds_bind.mpr
  apply (upholds_ask found.turn id surface).mono
  intro result began ended passed
  obtain fault | _ | submission := result
  · exact passed.turn
  · exact passed.turn
  · exact upholds_thenDone (upholds_answerRefine passed.turn
      (has_of_passed (found.trans passed) has) _ submission)

end Prompting

section Moving

variable {start : Registry} {now : World Registry} {id : EngineId}

/-- Showing new rows keeps the pair. -/
theorem samePair_updateResults (registry : Registry) (id : EngineId)
    (results : Results) (token : Int) :
    AllEngines SamePair registry
      (registry.updateResults id results token).2 := by
  unfold Registry.updateResults
  dsimp only
  split
  · dsimp only
    exact samePair_transition (fun _ => rfl) (fun _ => rfl)
  · exact ⟨fun _ => .refl _, fun _ => Iff.rfl⟩

/-- Running the segment on screen for a page upholds the contract. -/
theorem upholds_execute (turn : contract.Turn start now) (page : Page) :
    (execute id page).Upholds contract
      (fun _ began ended => contract.Turn began ended) start now := by
  rw [Paging.execute_eq]
  have alters : Alters id _ now.state
      ((now.state.modifyEngine id Paging.counted).takeToken id).2 :=
    (Alters.of_modifyEngine Paging.counted).trans
      (.of_modifyEngine Engine.takeToken)
  refine upholds_update turn (samePair_of_alters alters
    ⟨rfl, rfl, rfl, fun canonical => canonical⟩) fun taken => ?_
  apply Flow.upholds_bind.mpr
  apply (Client.upholds_runSegment_answered tolerates_quiet taken.turn _ _ _ _
    fun _ => fits_post).mono
  intro result began ended ⟨passed, _⟩
  obtain fault | problem | results := result
  · exact passed.turn
  · exact passed.turn
  · exact upholds_update passed.turn (samePair_updateResults _ id _ _)
      fun shown => shown.turn

/-- Keeping the table inside the rows upholds the contract. -/
theorem upholds_clamp (turn : contract.Turn start now) (id : EngineId) :
    (clamp id).Upholds contract
      (fun _ began ended => contract.Turn began ended) start now := by
  rw [Provenance.clamp_eq]
  simp only [Flow.Upholds]
  cases (now.state.engine id).clampedPage with
  | error misuse => exact turn
  | ok page =>
      exact upholds_update turn (samePair_moveTo _ id page)
        fun moved => moved.turn

/-- Moving the table to a page upholds the contract. -/
theorem upholds_setPage (turn : contract.Turn start now) (page : Page) :
    (setPage id page).Upholds contract
      (fun _ began ended => contract.Turn began ended) start now := by
  rw [Paging.setPage_eq]
  refine upholds_update turn (samePair_moveTo _ id page) fun moved => ?_
  split
  · exact upholds_thenDone (upholds_clamp moved.turn id)
  split
  · exact moved.turn
  split
  · exact moved.turn
  · exact upholds_thenDone (upholds_execute moved.turn page)

end Moving

section Tasks

/-- The engine with which something is done. -/
def engineOf : Task → EngineId
  | .hydrate id => id
  | .openPrompt id _ _ => id
  | .answerPrompt id _ => id
  | .openRefine id _ => id
  | .answerRefine id _ _ => id
  | .clear id => id
  | .updateSaved id _ _ => id
  | .loadSaved id _ => id
  | .move id _ => id

/-- Tasks that start at any time, on engines that were made, against a backend
that serves in any way. -/
def scene {β : Type} (serves : β → Call → Reply → β → Prop) :
    Scene Registry β Task Unit where
  flow := Task.flow
  restoring := Engine.restoring
  admits pool task := pool.world.state.Has (engineOf task)
  serves := serves

variable {start : Registry} {now : World Registry}

/-- Every task upholds the contract. -/
theorem upholds_task (turn : contract.Turn start now) (task : Task)
    (has : now.state.Has (engineOf task)) :
    task.flow.Upholds contract
      (fun _ began ended => contract.Turn began ended) start now := by
  have passes {α : Type} {flow : Flow Registry α}
      (upheld : flow.Upholds contract
        (fun _ began ended => contract.Passed now began ended) start now) :
      (flow.bind fun _ => .done ()).Upholds contract
        (fun _ began ended => contract.Turn began ended) start now :=
    upholds_thenDone (upheld.mono fun _ _ _ passed => passed.turn)
  cases task with
  | hydrate id => exact upholds_thenDone (upholds_hydrate turn id)
  | openPrompt id defaults surface =>
      exact upholds_thenDone (upholds_openPrompt turn has defaults surface)
  | answerPrompt id submission =>
      exact upholds_thenDone (upholds_answerPrompt turn has submission)
  | openRefine id surface =>
      exact upholds_thenDone (upholds_openRefine turn has surface)
  | answerRefine id defaults submission =>
      exact upholds_thenDone
        (upholds_answerRefine turn has defaults submission)
  | clear id => exact upholds_clear turn has
  | updateSaved id segment patch =>
      exact passes ((upholds_updateSaved turn id segment patch).mono
        fun _ _ _ => And.left)
  | loadSaved id refresh => exact passes (upholds_loadSaved turn id refresh)
  | move id way =>
      apply upholds_thenDone
      apply Move.upholds_flow way
      · exact fun fault => turn
      · exact fun page target => upholds_setPage turn page

/-- All tasks, and the restoring of engines, honour the contract. -/
theorem honoured {β : Type} (serves : β → Call → Reply → β → Prop) :
    contract.Honoured (fun _ => True) (fun _ => True) (scene serves) where
  tasks _ task _ holds admitted :=
    (upholds_task ⟨holds, contract.moves_refl _⟩ task admitted).mono
      fun _ _ _ turn _ => turn
  restorings id _ holds :=
    upholds_restoring ⟨holds, contract.moves_refl _⟩ id
  replies _ _ _ _ _ _ _ _ _ := ⟨trivial, trivial⟩

end Tasks

section Engines

variable {β : Type} {serves : β → Call → Reply → β → Prop}
variable {start : Registry} {server : β} {pool : Pool Registry β Unit}

/-- Before anything is done, no saved segment is on screen. -/
theorem sound_initial
    (unused : ∀ engine ∈ start.engines,
      ∃ event page surface, engine = Engine.initial event page surface)
    (id : EngineId) : Sound (.fresh start) id (start.engine id) := by
  have traced := Provenance.traced_initial unused id
  refine ⟨fun identifier shown => ?_, traced.canonical, traced.saved⟩
  by_cases has : start.Has id
  · obtain ⟨event, page, surface, same⟩ :=
      unused (start.engine id) (by
        unfold Registry.engine
        rw [List.getElem?_eq_getElem has]
        exact List.getElem_mem has)
    rw [same] at shown
    cases shown
  · rw [Registry.engine_of_not_has has] at shown
    cases shown

/-- Any number of engines are used in any way and at the same time, beginning
with nothing on screen.  A saved segment on screen belongs to the tree on screen,
unless a renaming of it was asked for while another tree was, and answered.
Whatever is written to the AI block is what was on some screen when it was sent,
and that was no different. -/
theorem saved_segment_belongs_to_tree
    (unused : ∀ engine ∈ start.engines,
      ∃ event page surface, engine = Engine.initial event page surface)
    (reached : (scene serves).Reach (.fresh start server) pool) :
    (∀ id, Matched pool.world id (pool.world.state.engine id)) ∧
    ∀ entry ∈ pool.world.sent, Store.isWrite entry.2 = true →
      ∃ id, Carries id entry.1 entry.2 ∧
        Matched pool.world id (entry.1.engine id) := by
  have kept := (honoured serves).kept
    ⟨sound_initial unused, fun _ none => nomatch none⟩ trivial reached
    fun _ _ => trivial
  refine ⟨fun id => (kept.inv.1 id).matched, fun entry member write => ?_⟩
  have recorded := kept.inv.2 entry member
  obtain ⟨id, carries⟩ := recorded.carries write
  exact ⟨id, carries, recorded.matched id⟩

end Engines

section LateRenaming

/-- A tree that a prompt brings, without rows, and that is saved at once. -/
def saved : Reply :=
  .response 200 (.json (.obj
    [ ("segment", .obj [("filter", Filter.Node.empty.toJson)]),
      ("results", .obj []),
      ("savedSegment", .obj
        [ ("id", .str "seg_1"),
          ("ast", .obj [("filter", Filter.Node.empty.toJson)]) ]) ]))

/-- A backend that always gives that reply. -/
def answersSaved (_ : Unit) (_ : Call) (reply : Reply) (_ : Unit) : Prop :=
  reply = saved

/-- The prompt on screen once more, with another title. -/
def newTitle : Submission :=
  { prompt := "Everyone", title := "New", savedSegmentId := none,
    debug := false }

/-- What is filled in when the segment is refined. -/
def refined : Defaults :=
  { prompt := "Everyone", title := "All", savedSegmentId := some "seg_1" }

/-- The saved segment that a call writes, and whether it writes a tree. -/
def written (call : Call) : Option String × Bool :=
  let block := (call.body.getD .null).get "ai"
  (match block.get "savedSegmentId" with
    | .str identifier => some identifier
    | _ => none,
    (block.get "ast").isFull)

theorem withNewEngine_unused :
    ∀ engine ∈ Provenance.withNewEngine.engines,
      ∃ event page surface, engine = Engine.initial event page surface :=
  fun _ member => ⟨_, _, _, List.mem_singleton.mp member⟩

/-- Where no saved segment was changed, none went astray. -/
theorem not_astray {world : World Registry} {id : EngineId}
    {identifier : String} {tree : Option Filter.Root}
    (unchanged : ∀ entry ∈ world.sent, entry.2.method ≠ "PATCH") :
    ¬ Astray world id identifier tree := by
  rintro ⟨asked, title, json, ⟨number, reply, call, sent, made, _⟩, _⟩
  apply unchanged _ (List.mem_of_getElem? sent)
  rw [(Client.parts_of_call made).1]
  decide

/-- A segment from a prompt is on screen, and is being written. -/
theorem exists_shown :
    ∃ pool : Pool Registry Unit Unit,
      (scene answersSaved).Reach (.fresh Provenance.withNewEngine ()) pool ∧
      (pool.world.state.engine 0).state.savedId = some "seg_1" ∧
      (∀ entry ∈ pool.world.sent, entry.2.method ≠ "PATCH") ∧
      ∃ entry ∈ pool.world.sent, Store.isWrite entry.2 = true := by
  refine ⟨_, .step (.step (.step (.step (.step .refl
    (.start (.answerPrompt 0 Provenance.askEveryone) ?_))
    (.handle [] [] () rfl rfl))
    (.deliver [] [] rfl))
    (.handle [] [] () rfl rfl))
    (.deliver [] [] rfl), ?_⟩
  · exact Nat.zero_lt_one
  · decide +kernel

/-- The segment from the first prompt belongs to its tree, on screen and where it
is written. -/
theorem saved_segment_belongs_to_tree_at_first_prompt :
    ∃ pool : Pool Registry Unit Unit,
      (scene answersSaved).Reach (.fresh Provenance.withNewEngine ()) pool ∧
      (∃ root, (pool.world.state.engine 0).state.ast = some root ∧
        Belongs pool.world 0 (pool.world.state.engine 0).event "seg_1" root) ∧
      ∃ entry ∈ pool.world.sent, Store.isWrite entry.2 = true ∧
        ∃ id, Carries id entry.1 entry.2 ∧
          Matched pool.world id (entry.1.engine id) := by
  obtain ⟨pool, reached, shown, unchanged, entry, member, write⟩ := exists_shown
  have holds := saved_segment_belongs_to_tree withNewEngine_unused reached
  obtain paired | astray := holds.1 0 "seg_1" shown
  · exact ⟨pool, reached, paired, entry, member, write,
      holds.2 entry member write⟩
  · exact absurd astray (not_astray unchanged)

/-- A segment is renamed, and the screen is cleared before the renaming is
answered.  Then the segment is back on screen without a tree, and is written
so. -/
theorem late_renaming_brings_back_segment :
    ∃ pool : Pool Registry Unit Unit,
      (scene answersSaved).Reach (.fresh Provenance.withNewEngine ()) pool ∧
      (pool.world.state.engine 0).state.savedId = some "seg_1" ∧
      (pool.world.state.engine 0).state.ast = none ∧
      pool.world.sent.getLast?.map (fun entry =>
        (Store.isWrite entry.2, written entry.2)) =
          some (true, some "seg_1", false) := by
  obtain ⟨pool, reached, facts⟩ : ∃ pool : Pool Registry Unit Unit,
      (scene answersSaved).Reach (.fresh Provenance.withNewEngine ()) pool ∧
      (pool.world.state.engine 0).state.savedId = some "seg_1" ∧
      (pool.world.state.engine 0).state.ast.isNone = true ∧
      pool.world.sent.getLast?.map (fun entry =>
        (Store.isWrite entry.2, written entry.2)) =
          some (true, some "seg_1", false) := by
    refine ⟨_, .step (.step (.step (.step (.step (.step (.step (.step (.step
      .refl
      (.start (.answerPrompt 0 Provenance.askEveryone) ?_))
      (.handle [] [] () rfl rfl))
      (.deliver [] [] rfl))
      (.handle [] [] () rfl rfl))
      (.deliver [] [] rfl))
      (.start (.answerRefine 0 refined newTitle) ?_))
      (.start (.clear 0) ?_))
      (.handle [_] [_] () rfl rfl))
      (.deliver [_] [_] rfl), ?_⟩
    · exact Nat.zero_lt_one
    · show Registry.Has _ _
      decide +kernel
    · show Registry.Has _ _
      decide +kernel
    · decide +kernel
  exact ⟨pool, reached, facts.1, Option.isNone_iff_eq_none.mp facts.2.1,
    facts.2.2⟩

end LateRenaming

end Pairing
end Audience
