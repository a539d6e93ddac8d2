import Audience.Engine.Prompting
import Audience.Proofs.Engine.Paging
import Audience.Proofs.Engine.Provenance
import Audience.Proofs.Flow.History

/-!
# The rows on screen in every run

Any number of engines are restored, asked for prompts, refined, cleared and
moved, all at the same time.  Whatever the backend replies, the rows on screen
are those of the tree on screen.  A run that was superseded is not accepted.
-/

namespace Audience
namespace Provenance

open Registry (Alters)
open Engine

section Prompting

variable {start : Registry} {now : World Registry}

/-- What passes leaves the event of an engine as it is. -/
theorem event_of_passed {began : Registry} {ended : World Registry}
    (passed : contract.Passed now began ended) (id : EngineId) :
    (ended.state.engine id).event = (now.state.engine id).event :=
  (passed.moved.engine id).event

/-- What follows a flow that ends its stretches well, and only ends. -/
theorem upholds_thenDone {α β : Type} {flow : Flow Registry α}
    {value : α → β} (upheld : flow.Upholds contract
      (fun _ began ended => contract.Turn began ended) start now) :
    (flow.bind fun result => .done (value result)).Upholds contract
      (fun _ began ended => contract.Turn began ended) start now := by
  apply Flow.upholds_bind.mpr
  apply upheld.mono
  intro result began ended turn
  obtain fault | _ := result
  · exact turn
  · exact turn

/-- Moving the table and showing a tree with results that come from it upholds
the contract. -/
theorem upholds_moveAndApply {id : EngineId} {page : Page}
    {change : Engine.Change} {root : Filter.Root} {results : Results}
    (turn : contract.Turn start now) (canonical : root.Canonical)
    (source : Source now (now.state.engine id).event root results)
    (shown : change.results = some (some results))
    (tree : change.ast = some (some root.toJson)) :
    (Flow.bind (Flow.modify fun registry : Registry =>
      registry.modifyEngine id (Engine.moveTo page)) fun _ =>
        (apply id change).bind fun _ => Flow.done (Except.ok ())).Upholds
          contract (fun (_ : Except Fault (Outcome Unit)) began ended =>
            contract.Turn began ended) start now := by
  refine upholds_update turn (sameRows_modifyEngine
    ⟨rfl, rfl, rfl, rfl, fun canonical => canonical⟩) fun moved => ?_
  apply upholds_thenDone
  apply upholds_apply_source moved.turn canonical _ shown tree
  rw [event_of_passed moved id]
  exact source.mono moved.grown

/-- Running a saved segment again upholds the contract. -/
theorem upholds_runSaved (turn : contract.Turn start now) (id : EngineId)
    {segment : SavedSegment} (canonical : segment.ast.Canonical) :
    (runSaved id segment).Upholds contract
      (fun _ began ended => contract.Turn began ended) start now := by
  show Flow.Upholds contract
    (Flow.bind (Client.runSegment _ (some segment.ast.filter) false _) _) _ _ _
  apply Flow.upholds_bind.mpr
  apply (Client.upholds_runSegment_replied permits_quiet turn _ _ _ _).mono
  intro result began ended ⟨passed, replied⟩
  obtain fault | problem | results := result
  · exact passed.turn
  · exact passed.turn
  obtain ⟨node, json, filter, found, read⟩ := replied results rfl
  cases filter
  have source : Source ended (now.state.engine id).event segment.ast results :=
    .inl ⟨false, _, json, found, read⟩
  apply Flow.upholds_bind.mpr
  apply (upholds_quiet (Client.makes_markUsed _ segment.id) passed.turn).mono
  intro result began ended ⟨marked, _⟩
  obtain fault | used := result
  · exact marked.turn
  have known := source.mono marked.grown
  have event := event_of_passed (passed.trans marked) id
  dsimp only
  split
  · refine upholds_update marked.turn (sameRows_dropSaved _ id)
      fun dropped => ?_
    apply upholds_moveAndApply dropped.turn canonical _ rfl rfl
    rw [event_of_passed dropped id, event]
    exact known.mono dropped.grown
  · apply upholds_moveAndApply marked.turn canonical _ rfl rfl
    rw [event]
    exact known

/-- Titling a segment that was just saved opens the client at most. -/
theorem opens_titleSaved (id : EngineId) (segment prompt : String)
    (root : Filter.Root) (now : Registry) :
    (titleSaved id segment prompt root).Makes
      (fun before after => after = before.opened) (fun _ => True) now := by
  show Flow.Makes _ _ (Flow.bind (Client.suggestTitle _ prompt (some root)) _)
    now
  apply (Client.opens_suggestTitle _ prompt _ now).andThen
  intro outcome later
  obtain problem | title := outcome
  · trivial
  apply (Client.opens_updateSaved _ segment (.ofTitle title) later).andThen
  intro outcome later
  cases outcome <;> trivial

/-- Saving a generated segment passes. -/
theorem upholds_saveGenerated (turn : contract.Turn start now) (id : EngineId)
    (prompt title : String) (root : Filter.Root) :
    (saveGenerated id prompt title root).Upholds contract
      (fun _ began ended => contract.Passed now began ended) start now := by
  show Flow.Upholds contract
    (Flow.bind (Client.createSaved _ prompt root title false) _) _ _ _
  apply Flow.upholds_bind.mpr
  apply (upholds_quiet (Client.makes_createSaved _ prompt root title false)
    turn).mono
  intro result began ended ⟨created, _⟩
  obtain fault | problem | saved := result
  · exact created
  · exact created
  refine upholds_update created.turn (sameRows_dropSaved _ id)
    fun dropped => ?_
  show Flow.Upholds contract (if title = "" then _ else _) _ _ _
  split
  · apply Flow.upholds_bind.mpr
    apply (upholds_quiet (fun state => Client.quiet_of_opens
      (opens_titleSaved id saved.id prompt root state)) dropped.turn).mono
    intro result began ended ⟨titled, _⟩
    obtain fault | suggested := result
    · exact created.trans (dropped.trans titled)
    · exact created.trans (dropped.trans titled)
  · exact created.trans dropped

/-- Generating a segment from a prompt upholds the contract. -/
theorem upholds_generate (turn : contract.Turn start now) (id : EngineId)
    (prompt title : String) (debug : Bool) :
    (generate id prompt title debug).Upholds contract
      (fun _ began ended => contract.Turn began ended) start now := by
  show Flow.Upholds contract (Flow.bind (Client.generate _ prompt _) _) _ _ _
  apply Flow.upholds_bind.mpr
  apply (Client.upholds_generate_replied permits_quiet turn _ prompt _).mono
  intro result began ended ⟨passed, replied⟩
  obtain fault | problem | generated := result
  · exact passed.turn
  · exact passed.turn
  obtain ⟨body, json, found, read⟩ := replied generated rfl
  have source : Source ended (now.state.engine id).event generated.segment
      generated.results := .inr ⟨body, json, found, read⟩
  apply Flow.upholds_bind.mpr
  apply (upholds_saveGenerated passed.turn id prompt _ generated.segment).mono
  intro result began ended saved
  obtain fault | ⟨savedId, shownTitle⟩ := result
  · exact saved.turn
  apply upholds_thenDone
  apply upholds_apply_source saved.turn (Generated.canonical_read read) _ rfl rfl
  rw [event_of_passed (passed.trans saved) id]
  exact source.mono saved.grown

theorem ask_eq (id : EngineId) (surface : Option Surface) :
    ask id surface = .inspect fun registry =>
      match surface, (registry.engine id).surface with
      | some surface, _ => .done surface.answer
      | none, some surface => .done surface.answer
      | none, none => .fail .noSurface :=
  rfl

/-- Asking for a prompt changes nothing. -/
theorem opens_ask (id : EngineId) (surface : Option Surface)
    (now : Registry) :
    (ask id surface).Makes (fun before after => after = before.opened)
      (fun _ => True) now := by
  rw [ask_eq]
  simp only [Flow.Makes]
  split <;> trivial

theorem upholds_ask (turn : contract.Turn start now) (id : EngineId)
    (surface : Option Surface) :
    (ask id surface).Upholds contract
      (fun _ began ended => contract.Passed now began ended) start now :=
  (upholds_quiet (fun state =>
    Client.quiet_of_opens (opens_ask id surface state)) turn).mono
      fun _ _ _ => And.left

/-- Answering a question for a prompt upholds the contract. -/
theorem upholds_answerPrompt (turn : contract.Turn start now) (id : EngineId)
    (submission : Submission) :
    (answerPrompt id submission).Upholds contract
      (fun _ began ended => contract.Turn began ended) start now := by
  unfold answerPrompt
  cases Registry.nonempty? submission.savedSegmentId with
  | none => exact upholds_generate turn id _ _ _
  | some segment =>
      apply Flow.upholds_bind.mpr
      apply (upholds_requireSaved turn id segment).mono
      intro result began ended ⟨passed, canonical⟩
      obtain fault | problem | saved := result
      · exact passed.turn
      · exact passed.turn
      · exact upholds_runSaved passed.turn id (canonical saved rfl)

/-- Opening the prompt upholds the contract. -/
theorem upholds_openPrompt (turn : contract.Turn start now) (id : EngineId)
    (defaults : Defaults) (surface : Option Surface) :
    (openPrompt id defaults surface).Upholds contract
      (fun _ began ended => contract.Turn began ended) start now := by
  apply Flow.upholds_bind.mpr
  apply (upholds_ask turn id surface).mono
  intro result began ended passed
  obtain fault | _ | submission := result
  · exact passed.turn
  · exact passed.turn
  · exact upholds_thenDone (upholds_answerPrompt passed.turn id submission)

/-- Renaming the segment on screen upholds the contract: it gives the tree on
screen once more. -/
theorem upholds_rename (turn : contract.Turn start now) (id : EngineId)
    (segment : String) (submission : Submission) :
    (rename id segment submission).Upholds contract
      (fun _ began ended => contract.Turn began ended) start now := by
  apply Flow.upholds_bind.mpr
  apply (upholds_updateSaved turn id segment _).mono
  intro result began ended passed
  obtain fault | problem | saved := result
  · exact passed.turn
  · exact passed.turn
  · exact upholds_thenDone (upholds_apply_same passed.turn rfl rfl)

theorem savedOnScreen_eq (id : EngineId) :
    savedOnScreen id = .inspect fun registry =>
      match Registry.nonempty? (registry.engine id).state.savedId with
      | none => .done none
      | some _ => (loadSaved id false).bind fun _ =>
          Flow.query fun registry : Registry =>
            (registry.engine id).findSaved?
              ((registry.engine id).state.savedId.getD "") :=
  rfl

/-- Looking for the saved segment on screen passes. -/
theorem upholds_savedOnScreen (turn : contract.Turn start now)
    (id : EngineId) :
    (savedOnScreen id).Upholds contract
      (fun _ began ended => contract.Passed now began ended) start now := by
  rw [savedOnScreen_eq]
  simp only [Flow.Upholds]
  cases Registry.nonempty? (now.state.engine id).state.savedId with
  | none => exact .refl turn
  | some saved =>
      apply Flow.upholds_bind.mpr
      apply (upholds_loadSaved turn id false).mono
      intro result began ended passed
      obtain fault | _ := result
      · exact passed
      · exact passed

theorem answerRefine_eq (id : EngineId) (defaults : Defaults)
    (submission : Submission) :
    answerRefine id defaults submission = .inspect fun registry =>
      match Registry.nonempty? (registry.engine id).state.savedId with
      | some saved =>
          if Prompt.sameWords submission.prompt defaults.prompt then
            rename id saved submission
          else generate id submission.prompt submission.title submission.debug
      | none =>
          generate id submission.prompt submission.title submission.debug :=
  rfl

/-- Answering a question for a refined prompt upholds the contract. -/
theorem upholds_answerRefine (turn : contract.Turn start now) (id : EngineId)
    (defaults : Defaults) (submission : Submission) :
    (answerRefine id defaults submission).Upholds contract
      (fun _ began ended => contract.Turn began ended) start now := by
  rw [answerRefine_eq]
  simp only [Flow.Upholds]
  cases Registry.nonempty? (now.state.engine id).state.savedId with
  | none => exact upholds_generate turn id _ _ _
  | some saved =>
      cases Prompt.sameWords submission.prompt defaults.prompt with
      | true => exact upholds_rename turn id saved submission
      | false => exact upholds_generate turn id _ _ _

/-- Refining the segment on screen upholds the contract. -/
theorem upholds_openRefine (turn : contract.Turn start now) (id : EngineId)
    (surface : Option Surface) :
    (openRefine id surface).Upholds contract
      (fun _ began ended => contract.Turn began ended) start now := by
  apply Flow.upholds_bind.mpr
  apply (upholds_savedOnScreen turn id).mono
  intro result began ended found
  obtain fault | segment := result
  · exact found.turn
  show Flow.Upholds contract (Flow.bind (ask id surface) _) _ _ _
  apply Flow.upholds_bind.mpr
  apply (upholds_ask found.turn id surface).mono
  intro result began ended passed
  obtain fault | _ | submission := result
  · exact passed.turn
  · exact passed.turn
  · exact upholds_thenDone (upholds_answerRefine passed.turn id _ submission)

end Prompting

section Moving

variable {start : Registry} {now : World Registry} {id : EngineId}

/-- As long as the token is the latest, the tree is the one that was run, and its
rows may be shown. -/
theorem turn_of_accepted {asked : World Registry} {page : Page}
    {root : Filter.Root} {json : Json} {results : Results}
    (passed : contract.Passed asked start now)
    (latest : (now.state.engine id).latestToken =
      (asked.state.engine id).latestToken)
    (ran : (asked.state.engine id).state.ast = some root)
    (found : Client.Replied now "POST"
      (Client.pathOf (asked.state.engine id).event "segments")
      (some (Client.runBody root.filter false (some page))) json)
    (read : Results.read json = .value results) :
    contract.change now.state (now.state.transition id fun state =>
        { state with results := some results }) ∧
      contract.Turn start { now with
        state := now.state.transition id fun state =>
          { state with results := some results } } := by
  have moved := passed.moved.engine id
  have was := passed.began.engine id
  have ast : (now.state.engine id).state.ast = some root :=
    (moved.ast latest).trans ran
  have alters : Alters id _ now.state _ :=
    .of_transition fun state => { state with results := some results }
  refine ⟨grows_of_alters alters fun engine => ⟨rfl, Nat.le_refl _⟩, ?_⟩
  apply turn_of_alters passed.turn alters
  · refine ⟨by simp [ast], ?_, (passed.inv id).canonical, (passed.inv id).saved⟩
    intro other shown same brought
    rw [ast] at same
    cases same
    cases brought
    rw [moved.event]
    exact .inl ⟨false, _, json, found, read⟩
  · exact ⟨⟨was.event, was.token⟩, was.ast⟩

/-- The rows of a run are accepted only if the token is still the latest. -/
theorem upholds_landed {asked : World Registry} {page : Page}
    {outcome : Outcome Results} (passed : contract.Passed asked start now)
    (replied : ∀ results, outcome = .ok results → ∃ node json,
      (asked.state.engine id).state.ast.map Filter.Root.filter = some node ∧
      Client.Replied now "POST"
        (Client.pathOf (asked.state.engine id).event "segments")
        (some (Client.runBody node false (some page))) json ∧
      Results.read json = .value results) :
    (Paging.landed id (asked.state.engine id).latestToken outcome).Upholds
      contract (fun _ began ended => contract.Turn began ended) start now := by
  cases outcome with
  | error problem => exact passed.turn
  | ok results =>
      show contract.change now.state (now.state.updateResults id results _).2 ∧
        contract.Turn start
          { now with state := (now.state.updateResults id results _).2 }
      by_cases latest : ((asked.state.engine id).latestToken : Int) =
          (now.state.engine id).latestToken ∧
          (now.state.engine id).state.usesAi
      · rw [Registry.updateResults, if_pos latest]
        obtain ⟨node, json, ran, found, read⟩ := replied results rfl
        obtain ⟨root, shown, rfl⟩ := Option.map_eq_some_iff.mp ran
        exact turn_of_accepted passed (by omega) shown found read
      · rw [Registry.updateResults, if_neg latest]
        exact ⟨contract.change_of_moves (contract.moves_refl _), passed.turn⟩

/-- Running the segment on screen for a page upholds the contract. -/
theorem upholds_execute (turn : contract.Turn start now) (page : Page) :
    (execute id page).Upholds contract
      (fun _ began ended => contract.Turn began ended) start now := by
  rw [Paging.execute_eq]
  have alters : Alters id _ now.state
      ((now.state.modifyEngine id Paging.counted).takeToken id).2 :=
    (Alters.of_modifyEngine Paging.counted).trans
      (.of_modifyEngine Engine.takeToken)
  refine ⟨grows_of_alters alters fun engine => ⟨rfl, Nat.le_succ _⟩, ?_⟩
  have traced := turn.1 id
  have was := turn.2.engine id
  have taken := turn_of_alters turn alters
    ⟨traced.results_iff, traced.source, traced.canonical, traced.saved⟩
    (was.trans ⟨⟨rfl, Nat.le_succ _⟩, fun _ => rfl⟩)
  apply Flow.upholds_bind.mpr
  apply (Client.upholds_runSegment_replied permits_quiet taken _ _ _ _).mono
  intro result began ended ⟨passed, replied⟩
  obtain fault | outcome := result
  · exact passed.turn
  apply upholds_landed passed
  intro results same
  exact replied results (by rw [same])

/-- Keeping the table inside the rows, in its parts. -/
theorem clamp_eq (id : EngineId) :
    clamp id = .inspect fun registry : Registry =>
      match (registry.engine id).clampedPage with
      | .ok page =>
          .update (registry.modifyEngine id (Engine.moveTo page)) (.done ())
      | .error misuse => .fail (.misuse misuse) := by
  unfold clamp Flow.attempt
  congr 1
  funext registry
  dsimp only
  cases (registry.engine id).clampedPage <;> rfl

/-- Keeping the table inside the rows upholds the contract. -/
theorem upholds_clamp (turn : contract.Turn start now) (id : EngineId) :
    (clamp id).Upholds contract
      (fun _ began ended => contract.Turn began ended) start now := by
  rw [clamp_eq]
  simp only [Flow.Upholds]
  cases (now.state.engine id).clampedPage with
  | error misuse => exact turn
  | ok page =>
      exact upholds_update turn (sameRows_modifyEngine
        ⟨rfl, rfl, rfl, rfl, fun canonical => canonical⟩) fun moved =>
          moved.turn

/-- Moving the table to a page upholds the contract. -/
theorem upholds_setPage (turn : contract.Turn start now) (page : Page) :
    (setPage id page).Upholds contract
      (fun _ began ended => contract.Turn began ended) start now := by
  rw [Paging.setPage_eq]
  refine upholds_update turn (sameRows_modifyEngine
    ⟨rfl, rfl, rfl, rfl, fun canonical => canonical⟩) fun moved => ?_
  split
  · exact upholds_thenDone (upholds_clamp moved.turn id)
  split
  · exact moved.turn
  split
  · exact moved.turn
  · apply Flow.upholds_bind.mpr
    apply (upholds_execute moved.turn page).mono
    intro result began ended ran
    obtain fault | outcome := result
    · exact ran
    · exact ran

end Moving

section Tasks

/-- What is done with engines. -/
inductive Task where
  | hydrate (id : EngineId)
  | openPrompt (id : EngineId) (defaults : Defaults) (surface : Option Surface)
  | answerPrompt (id : EngineId) (submission : Submission)
  | openRefine (id : EngineId) (surface : Option Surface)
  | answerRefine (id : EngineId) (defaults : Defaults)
      (submission : Submission)
  | clear (id : EngineId)
  | updateSaved (id : EngineId) (segment : String)
      (patch : SavedSegment.Patch)
  | loadSaved (id : EngineId) (refresh : Bool)
  | move (id : EngineId) (way : Move)

/-- What a task does. -/
def Task.flow : Task → Flow Registry Unit
  | hydrate id => (Engine.hydrate id).bind fun _ => .done ()
  | openPrompt id defaults surface =>
      (Engine.openPrompt id defaults surface).bind fun _ => .done ()
  | answerPrompt id submission =>
      (Engine.answerPrompt id submission).bind fun _ => .done ()
  | openRefine id surface =>
      (Engine.openRefine id surface).bind fun _ => .done ()
  | answerRefine id defaults submission =>
      (Engine.answerRefine id defaults submission).bind fun _ => .done ()
  | clear id => Engine.clear id
  | updateSaved id segment patch =>
      (Engine.updateSaved id segment patch).bind fun _ => .done ()
  | loadSaved id refresh =>
      (Engine.loadSaved id refresh).bind fun _ => .done ()
  | move id way => (way.flow id).bind fun _ => .done ()

/-- Tasks that start at any time, against a backend that serves in any way. -/
def scene {β : Type} (serves : β → Call → Reply → β → Prop) :
    Scene Registry β Task Unit where
  flow := Task.flow
  restoring := Engine.restoring
  admits _ _ := True
  serves := serves

variable {start : Registry} {now : World Registry}

/-- What passes ends its stretches well. -/
theorem upholds_passed {α : Type} {flow : Flow Registry α}
    (upheld : flow.Upholds contract
      (fun _ began ended => contract.Passed now began ended) start now) :
    flow.Upholds contract
      (fun _ began ended => contract.Turn began ended) start now :=
  upheld.mono fun _ _ _ passed => passed.turn

/-- Every task upholds the contract. -/
theorem upholds_task (turn : contract.Turn start now) (task : Task) :
    task.flow.Upholds contract
      (fun _ began ended => contract.Turn began ended) start now := by
  cases task with
  | hydrate id => exact upholds_thenDone (upholds_hydrate turn id)
  | openPrompt id defaults surface =>
      exact upholds_thenDone (upholds_openPrompt turn id defaults surface)
  | answerPrompt id submission =>
      exact upholds_thenDone (upholds_answerPrompt turn id submission)
  | openRefine id surface =>
      exact upholds_thenDone (upholds_openRefine turn id surface)
  | answerRefine id defaults submission =>
      exact upholds_thenDone (upholds_answerRefine turn id defaults submission)
  | clear id => exact upholds_clear turn id
  | updateSaved id segment patch =>
      exact upholds_thenDone
        (upholds_passed (upholds_updateSaved turn id segment patch))
  | loadSaved id refresh =>
      exact upholds_thenDone
        (upholds_passed (upholds_loadSaved turn id refresh))
  | move id way =>
      apply upholds_thenDone
      apply Move.upholds_flow way
      · exact fun fault => turn
      · exact fun page target => upholds_setPage turn page

/-- All tasks, and the restoring of engines, honour the contract. -/
theorem honoured {β : Type} (serves : β → Call → Reply → β → Prop) :
    contract.Honoured (fun _ => True) (fun _ => True) (scene serves) where
  tasks _ task _ traced _ :=
    (upholds_task ⟨traced, contract.moves_refl _⟩ task).mono
      fun _ _ _ turn _ => turn
  restorings id _ traced :=
    upholds_restoring ⟨traced, contract.moves_refl _⟩ id
  replies _ _ _ _ _ _ _ _ _ := ⟨trivial, trivial⟩

end Tasks

section Superseded

/-- A change is the first of a flow. -/
def Begins {α : Type} (flow : Flow Registry α) (change : Registry × Registry) :
    Prop :=
  (flow.stretch change.1).changes.head? = some change

/-- A change after which runs that are under way no longer count: a newer run,
a user's change with results, a cleared screen, or an accepted restoring. -/
inductive Supersedes (id : EngineId) (change : Registry × Registry) : Prop where
  | run (page : Page) (begins : Begins (execute id page) change)
  | shown (given : Engine.Change) (results : given.results.isSome)
      (begins : Begins (apply id given) change)
  | cleared (begins : Begins (clear id) change)
  | restored (restored : Registry.Restored) (generation : Option Int)
      (accepted : change.1.restore id restored generation = (true, change.2))

/-- The token under which a run offers its results, when it begins in the given
state. -/
def tokenOf (id : EngineId) (registry : Registry) : Nat :=
  ((registry.modifyEngine id Paging.counted).takeToken id).1

/-- A run begins with taking its token. -/
theorem eq_of_run {id : EngineId} {page : Page} {change : Registry × Registry}
    (begins : Begins (execute id page) change) :
    change.2 =
      ((change.1.modifyEngine id Paging.counted).takeToken id).2 := by
  rw [Begins, Paging.execute_eq] at begins
  exact (Prod.mk.inj (Option.some.inj begins)).2.symm

/-- Whatever supersedes a run takes a token. -/
theorem token_of_supersedes {id : EngineId} {change : Registry × Registry}
    (supersedes : Supersedes id change) (has : change.1.Has id) :
    (change.2.engine id).latestToken =
      (change.1.engine id).latestToken + 1 := by
  cases supersedes with
  | run page begins =>
      rw [eq_of_run begins]
      simp [Registry.engine_modifyEngine, has, Paging.counted,
        Engine.takeToken]
  | shown given results begins =>
      have alters : Alters id (noted given) change.1 change.2 := by
        have same : (change.1, _) = change := Option.some.inj begins
        rw [← same]
        exact alters_noted given change.1
      simp [alters.engine, has, noted, results, counted, Engine.takeToken]
  | cleared begins =>
      have same : (change.1, _) = change := Option.some.inj begins
      rw [← same]
      simp [Registry.engine_modifyEngine, Registry.countUser, has,
        Engine.takeToken]
  | restored restored generation accepted =>
      obtain refused | shown :=
        Registry.restore_cases change.1 id restored generation
      · rw [refused] at accepted
        cases accepted
      · rw [shown] at accepted
        have same := (Prod.mk.inj accepted).2
        rw [← same, ((sameRows_backfillPrompt _ id).engine id).token]
        simp [Registry.engine_modifyEngine, has, Engine.moveTo,
          Engine.takeToken]

/-- Results for another token than the latest are not accepted. -/
theorem refused_of_newer {registry : Registry} {id : EngineId} {token : Nat}
    (newer : registry.Has id → token < (registry.engine id).latestToken)
    (results : Results) :
    registry.updateResults id results token = (false, registry) := by
  have refused : ¬ ((token : Int) = (registry.engine id).latestToken ∧
      (registry.engine id).state.usesAi) := by
    rintro ⟨same, active⟩
    have later := newer (Registry.has_of_usesAi active)
    omega
  rw [Registry.updateResults, if_neg refused]

/-- After a run was superseded, its results are never accepted. -/
theorem refused_of_superseded {id : EngineId} {page : Page}
    {start last : Registry} {before between after : List (Registry × Registry)}
    {issued superseding : Registry × Registry}
    (chained : Chained start
      (before ++ issued :: (between ++ superseding :: after)) last)
    (grows : ∀ change ∈ before ++ issued :: (between ++ superseding :: after),
      contract.change change.1 change.2)
    (begins : Begins (execute id page) issued)
    (supersedes : Supersedes id superseding) (results : Results) :
    ∀ registry ∈ last :: after.map Prod.fst,
      registry.updateResults id results (tokenOf id issued.1) =
        (false, registry) := by
  intro registry member
  have taken : (issued.2.engine id).latestToken = tokenOf id issued.1 := by
    rw [eq_of_run begins]
    rfl
  have refl : ∀ state, contract.change state state :=
    fun state => contract.change_of_moves (contract.moves_refl state)
  obtain ⟨early, late⟩ := chained.of_append.2.of_append
  have upTo : contract.change issued.2 superseding.1 :=
    early.related refl contract.change_trans
      (fun change among => grows change (by simp [among])) _
      (List.mem_cons_self ..)
  have since : contract.change superseding.2 registry :=
    late.related refl contract.change_trans
      (fun change among => grows change (by simp [among])) registry member
  have across := grows superseding (by simp)
  apply refused_of_newer
  intro has
  have token := token_of_supersedes supersedes
    ((across.has id).mp ((since.has id).mp has))
  have first := (upTo.engine id).token
  have second := (since.engine id).token
  omega

end Superseded

section Engines

variable {β : Type} {serves : β → Call → Reply → β → Prop}
variable {start : Registry} {server : β} {pool : Pool Registry β Unit}

/-- Before anything is done, nothing is on screen. -/
theorem traced_initial
    (unused : ∀ engine ∈ start.engines,
      ∃ event page surface, engine = Engine.initial event page surface)
    (id : EngineId) : Traced (.fresh start) (start.engine id) := by
  by_cases has : start.Has id
  · obtain ⟨event, page, surface, same⟩ :=
      unused (start.engine id) (by
        unfold Registry.engine
        rw [List.getElem?_eq_getElem has]
        exact List.getElem_mem has)
    rw [same]
    exact ⟨⟨fun _ => rfl, fun _ => rfl⟩,
      by simp [Engine.initial, AiState.empty],
      by simp [Engine.initial, AiState.empty],
      by simp [Engine.initial, Engine.savedSegments]⟩
  · rw [Registry.engine_of_not_has has]
    refine ⟨⟨fun _ => rfl, fun _ => rfl⟩, ?_, ?_, ?_⟩
    · intro root results missing
      cases missing
    · intro root missing
      cases missing
    · intro saved missing
      cases missing

/-- Any number of engines are used in any way and at the same time, beginning
with nothing on screen.  There are rows on screen exactly when there is a tree,
and they came from a run of it or along with it from a prompt.  Results of a run
are not accepted once a newer run began, a user's change brought results, the
screen was cleared, or a restoring was accepted. -/
theorem rows_come_from_tree
    (unused : ∀ engine ∈ start.engines,
      ∃ event page surface, engine = Engine.initial event page surface)
    (reached : (scene serves).Reach (.fresh start server) pool) :
    (∀ id, ((pool.world.state.engine id).state.results = none ↔
        (pool.world.state.engine id).state.ast = none) ∧
      ∀ root results, (pool.world.state.engine id).state.ast = some root →
        (pool.world.state.engine id).state.results = some results →
        Source pool.world (pool.world.state.engine id).event root results) ∧
    ∀ id page before issued between superseding after,
      pool.changes = before ++ issued :: (between ++ superseding :: after) →
      Begins (execute id page) issued → Supersedes id superseding →
      ∀ results, ∀ registry ∈ pool.world.state :: after.map Prod.fst,
        registry.updateResults id results (tokenOf id issued.1) =
          (false, registry) := by
  have kept := (honoured serves).kept (traced_initial unused) trivial reached
    fun _ _ => trivial
  constructor
  · intro id
    exact ⟨(kept.inv id).results_iff, (kept.inv id).source⟩
  · intro id page before issued between superseding after whole begins
      supersedes results
    have chained := reached.chained
    have changes := kept.changes
    rw [whole] at chained changes
    exact refused_of_superseded chained changes begins supersedes results

end Engines

section FirstPrompt

/-- A registry with one engine that was not used yet. -/
def withNewEngine : Registry :=
  { Registry.initial .standard default ""
      { service := .ofService "http" "crm" "", token := none,
        instanceId := none, opened := false } with
    engines := [Engine.initial "event" .standard none] }

/-- A reply that brings the empty tree and no rows. -/
def everyone : Reply :=
  .response 200 (.json (.obj
    [ ("segment", .obj [("filter", Filter.Node.empty.toJson)]),
      ("results", .obj []) ]))

/-- A backend that always gives that reply. -/
def answersEveryone (_ : Unit) (_ : Call) (reply : Reply) (_ : Unit) : Prop :=
  reply = everyone

/-- A prompt for all persons. -/
def askEveryone : Submission :=
  { prompt := "Everyone", title := "All", savedSegmentId := none,
    debug := false }

/-- The rows of the first prompt came along with the tree on screen. -/
theorem rows_come_from_tree_at_first_prompt :
    ∃ pool : Pool Registry Unit Unit,
      (scene answersEveryone).Reach (.fresh withNewEngine ()) pool ∧
      ∃ root results,
        (pool.world.state.engine 0).state.ast = some root ∧
        (pool.world.state.engine 0).state.results = some results ∧
        Source pool.world (pool.world.state.engine 0).event root results := by
  obtain ⟨pool, reached, shown⟩ : ∃ pool : Pool Registry Unit Unit,
      (scene answersEveryone).Reach (.fresh withNewEngine ()) pool ∧
      (pool.world.state.engine 0).state.results.isSome = true ∧
      (pool.world.state.engine 0).state.ast.isSome = true := by
    refine ⟨_, .step (.step (.step (.step (.step .refl
      (.start (.answerPrompt 0 askEveryone) trivial))
      (.handle [] [] () rfl rfl))
      (.deliver [] [] rfl))
      (.handle [] [] () rfl rfl))
      (.deliver [] [] rfl), ?_⟩
    decide +kernel
  have traced := (rows_come_from_tree
    (fun engine member =>
      ⟨_, _, _, List.mem_singleton.mp member⟩) reached).1 0
  obtain ⟨results, brought⟩ := Option.isSome_iff_exists.mp shown.1
  obtain ⟨root, ast⟩ := Option.isSome_iff_exists.mp shown.2
  exact ⟨pool, reached, root, results, ast, brought,
    traced.2 root results ast brought⟩

end FirstPrompt

end Provenance
end Audience
