import Audience.Engine.Hydration
import Audience.Proofs.Engine.Loading
import Audience.Proofs.Flow.Soundness

/-!
# Where the rows on screen come from

An engine is restored, asked for prompts, refined, cleared and moved in any
order, and whatever the backend replies reaches it at any time.  There are rows
on screen exactly when there is a tree, and they are the rows of a run of that
tree, or came along with it from a prompt.  The contract here says so, and it is
upheld when a segment is restored or shown and when the screen is cleared.
-/

namespace Audience
namespace Provenance

open Registry (Quiet Alters)
open Engine

/-- Results come from a run of a tree, or along with it from a prompt. -/
def Source (world : World Registry) (event : String) (root : Filter.Root)
    (results : Results) : Prop :=
  (∃ debug page json,
    Client.Replied world "POST" (Client.pathOf event "segments")
      (some (Client.runBody root.filter debug page)) json ∧
    Results.read json = .value results) ∨
  (∃ body json,
    Client.Replied world "POST" (Client.pathOf event "segments/generative")
      (some body) json ∧
    Generated.read json = .value { segment := root, results })

/-- There are results exactly when there is a tree, and they come from it.  All
trees at hand are canonical. -/
structure Traced (world : World Registry) (engine : Engine) : Prop where
  results_iff : engine.state.results = none ↔ engine.state.ast = none
  source : ∀ root results, engine.state.ast = some root →
    engine.state.results = some results →
    Source world engine.event root results
  canonical : ∀ root, engine.state.ast = some root → root.Canonical
  saved : ∀ segment ∈ engine.savedSegments, segment.ast.Canonical

/-- The event stays, and tokens only grow. -/
structure Grows (before after : Engine) : Prop where
  event : after.event = before.event
  token : before.latestToken ≤ after.latestToken

/-- A new tree takes a new token. -/
structure Moves (before after : Engine) : Prop extends Grows before after where
  ast : after.latestToken = before.latestToken →
    after.state.ast = before.state.ast

/-- The rows on screen, their tree and the token stay. -/
structure SameRows (before after : Engine) : Prop where
  event : after.event = before.event
  token : after.latestToken = before.latestToken
  results : after.state.results = before.state.results
  ast : after.state.ast = before.state.ast
  saved : (∀ segment ∈ before.savedSegments, segment.ast.Canonical) →
    ∀ segment ∈ after.savedSegments, segment.ast.Canonical

theorem Grows.refl (engine : Engine) : Grows engine engine := ⟨rfl, Nat.le_refl _⟩

theorem Grows.trans {first second third : Engine} (early : Grows first second)
    (late : Grows second third) : Grows first third :=
  ⟨late.event.trans early.event, Nat.le_trans early.token late.token⟩

theorem Moves.refl (engine : Engine) : Moves engine engine :=
  ⟨.refl engine, fun _ => rfl⟩

theorem Moves.trans {first second third : Engine} (early : Moves first second)
    (late : Moves second third) : Moves first third := by
  refine ⟨early.toGrows.trans late.toGrows, fun same => ?_⟩
  have earlier := early.token
  have later := late.token
  rw [late.ast (by omega), early.ast (by omega)]

theorem SameRows.moves {before after : Engine} (same : SameRows before after) :
    Moves before after :=
  ⟨⟨same.event, Nat.le_of_eq same.token.symm⟩, fun _ => same.ast⟩

theorem SameRows.refl (engine : Engine) : SameRows engine engine :=
  ⟨rfl, rfl, rfl, rfl, id⟩

theorem SameRows.trans {first second third : Engine}
    (early : SameRows first second) (late : SameRows second third) :
    SameRows first third :=
  ⟨late.event.trans early.event, late.token.trans early.token,
    late.results.trans early.results, late.ast.trans early.ast,
    fun canonical => late.saved (early.saved canonical)⟩

/-- What is quiet keeps the rows. -/
theorem SameRows.of_quiet {before after : Engine} (quiet : before.Retitled after) :
    SameRows before after := by
  obtain ⟨title, rfl⟩ := quiet
  exact ⟨rfl, rfl, rfl, rfl, id⟩

/-- The same of all engines. -/
structure AllEngines (relation : Engine → Engine → Prop)
    (before after : Registry) : Prop where
  engine : ∀ id, relation (before.engine id) (after.engine id)
  has : ∀ id, after.Has id ↔ before.Has id

/-- What keeps the rows twice keeps them. -/
theorem AllEngines.trans {first second third : Registry}
    (early : AllEngines SameRows first second)
    (late : AllEngines SameRows second third) :
    AllEngines SameRows first third :=
  ⟨fun id => (early.engine id).trans (late.engine id),
    fun id => (late.has id).trans (early.has id)⟩

/-- A source stays a source. -/
theorem Source.mono {world later : World Registry} {event : String}
    {root : Filter.Root} {results : Results}
    (source : Source world event root results) (grown : later.Extends world) :
    Source later event root results := by
  obtain ⟨debug, page, json, replied, read⟩ | ⟨body, json, replied, read⟩ :=
    source
  · exact .inl ⟨debug, page, json, replied.mono grown, read⟩
  · exact .inr ⟨body, json, replied.mono grown, read⟩

theorem Traced.mono {world later : World Registry} {engine : Engine}
    (traced : Traced world engine) (grown : later.Extends world) :
    Traced later engine :=
  { traced with
    source := fun root results ast shown =>
      (traced.source root results ast shown).mono grown }

theorem Traced.of_sameRows {world : World Registry} {before after : Engine}
    (traced : Traced world before) (same : SameRows before after) :
    Traced world after where
  results_iff := by
    rw [same.results, same.ast]
    exact traced.results_iff
  source root results ast shown := by
    rw [same.ast] at ast
    rw [same.results] at shown
    rw [same.event]
    exact traced.source root results ast shown
  canonical root ast := traced.canonical root (same.ast ▸ ast)
  saved := same.saved traced.saved

/-- What all flows rely on that show segments. -/
def contract : Contract Registry where
  inv world := ∀ id, Traced world (world.state.engine id)
  moves := AllEngines Moves
  change := AllEngines Grows
  replies _ _ := True
  moves_refl _ := ⟨fun _ => .refl _, fun _ => Iff.rfl⟩
  moves_trans early late :=
    ⟨fun id => (early.engine id).trans (late.engine id),
      fun id => (late.has id).trans (early.has id)⟩
  change_trans early late :=
    ⟨fun id => (early.engine id).trans (late.engine id),
      fun id => (late.has id).trans (early.has id)⟩
  change_of_moves moves := ⟨fun id => (moves.engine id).toGrows, moves.has⟩

/-- The contract does not mind changes that keep the rows. -/
theorem permits : contract.Permits (AllEngines SameRows) where
  moves _ _ same := ⟨fun id => (same.engine id).moves, same.has⟩
  inv now state same traced id :=
    ((traced id).of_sameRows (same.engine id)).mono (.of_state now state)
  send now call traced id := (traced id).mono (.of_send call now)
  deliver now number reply traced id :=
    (traced id).mono (.of_deliver number reply now)

theorem sameRows_of_quiet {before after : Registry}
    (quiet : before.Quiet after) : AllEngines SameRows before after :=
  ⟨fun id => .of_quiet (quiet.engine id), quiet.has⟩

/-- Nor does it mind quiet changes. -/
theorem permits_quiet : contract.Permits Quiet :=
  { permits with
    moves := fun _ _ quiet => permits.moves _ _ (sameRows_of_quiet quiet)
    inv := fun _ _ quiet => permits.inv _ _ (sameRows_of_quiet quiet) }

/-- A change of one engine that keeps its rows keeps all rows. -/
theorem sameRows_of_alters {id : EngineId} {change : Engine → Engine}
    {before after : Registry} (alters : Alters id change before after)
    (same : SameRows (before.engine id) (change (before.engine id))) :
    AllEngines SameRows before after := by
  refine ⟨fun other => ?_, alters.has⟩
  rw [alters.engine]
  split
  · rename_i here
    rw [here.1]
    exact same
  · exact .refl _

section Saved

variable {start : Registry} {now : World Registry}

/-- A quiet flow passes, whatever it ends with. -/
theorem upholds_quiet {α : Type} {flow : Flow Registry α}
    {ends : Except Fault α → Prop}
    (makes : ∀ state, flow.Makes Quiet ends state)
    (turn : contract.Turn start now) :
    flow.Upholds contract (fun result began ended =>
      contract.Passed now began ended ∧ ends result) start now :=
  permits_quiet.upholds (makes now.state) turn

/-- A change that keeps the rows passes. -/
theorem upholds_update {α : Type} {state : Registry} {next : Flow Registry α}
    {ends : Except Fault α → Registry → World Registry → Prop}
    (turn : contract.Turn start now)
    (same : AllEngines SameRows now.state state)
    (rest : contract.Passed now start { now with state } →
      next.Upholds contract ends start { now with state }) :
    (Flow.update state next).Upholds contract ends start now :=
  ⟨contract.change_of_moves (permits.moves _ _ same),
    rest (permits.update turn same)⟩

/-- Changing a part of an engine that is not looked at keeps the rows. -/
theorem sameRows_modifyEngine {registry : Registry} {id : EngineId}
    {change : Engine → Engine}
    (same : SameRows (registry.engine id) (change (registry.engine id))) :
    AllEngines SameRows registry (registry.modifyEngine id change) :=
  sameRows_of_alters (.of_modifyEngine change) same

theorem sameRows_transition {registry : Registry} {id : EngineId}
    {change : AiState → AiState}
    (results : ∀ state, (change state).results = state.results)
    (ast : ∀ state, (change state).ast = state.ast) :
    AllEngines SameRows registry (registry.transition id change) :=
  sameRows_of_alters (.of_transition change)
    ⟨rfl, rfl, results _, ast _, fun canonical => canonical⟩

theorem sameRows_backfillPrompt (registry : Registry) (id : EngineId) :
    AllEngines SameRows registry (registry.backfillPrompt id) := by
  unfold Registry.backfillPrompt
  split
  · exact sameRows_transition (fun _ => rfl) (fun _ => rfl)
  · exact ⟨fun _ => .refl _, fun _ => Iff.rfl⟩

section Loading

variable {allowed : Registry → Registry → Prop} {id : EngineId}

/-- Loading the list if need be changes what loading it changes. -/
theorem makes_loadList
    (lists : ∀ event later,
      (loadListOf id event).Makes allowed (fun _ => True) later)
    (refresh : Bool) (now : Registry) :
    (loadList id refresh).Makes allowed (fun _ => True) now := by
  rw [loadList_eq]
  apply Flow.Makes.locked
  intro later
  have asked : ((loadListOf id (later.engine id).event).bind
      fun result => .done (true, result)).Makes allowed (fun _ => True)
        later :=
    (lists _ later).andThen fun _ _ => trivial
  simp only [Flow.Makes]
  cases (later.engine id).saved with
  | none => exact asked
  | some segments =>
      cases refresh with
      | true => exact asked
      | false => trivial

/-- Loading the saved segments fills in a prompt as well. -/
theorem makes_loadSaved
    (lists : ∀ event later,
      (loadListOf id event).Makes allowed (fun _ => True) later)
    (fills : ∀ later : Registry, allowed later (later.backfillPrompt id))
    (refresh : Bool) (now : Registry) :
    (loadSaved id refresh).Makes allowed (fun _ => True) now := by
  apply (makes_loadList lists refresh now).andThen
  intro result later
  show Flow.Makes _ _ (if result.1 && result.2.isOk then _ else _) _
  split
  · exact ⟨fills later, trivial⟩
  · trivial

/-- Requiring a saved segment loads the list once, or twice. -/
theorem makes_requireSaved
    (lists : ∀ event later,
      (loadListOf id event).Makes allowed (fun _ => True) later)
    (fills : ∀ later : Registry, allowed later (later.backfillPrompt id))
    (segment : String) (now : Registry) :
    (requireSaved id segment).Makes allowed (fun _ => True) now := by
  have looks (later : Registry) :
      (findSaved id segment).Makes allowed (fun _ => True) later := trivial
  apply (makes_loadSaved lists fills false now).andThen
  intro outcome later
  obtain problem | segments := outcome
  · trivial
  apply (looks later).andThen
  intro found later
  cases found with
  | some saved => trivial
  | none =>
      apply (makes_loadSaved lists fills true later).andThen
      intro outcome later
      obtain problem | segments := outcome
      · trivial
      apply (looks later).andThen
      intro found later
      cases found <;> trivial

end Loading

/-- Loading the list keeps the rows. -/
theorem makes_loadListOf (id : EngineId) (event : String) (now : Registry) :
    (loadListOf id event).Makes (AllEngines SameRows) (fun _ => True) now := by
  apply Flow.Makes.bind
  apply ((Client.makes_listSaved event now).relax
    fun _ _ quiet => sameRows_of_quiet quiet).mono
  intro result canonical
  obtain fault | problem | segments := result
  · trivial
  · exact fun _ => trivial
  · exact fun later => ⟨sameRows_modifyEngine
      ⟨rfl, rfl, rfl, rfl, fun _ => canonical segments rfl⟩, trivial⟩

/-- Loading the saved segments keeps the rows. -/
theorem upholds_loadSaved (turn : contract.Turn start now) (id : EngineId)
    (refresh : Bool) :
    (loadSaved id refresh).Upholds contract
      (fun _ began ended => contract.Passed now began ended) start now :=
  (permits.upholds (makes_loadSaved (makes_loadListOf id)
    (fun later => sameRows_backfillPrompt later id) refresh now.state)
      turn).mono fun _ _ _ => And.left

/-- A saved segment that is found has a canonical tree. -/
theorem canonical_of_findSaved? {world : World Registry} {engine : Engine}
    {segment : String} {saved : SavedSegment} (traced : Traced world engine)
    (found : engine.findSaved? segment = some saved) : saved.ast.Canonical := by
  unfold Engine.findSaved? at found
  split at found
  · cases found
  · exact traced.saved saved (List.mem_of_find?_eq_some found)

/-- A segment that is looked for has a canonical tree if it is found. -/
theorem upholds_findSaved (turn : contract.Turn start now) (id : EngineId)
    (segment : String) :
    (findSaved id segment).Upholds contract (fun result began ended =>
      contract.Passed now began ended ∧
        ∀ saved, result = .ok (some saved) → saved.ast.Canonical)
      start now := by
  refine ⟨.refl turn, fun saved found => ?_⟩
  exact canonical_of_findSaved? (turn.1 id) (Except.ok.inj found)

/-- A saved segment that is required is found with a canonical tree. -/
theorem upholds_requireSaved (turn : contract.Turn start now) (id : EngineId)
    (segment : String) :
    (requireSaved id segment).Upholds contract (fun result began ended =>
      contract.Passed now began ended ∧
        ∀ saved, result = .ok (.ok saved) → saved.ast.Canonical) start now := by
  apply Flow.upholds_bind.mpr
  apply (upholds_loadSaved turn id false).mono
  intro result began ended passed
  obtain fault | problem | segments := result
  · exact ⟨passed, by simp⟩
  · exact ⟨passed, by simp⟩
  apply Flow.upholds_bind.mpr
  apply (upholds_findSaved passed.turn id segment).mono
  intro result began ended ⟨looked, canonical⟩
  have first := passed.trans looked
  obtain fault | _ | saved := result
  · exact ⟨first, by simp⟩
  · apply Flow.upholds_bind.mpr
    apply (upholds_loadSaved first.turn id true).mono
    intro result began ended reloaded
    have second := first.trans reloaded
    obtain fault | problem | segments := result
    · exact ⟨second, by simp⟩
    · exact ⟨second, by simp⟩
    apply Flow.upholds_bind.mpr
    apply (upholds_findSaved second.turn id segment).mono
    intro result began ended ⟨looked, canonical⟩
    have third := second.trans looked
    obtain fault | _ | saved := result
    · exact ⟨third, by simp⟩
    · exact ⟨third, by simp⟩
    · refine ⟨third, fun other same => ?_⟩
      cases same
      exact canonical saved rfl
  · refine ⟨first, fun other same => ?_⟩
    cases same
    exact canonical saved rfl

/-- A list into which a canonical tree is put stays canonical. -/
theorem canonical_replaceSaved {engine : Engine} {saved : SavedSegment}
    (new : saved.ast.Canonical)
    (old : ∀ segment ∈ engine.savedSegments, segment.ast.Canonical) :
    ∀ segment ∈ (engine.replaceSaved saved).savedSegments,
      segment.ast.Canonical := by
  intro segment member
  unfold Engine.replaceSaved Engine.savedSegments at member
  cases listed : engine.saved with
  | none => simp [listed] at member
  | some segments =>
      simp only [listed, Option.map_some, Option.getD_some,
        List.mem_map] at member
      obtain ⟨other, among, same⟩ := member
      split at same
      · exact same ▸ new
      · exact same ▸ old other (by simpa [Engine.savedSegments, listed])

/-- Changing a saved segment keeps the rows. -/
theorem upholds_updateSaved (turn : contract.Turn start now) (id : EngineId)
    (segment : String) (patch : SavedSegment.Patch) :
    (updateSaved id segment patch).Upholds contract
      (fun _ began ended => contract.Passed now began ended) start now := by
  show Flow.Upholds contract
    (Flow.bind (Client.updateSaved _ segment patch) _) _ _ _
  apply Flow.upholds_bind.mpr
  apply (upholds_quiet (Client.makes_updateSaved _ segment patch) turn).mono
  intro result began ended ⟨passed, canonical⟩
  obtain fault | problem | saved := result
  · exact passed
  · exact passed
  refine upholds_update passed.turn ?_ fun replaced => passed.trans replaced
  have listed : AllEngines SameRows ended.state
      (ended.state.modifyEngine id (Engine.replaceSaved saved)) :=
    sameRows_modifyEngine
      ⟨rfl, rfl, rfl, rfl, canonical_replaceSaved (canonical saved rfl)⟩
  dsimp only
  split
  · exact listed.trans (sameRows_transition (fun _ => rfl) (fun _ => rfl))
  · exact listed

/-- Dropping the list keeps the rows. -/
theorem sameRows_dropSaved (registry : Registry) (id : EngineId) :
    AllEngines SameRows registry
      (registry.modifyEngine id fun engine => { engine with saved := none }) :=
  sameRows_modifyEngine ⟨rfl, rfl, rfl, rfl, by simp [Engine.savedSegments]⟩

end Saved

section Showing

variable {start : Registry} {now : World Registry} {id : EngineId}

/-- A change of one engine grows all, if it grows that one. -/
theorem grows_of_alters {change : Engine → Engine} {before after : Registry}
    (alters : Alters id change before after)
    (grows : ∀ engine, Grows engine (change engine)) :
    AllEngines Grows before after := by
  refine ⟨fun other => ?_, alters.has⟩
  rw [alters.engine]
  split
  · exact grows _
  · exact .refl _

/-- A change of one engine ends a stretch well if that engine is traced
afterwards, and has a new token if it has a new tree. -/
theorem turn_of_alters {change : Engine → Engine} {state : Registry}
    (turn : contract.Turn start now)
    (alters : Alters id change now.state state)
    (traced : Traced now (change (now.state.engine id)))
    (moves : Moves (start.engine id) (change (now.state.engine id))) :
    contract.Turn start { now with state } := by
  refine ⟨fun other => ?_, fun other => ?_, fun other => ?_⟩
  · show Traced _ (state.engine other)
    rw [alters.engine]
    split
    · rename_i here
      rw [here.1]
      exact traced.mono (.of_state now state)
    · exact (turn.1 other).mono (.of_state now state)
  · show Moves _ (state.engine other)
    rw [alters.engine]
    split
    · rename_i here
      rw [here.1]
      exact moves
    · exact turn.2.engine other
  · exact (alters.has other).trans (turn.2.has other)

/-- Writing the AI block keeps the rows. -/
theorem upholds_persist (turn : contract.Turn start now) (block : AiBlock) :
    (persist id block).Upholds contract
      (fun _ began ended => contract.Turn began ended) start now := by
  show Flow.Upholds contract (Flow.bind (Store.write _ (.ofAi block)) _) _ _ _
  apply Flow.upholds_bind.mpr
  apply (upholds_quiet (Store.makes_write _ (.ofAi block)) turn).mono
  intro result began ended ⟨passed, _⟩
  obtain fault | outcome := result
  · exact passed.turn
  · exact passed.turn

/-- A user's change is counted. -/
def counted (engine : Engine) : Engine :=
  { engine with generation := engine.generation + 1 }

/-- A user's change with results takes a token. -/
def noted (change : Engine.Change) (engine : Engine) : Engine :=
  if change.results.isSome then (counted engine).takeToken else counted engine

theorem alters_noted (change : Engine.Change) (registry : Registry) :
    Alters id (noted change) registry
      (if change.results.isSome then ((registry.countUser id).takeToken id).2
        else registry.countUser id) := by
  by_cases given : change.results.isSome
  · have same : noted change = fun engine => (counted engine).takeToken := by
      funext engine
      exact if_pos given
    rw [same, if_pos given]
    exact (Alters.of_modifyEngine counted).trans
      (.of_modifyEngine Engine.takeToken)
  · have same : noted change = counted := by
      funext engine
      exact if_neg given
    rw [same, if_neg given]
    exact .of_modifyEngine counted

theorem grows_noted (change : Engine.Change) (engine : Engine) :
    Grows engine (noted change engine) := by
  unfold noted
  split
  · exact ⟨rfl, Nat.le_succ _⟩
  · exact ⟨rfl, Nat.le_refl _⟩

@[simp] theorem noted_saved (change : Engine.Change) (engine : Engine) :
    (noted change engine).saved = engine.saved := by
  unfold noted
  split <;> rfl

@[simp] theorem noted_state (change : Engine.Change) (engine : Engine) :
    (noted change engine).state = engine.state := by
  unfold noted
  split <;> rfl

/-- A user's change upholds the contract if the engine is traced afterwards, and
only results bring a new tree. -/
theorem upholds_apply {change : Engine.Change}
    {root : Option (Option Filter.Root)} (turn : contract.Turn start now)
    (read : change.root = .ok root)
    (traced : Traced now
      { now.state.engine id with
        state := change.apply root (now.state.engine id).state })
    (kept : change.results = none →
      (change.apply root (now.state.engine id).state).ast =
        (now.state.engine id).state.ast) :
    (apply id change).Upholds contract
      (fun _ began ended => contract.Turn began ended) start now := by
  have first : Alters id (noted change) now.state _ :=
    alters_noted change now.state
  refine ⟨grows_of_alters first (grows_noted change), ?_⟩
  show Flow.Upholds contract (Flow.bind (Flow.ofNormal change.root) _) _ _ _
  rw [read]
  refine ⟨grows_of_alters (.of_transition _) fun engine => ⟨rfl, Nat.le_refl _⟩,
    ?_⟩
  apply upholds_persist
  have both := first.trans (Alters.of_transition (change.apply root))
  have was := turn.2.engine id
  have grew := grows_noted change (now.state.engine id)
  apply turn_of_alters turn both
  · rw [noted_state]
    exact ⟨traced.results_iff, by rw [grew.event]; exact traced.source,
      traced.canonical, by simpa [Engine.savedSegments] using traced.saved⟩
  · refine ⟨was.toGrows.trans ⟨grew.event, grew.token⟩, fun same => ?_⟩
    cases given : change.results with
    | none =>
        rw [noted_state, kept given]
        apply was.ast
        simpa [noted, given, counted] using same
    | some results =>
        have bound := was.token
        simp [noted, given, counted, Engine.takeToken] at same
        omega

/-- Showing a tree together with results that come from it upholds the
contract. -/
theorem upholds_apply_source {change : Engine.Change} {root : Filter.Root}
    {results : Results} (turn : contract.Turn start now)
    (canonical : root.Canonical)
    (source : Source now (now.state.engine id).event root results)
    (shown : change.results = some (some results))
    (tree : change.ast = some (some root.toJson)) :
    (apply id change).Upholds contract
      (fun _ began ended => contract.Turn began ended) start now := by
  have read : change.root = .ok (some (some root)) := by
    unfold Engine.Change.root
    rw [tree]
    show (Filter.Root.ofJson root.toJson >>= _) = _
    rw [Filter.Root.ofJson_toJson canonical]
    rfl
  apply upholds_apply turn read
  · refine ⟨by simp [Engine.Change.apply, shown], ?_, ?_, (turn.1 id).saved⟩
    · intro other found ast brought
      simp only [Engine.Change.apply, shown, Option.getD_some,
        Option.some.injEq] at ast brought
      exact ast ▸ brought ▸ source
    · intro other ast
      simp only [Engine.Change.apply, Option.getD_some,
        Option.some.injEq] at ast
      exact ast ▸ canonical
  · intro none
    rw [shown] at none
    cases none

/-- Giving the tree on screen once more keeps it. -/
theorem upholds_apply_same {change : Engine.Change}
    (turn : contract.Turn start now) (kept : change.results = none)
    (tree : change.ast =
      some ((now.state.engine id).state.ast.map Filter.Root.toJson)) :
    (apply id change).Upholds contract
      (fun _ began ended => contract.Turn began ended) start now := by
  have traced := turn.1 id
  have read : change.root = .ok (some (now.state.engine id).state.ast) := by
    unfold Engine.Change.root
    rw [tree]
    cases shown : (now.state.engine id).state.ast with
    | none => rfl
    | some root =>
        show (Filter.Root.ofJson root.toJson >>= _) = _
        rw [Filter.Root.ofJson_toJson (traced.canonical root shown)]
        rfl
  apply upholds_apply turn read
  · have results : (change.apply (some (now.state.engine id).state.ast)
        (now.state.engine id).state).results =
          (now.state.engine id).state.results := by
      simp [Engine.Change.apply, kept]
    exact traced.of_sameRows
      ⟨rfl, rfl, results, rfl, fun canonical => canonical⟩
  · exact fun _ => rfl

/-- Clearing the screen upholds the contract. -/
theorem upholds_clear (turn : contract.Turn start now) (id : EngineId) :
    (clear id).Upholds contract
      (fun _ began ended => contract.Turn began ended) start now := by
  have alters : Alters id _ now.state _ :=
    ((Alters.of_modifyEngine counted).trans
      (.of_modifyEngine Engine.takeToken)).trans (.of_transition cleared)
  refine ⟨grows_of_alters alters fun engine => ⟨rfl, Nat.le_succ _⟩, ?_⟩
  apply upholds_persist
  apply turn_of_alters turn alters
  · exact ⟨by simp [cleared], by simp [cleared], by simp [cleared],
      (turn.1 id).saved⟩
  · have was := (turn.2.engine id).toGrows
    refine ⟨⟨was.event, Nat.le_succ_of_le was.token⟩, fun same => ?_⟩
    have bound := was.token
    simp only [counted, Engine.takeToken] at same
    omega

end Showing

section Restoring

variable {start : Registry} {now : World Registry} {id : EngineId}

/-- Restoring a tree together with results that come from it upholds the
contract, whether it is accepted or not. -/
theorem upholds_restore {restored : Registry.Restored} {root : Filter.Root}
    {generation : Option Int} (turn : contract.Turn start now)
    (canonical : root.Canonical)
    (source : Source now (now.state.engine id).event root restored.results)
    (tree : restored.ast = some root) :
    (Flow.modify fun registry : Registry =>
      (registry.restore id restored generation).2).Upholds contract
        (fun _ began ended => contract.Turn began ended) start now := by
  show contract.change now.state (now.state.restore id restored generation).2 ∧
    contract.Turn start
      { now with state := (now.state.restore id restored generation).2 }
  obtain refused | accepted :=
    Registry.restore_cases now.state id restored generation
  · rw [refused]
    exact ⟨contract.change_of_moves (contract.moves_refl _), turn⟩
  rw [accepted]
  have alters : Alters id _ now.state _ :=
    (Alters.of_modifyEngine (fun engine : Engine =>
      engine.takeToken.moveTo engine.firstPage)).trans
      (.of_transition restored.apply)
  have middle := turn_of_alters turn alters (by
    refine ⟨?_, ?_, ?_, (turn.1 id).saved⟩
    · simp [Registry.Restored.apply, tree]
    · intro other results ast brought
      simp only [Registry.Restored.apply, tree, Option.some.injEq]
        at ast brought
      exact ast ▸ brought ▸ source
    · intro other ast
      simp only [Registry.Restored.apply, tree, Option.some.injEq] at ast
      exact ast ▸ canonical) (by
    have was := (turn.2.engine id).toGrows
    refine ⟨⟨was.event, Nat.le_succ_of_le was.token⟩, fun same => ?_⟩
    have bound := was.token
    simp only [Engine.moveTo, Engine.takeToken] at same
    omega)
  have filled := permits.update middle (sameRows_backfillPrompt _ id)
  have grown := grows_of_alters alters fun engine => ⟨rfl, Nat.le_succ _⟩
  exact ⟨contract.change_trans grown (contract.change_of_moves filled.moved),
    filled.turn⟩

/-- Running a canonical tree and restoring the engine to its results upholds the
contract. -/
theorem upholds_restoreRun {root : Filter.Root} {debug : Bool}
    {generation : Nat} {restored : Results → Registry.Restored}
    (turn : contract.Turn start now) (canonical : root.Canonical)
    (tree : ∀ results, (restored results).ast = some root)
    (same : ∀ results, (restored results).results = results) :
    (restoreRun id root debug generation restored).Upholds contract
      (fun _ began ended => contract.Turn began ended) start now := by
  show Flow.Upholds contract
    (Flow.bind (Client.runSegment _ (some root.filter) debug _) _) _ _ _
  apply Flow.upholds_bind.mpr
  apply (Client.upholds_runSegment_replied permits_quiet turn _ _ _ _).mono
  intro result began ended ⟨passed, replied⟩
  obtain fault | problem | results := result
  · exact passed.turn
  · exact passed.turn
  obtain ⟨node, json, filter, found, read⟩ := replied results rfl
  cases filter
  apply upholds_restore passed.turn canonical _ (tree results)
  rw [same, (passed.moved.engine id).event]
  exact .inl ⟨debug, _, json, found, read⟩

/-- Restoring an engine from a document upholds the contract. -/
theorem upholds_restoreFromDocument (turn : contract.Turn start now)
    (id : EngineId) :
    (restoreFromDocument id).Upholds contract
      (fun _ began ended => contract.Turn began ended) start now := by
  show Flow.Upholds contract (Flow.bind (Store.read _ false) _) _ _ _
  apply Flow.upholds_bind.mpr
  apply (upholds_quiet (Store.makes_read _ false) turn).mono
  intro result began ended ⟨passed, _⟩
  obtain fault | document := result
  · exact passed.turn
  dsimp only
  split
  · exact passed.turn
  split
  · show Flow.Upholds contract (Flow.bind (Flow.ofNormal _) _) _ _ _
    cases normal : Filter.Root.ofJson (document.ai.ast.getD .null) with
    | error misuse => exact passed.turn
    | ok root =>
        exact upholds_restoreRun passed.turn
          (Filter.Root.canonical_ofJson normal) (fun _ => rfl) (fun _ => rfl)
  · split
    · rename_i segment _
      apply Flow.upholds_bind.mpr
      apply (upholds_requireSaved passed.turn id segment).mono
      intro result began ended ⟨required, canonical⟩
      obtain fault | problem | saved := result
      · exact required.turn
      · exact required.turn
      · exact upholds_restoreRun required.turn (canonical saved rfl)
          (fun _ => rfl) (fun _ => rfl)
    · exact passed.turn

/-- Concluding the restoring of an engine upholds the contract. -/
theorem upholds_concludeRestoring (turn : contract.Turn start now)
    (id : EngineId) (result : Except Fault Unit) :
    (concludeRestoring id result).Upholds contract
      (fun _ began ended => contract.Turn began ended) start now := by
  obtain fault | _ := result
  · cases fault with
    | problem problem =>
        refine upholds_update turn (sameRows_modifyEngine
          ⟨rfl, rfl, rfl, rfl, fun canonical => canonical⟩) fun kept => ?_
        exact upholds_update kept.turn (sameRows_modifyEngine
          ⟨rfl, rfl, rfl, rfl, fun canonical => canonical⟩) fun set => set.turn
    | _ =>
        exact upholds_update turn (sameRows_modifyEngine
          ⟨rfl, rfl, rfl, rfl, fun canonical => canonical⟩) fun set => set.turn
  · exact upholds_update turn (sameRows_modifyEngine
      ⟨rfl, rfl, rfl, rfl, fun canonical => canonical⟩) fun set => set.turn

/-- The one-time restoring of an engine upholds the contract. -/
theorem upholds_restoring (turn : contract.Turn start now) (id : EngineId) :
    (restoring id).Upholds contract
      (fun _ began ended => contract.Turn began ended) start now := by
  refine upholds_update turn
    (sameRows_modifyEngine ⟨rfl, rfl, rfl, rfl, fun canonical => canonical⟩)
    fun begun => ?_
  apply Flow.upholds_finish.mpr
  apply (upholds_restoreFromDocument begun.turn id).mono
  intro result began ended restored
  exact upholds_concludeRestoring restored id result

/-- Waiting for an engine to be restored upholds the contract. -/
theorem upholds_hydrate (turn : contract.Turn start now) (id : EngineId) :
    (hydrate id).Upholds contract
      (fun _ began ended => contract.Turn began ended) start now := by
  refine ⟨turn, fun result later moved => ?_⟩
  have waited := (Contract.Passed.of_later moved).turn
  obtain fault | _ := result
  · exact waited
  · exact waited

end Restoring

end Provenance
end Audience
