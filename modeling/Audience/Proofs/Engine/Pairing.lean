import Audience.Proofs.Engine.Restoring

/-!
# Which tree a saved segment belongs to

The identifier of a saved segment is on screen together with the tree of that
segment.  The two come as a pair: from a prompt whose tree was saved under the
identifier, from a saved segment that was run again, or from the stored document
that was restored.  Whoever writes the AI block writes the pair that is on
screen.  The contract here says so, and it leaves one thing open: a renaming
gives the identifier that it was asked for to whatever tree is on screen when it
is answered.
-/

namespace Audience
namespace Pairing

open Registry (Quiet Alters)
open Provenance (AllEngines counted noted alters_noted)
open Restoring (WritesNothing)
open Engine

/-- A saved segment and a tree are a pair.  The tree came from a prompt and was
saved as the segment; or it was run while the list of saved segments had it under
the segment; or it was run while the document had both. -/
inductive Belongs (world : World Registry) (id : EngineId)
    (event identifier : String) (root : Filter.Root) : Prop where
  | generated {body told json : Json} {results : Results}
      {prompt title : String} {saved : SavedSegment}
      (prompted : Client.Replied world "POST"
        (Client.pathOf event "segments/generative") (some body) told)
      (brought : Generated.read told = .value { segment := root, results })
      (created : Client.Replied world "POST"
        (Client.pathOf event "saved-segments")
        (some (Client.createBody prompt root title false)) json)
      (read : Client.readSavedRow json = .ok saved)
      (named : saved.id = identifier)
  | listed {asked : Registry} {debug : Bool} {page : Option Page} {json : Json}
      {segment : SavedSegment}
      (ran : Client.Answered world asked "POST" (Client.pathOf event "segments")
        (some (Client.runBody root.filter debug page)) json)
      (member : segment ∈ (asked.engine id).savedSegments)
      (named : segment.id = identifier)
      (tree : segment.ast = root)
  | stored {asked : Registry} {debug : Bool} {page : Option Page} {json : Json}
      (ran : Client.Answered world asked "POST" (Client.pathOf event "segments")
        (some (Client.runBody root.filter debug page)) json)
      (named : (asked.cache.document event).ai.savedSegmentId = some identifier)
      (tree : Filter.Root.ofJson
        ((asked.cache.document event).ai.ast.getD .null) = .ok root)

/-- A renaming of a saved segment was asked for while the segment was on screen
with another tree, and was answered. -/
def Astray (world : World Registry) (id : EngineId) (identifier : String)
    (tree : Option Filter.Root) : Prop :=
  ∃ (asked : Registry) (title : String) (json : Json),
    Client.Answered world asked "PATCH"
      (Client.pathOf (asked.engine id).event (Client.segmentSuffix identifier))
      (some (titleChange title).toJson) json ∧
    (asked.engine id).state.savedId = some identifier ∧
    (asked.engine id).state.ast ≠ tree

/-- The saved segment on screen and the tree on screen are a pair, unless a
renaming of the segment went astray. -/
def Matched (world : World Registry) (id : EngineId) (engine : Engine) : Prop :=
  ∀ identifier, engine.state.savedId = some identifier →
    (∃ root, engine.state.ast = some root ∧
      Belongs world id engine.event identifier root) ∨
    Astray world id identifier engine.state.ast

/-- A call writes what is on the screen of an engine. -/
def Carries (id : EngineId) (asked : Registry) (call : Call) : Prop :=
  ∃ block : AiBlock,
    asked.client.call "PUT" (Store.path (asked.engine id).event)
      (some (Audience.Change.ofAi block).wire) = .ok call ∧
    block.savedSegmentId = (asked.engine id).state.savedId ∧
    block.ast = (asked.engine id).state.ast.map Filter.Root.toJson

/-- What is on screen is matched, and all trees at hand are canonical. -/
structure Sound (world : World Registry) (id : EngineId) (engine : Engine) :
    Prop where
  matched : Matched world id engine
  canonical : ∀ root, engine.state.ast = some root → root.Canonical
  saved : ∀ segment ∈ engine.savedSegments, segment.ast.Canonical

/-- What was on screen when a call was sent was matched, and a call that writes
carries it. -/
structure Recorded (world : World Registry) (entry : Registry × Call) :
    Prop where
  matched : ∀ id, Matched world id (entry.1.engine id)
  carries : Store.isWrite entry.2 = true → ∃ id, Carries id entry.1 entry.2

/-- The pair on screen stays. -/
structure SamePair (before after : Engine) : Prop where
  event : after.event = before.event
  savedId : after.state.savedId = before.state.savedId
  ast : after.state.ast = before.state.ast
  saved : (∀ segment ∈ before.savedSegments, segment.ast.Canonical) →
    ∀ segment ∈ after.savedSegments, segment.ast.Canonical

/-- An engine stays at its event. -/
def Stays (before after : Engine) : Prop := after.event = before.event

section Mono

variable {world later : World Registry} {id : EngineId}

theorem Belongs.mono {event identifier : String} {root : Filter.Root}
    (belongs : Belongs world id event identifier root)
    (grown : later.Extends world) :
    Belongs later id event identifier root := by
  cases belongs with
  | generated prompted brought created read named =>
      exact .generated (prompted.mono grown) brought (created.mono grown) read
        named
  | listed ran member named tree =>
      exact .listed (ran.mono grown) member named tree
  | stored ran named tree => exact .stored (ran.mono grown) named tree

theorem Astray.mono {identifier : String} {tree : Option Filter.Root}
    (astray : Astray world id identifier tree) (grown : later.Extends world) :
    Astray later id identifier tree := by
  obtain ⟨asked, title, json, answered, shown, other⟩ := astray
  exact ⟨asked, title, json, answered.mono grown, shown, other⟩

/-- What is matched stays matched. -/
theorem Matched.mono {engine : Engine} (matched : Matched world id engine)
    (grown : later.Extends world) : Matched later id engine := by
  intro identifier shown
  obtain ⟨root, ast, belongs⟩ | astray := matched identifier shown
  · exact .inl ⟨root, ast, belongs.mono grown⟩
  · exact .inr (astray.mono grown)

theorem Sound.mono {engine : Engine} (sound : Sound world id engine)
    (grown : later.Extends world) : Sound later id engine :=
  { sound with matched := sound.matched.mono grown }

theorem Recorded.mono {entry : Registry × Call}
    (recorded : Recorded world entry) (grown : later.Extends world) :
    Recorded later entry :=
  { recorded with matched := fun id => (recorded.matched id).mono grown }

/-- Keeping the pair keeps it matched. -/
theorem Sound.of_samePair {before after : Engine}
    (sound : Sound world id before) (same : SamePair before after) :
    Sound world id after where
  matched := by
    intro identifier shown
    rw [same.savedId] at shown
    rw [same.ast, same.event]
    exact sound.matched identifier shown
  canonical root ast := sound.canonical root (same.ast ▸ ast)
  saved := same.saved sound.saved

end Mono

namespace SamePair

theorem refl (engine : Engine) : SamePair engine engine :=
  ⟨rfl, rfl, rfl, id⟩

theorem trans {first second third : Engine} (early : SamePair first second)
    (late : SamePair second third) : SamePair first third :=
  ⟨late.event.trans early.event, late.savedId.trans early.savedId,
    late.ast.trans early.ast, fun canonical => late.saved (early.saved canonical)⟩

theorem of_retitled {before after : Engine} (quiet : before.Retitled after) :
    SamePair before after := by
  obtain ⟨title, rfl⟩ := quiet
  exact ⟨rfl, rfl, rfl, id⟩

end SamePair

/-- What all flows rely on that bring saved segments on screen. -/
def contract : Contract Registry where
  inv world :=
    (∀ id, Sound world id (world.state.engine id)) ∧
      ∀ entry ∈ world.sent, Recorded world entry
  moves := AllEngines Stays
  change := AllEngines Stays
  replies _ _ := True
  moves_refl _ := ⟨fun _ => rfl, fun _ => Iff.rfl⟩
  moves_trans early late :=
    ⟨fun id => (late.engine id).trans (early.engine id),
      fun id => (late.has id).trans (early.has id)⟩
  change_trans early late :=
    ⟨fun id => (late.engine id).trans (early.engine id),
      fun id => (late.has id).trans (early.has id)⟩
  change_of_moves moves := moves

/-- The contract holds on after a call that writes only what is on screen. -/
theorem inv_send {now : World Registry} {call : Call}
    (holds : contract.inv now)
    (carries : Store.isWrite call = true → ∃ id, Carries id now.state call) :
    contract.inv (now.send call) := by
  have grown := World.Extends.of_send call now
  refine ⟨fun id => (holds.1 id).mono grown, fun entry member => ?_⟩
  obtain old | new := List.mem_append.mp member
  · exact (holds.2 entry old).mono grown
  · obtain rfl := List.mem_singleton.mp new
    exact ⟨fun id => (holds.1 id).matched.mono grown, carries⟩

theorem not_isWrite {call : Call} (nothing : WritesNothing call) :
    ¬ Store.isWrite call = true := by
  intro write
  exact nothing (beq_iff_eq.mp write)

/-- The contract minds neither changes that keep the pair nor calls that write
nothing. -/
theorem tolerates : contract.Tolerates (AllEngines SamePair) WritesNothing where
  moves _ _ same := ⟨fun id => (same.engine id).event, same.has⟩
  inv now state same holds :=
    ⟨fun id => ((holds.1 id).of_samePair (same.engine id)).mono
        (.of_state now state),
      fun entry member => (holds.2 entry member).mono (.of_state now state)⟩
  send _ _ nothing holds :=
    inv_send holds fun write => absurd write (not_isWrite nothing)
  deliver now number reply holds :=
    ⟨fun id => (holds.1 id).mono (.of_deliver number reply now),
      fun entry member =>
        (holds.2 entry member).mono (.of_deliver number reply now)⟩

theorem samePair_of_quiet {before after : Registry}
    (quiet : before.Quiet after) : AllEngines SamePair before after :=
  ⟨fun id => .of_retitled (quiet.engine id), quiet.has⟩

/-- Nor does it mind quiet changes. -/
theorem tolerates_quiet : contract.Tolerates Quiet WritesNothing :=
  { tolerates with
    moves := fun _ _ quiet => tolerates.moves _ _ (samePair_of_quiet quiet)
    inv := fun _ _ quiet => tolerates.inv _ _ (samePair_of_quiet quiet) }

section Keeping

variable {registry before after : Registry} {id : EngineId}

/-- A change of one engine that keeps its pair keeps all pairs. -/
theorem samePair_of_alters {change : Engine → Engine}
    (alters : Alters id change before after)
    (same : SamePair (before.engine id) (change (before.engine id))) :
    AllEngines SamePair before after := by
  refine ⟨fun other => ?_, alters.has⟩
  rw [alters.engine]
  split
  · rename_i here
    rw [here.1]
    exact same
  · exact .refl _

theorem samePair_trans {first second third : Registry}
    (early : AllEngines SamePair first second)
    (late : AllEngines SamePair second third) :
    AllEngines SamePair first third :=
  ⟨fun id => (early.engine id).trans (late.engine id),
    fun id => (late.has id).trans (early.has id)⟩

theorem samePair_modifyEngine {change : Engine → Engine}
    (same : SamePair (registry.engine id) (change (registry.engine id))) :
    AllEngines SamePair registry (registry.modifyEngine id change) :=
  samePair_of_alters (.of_modifyEngine change) same

theorem samePair_transition {change : AiState → AiState}
    (savedId : ∀ state, (change state).savedId = state.savedId)
    (ast : ∀ state, (change state).ast = state.ast) :
    AllEngines SamePair registry (registry.transition id change) :=
  samePair_of_alters (.of_transition change)
    ⟨rfl, savedId _, ast _, fun canonical => canonical⟩

theorem samePair_backfillPrompt (registry : Registry) (id : EngineId) :
    AllEngines SamePair registry (registry.backfillPrompt id) := by
  unfold Registry.backfillPrompt
  split
  · exact samePair_transition (fun _ => rfl) (fun _ => rfl)
  · exact ⟨fun _ => .refl _, fun _ => Iff.rfl⟩

/-- Dropping the list keeps the pair. -/
theorem samePair_dropSaved (registry : Registry) (id : EngineId) :
    AllEngines SamePair registry
      (registry.modifyEngine id fun engine => { engine with saved := none }) :=
  samePair_modifyEngine ⟨rfl, rfl, rfl, by simp [Engine.savedSegments]⟩

end Keeping

section Loading

variable {start : Registry} {now : World Registry}

theorem fits_get {call : Call} (get : call.method = Text.upper "GET") :
    WritesNothing call :=
  Restoring.writesNothing_of_get get

theorem fits_post {call : Call} (post : call.method = Text.upper "POST") :
    WritesNothing call :=
  Restoring.writesNothing_of_post post

theorem fits_patch {call : Call} (patch : call.method = Text.upper "PATCH") :
    WritesNothing call := by
  unfold WritesNothing
  rw [patch]
  decide

/-- A change that keeps the pair passes. -/
theorem upholds_update {α : Type} {state : Registry} {next : Flow Registry α}
    {ends : Except Fault α → Registry → World Registry → Prop}
    (turn : contract.Turn start now)
    (same : AllEngines SamePair now.state state)
    (rest : contract.Passed now start { now with state } →
      next.Upholds contract ends start { now with state }) :
    (Flow.update state next).Upholds contract ends start now :=
  ⟨tolerates.moves _ _ same, rest (tolerates.update turn same)⟩

/-- What passes leaves the event of an engine as it is. -/
theorem event_of_passed {began : Registry} {ended : World Registry}
    (passed : contract.Passed now began ended) (id : EngineId) :
    (ended.state.engine id).event = (now.state.engine id).event :=
  passed.moved.engine id

theorem makes_loadListOf (id : EngineId) (event : String) (now : Registry) :
    (loadListOf id event).Makes (AllEngines SamePair) (fun _ => True) now := by
  apply Flow.Makes.bind
  apply ((Client.makes_listSaved event now).relax
    fun _ _ quiet => samePair_of_quiet quiet).mono
  intro result canonical
  obtain fault | problem | segments := result
  · trivial
  · exact fun _ => trivial
  · exact fun later => ⟨samePair_modifyEngine
      ⟨rfl, rfl, rfl, fun _ => canonical segments rfl⟩, trivial⟩

theorem makes_loadSaved (id : EngineId) (refresh : Bool) (now : Registry) :
    (loadSaved id refresh).Makes (AllEngines SamePair) (fun _ => True) now :=
  Provenance.makes_loadSaved (makes_loadListOf id)
    (fun later => samePair_backfillPrompt later id) refresh now

/-- Loading the saved segments passes. -/
theorem upholds_loadSaved (turn : contract.Turn start now) (id : EngineId)
    (refresh : Bool) :
    (loadSaved id refresh).Upholds contract
      (fun _ began ended => contract.Passed now began ended) start now :=
  (tolerates.upholds (makes_loadSaved id refresh now.state)
    (Restoring.sends_loadSaved (fun _ => Restoring.writesNothing_of_get) id
      refresh) turn).mono fun _ _ _ => And.left

/-- A segment that is found is on the list. -/
theorem mem_of_findSaved? {engine : Engine} {segment : String}
    {saved : SavedSegment} (found : engine.findSaved? segment = some saved) :
    saved ∈ engine.savedSegments := by
  unfold Engine.findSaved? at found
  split at found
  · cases found
  · exact List.mem_of_find?_eq_some found

/-- A saved segment that is required is on the list in the end. -/
theorem upholds_requireSaved (turn : contract.Turn start now) (id : EngineId)
    (segment : String) :
    (requireSaved id segment).Upholds contract (fun result began ended =>
      contract.Passed now began ended ∧ ∀ saved, result = .ok (.ok saved) →
        saved ∈ (ended.state.engine id).savedSegments) start now := by
  have looks {began : Registry} {found : World Registry}
      (passed : contract.Passed now began found) :
      (findSaved id segment).Upholds contract (fun result began ended =>
        contract.Passed now began ended ∧ ∀ saved, result = .ok (some saved) →
          saved ∈ (ended.state.engine id).savedSegments) began found :=
    ⟨passed, fun saved same => mem_of_findSaved? (Except.ok.inj same)⟩
  apply Flow.upholds_bind.mpr
  apply (upholds_loadSaved turn id false).mono
  intro result began ended passed
  obtain fault | problem | segments := result
  · exact ⟨passed, by simp⟩
  · exact ⟨passed, by simp⟩
  apply Flow.upholds_bind.mpr
  apply (looks passed).mono
  intro result began ended ⟨first, member⟩
  obtain fault | _ | saved := result
  · exact ⟨first, by simp⟩
  · apply Flow.upholds_bind.mpr
    apply (upholds_loadSaved first.turn id true).mono
    intro result began ended reloaded
    have second := first.trans reloaded
    obtain fault | problem | segments := result
    · exact ⟨second, by simp⟩
    · exact ⟨second, by simp⟩
    apply Flow.upholds_bind.mpr
    apply (looks second).mono
    intro result began ended ⟨third, member⟩
    obtain fault | _ | saved := result
    · exact ⟨third, by simp⟩
    · exact ⟨third, by simp⟩
    · refine ⟨third, fun other same => ?_⟩
      cases same
      exact member saved rfl
  · refine ⟨first, fun other same => ?_⟩
    cases same
    exact member saved rfl

/-- Changing a saved segment passes, and its answer was asked for with what was
on screen. -/
theorem upholds_updateSaved (turn : contract.Turn start now) (id : EngineId)
    (segment : String) (patch : SavedSegment.Patch) :
    (updateSaved id segment patch).Upholds contract (fun result began ended =>
      contract.Passed now began ended ∧ ∀ saved, result = .ok (.ok saved) →
        ∃ json, Client.Answered ended now.state.opened "PATCH"
          (Client.pathOf (now.state.engine id).event
            (Client.segmentSuffix segment)) (some patch.toJson) json)
      start now := by
  show Flow.Upholds contract
    (Flow.bind (Client.updateSaved _ segment patch) _) _ _ _
  apply Flow.upholds_bind.mpr
  apply (Client.upholds_updateSaved_answered tolerates_quiet turn _ segment
    patch fun _ => fits_patch).mono
  intro result began ended ⟨passed, answered⟩
  obtain fault | problem | saved := result
  · exact ⟨passed, by simp⟩
  · exact ⟨passed, by simp⟩
  obtain ⟨json, found, read⟩ := answered saved rfl
  have listed : AllEngines SamePair ended.state
      (ended.state.modifyEngine id (Engine.replaceSaved saved)) :=
    samePair_modifyEngine ⟨rfl, rfl, rfl, Provenance.canonical_replaceSaved
      (Client.canonical_readSavedRow read)⟩
  refine upholds_update passed.turn ?_ fun replaced =>
    ⟨passed.trans replaced, fun other same => ⟨json, found.mono replaced.grown⟩⟩
  dsimp only
  split
  · exact samePair_trans listed
      (samePair_transition (fun _ => rfl) (fun _ => rfl))
  · exact listed

end Loading

section Showing

variable {start : Registry} {now : World Registry} {id : EngineId}

theorem engine_of_alters {change : Engine → Engine} {before after : Registry}
    (alters : Alters id change before after) (has : before.Has id) :
    after.engine id = change (before.engine id) := by
  rw [alters.engine, if_pos ⟨rfl, has⟩]

/-- A change of one engine that stays at its event. -/
theorem stays_of_alters {change : Engine → Engine} {before after : Registry}
    (alters : Alters id change before after)
    (event : ∀ engine, (change engine).event = engine.event) :
    AllEngines Stays before after := by
  refine ⟨fun other => ?_, alters.has⟩
  rw [Stays, alters.engine]
  split
  · exact event _
  · rfl

/-- A change of one engine ends a stretch well if that engine is sound
afterwards. -/
theorem turn_of_alters {change : Engine → Engine} {state : Registry}
    (turn : contract.Turn start now)
    (alters : Alters id change now.state state)
    (event : ∀ engine, (change engine).event = engine.event)
    (sound : Sound now id (change (now.state.engine id))) :
    contract.Turn start { now with state } := by
  have grown := World.Extends.of_state now state
  refine ⟨⟨fun other => ?_, fun entry member => ?_⟩,
    contract.moves_trans turn.2 (stays_of_alters alters event)⟩
  · show Sound _ other (state.engine other)
    rw [alters.engine]
    split
    · rename_i here
      rw [here.1]
      exact sound.mono grown
    · exact (turn.1.1 other).mono grown
  · exact (turn.1.2 entry member).mono grown

/-- What follows a flow that ends its stretches well, and only ends. -/
theorem upholds_thenDone {α β : Type} {flow : Flow Registry α}
    {value : α → β} (upheld : flow.Upholds contract
      (fun _ began ended => contract.Turn began ended) start now) :
    (flow.bind fun result => .done (value result)).Upholds contract
      (fun _ began ended => contract.Turn began ended) start now := by
  apply Flow.upholds_bind.mpr
  apply upheld.mono
  intro result began ended turn
  obtain fault | _ := result
  · exact turn
  · exact turn

/-- Sending an AI block with the pair on screen passes. -/
theorem upholds_put {event : String} {block : AiBlock}
    (turn : contract.Turn start now)
    (same : event = (now.state.engine id).event)
    (named : block.savedSegmentId = (now.state.engine id).state.savedId)
    (tree : block.ast =
      (now.state.engine id).state.ast.map Filter.Root.toJson) :
    (Store.put event (.ofAi block)).Upholds contract
      (fun _ began ended => contract.Turn began ended) start now := by
  have opened := tolerates_quiet.update turn Registry.quiet_opened
  apply Client.upholds_request (contract.change_of_moves opened.moved)
  · exact fun misuse => turn
  · exact fun misuse => opened.turn
  · intro call made
    subst same
    refine ⟨⟨inv_send opened.inv fun _ => ⟨id, block, made, named, tree⟩,
      opened.began⟩, ?_⟩
    intro reply later known moved
    apply Flow.upholds_ofResult.mpr
    exact ⟨tolerates.deliver _ _ _ moved.inv, contract.moves_refl _⟩

/-- Settling a write keeps the pair. -/
theorem upholds_settle (turn : contract.Turn start now)
    (pending : PendingWrite) (change : Audience.Change)
    (answer : Except Fault Json) :
    (Store.settle pending change answer).Upholds contract
      (fun _ began ended => contract.Turn began ended) start now :=
  (tolerates_quiet.upholds (Store.makes_settle pending change answer now.state)
    (Restoring.sends_settle pending change answer) turn).mono
      fun _ _ _ passed => passed.1.turn

/-- Writing an AI block with the pair on screen upholds the contract. -/
theorem upholds_persist {block : AiBlock} (turn : contract.Turn start now)
    (named : block.savedSegmentId = (now.state.engine id).state.savedId)
    (tree : block.ast =
      (now.state.engine id).state.ast.map Filter.Root.toJson) :
    (persist id block).Upholds contract
      (fun _ began ended => contract.Turn began ended) start now := by
  show Flow.Upholds contract (Flow.bind (Store.write _ (.ofAi block)) _) _ _ _
  apply upholds_thenDone
  rw [Store.write_eq]
  simp only [Flow.Upholds]
  cases PendingWrite.stage _ (.ofAi block) now.state.cache with
  | error fault => exact turn
  | ok pending =>
      have quiet : now.state.Quiet (now.state.setDocument
          (now.state.engine id).event pending.staged) :=
        Registry.quiet_setDocument _ _
      have same := (samePair_of_quiet quiet).engine id
      refine upholds_update turn (samePair_of_quiet quiet) fun staged => ?_
      apply Flow.upholds_finish.mpr
      have sends := upholds_put staged.turn same.event.symm
        (named.trans same.savedId.symm)
        (tree.trans (congrArg _ same.ast.symm))
      apply sends.mono
      intro answer began ended sent
      exact upholds_settle sent pending (.ofAi block) answer

/-- A user's change upholds the contract if it brings an identifier and a tree,
and the engine is sound afterwards. -/
theorem upholds_apply {change : Engine.Change} {given : Option String}
    {tree : Option Filter.Root} (turn : contract.Turn start now)
    (has : now.state.Has id)
    (read : change.root = .ok (some tree)) (named : change.savedId = some given)
    (sound : Sound now id
      { now.state.engine id with
        state := change.apply (some tree) (now.state.engine id).state }) :
    (apply id change).Upholds contract
      (fun _ began ended => contract.Turn began ended) start now := by
  have first : Alters id (noted change) now.state _ :=
    alters_noted change now.state
  have event (engine : Engine) : (noted change engine).event = engine.event :=
    (Provenance.grows_noted change engine).event
  refine ⟨stays_of_alters first event, ?_⟩
  show Flow.Upholds contract (Flow.bind (Flow.ofNormal change.root) _) _ _ _
  rw [read]
  refine ⟨stays_of_alters (.of_transition _) fun _ => rfl, ?_⟩
  have both := first.trans (Alters.of_transition (change.apply (some tree)))
  have shown := turn_of_alters turn both event (by
    simp only [Provenance.noted_state]
    refine ⟨?_, sound.canonical, ?_⟩
    · intro identifier named
      rw [event]
      exact sound.matched identifier named
    · simpa [Engine.savedSegments] using sound.saved)
  have brought := engine_of_alters both has
  apply upholds_persist shown
  · rw [brought]
    simp [Engine.Change.block, Engine.Change.apply, named]
  · rw [brought]
    simp [Engine.Change.block, Engine.Change.apply]

/-- A canonical tree that a change brings is the one that comes on screen. -/
theorem root_of_canonical {change : Engine.Change} {tree : Option Filter.Root}
    (canonical : ∀ root, tree = some root → root.Canonical)
    (brought : change.ast = some (tree.map Filter.Root.toJson)) :
    change.root = .ok (some tree) := by
  unfold Engine.Change.root
  rw [brought]
  cases tree with
  | none => rfl
  | some root =>
      show (Filter.Root.ofJson root.toJson >>= _) = _
      rw [Filter.Root.ofJson_toJson (canonical root rfl)]
      rfl

/-- Bringing a saved segment on screen with its tree upholds the contract. -/
theorem upholds_show {change : Engine.Change} {given : Option String}
    {root : Filter.Root} (turn : contract.Turn start now)
    (has : now.state.Has id) (canonical : root.Canonical)
    (named : change.savedId = some given)
    (tree : change.ast = some (some root.toJson))
    (belongs : ∀ identifier, Registry.nonempty? given = some identifier →
      Belongs now id (now.state.engine id).event identifier root) :
    (apply id change).Upholds contract
      (fun _ began ended => contract.Turn began ended) start now := by
  have only (other : Filter.Root) (same : some root = some other) :
      other.Canonical := Option.some.inj same ▸ canonical
  apply upholds_apply turn has (root_of_canonical only tree) named
  refine ⟨fun identifier shown => .inl ⟨root, rfl, belongs identifier ?_⟩,
    only, (turn.1.1 id).saved⟩
  simpa [Engine.Change.apply, named] using shown

/-- Clearing the screen upholds the contract. -/
theorem upholds_clear (turn : contract.Turn start now)
    (has : now.state.Has id) :
    (clear id).Upholds contract
      (fun _ began ended => contract.Turn began ended) start now := by
  have alters : Alters id _ now.state _ :=
    ((Alters.of_modifyEngine counted).trans
      (.of_modifyEngine Engine.takeToken)).trans (.of_transition cleared)
  refine ⟨stays_of_alters alters fun _ => rfl, ?_⟩
  have gone := turn_of_alters turn alters (fun _ => rfl)
    ⟨fun identifier shown => (by cases shown),
      fun root shown => (by cases shown), (turn.1.1 id).saved⟩
  have empty := engine_of_alters alters has
  apply upholds_persist gone
  · exact (congrArg (fun engine => engine.state.savedId) empty).symm
  · exact (congrArg
      (fun engine => engine.state.ast.map Filter.Root.toJson) empty).symm

end Showing

section Restoring

variable {start : Registry} {now : World Registry} {id : EngineId}

/-- A document that was read is in the cache. -/
theorem upholds_read (turn : contract.Turn start now) (event : String) :
    (Store.read event false).Upholds contract (fun result began ended =>
      contract.Passed now began ended ∧ ∀ document, result = .ok document →
        ended.state.cache.document event = document) start now := by
  rw [Store.read_eq]
  apply Flow.upholds_locked turn
  intro later moved
  have waited := Contract.Passed.of_later moved
  have loads : (Store.load event).Upholds contract (fun result began ended =>
      contract.Passed now began ended ∧ ∀ document, result = .ok document →
        ended.state.cache.document event = document) later.state later := by
    rw [Store.load_eq]
    apply Flow.upholds_finish.mpr
    apply (tolerates_quiet.upholds (Client.makes_request _ _ _ _ later.state)
      ((Client.sends_request "GET" _ none _).relax fun _ => fits_get)
      waited.turn).mono
    intro answer began ended ⟨passed, _⟩
    cases Store.fetched answer with
    | error fault => exact ⟨waited.trans passed, by simp⟩
    | ok document =>
        have quiet : ended.state.Quiet
            (Store.kept event document ended.state) :=
          (Registry.quiet_modifyCache _).trans
            (Registry.quiet_setDocument _ _)
        refine upholds_update passed.turn (samePair_of_quiet quiet)
          fun kept => ⟨(waited.trans passed).trans kept, fun other same => ?_⟩
        cases same
        simp [Store.kept, Cache.document]
  simp only [Flow.Upholds]
  cases known : Keyed.get? event later.state.cache.documents with
  | none => exact loads
  | some document =>
      refine ⟨waited, fun other same => ?_⟩
      cases same
      simp [Cache.document, known]

/-- Restoring a tree that belongs to the identifier that comes with it upholds
the contract, whether it is accepted or not. -/
theorem upholds_restore {restored : Registry.Restored} {root : Filter.Root}
    {generation : Option Int} (turn : contract.Turn start now)
    (canonical : root.Canonical) (tree : restored.ast = some root)
    (belongs : ∀ identifier,
      Registry.nonempty? restored.savedId = some identifier →
        Belongs now id (now.state.engine id).event identifier root) :
    (Flow.modify fun registry : Registry =>
      (registry.restore id restored generation).2).Upholds contract
        (fun _ began ended => contract.Turn began ended) start now := by
  show contract.change now.state (now.state.restore id restored generation).2 ∧
    contract.Turn start
      { now with state := (now.state.restore id restored generation).2 }
  obtain refused | accepted :=
    Registry.restore_cases now.state id restored generation
  · rw [refused]
    exact ⟨contract.moves_refl _, turn⟩
  rw [accepted]
  have alters : Alters id _ now.state _ :=
    (Alters.of_modifyEngine (fun engine : Engine =>
      engine.takeToken.moveTo engine.firstPage)).trans
      (.of_transition restored.apply)
  have shown := turn_of_alters turn alters (fun _ => rfl)
    ⟨fun identifier named => .inl ⟨root, tree, belongs identifier named⟩,
      fun other ast => Option.some.inj (tree.symm.trans ast) ▸ canonical,
      (turn.1.1 id).saved⟩
  have filled := tolerates.update shown (samePair_backfillPrompt _ id)
  exact ⟨contract.change_trans (stays_of_alters alters fun _ => rfl)
    filled.moved, filled.turn⟩

/-- Running a tree and restoring the engine to it upholds the contract, if the
tree belongs to the identifier that comes with it once it was run. -/
theorem upholds_restoreRun {root : Filter.Root} {debug : Bool}
    {generation : Nat} {restored : Results → Registry.Restored}
    (turn : contract.Turn start now) (canonical : root.Canonical)
    (tree : ∀ results, (restored results).ast = some root)
    (belongs : ∀ results identifier world page json,
      Registry.nonempty? (restored results).savedId = some identifier →
      Client.Answered world now.state.opened "POST"
        (Client.pathOf (now.state.engine id).event "segments")
        (some (Client.runBody root.filter debug (some page))) json →
      Belongs world id (now.state.engine id).event identifier root) :
    (restoreRun id root debug generation restored).Upholds contract
      (fun _ began ended => contract.Turn began ended) start now := by
  show Flow.Upholds contract
    (Flow.bind (Client.runSegment _ (some root.filter) debug _) _) _ _ _
  apply Flow.upholds_bind.mpr
  apply (Client.upholds_runSegment_answered tolerates_quiet turn _ _ _ _
    fun _ => fits_post).mono
  intro result began ended ⟨passed, answered⟩
  obtain fault | problem | results := result
  · exact passed.turn
  · exact passed.turn
  obtain ⟨node, json, filter, found, read⟩ := answered results rfl
  cases filter
  apply upholds_restore passed.turn canonical (tree results)
  intro identifier named
  rw [event_of_passed passed id]
  exact belongs results identifier ended _ json named found

/-- Restoring an engine from a document upholds the contract. -/
theorem upholds_restoreFromDocument (turn : contract.Turn start now)
    (id : EngineId) :
    (restoreFromDocument id).Upholds contract
      (fun _ began ended => contract.Turn began ended) start now := by
  show Flow.Upholds contract (Flow.bind (Store.read _ false) _) _ _ _
  apply Flow.upholds_bind.mpr
  apply (upholds_read turn _).mono
  intro result began ended ⟨passed, known⟩
  obtain fault | document := result
  · exact passed.turn
  have cached := known document rfl
  dsimp only
  split
  · exact passed.turn
  split
  · show Flow.Upholds contract (Flow.bind (Flow.ofNormal _) _) _ _ _
    cases normal : Filter.Root.ofJson (document.ai.ast.getD .null) with
    | error misuse => exact passed.turn
    | ok root =>
        apply upholds_restoreRun passed.turn
          (Filter.Root.canonical_ofJson normal) (fun _ => rfl)
        intro results identifier world page json named ran
        refine .stored ran ?_ ?_
        · rw [Registry.opened_cache, event_of_passed passed id, cached]
          exact Registry.eq_some_of_nonempty? named
        · rw [Registry.opened_cache, event_of_passed passed id, cached]
          exact normal
  · split
    · rename_i segment _
      apply Flow.upholds_bind.mpr
      apply (upholds_requireSaved passed.turn id segment).mono
      intro result began ended ⟨required, member⟩
      obtain fault | problem | saved := result
      · exact required.turn
      · exact required.turn
      have listed := member saved rfl
      apply upholds_restoreRun required.turn
        ((required.inv.1 id).saved saved listed) (fun _ => rfl)
      intro results identifier world page json named ran
      exact .listed ran listed (Registry.eq_of_nonempty? named).symm rfl
    · exact passed.turn

/-- How far an engine is restored, and what problem that met, is no pair. -/
theorem samePair_learned (registry : Registry) (id : EngineId) (phase : Phase) :
    AllEngines SamePair registry
      (registry.modifyEngine id fun engine => { engine with phase }) :=
  samePair_modifyEngine ⟨rfl, rfl, rfl, fun canonical => canonical⟩

/-- Concluding the restoring of an engine upholds the contract. -/
theorem upholds_concludeRestoring (turn : contract.Turn start now)
    (id : EngineId) (result : Except Fault Unit) :
    (concludeRestoring id result).Upholds contract
      (fun _ began ended => contract.Turn began ended) start now := by
  obtain fault | _ := result
  · cases fault with
    | problem problem =>
        refine upholds_update turn (samePair_modifyEngine
          ⟨rfl, rfl, rfl, fun canonical => canonical⟩) fun kept => ?_
        exact upholds_update kept.turn (samePair_learned _ id .hydrated)
          fun set => set.turn
    | _ =>
        exact upholds_update turn (samePair_learned _ id .hydrated)
          fun set => set.turn
  · exact upholds_update turn (samePair_learned _ id .hydrated)
      fun set => set.turn

/-- The one-time restoring of an engine upholds the contract. -/
theorem upholds_restoring (turn : contract.Turn start now) (id : EngineId) :
    (restoring id).Upholds contract
      (fun _ began ended => contract.Turn began ended) start now := by
  refine upholds_update turn (samePair_learned _ id .hydrating)
    fun begun => ?_
  apply Flow.upholds_finish.mpr
  apply (upholds_restoreFromDocument begun.turn id).mono
  intro result began ended restored
  exact upholds_concludeRestoring restored id result

/-- Waiting for an engine to be restored passes. -/
theorem upholds_hydrate (turn : contract.Turn start now) (id : EngineId) :
    (hydrate id).Upholds contract
      (fun _ began ended => contract.Turn began ended) start now := by
  refine ⟨turn, fun result later moved => ?_⟩
  have waited := (Contract.Passed.of_later moved).turn
  obtain fault | _ := result
  · exact waited
  · exact waited

end Restoring

end Pairing
end Audience
