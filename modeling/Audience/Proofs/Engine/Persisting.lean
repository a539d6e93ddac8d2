import Audience.Proofs.Engine.Reloading
import Audience.Proofs.Engine.Tidiness

/-!
# What is on screen and what is stored

A user's change is merged twice: what it leaves out comes from the screen for
the screen, and from the cached block for the document.  So what is stored is
what is on screen exactly if the two agree on what is left out.  They do after a
change that was stored as it is on screen, but not after one that was taken
back, nor after a segment was restored from its identifier alone.
-/

namespace Audience

/-- The block that says what is on screen. -/
def AiState.block (state : AiState) : AiBlock :=
  { enabled := state.savedId.isSome || state.ast.isSome
    savedSegmentId := state.savedId
    ast := state.ast.map Filter.Root.toJson
    title := state.savedTitle }

namespace Persisting

open Engine
open Reloading (Backend)
open Tidiness (Readable Tidy)

/-- The trees of two blocks are sent alike. -/
def SameTree (first second : AiBlock) : Prop :=
  (first.ast.getD .null).onWire = (second.ast.getD .null).onWire

/-- What a change leaves out is in the block as it is on screen. -/
structure Agrees (change : Engine.Change) (block : AiBlock) (state : AiState) :
    Prop where
  savedId : change.savedId = none → block.savedSegmentId = state.savedId
  ast : change.ast = none → SameTree block state.block
  title : change.title = none → block.title = state.savedTitle

section Blocks

/-- Blocks are sent alike if and only if their parts are. -/
theorem onWire_toJson_eq {first second : AiBlock} :
    first.toJson.onWire = second.toJson.onWire ↔
      first.enabled = second.enabled ∧
        first.savedSegmentId = second.savedSegmentId ∧
        SameTree first second ∧ first.title = second.title := by
  have texts {one other : Option String} :
      Json.ofText? one = Json.ofText? other ↔ one = other := by
    cases one <;> cases other <;> simp [Json.ofText?]
  simp [AiBlock.toJson, Json.onWire, Json.fieldsOnWire, SameTree, texts]

/-- A tree in a block is an object or a list. -/
inductive Treelike : Option Json → Prop where
  | none : Treelike none
  | obj (fields : Fields) : Treelike (some (.obj fields))
  | arr (items : List Json) : Treelike (some (.arr items))

/-- The tree in a block that was read is one. -/
theorem treelike_of_read {json : Json} {block : AiBlock}
    (found : AiBlock.read json = .value block) : Treelike block.ast := by
  obtain ⟨enabled, savedId, ast, title⟩ := block
  obtain rfl | ⟨_, _, part, _, _, read⟩ := AiBlock.ast_of_read found
  · exact .none
  cases part with
  | arr items =>
      cases read
      exact .arr items
  | obj fields =>
      cases read
      exact .obj fields
  | _ =>
      cases read
      exact .none

/-- So is that in a document that can be read. -/
theorem treelike_of_readable {document : Document}
    (readable : Readable document) : Treelike document.ai.ast := by
  obtain ⟨fields, read⟩ := readable
  obtain same | ⟨key, json, _, part⟩ :=
    Reading.of_optional (Document.read_eq_value.mp read).2
  · rw [same]
    exact .none
  · cases json with
    | null => exact treelike_of_read part
    | _ => exact treelike_of_read part

/-- A tree that is sent like one of an engine is full exactly if that is
there. -/
theorem isFull_of_same {ast : Option Json} {root : Option Filter.Root}
    (treelike : Treelike ast)
    (same : (ast.getD .null).onWire =
      ((root.map Filter.Root.toJson).getD .null).onWire) :
    (ast.getD .null).isFull = root.isSome := by
  cases root with
  | none =>
      cases treelike with
      | none => rfl
      | obj fields => cases same
      | arr items => cases same
  | some root =>
      cases treelike with
      | none => cases same
      | arr items => cases same
      | obj fields =>
          cases fields with
          | nil => cases same
          | cons field rest => rfl

/-- A text that is not empty counts as present exactly if it is there. -/
theorem isSome_nonempty? {text : Option String} (full : text ≠ some "") :
    (Registry.nonempty? text).isSome = text.isSome := by
  cases text with
  | none => rfl
  | some text =>
      have some : text ≠ "" := fun empty => full (congrArg Option.some empty)
      simp [Registry.nonempty?, some]

variable {change : Engine.Change} {root : Option (Option Filter.Root)}
variable {prior : AiBlock} {state : AiState}

/-- A change brings a tree exactly if it is given one. -/
theorem root_of_none (normal : change.root = .ok root)
    (missing : change.ast = none) : root = none := by
  rw [Engine.Change.root, missing] at normal
  exact (Except.ok.inj normal).symm

theorem exists_root (normal : change.root = .ok root) {given : Option Json}
    (there : change.ast = some given) : ∃ tree, root = some tree := by
  rw [Engine.Change.root, there] at normal
  cases given with
  | none => exact ⟨none, (Except.ok.inj normal).symm⟩
  | some json =>
      obtain ⟨tree, -, same⟩ := Filter.bind_eq_ok.mp normal
      exact ⟨some tree, (Except.ok.inj same).symm⟩

/-- The block that is written has a tree as well. -/
theorem treelike_block (treelike : Treelike prior.ast) :
    Treelike (change.block root prior).ast := by
  obtain _ | _ | tree := root
  · exact treelike
  · exact .none
  · exact .obj _

/-- The block that is written is enabled exactly if the one on screen is, if they
agree otherwise. -/
theorem enabled_eq (treelike : Treelike prior.ast)
    (full : state.savedId ≠ some "")
    (savedId : (change.block root prior).savedSegmentId =
      state.block.savedSegmentId)
    (tree : SameTree (change.block root prior) state.block) :
    (change.block root prior).enabled = state.block.enabled := by
  have derived : (change.block root prior).enabled =
      ((Registry.nonempty? (change.block root prior).savedSegmentId).isSome ||
        ((change.block root prior).ast.getD .null).isFull) := rfl
  rw [derived, savedId, isFull_of_same (treelike_block treelike) tree]
  show ((Registry.nonempty? state.savedId).isSome || state.ast.isSome) = _
  rw [isSome_nonempty? full]
  rfl

/-- What a change writes is what it shows exactly if the cached block agrees with
the screen on what the change leaves out. -/
theorem block_is_shown_iff (normal : change.root = .ok root)
    (treelike : Treelike prior.ast) (full : state.savedId ≠ some "") :
    (change.block root prior).toJson.onWire =
        (change.apply root state).block.toJson.onWire ↔
      Agrees change prior state := by
  rw [onWire_toJson_eq]
  constructor
  · rintro ⟨-, savedId, tree, title⟩
    refine ⟨fun missing => ?_, fun missing => ?_, fun missing => ?_⟩
    · simpa [Engine.Change.block, Engine.Change.apply, AiState.block, missing]
        using savedId
    · obtain rfl := root_of_none normal missing
      exact tree
    · simpa [Engine.Change.block, Engine.Change.apply, AiState.block, missing]
        using title
  · intro agrees
    have savedId : (change.block root prior).savedSegmentId =
        (change.apply root state).block.savedSegmentId := by
      cases given : change.savedId with
      | none =>
          simpa [Engine.Change.block, Engine.Change.apply, AiState.block, given]
            using agrees.savedId given
      | some text =>
          simp [Engine.Change.block, Engine.Change.apply, AiState.block, given]
    have tree : SameTree (change.block root prior)
        (change.apply root state).block := by
      cases given : change.ast with
      | none =>
          obtain rfl := root_of_none normal given
          exact agrees.ast given
      | some json =>
          obtain ⟨tree, rfl⟩ := exists_root normal given
          rfl
    have title : (change.block root prior).title =
        (change.apply root state).block.title := by
      cases given : change.title with
      | none =>
          simpa [Engine.Change.block, Engine.Change.apply, AiState.block, given]
            using agrees.title given
      | some text =>
          simp [Engine.Change.block, Engine.Change.apply, AiState.block, given]
    exact ⟨enabled_eq treelike (Tidiness.savedId_apply change root full) savedId
      tree, savedId, tree, title⟩

end Blocks

section Runs

/-- What users do with engines. -/
inductive Task where
  | hydrate (id : EngineId)
  | apply (id : EngineId) (change : Engine.Change)
  | clear (id : EngineId)
  | openPrompt (id : EngineId) (defaults : Defaults) (surface : Option Surface)
  | openRefine (id : EngineId) (surface : Option Surface)

/-- What a task does. -/
def Task.flow : Task → Flow Registry Unit
  | hydrate id => (Engine.hydrate id).bind fun _ => .done ()
  | apply id change => Engine.apply id change
  | clear id => Engine.clear id
  | openPrompt id defaults surface =>
      (Engine.openPrompt id defaults surface).bind fun _ => .done ()
  | openRefine id surface =>
      (Engine.openRefine id surface).bind fun _ => .done ()

/-- Tasks that start at any time, one after the other or not, against a backend
that serves in any way. -/
def scene {β : Type} (serves : β → Call → Reply → β → Prop) :
    Scene Registry β Task Unit where
  flow := Task.flow
  restoring := Engine.restoring
  admits _ _ := True
  serves := serves

/-- Every task is tidy. -/
theorem keeps_task {start : Registry} (task : Task) :
    task.flow.Keeps (Tidy start) fun _ => True := by
  cases task with
  | hydrate id =>
      exact (Tidiness.keeps_hydrate id).andThen
        fun _ _ => Flow.keeps_done trivial
  | apply id change => exact Tidiness.keeps_apply id change
  | clear id => exact Tidiness.keeps_clear id
  | openPrompt id defaults surface =>
      exact (Tidiness.keeps_openPrompt id defaults surface).andThen
        fun _ _ => Flow.keeps_done trivial
  | openRefine id surface =>
      exact (Tidiness.keeps_openRefine id surface).andThen
        fun _ _ => Flow.keeps_done trivial

variable {β : Type} {serving : β → Call → Reply → β → Prop} {server : β}
variable {start registry later : Registry} {pool : Pool Registry β Unit}
variable {before after : Backend} {id : EngineId} {get : Call}

/-- A change of a tidy engine that the backend confirms. -/
theorem stored_iff_agrees (kept : Tidy start registry) (has : start.Has id)
    {change : Engine.Change}
    (asks : registry.client.call "GET" (Store.path (start.engine id).event)
      none = .ok get)
    (ran : (Engine.apply id change).Ran Reloading.serves registry before
      (.ok ()) later after) :
    Keyed.get? "ai" (after.document get.path) =
        some (later.engine id).state.block.toJson.onWire ↔
      Agrees change (registry.cache.document (start.engine id).event).ai
        (registry.engine id).state := by
  obtain ⟨root, normal, written, shows⟩ :=
    (Reloading.alone_apply (kept.event id) rfl asks).ran ran rfl
  obtain ⟨title, shown⟩ := shows ((kept.has id).mpr has)
  -- What is stored was merged with the cached block, what is shown with the
  -- screen; all that is left is to compare the two.
  have stored : Keyed.get? "ai" (after.document get.path) =
      some (change.block root (registry.cache.document
        (start.engine id).event).ai).toJson.onWire := by
    rw [written, Change.get?_written]
    simp [Memory.blocks, Change.ofAi, Change.wireBlock]
  rw [stored, shown, Option.some_inj]
  exact block_is_shown_iff normal (treelike_of_readable (kept.readable _))
    (kept.savedId id)

/-- Users did anything with engines, and the backend answered or failed in any
way.  Then a user changes an engine, and the backend confirms the write.  The AI
block that it stores says what is on screen if and only if the cached block
agreed with the screen on all that the change left out; in particular whenever
the change gave an identifier, a tree and a title. -/
theorem stored_block_is_shown_iff_agrees (tidy : Tidy start start)
    (has : start.Has id) (change : Engine.Change)
    (reached : (scene serving).Reach (.fresh start server) pool)
    (asks : pool.world.state.client.call "GET"
      (Store.path (start.engine id).event) none = .ok get)
    (ran : (Engine.apply id change).Ran Reloading.serves pool.world.state before
      (.ok ()) later after) :
    Keyed.get? "ai" (after.document get.path) =
        some (later.engine id).state.block.toJson.onWire ↔
      Agrees change (pool.world.state.cache.document (start.engine id).event).ai
        (pool.world.state.engine id).state :=
  stored_iff_agrees
    (Scene.keeps keeps_task (fun _ => Tidiness.keeps_restoring _) tidy reached)
    has asks ran

end Runs

section Confirmed

/-- The backend confirms every write, with nothing or with the document that it
stores. -/
def confirms (before : Backend) (call : Call) (reply : Reply)
    (after : Backend) : Prop :=
  Reloading.serves before call reply after ∧
    (Store.isWrite call = true → ∀ json, Client.ended none reply = .ok json →
      Document.unwrapFields json = [] ∨
        Document.Plain (after.document call.path) ∧
          Document.unwrapFields json = after.document call.path)

/-- The cached block is as the screen is. -/
def InStep (event : String) (id : EngineId) (registry : Registry) : Prop :=
  Agrees .empty (registry.cache.document event).ai (registry.engine id).state

/-- Then any change finds what it leaves out as it is on screen. -/
theorem InStep.agrees {event : String} {id : EngineId} {registry : Registry}
    (step : InStep event id registry) (change : Engine.Change) :
    Agrees change (registry.cache.document event).ai
      (registry.engine id).state :=
  ⟨fun _ => step.savedId rfl, fun _ => step.ast rfl, fun _ => step.title rfl⟩

/-- A tree is sent a second time as the first time. -/
theorem sameTree_onWire {block : AiBlock} (treelike : Treelike block.ast) :
    SameTree block.onWire block := by
  obtain ⟨enabled, savedId, ast, title⟩ := block
  cases treelike with
  | none => rfl
  | obj fields =>
      exact Json.onWire_of_isFinite _ (Json.isFinite_onWire (.obj fields))
  | arr items =>
      exact Json.onWire_of_isFinite _ (Json.isFinite_onWire (.arr items))

variable {registry later start : Registry} {server after before : Backend}
variable {id : EngineId} {block : AiBlock} {event : String}

/-- An own AI block is tried as it is sent. -/
theorem ai_staged {cache : Cache} {pending : PendingWrite}
    (tried : PendingWrite.stage event (.ofAi block) cache = .ok pending) :
    pending.staged.ai = block.onWire := by
  obtain ⟨-, -, read⟩ := PendingWrite.staged_of_stage tried
  obtain ⟨own, readable, -, staged⟩ := (Change.read_mergedFields _ _).mp read
  have ai := (Document.read_eq_value.mp readable).2
  rw [Change.aiIn_ofAi] at ai
  rw [staged]
  exact (Reading.value.inj ai).symm

/-- A reply that carries the stored document, or nothing, confirms the block. -/
theorem ai_confirmed {staged : Document} {fields : Fields} {json : Json}
    (tried : staged.ai = block.onWire)
    (carries : Document.unwrapFields json = [] ∨
      Document.Plain ((Change.ofAi block).written fields) ∧
        Document.unwrapFields json = (Change.ofAi block).written fields) :
    (Store.confirmed staged json).ai = block.onWire := by
  obtain nothing | ⟨plain, whole⟩ := carries
  · rw [Store.confirmed_of_nil nothing, tried]
  unfold Store.confirmed
  cases carried : Document.unwrapFields json with
  | nil => exact tried
  | cons field rest =>
      dsimp only
      rw [← carried, whole]
      cases read : Document.ofStored
          (.obj ((Change.ofAi block).written fields)) with
      | error problem => exact tried
      | ok document =>
          have found := Document.ofStored_eq_ok.mp read
          rw [plain.unwrapFields] at found
          exact Change.ai_of_written found

/-- A confirmed write leaves its block in the cache. -/
theorem alone_write :
    (Store.write event (.ofAi block)).Alone confirms (fun result later _ =>
      ∀ outcome, result = .ok outcome →
        (later.cache.document event).ai = block.onWire) registry server := by
  apply Store.alone_write
  · intro fault later outcome same
    cases same
  rintro pending call tried made reply after
    ⟨⟨_, json, answered, stored⟩, truthful⟩
  have named := (PendingWrite.staged_of_stage tried).1
  have writes := Store.isWrite_of_put made
  rw [if_pos writes, Client.body_of_call made] at stored
  have place : after.document call.path =
      (Change.ofAi block).written (server.document call.path) := by
    rw [Backend.document, stored, Keyed.get?_put_self]
    rfl
  have carries := truthful writes json answered
  rw [place] at carries
  have ai := ai_confirmed (ai_staged tried) carries
  rw [Store.confirmed_eq] at ai
  rw [answered]
  intro outcome _
  simp [Cache.document, named, ai]

/-- So does a change of the document of an engine's event. -/
theorem alone_persist (named : (registry.engine id).event = event) :
    (persist id block).Alone confirms (fun result later _ => result = .ok () →
      (later.cache.document event).ai = block.onWire) registry server :=
  Engine.alone_persist named alone_write

/-- A cached block that was written as it is on screen is in step. -/
theorem inStep_of_written
    (cached : (later.cache.document event).ai = block.onWire)
    (treelike : Treelike block.ast)
    (same : block.toJson.onWire =
      (later.engine id).state.block.toJson.onWire) :
    InStep event id later := by
  obtain ⟨-, savedId, tree, title⟩ := onWire_toJson_eq.mp same
  rw [InStep, cached]
  exact ⟨fun _ => savedId, fun _ => (sameTree_onWire treelike).trans tree,
    fun _ => title⟩

/-- A change that agrees with the screen leaves the cache in step with it. -/
theorem inStep_of_apply {change : Engine.Change}
    (tidy : Tidy start registry) (has : registry.Has id)
    (named : (registry.engine id).event = event)
    (agrees : Agrees change (registry.cache.document event).ai
      (registry.engine id).state)
    (ran : (apply id change).Ran confirms registry server (.ok ()) later
      after) : InStep event id later := by
  have alone : (apply id change).Alone confirms (fun result later _ =>
      result = .ok () → InStep event id later) registry server := by
    apply Engine.alone_apply
    · intro misuse _ ended
      cases ended
    · intro root normal
      rw [named]
      apply (Engine.alone_persist_quiet
        (alone_persist ((change.event_shown id registry root).trans named))).mono
      rintro result later after ⟨cached, quiet⟩ ended
      obtain ⟨title, shown⟩ := Engine.Change.state_of_quiet has quiet
      have treelike := treelike_of_readable (tidy.readable event)
      apply inStep_of_written (cached ended) (treelike_block treelike)
      -- Nothing but the title of the document moved since the change was shown.
      rw [shown]
      exact (block_is_shown_iff normal treelike (tidy.savedId id)).mpr agrees
  exact alone.ran ran rfl

/-- So does clearing the screen. -/
theorem inStep_of_clear (has : registry.Has id)
    (named : (registry.engine id).event = event)
    (ran : (clear id).Ran confirms registry server (.ok ()) later after) :
    InStep event id later := by
  have alone : (clear id).Alone confirms (fun result later _ =>
      result = .ok () → InStep event id later) registry server := by
    apply Engine.alone_clear
    apply (Engine.alone_persist_quiet
      (alone_persist ((event_wiped id registry).trans named))).mono
    rintro result later after ⟨cached, quiet⟩ ended
    obtain ⟨title, shown⟩ := quiet.engine id
    obtain ⟨state, empty⟩ := state_wiped id registry has
    apply inStep_of_written (cached ended) .none
    rw [shown, empty]
    rfl
  exact alone.ran ran rfl

/-- Changes by a user one after the other, each of which the backend
confirmed. -/
inductive Confirmed (id : EngineId) (start : Registry) (server : Backend) :
    Registry → Backend → Prop where
  | start : Confirmed id start server start server
  | apply {registry later : Registry} {before after : Backend}
      (change : Engine.Change)
      (earlier : Confirmed id start server registry before)
      (ran : (Engine.apply id change).Ran confirms registry before (.ok ())
        later after) : Confirmed id start server later after
  | clear {registry later : Registry} {before after : Backend}
      (earlier : Confirmed id start server registry before)
      (ran : (Engine.clear id).Ran confirms registry before (.ok ()) later
        after) : Confirmed id start server later after

/-- As long as the backend confirms all changes, the cache stays in step with the
screen. -/
theorem inStep_of_confirmed (tidy : Tidy start start) (has : start.Has id)
    (step : InStep (start.engine id).event id start)
    (confirmed : Confirmed id start before registry server) :
    Tidy start registry ∧ InStep (start.engine id).event id registry := by
  -- By induction on the changes: a cache that is in step with the screen agrees
  -- with it on whatever the next change leaves out.
  induction confirmed with
  | start => exact ⟨tidy, step⟩
  | apply change earlier ran ih =>
      obtain ⟨kept, inStep⟩ := ih
      exact ⟨(Tidiness.keeps_apply id change).ran kept ran,
        inStep_of_apply kept ((kept.has id).mpr has) (kept.event id)
          (inStep.agrees change) ran⟩
  | clear earlier ran ih =>
      obtain ⟨kept, inStep⟩ := ih
      exact ⟨(Tidiness.keeps_clear id).ran kept ran,
        inStep_of_clear ((kept.has id).mpr has) (kept.event id) ran⟩

/-- As long as the backend confirms all changes, it stores what is on screen. -/
theorem stored_block_is_shown_of_confirmed (tidy : Tidy start start)
    (has : start.Has id) (step : InStep (start.engine id).event id start)
    (confirmed : Confirmed id start before registry server)
    {change : Engine.Change} {get : Call}
    (asks : registry.client.call "GET" (Store.path (start.engine id).event)
      none = .ok get)
    (ran : (apply id change).Ran confirms registry server (.ok ()) later
      after) :
    Keyed.get? "ai" (after.document get.path) =
      some (later.engine id).state.block.toJson.onWire := by
  obtain ⟨kept, inStep⟩ := inStep_of_confirmed tidy has step confirmed
  exact (stored_iff_agrees kept has asks (ran.mono fun _ _ _ _ => And.left)).mpr
    (inStep.agrees change)

end Confirmed

section LostWrite

/-- A change that brings all parts agrees with any screen. -/
theorem agrees_whole (results : Results) (savedId : Option String) (json : Json)
    (title prompt : Option String) (block : AiBlock) (state : AiState) :
    Agrees (Reloading.whole results savedId json title prompt) block state :=
  ⟨nofun, nofun, nofun⟩

/-- All persons, as a saved segment. -/
def allPersons : Engine.Change :=
  Reloading.whole default (some "seg_1") Reloading.everyone.toJson (some "All")
    none

/-- Another title. -/
def retitled : Engine.Change := { Change.empty with title := some (some "New") }

/-- A backend that never answers. -/
def silent (_ : Unit) (_ : Call) (reply : Reply) (_ : Unit) : Prop :=
  reply = .timeout

/-- The segment that a backend stores for the event, and the one on screen. -/
def segments (later : Registry) (after : Backend) :
    Option String × Option String :=
  match Reloading.client.call "GET" (Store.path "event") none with
  | .ok get =>
      (match ((Keyed.get? "ai" (after.document get.path)).getD .null).get
          "savedSegmentId" with
        | .str identifier => some identifier
        | _ => none,
        (later.engine 0).state.savedId)
  | .error _ => (none, none)

/-- All persons are on screen, and the write of it was lost.  Either change can
still be made. -/
theorem exists_lost :
    ∃ pool : Pool Registry Unit Unit,
      (scene silent).Reach (.fresh Reloading.withEngine ()) pool ∧
      pool.waiting = [] ∧
      Reloading.fits (apply 0 allPersons) pool.world.state ⟨[], []⟩ = true ∧
      ((apply 0 allPersons).computed Reloading.keep pool.world.state
        ⟨[], []⟩).any (fun ends => ends.1.isOk) = true ∧
      Reloading.fits (apply 0 retitled) pool.world.state ⟨[], []⟩ = true ∧
      ((apply 0 retitled).computed Reloading.keep pool.world.state
        ⟨[], []⟩).any (fun ends => ends.1.isOk &&
          decide (segments ends.2.1 ends.2.2 = (none, some "seg_1"))) =
        true ∧
      (pool.world.state.client.call "GET"
        (Store.path (Reloading.withEngine.engine 0).event) none).isOk = true := by
  refine ⟨_, .step (.step (.step (.step (.step .refl
    (.start (.apply 0 allPersons) trivial))
    (.handle [] [] () rfl rfl))
    (.deliver [] [] rfl))
    (.handle [] [] () rfl rfl))
    (.deliver [] [] rfl), List.isEmpty_iff.mp ?_, ?_⟩
  · decide +kernel
  · decide +kernel

/-- Nothing is on screen of the new engine. -/
theorem tidy_withEngine : Tidy Reloading.withEngine Reloading.withEngine := by
  refine Tidiness.tidy_initial (fun id => ?_) rfl
  by_cases has : Reloading.withEngine.Has id
  · obtain rfl : id = 0 := Nat.lt_one_iff.mp has
    rfl
  · rw [Registry.engine_of_not_has has]
    rfl

/-- After the write was lost, all persons are brought on screen once more, and
what is stored is what is on screen. -/
theorem stored_block_is_shown_iff_agrees_after_lost_write :
    ∃ (pool : Pool Registry Unit Unit) (get : Call) (later : Registry)
      (after : Backend),
      (scene silent).Reach (.fresh Reloading.withEngine ()) pool ∧
      pool.world.state.client.call "GET" (Store.path "event") none = .ok get ∧
      (apply 0 allPersons).Ran Reloading.serves pool.world.state ⟨[], []⟩
        (.ok ()) later after ∧
      Keyed.get? "ai" (after.document get.path) =
        some (later.engine 0).state.block.toJson.onWire := by
  obtain ⟨pool, reached, -, fit, ended, -, -, asks⟩ := exists_lost
  obtain ⟨get, asks⟩ := Flow.exists_ok _ asks
  obtain ⟨result, later, after, ran, fine⟩ :=
    Reloading.exists_served fit (fun result _ _ => result.isOk) ended
  obtain fault | _ := result
  · cases fine
  exact ⟨pool, get, later, after, reached, asks, ran,
    (stored_block_is_shown_iff_agrees tidy_withEngine Nat.zero_lt_one allPersons
      reached asks ran).mpr (agrees_whole ..)⟩

/-- Where the same segment is stored as on screen, the test finds it in both. -/
theorem segments_eq {get : Call} {later : Registry} {after : Backend}
    (asks : Reloading.client.call "GET" (Store.path "event") none = .ok get)
    (same : Keyed.get? "ai" (after.document get.path) =
      some (later.engine 0).state.block.toJson.onWire) :
    (segments later after).1 = (segments later after).2 := by
  unfold segments
  rw [asks]
  dsimp only
  rw [same]
  show (match (Json.ofText? (later.engine 0).state.savedId).onWire with
    | .str identifier => some identifier
    | _ => none) = _
  cases (later.engine 0).state.savedId <;> rfl

/-- After the write was lost, only the title is changed, and the backend confirms
it.  The segment is still on screen, but what is stored names none. -/
theorem title_is_stored_without_segment :
    ∃ (pool : Pool Registry Unit Unit) (get : Call) (later : Registry)
      (after : Backend),
      (scene silent).Reach (.fresh Reloading.withEngine ()) pool ∧
      pool.waiting = [] ∧
      Reloading.client.call "GET" (Store.path "event") none = .ok get ∧
      (apply 0 retitled).Ran Reloading.serves pool.world.state ⟨[], []⟩
        (.ok ()) later after ∧
      (later.engine 0).state.savedId = some "seg_1" ∧
      Keyed.get? "ai" (after.document get.path) ≠
        some (later.engine 0).state.block.toJson.onWire := by
  obtain ⟨pool, reached, quiet, -, -, fit, ended, -⟩ := exists_lost
  obtain ⟨get, asks⟩ := Flow.exists_ok
    (Reloading.client.call "GET" (Store.path "event") none) (by decide +kernel)
  obtain ⟨result, later, after, ran, good⟩ := Reloading.exists_served fit
    (fun result later after => result.isOk &&
      decide (segments later after = (none, some "seg_1"))) ended
  obtain ⟨fine, differs⟩ := Bool.and_eq_true_iff.mp good
  obtain fault | _ := result
  · cases fine
  have apart := of_decide_eq_true differs
  have shown : (later.engine 0).state.savedId = some "seg_1" := by
    have second := congrArg Prod.snd apart
    unfold segments at second
    rw [asks] at second
    exact second
  refine ⟨pool, get, later, after, reached, quiet, asks, ran, shown,
    fun same => ?_⟩
  have found := segments_eq asks same
  rw [apart] at found
  cases found

end LostWrite

end Persisting
end Audience
