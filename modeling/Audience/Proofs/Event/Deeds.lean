import Audience.Proofs.Event.Likeness

/-!
# Deeds about an event

What flows change on behalf of an event, done to two registries that look the
same to it.  Most changes leave the title of its document alone, in the cache
and on screen.  The others put a document into the cache, make an engine, or
forget the event.
-/

namespace Audience
namespace Isolation

variable {event : String} {old : List Notice}
variable {ids : EngineId → EngineId → Prop}

/-- A change of both registries that leaves the title of the document alone. -/
structure Tends (event : String) (old : List Notice)
    (ids : EngineId → EngineId → Prop) (left right after other : Registry) :
    Prop where
  looks : Looks event old ⟨ids, after, other⟩
  frame : Frame event ids left after
  keeps : Keeps event left after
  has : ∀ id, right.Has id → other.Has id

/-- A change of an engine that leaves its event and its title alone. -/
def Plain (change : Engine → Engine) : Prop :=
  ∀ engine, (change engine).event = engine.event ∧
    (change engine).state.persistedTitle = engine.state.persistedTitle

namespace Keeps

variable {registry before middle after : Registry} {id : EngineId}

theorem refl (registry : Registry) : Keeps event registry registry :=
  ⟨rfl, rfl, fun _ => rfl⟩

theorem trans (early : Keeps event before middle)
    (late : Keeps event middle after) : Keeps event before after :=
  ⟨late.current.trans early.current, late.document.trans early.document,
    fun id => (late.title id).trans (early.title id)⟩

theorem of_modifyEngine {change : Engine → Engine} (plain : Plain change) :
    Keeps event registry (registry.modifyEngine id change) := by
  refine ⟨rfl, rfl, fun other => ?_⟩
  rw [Registry.engine_modifyEngine]
  split
  · exact (plain _).2
  · rfl

theorem of_announce : Keeps event registry (registry.announce id) := by
  refine ⟨?_, ?_, fun other => by rw [Registry.announce_engine]⟩ <;>
    obtain ⟨heard, same⟩ := Registry.announce_same id registry <;> rw [same]

end Keeps

namespace Tends

variable {left right after other last final : Registry} {id twin : EngineId}

theorem refl (looks : Looks event old ⟨ids, left, right⟩) :
    Tends event old ids left right left right :=
  ⟨looks, .refl left, .refl left, fun _ has => has⟩

theorem trans (early : Tends event old ids left right after other)
    (late : Tends event old ids after other last final) :
    Tends event old ids left right last final :=
  ⟨late.looks, early.frame.trans late.frame, early.keeps.trans late.keeps,
    fun id has => late.has id (early.has id has)⟩

/-- Changing corresponding engines in a plain way. -/
theorem modifyEngine (looks : Looks event old ⟨ids, left, right⟩)
    (same : ids id twin) (change : Engine → Engine) (plain : Plain change) :
    Tends event old ids left right (left.modifyEngine id change)
      (right.modifyEngine twin change) :=
  ⟨looks.modifyEngine same fun engine => (plain engine).1,
    .of_modifyEngine same fun engine => (plain engine).1,
    .of_modifyEngine plain,
    fun _ has => (Registry.has_modifyEngine change).mpr has⟩

theorem transition (looks : Looks event old ⟨ids, left, right⟩)
    (same : ids id twin) (change : AiState → AiState)
    (kept : ∀ state, (change state).persistedTitle = state.persistedTitle) :
    Tends event old ids left right (left.transition id change)
      (right.transition twin change) where
  looks := looks.transition same change
  frame := .of_transition same (looks.about id twin same) change
  keeps := by
    rw [Registry.transition_eq]
    have changed : Keeps event left (left.modifyEngine id fun engine =>
        { engine with state := change engine.state }) :=
      .of_modifyEngine fun engine => ⟨rfl, kept engine.state⟩
    exact changed.trans .of_announce
  has _ has := (Registry.has_transition change).mpr has

theorem opened (looks : Looks event old ⟨ids, left, right⟩) :
    Tends event old ids left right left.opened right.opened :=
  ⟨looks.opened, .of_opened, ⟨rfl, rfl, fun _ => rfl⟩, fun _ has => has⟩

theorem remember (looks : Looks event old ⟨ids, left, right⟩)
    (manual : ManualState) :
    Tends event old ids left right
      (left.modifyCache (Cache.rememberManual event manual))
      (right.modifyCache (Cache.rememberManual event manual)) :=
  ⟨looks.remember manual, .of_remember manual, ⟨rfl, rfl, fun _ => rfl⟩,
    fun _ has => has⟩

theorem backfillPrompt (looks : Looks event old ⟨ids, left, right⟩)
    (same : ids id twin) :
    Tends event old ids left right (left.backfillPrompt id)
      (right.backfillPrompt twin) := by
  have engine : left.engine id = right.engine twin :=
    looks.engine id twin same
  unfold Registry.backfillPrompt
  rw [engine]
  split
  · exact transition looks same _ fun _ => rfl
  · exact refl looks

/-- Restoring is refused in both registries, or in neither. -/
theorem restore (looks : Looks event old ⟨ids, left, right⟩)
    (same : ids id twin) (restored : Registry.Restored)
    (generation : Option Int) :
    Tends event old ids left right (left.restore id restored generation).2
      (right.restore twin restored generation).2 := by
  have engine : left.engine id = right.engine twin :=
    looks.engine id twin same
  have moved := modifyEngine looks same
    (fun engine => engine.takeToken.moveTo engine.firstPage)
    fun _ => ⟨rfl, rfl⟩
  have shown := transition moved.looks same restored.apply fun _ => rfl
  have whole := (moved.trans shown).trans (backfillPrompt shown.looks same)
  unfold Registry.restore
  dsimp only
  rw [engine]
  cases generation with
  | none =>
      dsimp only
      split
      · exact refl looks
      · exact whole
  | some seen =>
      dsimp only
      split
      · exact refl looks
      · exact whole

/-- Results are shown in both registries, or dropped in both. -/
theorem updateResults (looks : Looks event old ⟨ids, left, right⟩)
    (same : ids id twin) (results : Results) (token : Int) :
    Tends event old ids left right (left.updateResults id results token).2
      (right.updateResults twin results token).2 := by
  have engine : left.engine id = right.engine twin :=
    looks.engine id twin same
  unfold Registry.updateResults
  dsimp only
  rw [engine]
  split
  · dsimp only
    exact transition looks same _ fun _ => rfl
  · exact refl looks

end Tends

section Steps

variable {pair : Pair Registry} {left right : Registry} {id twin : EngineId}

theorem Tends.steps
    (tends : Tends event old pair.ids pair.left pair.right left right) :
    (likeness event old).Steps pair ⟨pair.ids, left, right⟩ where
  ids := le_refl pair.ids
  holds := tends.looks
  change := ⟨tends.frame, .keeps tends.keeps⟩
  left := tends.frame.has
  right := tends.has
  new _ _ both := .inl both

/-- Whoever corresponds to an engine in use is the one in use. -/
theorem Looks.used (looks : Looks event old pair) :
    ∀ id, Keyed.get? event pair.left.current = some id →
      ∃ other, pair.ids id other := by
  intro id found
  obtain ⟨known, other, first, -, same⟩ | ⟨first, -⟩ := looks.current_cases
  · rw [first] at found
    obtain rfl := Option.some.inj found
    exact ⟨other, same⟩
  · rw [first] at found
    cases found

theorem has_setDocument {registry : Registry} (wired : registry.Wired)
    {document : Document} (has : registry.Has id) :
    (registry.setDocument event document).Has id := by
  have echo : (registry.setDocument event document).Echo
      ((registry.putDocument event document).hearCurrent event document) :=
    Registry.echo_setDocument wired
  have heard : ((registry.putDocument event document).hearCurrent event
      document).Has id := by
    obtain same | ⟨used, -, same⟩ := Registry.hearCurrent_cases event document
      (registry.putDocument event document)
    · rw [same]
      exact has
    · rw [same, Registry.has_transition]
      exact has
  rw [← echo.same] at heard
  exact heard

/-- Putting the same document into both caches. -/
theorem steps_setDocument (looks : Looks event old pair)
    (document : Document) :
    (likeness event old).Steps pair
      ⟨pair.ids, pair.left.setDocument event document,
        pair.right.setDocument event document⟩ where
  ids := le_refl pair.ids
  holds := looks.setDocument document
  change :=
    ⟨.of_setDocument looks.wired.1 looks.used document,
      .sets ⟨document, .inl rfl⟩⟩
  left _ has := has_setDocument looks.wired.1 has
  right _ has := has_setDocument looks.wired.2 has
  new _ _ both := .inl both

/-- Keeping the same document that was read. -/
theorem steps_kept (looks : Looks event old pair) (document : Document) :
    (likeness event old).Steps pair
      ⟨pair.ids, Store.kept event document pair.left,
        Store.kept event document pair.right⟩ := by
  have noted := Tends.remember looks document.manual
  have set := steps_setDocument noted.looks document
  exact
    { ids := le_refl pair.ids
      holds := set.holds
      change :=
        ⟨noted.frame.trans set.change.toFrame,
          .sets ⟨document, .inr ⟨document.manual, rfl⟩⟩⟩
      left := fun id has => set.left id (noted.frame.has id has)
      right := fun id has => set.right id (noted.has id has)
      new := fun _ _ both => .inl both }

/-- Looking for the engine of the event, which is made if there is none. -/
theorem steps_engineFor (looks : Looks event old pair) :
    ∃ ids, ids (pair.left.engineFor event).1 (pair.right.engineFor event).1 ∧
      (likeness event old).Steps pair
        ⟨ids, (pair.left.engineFor event).2,
          (pair.right.engineFor event).2⟩ := by
  obtain ⟨id, twin, first, second, same⟩ | ⟨first, second⟩ :=
    looks.current_cases
  · refine ⟨pair.ids, ?_⟩
    unfold Registry.engineFor
    rw [first, second]
    exact ⟨same, (Tends.refl looks).steps⟩
  · refine ⟨Looks.paired pair.ids pair.left pair.right, ?_⟩
    have change : Deed event pair.ids pair.left
        (pair.left.engineFor event).2 :=
      ⟨.of_engineFor, .makes ⟨first, rfl⟩⟩
    unfold Registry.engineFor at change ⊢
    rw [first] at change ⊢
    rw [second, ← looks.settings]
    exact ⟨.inr ⟨rfl, rfl⟩,
      { ids := fun _ _ both => .inl both
        holds := looks.addEngine rfl first second
        change
        left := fun _ has => Registry.has_addEngine.mpr (.inl has)
        right := fun _ has => Registry.has_addEngine.mpr (.inl has)
        new := by
          rintro id other (both | ⟨rfl, rfl⟩)
          · exact .inl both
          · exact .inr ⟨Nat.lt_irrefl _, Nat.lt_irrefl _⟩ }⟩

theorem has_reset {registry : Registry} (has : registry.Has id) :
    (registry.reset event).Has id := by
  unfold Registry.reset
  dsimp only
  split <;> exact has

/-- Forgetting the event. -/
theorem steps_reset (looks : Looks event old pair) :
    (likeness event old).Steps pair
      ⟨pair.ids, pair.left.reset event, pair.right.reset event⟩ where
  ids := le_refl pair.ids
  holds := looks.reset
  change := ⟨.of_reset, .resets rfl⟩
  left _ has := has_reset has
  right _ has := has_reset has
  new _ _ both := .inl both

end Steps

end Isolation
end Audience
