import Audience.Registry
import Audience.Proofs.Request

/-!
# What changes of the registry leave alone

Most changes of the registry concern one engine, or none.  The lemmas here say
what an engine is after such a change.
-/

namespace Audience
namespace Registry

variable {registry : Registry} {id other : EngineId}

/-- An engine that was made. -/
def Has (id : EngineId) (registry : Registry) : Prop :=
  id < registry.engines.length

instance : Decidable (registry.Has id) :=
  inferInstanceAs (Decidable (id < registry.engines.length))

/-- Engines that were never made are all alike. -/
theorem engine_of_not_has (missing : ¬ registry.Has id) :
    registry.engine id = default := by
  have outside : registry.engines.length ≤ id := Nat.le_of_not_lt missing
  simp [engine, List.getElem?_eq_none outside]

/-- An engine on which a segment is active was made. -/
theorem has_of_usesAi (active : (registry.engine id).state.usesAi = true) :
    registry.Has id := by
  by_contra missing
  rw [engine_of_not_has missing] at active
  exact absurd active (by decide)

/-- Changing an engine changes no other engine. -/
theorem engine_modifyEngine (change : Engine → Engine) :
    (registry.modifyEngine id change).engine other =
      if other = id ∧ registry.Has id then change (registry.engine other)
      else registry.engine other := by
  unfold engine modifyEngine Has
  rw [List.getElem?_modify]
  by_cases same : id = other
  · subst same
    by_cases within : id < registry.engines.length
    · simp [within]
    · simp [within]
  · simp [same, Ne.symm same]

theorem engine_modifyEngine_self (has : registry.Has id)
    (change : Engine → Engine) :
    (registry.modifyEngine id change).engine id =
      change (registry.engine id) := by
  simp [engine_modifyEngine, has]

@[simp] theorem has_modifyEngine (change : Engine → Engine) :
    (registry.modifyEngine id change).Has other ↔ registry.Has other := by
  simp [Has, modifyEngine]

@[simp] theorem modifyEngine_cache (change : Engine → Engine) :
    (registry.modifyEngine id change).cache = registry.cache := rfl

/-- A transition changes the engines as a change of the state does, whoever is
told. -/
@[simp] theorem engine_transition (change : AiState → AiState) :
    (registry.transition id change).engine other =
      (registry.modifyEngine id fun engine =>
        { engine with state := change engine.state }).engine other := by
  unfold transition
  dsimp only
  split <;> rfl

@[simp] theorem has_transition (change : AiState → AiState) :
    (registry.transition id change).Has other ↔ registry.Has other := by
  have same : (registry.transition id change).engines =
      (registry.modifyEngine id fun engine =>
        { engine with state := change engine.state }).engines := by
    unfold transition
    dsimp only
    split <;> rfl
  simp [Has, same, modifyEngine]

@[simp] theorem transition_cache (change : AiState → AiState) :
    (registry.transition id change).cache = registry.cache := by
  unfold transition
  dsimp only
  split <;> rfl

@[simp] theorem transition_client (change : AiState → AiState) :
    (registry.transition id change).client = registry.client := by
  unfold transition
  dsimp only
  split <;> rfl

/-- A change of an engine that keeps its event keeps all events. -/
theorem event_modifyEngine {change : Engine → Engine}
    (keeps : ∀ engine, (change engine).event = engine.event) :
    ((registry.modifyEngine id change).engine other).event =
      (registry.engine other).event := by
  rw [engine_modifyEngine]
  split
  · exact keeps _
  · rfl

@[simp] theorem event_takeToken :
    ((registry.modifyEngine id Engine.takeToken).engine other).event =
      (registry.engine other).event :=
  event_modifyEngine fun _ => rfl

@[simp] theorem event_countUser :
    ((registry.countUser id).engine other).event =
      (registry.engine other).event :=
  event_modifyEngine fun _ => rfl

/-- A transition keeps all events. -/
theorem event_transition (change : AiState → AiState) :
    ((registry.transition id change).engine other).event =
      (registry.engine other).event := by
  rw [engine_transition]
  exact event_modifyEngine fun _ => rfl

@[simp] theorem engine_opened :
    registry.opened.engine id = registry.engine id := rfl

@[simp] theorem opened_cache : registry.opened.cache = registry.cache := rfl

@[simp] theorem takeToken_snd :
    (registry.takeToken id).2 = registry.modifyEngine id Engine.takeToken := rfl

/-- One engine changes, if it was made, and no other does. -/
structure Alters (id : EngineId) (change : Engine → Engine)
    (before after : Registry) : Prop where
  engine : ∀ other, after.engine other =
    if other = id ∧ before.Has id then change (before.engine other)
    else before.engine other
  has : ∀ other, after.Has other ↔ before.Has other

namespace Alters

theorem of_modifyEngine (change : Engine → Engine) :
    Alters id change registry (registry.modifyEngine id change) :=
  ⟨fun _ => engine_modifyEngine change, fun _ => has_modifyEngine change⟩

theorem of_transition (change : AiState → AiState) :
    Alters id (fun engine => { engine with state := change engine.state })
      registry (registry.transition id change) :=
  ⟨fun _ => by rw [engine_transition, engine_modifyEngine],
    fun _ => has_transition change⟩

theorem trans {first second : Engine → Engine}
    {before middle after : Registry} (early : Alters id first before middle)
    (late : Alters id second middle after) :
    Alters id (fun engine => second (first engine)) before after := by
  refine ⟨fun other => ?_, fun other => (late.has other).trans (early.has other)⟩
  rw [late.engine, early.engine]
  simp only [early.has id]
  by_cases same : other = id ∧ before.Has id <;> simp [same]

end Alters

/-- The token taken is the next one. -/
theorem takeToken_fst (has : registry.Has id) :
    (registry.takeToken id).1 = (registry.engine id).latestToken + 1 := by
  simp [takeToken, engine_modifyEngine_self has, Engine.takeToken]

/-- Restoring is refused and changes nothing, or takes a token and shows what is
restored. -/
theorem restore_cases (registry : Registry) (id : EngineId)
    (restored : Restored) (generation : Option Int) :
    registry.restore id restored generation = (false, registry) ∨
      registry.restore id restored generation =
        (true, ((registry.modifyEngine id fun engine =>
          engine.takeToken.moveTo engine.firstPage).transition id
            restored.apply).backfillPrompt id) := by
  unfold restore
  cases generation with
  | none =>
      dsimp only
      split
      · exact .inl rfl
      · exact .inr rfl
  | some seen =>
      dsimp only
      split
      · exact .inl rfl
      · exact .inr rfl

end Registry
end Audience
