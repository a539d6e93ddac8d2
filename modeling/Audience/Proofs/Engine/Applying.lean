import Audience.Engine.Apply
import Audience.Proofs.Quiet

/-!
# A user's change alone

A user's change that nothing overlaps is counted, brought on screen, and written
to the document of the engine's event.  The screen is what the change makes of
it, and the cache and the client are as before when the write begins.  So it is
when a user clears the screen.
-/

namespace Audience
namespace Engine
namespace Change

/-- A change by a user was counted. -/
def counted (change : Change) (id : EngineId) (registry : Registry) :
    Registry :=
  if change.results.isSome then ((registry.countUser id).takeToken id).2
  else registry.countUser id

/-- A change by a user was brought on screen. -/
def shown (change : Change) (id : EngineId)
    (root : Option (Option Filter.Root)) (registry : Registry) : Registry :=
  (change.counted id registry).transition id (change.apply root)

variable (change : Change) (id : EngineId) (registry : Registry)
variable (root : Option (Option Filter.Root))

@[simp] theorem counted_cache :
    (change.counted id registry).cache = registry.cache := by
  unfold counted
  split <;> rfl

@[simp] theorem counted_client :
    (change.counted id registry).client = registry.client := by
  unfold counted
  split <;> rfl

@[simp] theorem event_counted : ((change.counted id registry).engine id).event =
    (registry.engine id).event := by
  unfold counted
  split <;> simp

@[simp] theorem table_counted : ((change.counted id registry).engine id).table =
    (registry.engine id).table := by
  unfold counted
  split <;> simp only [Registry.countUser, Registry.takeToken_snd,
    Registry.engine_modifyEngine] <;> split_ifs <;> rfl

@[simp] theorem shown_cache :
    (change.shown id root registry).cache = registry.cache := by
  simp [shown]

@[simp] theorem shown_client :
    (change.shown id root registry).client = registry.client := by
  simp [shown]

@[simp] theorem event_shown :
    ((change.shown id root registry).engine id).event =
      (registry.engine id).event := by
  rw [shown, Registry.event_transition, event_counted]

@[simp] theorem table_shown :
    ((change.shown id root registry).engine id).table =
      (registry.engine id).table := by
  rw [shown, Registry.engine_transition, Registry.engine_modifyEngine,
    ← table_counted change id registry]
  split <;> rfl

/-- The screen is what the change makes of it. -/
theorem state_shown (has : registry.Has id) :
    ((change.shown id root registry).engine id).state =
      change.apply root (registry.engine id).state := by
  have kept : (change.counted id registry).Has id ∧
      ((change.counted id registry).engine id).state =
        (registry.engine id).state := by
    unfold counted
    split <;> simp [Registry.countUser, Registry.engine_modifyEngine, has,
      Engine.takeToken]
  rw [shown, Registry.engine_transition,
    Registry.engine_modifyEngine_self kept.1, kept.2]

variable {change id registry root}

/-- It stays so, up to the title of the document, while nothing but quiet
happens. -/
theorem state_of_quiet {later : Registry} (has : registry.Has id)
    (quiet : (change.shown id root registry).Quiet later) :
    ∃ persistedTitle, (later.engine id).state =
      { change.apply root (registry.engine id).state with persistedTitle } := by
  obtain ⟨title, same⟩ := quiet.engine id
  rw [same, change.state_shown id registry root has]
  exact ⟨title, rfl⟩

end Change

/-- A user cleared the screen. -/
def wiped (id : EngineId) (registry : Registry) : Registry :=
  ((registry.countUser id).takeToken id).2.transition id cleared

section Wiped

variable (id : EngineId) (registry : Registry)

@[simp] theorem wiped_cache : (wiped id registry).cache = registry.cache := by
  simp [wiped, Registry.countUser]

@[simp] theorem wiped_client :
    (wiped id registry).client = registry.client := by
  rw [wiped, Registry.transition_client]
  rfl

@[simp] theorem event_wiped :
    ((wiped id registry).engine id).event = (registry.engine id).event := by
  rw [wiped, Registry.event_transition]
  simp

/-- Nothing is left on screen. -/
theorem state_wiped (has : registry.Has id) :
    ∃ state : AiState, ((wiped id registry).engine id).state =
      cleared state := by
  rw [wiped, Registry.engine_transition, Registry.engine_modifyEngine_self
    (by simpa [Registry.countUser] using has)]
  exact ⟨_, rfl⟩

end Wiped

variable {β : Type} {serves : β → Call → Reply → β → Prop} {server : β}
variable {registry : Registry} {id : EngineId} {change : Change}
variable {ends : Except Fault Unit → Registry → β → Prop}

/-- Writing the block of an engine's event is quiet. -/
theorem makes_persist (id : EngineId) (block : AiBlock) (now : Registry) :
    (persist id block).Makes Registry.Quiet (fun _ => True) now :=
  (Store.makes_write _ (.ofAi block) now).andThen fun _ _ => trivial

/-- The write of an engine's block ends as the write to the document of its event
does. -/
theorem alone_persist {event : String} {block : AiBlock}
    {ends : Registry → β → Prop} (named : (registry.engine id).event = event)
    (alone : (Store.write event (.ofAi block)).Alone serves
      (fun result later after => ∀ outcome, result = .ok outcome →
        ends later after) registry server) :
    (persist id block).Alone serves (fun result later after =>
      result = .ok () → ends later after) registry server := by
  subst named
  show Flow.Alone serves (Flow.bind (Store.write _ (.ofAi block)) _) _ _ _
  apply Flow.alone_bind.mpr
  apply alone.mono
  intro result later after written
  obtain fault | outcome := result
  · intro same
    cases same
  · exact fun _ => written outcome rfl

theorem alone_persist_quiet {block : AiBlock}
    (alone : (persist id block).Alone serves ends registry server) :
    (persist id block).Alone serves (fun result later after =>
      ends result later after ∧ registry.Quiet later) registry server :=
  alone.making .refl .trans (makes_persist id block registry)

/-- A change whose tree cannot be normalized stops; any other is brought on
screen and written. -/
theorem alone_apply
    (stopped : ∀ misuse, change.root = .error misuse →
      ends (.error (.misuse misuse)) (change.counted id registry) server)
    (written : ∀ root, change.root = .ok root →
      (persist id (change.block root
        (registry.cache.document (registry.engine id).event).ai)).Alone serves
          ends (change.shown id root registry) server) :
    (apply id change).Alone serves ends registry server := by
  show Flow.Alone serves (Flow.bind (Flow.ofNormal change.root) _) _
    (change.counted id registry) server
  cases normal : change.root with
  | error misuse => exact stopped misuse normal
  | ok root =>
      show Flow.Alone serves (persist id (change.block root
        ((change.shown id root registry).cache.document
          ((change.shown id root registry).engine id).event).ai)) _
            (change.shown id root registry) _
      rw [change.event_shown, change.shown_cache]
      exact written root normal

/-- A screen that a user clears is wiped and written. -/
theorem alone_clear
    (written : (persist id .cleared).Alone serves ends (wiped id registry)
      server) :
    (clear id).Alone serves ends registry server := written

end Engine
end Audience
