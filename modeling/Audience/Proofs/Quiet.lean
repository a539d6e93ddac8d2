import Audience.Proofs.Flow.Changes
import Audience.Proofs.Store

/-!
# Quiet changes

Calling the backend and changing the cache of documents leave what engines know
alone, except that they follow the title of their document.  Whoever does not
look at that title is not disturbed by a call, nor by reading or writing a
document.
-/

namespace Audience

/-- At most the title of the document changed. -/
def Engine.Retitled (before after : Engine) : Prop :=
  ∃ persistedTitle, after =
    { before with state := { before.state with persistedTitle } }

namespace Engine.Retitled

theorem refl (engine : Engine) : engine.Retitled engine :=
  ⟨engine.state.persistedTitle, rfl⟩

theorem trans {first second third : Engine} (early : first.Retitled second)
    (late : second.Retitled third) : first.Retitled third := by
  obtain ⟨title, rfl⟩ := early
  obtain ⟨latest, rfl⟩ := late
  exact ⟨latest, rfl⟩

end Engine.Retitled

namespace Registry

/-- Every engine changed at most in the title of its document. -/
structure Quiet (before after : Registry) : Prop where
  engine : ∀ id, (before.engine id).Retitled (after.engine id)
  has : ∀ id, after.Has id ↔ before.Has id

namespace Quiet

theorem refl (registry : Registry) : registry.Quiet registry :=
  ⟨fun _ => .refl _, fun _ => Iff.rfl⟩

theorem trans {first second third : Registry} (early : first.Quiet second)
    (late : second.Quiet third) : first.Quiet third :=
  ⟨fun id => (early.engine id).trans (late.engine id),
    fun id => (late.has id).trans (early.has id)⟩

/-- A change elsewhere is quiet. -/
theorem of_engines {before after : Registry}
    (same : after.engines = before.engines) : before.Quiet after := by
  constructor
  · intro id
    unfold Registry.engine
    rw [same]
    exact .refl _
  · intro id
    unfold Registry.Has
    rw [same]

end Quiet

variable {registry : Registry}

theorem quiet_opened : registry.Quiet registry.opened := .of_engines rfl

theorem quiet_modifyCache (change : Cache → Cache) :
    registry.Quiet (registry.modifyCache change) := .of_engines rfl

/-- An engine that hears of a document follows its title. -/
theorem quiet_hearDocument (id : EngineId) (event : String)
    (document : Document) :
    registry.Quiet (registry.hearDocument id event document) := by
  unfold hearDocument
  dsimp only
  split
  · refine ⟨fun other => ?_, fun other => has_transition _⟩
    rw [engine_transition, engine_modifyEngine]
    split
    · exact ⟨document.ai.title, rfl⟩
    · exact .refl _
  · exact .refl registry

theorem quiet_tellSubscriber (event : String) (document : Document)
    (subscriber : Subscriber) :
    registry.Quiet (registry.tellSubscriber event document subscriber) := by
  cases subscriber with
  | engine id => exact quiet_hearDocument id event document
  | observer => exact .of_engines rfl

/-- Telling all subscribers of a document is quiet. -/
theorem quiet_tellAll (event : String) (document : Document)
    (subscribers : List Subscriber) :
    registry.Quiet
      (subscribers.foldl (tellSubscriber event document) registry) := by
  induction subscribers generalizing registry with
  | nil => exact .refl registry
  | cons subscriber rest ih =>
      exact (quiet_tellSubscriber event document subscriber).trans ih

theorem quiet_setDocument (event : String) (document : Document) :
    registry.Quiet (registry.setDocument event document) :=
  (quiet_modifyCache _).trans (quiet_tellAll event document _)

end Registry

open Registry (Quiet)

namespace Client

/-- A request changes nothing but that the client is opened. -/
theorem opens_request (method path : String) (body : Option Json)
    (missing : Option (String × String)) (now : Registry) :
    (request method path body missing).Makes
      (fun before after => after = before.opened) (fun _ => True) now := by
  rw [request_eq]
  obtain unfit | fit := ensureOpen_cases now.client
  · simp [Flow.Makes, unfit]
  · simp only [Flow.Makes, fit]
    refine ⟨rfl, ?_⟩
    cases Client.call { now.client with opened := true } method path body with
    | error misuse => trivial
    | ok call => exact fun reply later => Flow.makes_ofResult.mpr trivial

/-- A request is quiet. -/
theorem makes_request (method path : String) (body : Option Json)
    (missing : Option (String × String)) (now : Registry) :
    (request method path body missing).Makes Quiet (fun _ => True) now :=
  (opens_request method path body missing now).relax
    fun _ _ same => same ▸ .of_engines rfl

end Client

namespace Store

/-- Asking for a document is quiet. -/
theorem makes_fetch (event : String) (now : Registry) :
    (fetch event).Makes Quiet (fun _ => True) now := by
  rw [fetch_eq]
  apply Flow.Makes.finish
  apply (Client.makes_request _ _ _ _ now).mono
  intro answer _ later
  exact Flow.makes_ofResult.mpr trivial

/-- So is keeping it. -/
theorem makes_load (event : String) (now : Registry) :
    (load event).Makes Quiet (fun _ => True) now := by
  apply Flow.Makes.bind
  apply (makes_fetch event now).mono
  intro result _
  obtain fault | document := result
  · trivial
  · intro later
    exact ⟨(Registry.quiet_modifyCache _).trans
      (Registry.quiet_setDocument _ _), trivial⟩

/-- Reading a document is quiet. -/
theorem makes_read (event : String) (refresh : Bool) (now : Registry) :
    (read event refresh).Makes Quiet (fun _ => True) now := by
  rw [read_eq]
  apply Flow.Makes.locked
  intro later
  simp only [Flow.Makes]
  cases Keyed.get? event later.cache.documents with
  | none => exact makes_load event later
  | some document =>
      cases refresh with
      | true => exact makes_load event later
      | false => trivial

/-- Taking a change back is quiet. -/
theorem makes_rollback (pending : PendingWrite) (now : Registry) :
    (rollback pending).Makes Quiet (fun _ => True) now := by
  apply Flow.Makes.bind
  apply Flow.Makes.guard
  apply (makes_fetch pending.event now).mono
  intro result _
  obtain fault | document := result
  · cases fault with
    | problem problem =>
        exact fun later => ⟨Registry.quiet_setDocument _ _, trivial⟩
    | _ => trivial
  · exact fun later => ⟨Registry.quiet_setDocument _ _, trivial⟩

/-- Settling a write is quiet. -/
theorem makes_settle (pending : PendingWrite) (change : Change)
    (answer : Except Fault Json) (now : Registry) :
    (settle pending change answer).Makes Quiet (fun _ => True) now := by
  obtain fault | json := answer
  · cases fault with
    | problem problem =>
        exact (makes_rollback pending now).andThen fun _ _ => trivial
    | _ => trivial
  · refine ⟨Registry.quiet_setDocument _ _, ?_⟩
    by_cases given : change.manual.isSome
    · simp only [given, if_true]
      exact ⟨Registry.quiet_modifyCache _, trivial⟩
    · simp only [given]
      trivial

/-- Writing a document is quiet. -/
theorem makes_write (event : String) (change : Change) (now : Registry) :
    (write event change).Makes Quiet (fun _ => True) now := by
  rw [write_eq]
  simp only [Flow.Makes]
  cases PendingWrite.stage event change now.cache with
  | error fault => trivial
  | ok pending =>
      refine ⟨Registry.quiet_setDocument _ _, ?_⟩
      apply Flow.Makes.finish
      apply (Client.makes_request _ _ _ _ _).mono
      exact fun answer _ later => makes_settle pending change answer later

end Store
end Audience
