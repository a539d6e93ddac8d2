import Audience.Proofs.Engine.Applying
import Audience.Proofs.Engine.Loading
import Audience.Proofs.Filter.Finite
import Audience.Proofs.Store.Writing

/-!
# What is said while a segment is shown

A user's change that nothing overlaps is brought on screen and written.  Calls
before it open the client and may drop the loaded list, but leave the screen and
the table alone.
-/

namespace Audience

/-- A block with a canonical tree, or with none, is sent as it is. -/
theorem Change.wire_ofAi {block : AiBlock} {root : Option Filter.Root}
    (canonical : ∀ shown, root = some shown → shown.Canonical)
    (given : block.ast = root.map Filter.Root.toJson) :
    (Change.ofAi block).wire = .obj [("ai", block.toJson)] := by
  have same : (block.ast.getD .null).onWire = block.ast.getD .null := by
    cases root with
    | none => rw [given]; rfl
    | some shown =>
        rw [given]
        exact Filter.Root.onWire_toJson (canonical shown rfl)
  simp [wire, wireFields, ofAi, wireBlock, AiBlock.toJson, Json.onWire,
    Json.fieldsOnWire, same]

namespace Engine

/-! ## A user's change -/

section Changes

variable {id : EngineId} {change : Change} {root : Option (Option Filter.Root)}
variable {course : Course Registry}

/-- A change whose tree is normal is shown and written, and ends as the write
does. -/
theorem solo_apply {ends : Except Fault Unit → Course Registry → Prop}
    (normal : change.root = .ok root)
    (ended : ∀ said written later,
      Store.Writes course.state.client (course.state.engine id).event
        (.ofAi (change.block root
          (course.state.cache.document (course.state.engine id).event).ai))
        said written →
      (change.shown id root course.state).Quiet later →
      ends (written.map fun _ => ())
        { course with state := later, log := course.log ++ said }) :
    (apply id change).Solo .any ends course := by
  show Flow.Solo _ _ (Flow.inspect fun _ => Flow.update _
    ((Flow.ofNormal change.root).bind _)) _
  refine ⟨trivial, ?_⟩
  rw [normal]
  refine ⟨trivial, ?_⟩
  show (Flow.bind (Store.write ((change.shown id root course.state).engine
    id).event (.ofAi (change.block root ((change.shown id root
      course.state).cache.document ((change.shown id root course.state).engine
        id).event).ai))) fun _ => .done ()).Solo .any ends
    { course with state := change.shown id root course.state }
  rw [change.event_shown, change.shown_cache]
  apply Flow.solo_bind.mpr
  apply Store.solo_write (fun _ _ _ => trivial)
  · exact PendingWrite.exists_stage_ofAi _ _ _
  · intro said written later writes quiet
    rw [change.shown_client] at writes
    have told := ended said written later writes quiet
    cases written <;> exact told

end Changes

/-! ## Calls before it -/

/-- Only the client was opened, and the loaded list may have been dropped. -/
structure Steady (id : EngineId) (start state : Registry) : Prop where
  client : ∃ opened, state.client = { start.client with opened }
  engine : ∃ saved, state.engine id = { start.engine id with saved }
  has : state.Has id ↔ start.Has id
  cache : state.cache = start.cache

namespace Steady

variable {id : EngineId} {start state : Registry}

theorem refl (id : EngineId) (start : Registry) : Steady id start start :=
  ⟨⟨_, rfl⟩, ⟨_, rfl⟩, Iff.rfl, rfl⟩

theorem opened (steady : Steady id start state) :
    Steady id start state.opened := by
  obtain ⟨opened, client⟩ := steady.client
  refine ⟨⟨true, ?_⟩, steady.engine, steady.has, steady.cache⟩
  rw [Registry.opened, client]

/-- What is asked about an event is steady. -/
theorem asked {α : Type} {event : Option String} {suffix method : String}
    {body : Option Json} {missing : Option (String × String)}
    {read : Json → Except Fault α} {course later : Course Registry}
    {result : Except Fault (Outcome α)} (steady : Steady id start course.state)
    (asked : Client.Asked event suffix method body missing read course result
      later) : Steady id start later.state := by
  obtain same | opens := asked.state
  · rwa [same]
  · rw [opens]
    exact steady.opened

/-- So is dropping the loaded list. -/
theorem dropped (steady : Steady id start state) :
    Steady id start (state.modifyEngine id fun engine =>
      { engine with saved := none }) := by
  refine ⟨steady.client, ?_, by simpa using steady.has, steady.cache⟩
  obtain ⟨saved, engine⟩ := steady.engine
  rw [Registry.engine_modifyEngine]
  split
  · exact ⟨none, by rw [engine]⟩
  · exact ⟨saved, engine⟩

theorem event (steady : Steady id start state) :
    (state.engine id).event = (start.engine id).event := by
  obtain ⟨saved, engine⟩ := steady.engine
  rw [engine]

/-- What is said does not depend on what is steady. -/
theorem said {α : Type} {event : Option String} {suffix method : String}
    {body : Option Json} {missing : Option (String × String)}
    {read : Json → Except Fault α} {course later : Course Registry}
    {result : Except Fault (Outcome α)} (steady : Steady id start course.state)
    (asked : Client.Asked event suffix method body missing read course result
      later) :
    ∃ said, later.log = course.log ++ said ∧
      Client.Exchanged start.client event suffix method body missing read said
        result := by
  obtain ⟨said, logged, exchanged⟩ := asked.said
  obtain ⟨opened, client⟩ := steady.client
  rw [client] at exchanged
  exact ⟨said, logged, exchanged.unopened⟩

end Steady

end Engine
end Audience
