import Audience.Engine.Saved
import Audience.Store

/-!
# Changes of the state by a user

A user brings a segment on screen or clears the screen.  Both count as user
changes and are written to the filter document; that the write fails is no
failure of the change.
-/

namespace Audience
namespace Engine

/-- What a user changes.  A part that is not given stays as it is. -/
structure Change where
  results : Option (Option Results)
  savedId : Option (Option String)
  ast : Option (Option Json)
  title : Option (Option String)
  prompt : Option (Option String)
  deriving Repr, Inhabited

namespace Change

/-- No change. -/
def empty : Change :=
  { results := none, savedId := none, ast := none, title := none,
    prompt := none }

/-- The tree that a change brings, normalized. -/
def root (change : Change) :
    Except Misuse (Option (Option Filter.Root)) :=
  match change.ast with
  | none => .ok none
  | some none => .ok (some none)
  | some (some json) => do
      let root ← Filter.Root.ofJson json
      return some (some root)

/-- The state after a change that brings the given tree. -/
def apply (change : Change) (root : Option (Option Filter.Root))
    (state : AiState) : AiState :=
  { state with
    results := change.results.getD state.results
    savedId :=
      match change.savedId with
      | some given => Registry.nonempty? given
      | none => state.savedId
    ast := root.getD state.ast
    savedTitle :=
      match change.title with
      | some given => given.getD ""
      | none => state.savedTitle
    prompt :=
      match change.prompt with
      | some given => given.getD ""
      | none => state.prompt }

/-- The AI block to be written: the parts that the change does not give come
from the block that is known. -/
def block (change : Change) (root : Option (Option Filter.Root))
    (prior : AiBlock) : AiBlock :=
  let savedId :=
    match change.savedId with
    | some given => Registry.nonempty? given
    | none => prior.savedSegmentId
  let ast :=
    match root with
    | some given => given.map Filter.Root.toJson
    | none => prior.ast
  let title :=
    match change.title with
    | some given => given.getD ""
    | none => prior.title
  { enabled :=
      (Registry.nonempty? savedId).isSome || (ast.getD .null).isFull
    savedSegmentId := savedId
    ast
    title }

end Change

/-- Write an AI block to the filter document of an engine's event. -/
def persist (id : EngineId) (block : AiBlock) : Flow Registry Unit := do
  let event ← eventOf id
  let _ ← Store.write event (.ofAi block)

/-- A user changes the state of an engine.  With new results, runs that are
still under way no longer count. -/
def apply (id : EngineId) (change : Change) : Flow Registry Unit := do
  Flow.modify fun registry : Registry =>
    let registry := registry.countUser id
    if change.results.isSome then (registry.takeToken id).2 else registry
  let root ← Flow.ofNormal change.root
  Flow.modify fun registry : Registry =>
    registry.transition id (change.apply root)
  let prior ← Flow.query fun registry : Registry =>
    (registry.cache.document (registry.engine id).event).ai
  persist id (change.block root prior)

/-- A state from which everything that a user brought on screen is gone. -/
def cleared (state : AiState) : AiState :=
  { state with
    results := none
    savedId := none
    prompt := ""
    ast := none
    savedTitle := "" }

/-- A user clears the screen. -/
def clear (id : EngineId) : Flow Registry Unit := do
  Flow.modify fun registry : Registry =>
    ((registry.countUser id).takeToken id).2.transition id cleared
  persist id .cleared

end Engine
end Audience
