import Audience.Engine.Apply

/-!
# Restoring an engine

After a reload the state of an engine is restored from the filter document,
once, however many ask for it.  A stored tree is run as it is; with only the
identifier of a saved segment, that segment is run.  A problem on the way leaves
the screen empty and is kept.
-/

namespace Audience
namespace Engine

/-- Set the phase of an engine. -/
def setPhase (id : EngineId) (phase : Phase) : Flow Registry Unit :=
  Flow.modify fun registry : Registry =>
    registry.modifyEngine id fun engine => { engine with phase }

/-- Run a filter on the first page and restore the engine to the result. -/
def restoreRun (id : EngineId) (filter : Filter.Root) (debug : Bool)
    (generation : Nat) (restored : Results → Registry.Restored) :
    Flow Registry Unit := do
  let engine ← Flow.query fun registry : Registry => registry.engine id
  let executed ← Client.runSegment (some engine.event) (some filter.filter)
    debug (some engine.firstPage)
  let results ← Flow.unwrap executed
  Flow.modify fun registry : Registry =>
    (registry.restore id (restored results) (some (generation : Int))).2

/-- A stored tree asks for debug information. -/
def asksDebug : Json → Bool
  | .obj fields => (Fields.getD "debug" fields).isFull
  | _ => false

/-- Restore an engine from a stored tree. -/
def restoreInline (id : EngineId) (block : AiBlock) (ast : Json)
    (generation : Nat) : Flow Registry Unit := do
  let root ← Flow.ofNormal (Filter.Root.ofJson ast)
  restoreRun id root (asksDebug ast) generation fun results =>
    { results
      savedId := block.savedSegmentId
      ast := some root
      title := block.title
      prompt := "" }

/-- Restore an engine from a saved segment. -/
def restoreSaved (id : EngineId) (block : AiBlock) (segment : String)
    (generation : Nat) : Flow Registry Unit := do
  let found ← requireSaved id segment
  let saved ← Flow.unwrap found
  restoreRun id saved.ast false generation fun results =>
    { results
      savedId := some saved.id
      ast := some saved.ast
      title := AiState.firstNonempty [block.title] saved.title
      prompt := saved.prompt }

/-- Restore an engine from the filter document of its event. -/
def restoreFromDocument (id : EngineId) : Flow Registry Unit := do
  let engine ← Flow.query fun registry : Registry => registry.engine id
  let document ← Store.read engine.event false
  let block := document.ai
  if !block.enabled then return ()
  let ast := block.ast.getD .null
  if ast.isFull then restoreInline id block ast engine.generation
  else
    match Registry.nonempty? block.savedSegmentId with
    | some segment => restoreSaved id block segment engine.generation
    | none => return ()

/-- Keep the problem that restoring ended with, and say that it is over. -/
def concludeRestoring (id : EngineId) (result : Except Fault Unit) :
    Flow Registry Unit := do
  match result with
  | .error (.problem problem) =>
      Flow.modify fun registry : Registry =>
        registry.modifyEngine id fun engine =>
          { engine with hydrationError := some problem }
  | _ => pure ()
  setPhase id .hydrated
  match result with
  | .error (.problem _) => return ()
  | .error fault => .fail fault
  | .ok _ => return ()

/-- The one-time restoring of an engine. -/
def restoring (id : EngineId) : Flow Registry Unit := do
  setPhase id .hydrating
  (restoreFromDocument id).finish (concludeRestoring id)

/-- Restore an engine unless that has been done, and wait for the end. -/
def hydrate (id : EngineId) : Flow Registry Phase := do
  Flow.restored id Flow.ofResult
  Flow.query fun registry : Registry => (registry.engine id).phase

end Engine
end Audience
