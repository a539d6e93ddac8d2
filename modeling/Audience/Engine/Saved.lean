import Audience.Client

/-!
# Saved segments of an engine

The list of saved segments is loaded once and shared by all who ask for it; a
segment that is missing from it is looked for once more.
-/

namespace Audience
namespace Engine

/-- The event of an engine. -/
def eventOf (id : EngineId) : Flow Registry String :=
  Flow.query fun registry : Registry => (registry.engine id).event

/-- Load the saved segments of an event. -/
def loadListOf (id : EngineId) (event : String) :
    Flow Registry (Outcome (List SavedSegment)) := do
  let result ← Client.listSaved (some event)
  match result with
  | .ok segments =>
      Flow.modify fun registry : Registry =>
        registry.modifyEngine id fun engine =>
          { engine with saved := some segments }
      return .ok segments
  | .error problem => return .error problem

/-- Load the saved segments unless they are loaded, or are to be refreshed.
Only one loader asks the backend at a time. -/
def loadList (id : EngineId) (refresh : Bool) :
    Flow Registry (Bool × Outcome (List SavedSegment)) :=
  Flow.locked (.savedSegments id) do
    let engine ← Flow.query fun registry : Registry => registry.engine id
    match engine.saved, refresh with
    | some segments, false => return (false, .ok segments)
    | _, _ =>
        let result ← loadListOf id engine.event
        return (true, result)

/-- Load the saved segments.  A list that was just loaded can show the prompt
of the segment on screen. -/
def loadSaved (id : EngineId) (refresh : Bool) :
    Flow Registry (Outcome (List SavedSegment)) := do
  let (loaded, result) ← loadList id refresh
  if loaded && result.isOk then
    Flow.modify fun registry : Registry => registry.backfillPrompt id
  return result

/-- The saved segment with an identifier, if it is loaded. -/
def findSaved (id : EngineId) (segment : String) :
    Flow Registry (Option SavedSegment) :=
  Flow.query fun registry : Registry => (registry.engine id).findSaved? segment

/-- The saved segment with an identifier, after one more look at the list if
need be. -/
def requireSaved (id : EngineId) (segment : String) :
    Flow Registry (Outcome SavedSegment) := do
  let loaded ← loadSaved id false
  match loaded with
  | .error problem => return .error problem
  | .ok _ =>
      let found ← findSaved id segment
      match found with
      | some saved => return .ok saved
      | none =>
          let loaded ← loadSaved id true
          match loaded with
          | .error problem => return .error problem
          | .ok _ =>
              let found ← findSaved id segment
              match found with
              | some saved => return .ok saved
              | none =>
                  return .error (.notFound Client.savedResource segment none)

/-- Change a saved segment and keep the loaded list up to date.  A new title of
the segment on screen is shown. -/
def updateSaved (id : EngineId) (segment : String)
    (patch : SavedSegment.Patch) : Flow Registry (Outcome SavedSegment) := do
  let event ← eventOf id
  let result ← Client.updateSaved (some event) segment patch
  match result with
  | .error problem => return .error problem
  | .ok saved =>
      Flow.modify fun registry : Registry =>
        let registry := registry.modifyEngine id (Engine.replaceSaved saved)
        if (registry.engine id).state.savedId = some segment ∧
            patch.title.isSome then
          registry.transition id fun state =>
            { state with savedTitle := saved.title }
        else registry
      return .ok saved

/-- The loaded list is out of date. -/
def dropSaved (id : EngineId) : Flow Registry Unit :=
  Flow.modify fun registry : Registry =>
    registry.modifyEngine id fun engine => { engine with saved := none }

end Engine
end Audience
