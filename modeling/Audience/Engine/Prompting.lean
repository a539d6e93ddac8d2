import Audience.Engine.Apply
import Audience.Prompt

/-!
# From a prompt to a segment

A prompt is generated, saved, titled and shown; a saved segment is run again; a
segment on screen is renamed or generated anew.  Until the new segment is shown,
a failure leaves everything as it was.  A title that cannot be had is not a
failure.
-/

namespace Audience
namespace Engine

/-- The title of a saved segment that is run again. -/
def shownTitle (segment : SavedSegment) : String :=
  if segment.title = "" then segment.prompt else segment.title

/-- Run a saved segment again, on the first page. -/
def runSaved (id : EngineId) (segment : SavedSegment) :
    Flow Registry (Outcome Unit) := do
  let engine ← Flow.query fun registry : Registry => registry.engine id
  let page : Page := { engine.table.page with number := 1 }
  let executed ← Client.runSegment (some engine.event)
    (some segment.ast.filter) false (some page)
  match executed with
  | .error problem => return .error problem
  | .ok results =>
      let used ← Client.markUsed (some engine.event) segment.id
      if used.isOk then dropSaved id
      Flow.modify fun registry : Registry =>
        registry.modifyEngine id (Engine.moveTo page)
      apply id
        { results := some (some results)
          savedId := some (some segment.id)
          ast := some (some segment.ast.toJson)
          title := some (some (shownTitle segment))
          prompt := some (some segment.prompt) }
      return .ok ()

/-- Title a segment that was just saved: as the backend suggests, and as it
then answers. -/
def titleSaved (id : EngineId) (segment : String) (prompt : String)
    (root : Filter.Root) : Flow Registry String := do
  let event ← eventOf id
  let suggestion ← Client.suggestTitle (some event) prompt (some root)
  match suggestion with
  | .error _ => return ""
  | .ok title =>
      let updated ← Client.updateSaved (some event) segment (.ofTitle title)
      match updated with
      | .ok saved => return if saved.title = "" then title else saved.title
      | .error _ => return title

/-- Save a generated segment: its identifier, if it could be saved, and its
title. -/
def saveGenerated (id : EngineId) (prompt title : String)
    (root : Filter.Root) : Flow Registry (Option String × String) := do
  let event ← eventOf id
  let created ← Client.createSaved (some event) prompt root title false
  match created with
  | .error _ => return (none, title)
  | .ok saved =>
      dropSaved id
      if title = "" then
        let suggested ← titleSaved id saved.id prompt root
        return (some saved.id, suggested)
      else return (some saved.id, title)

/-- Generate a segment from a prompt, save it, title it and show it. -/
def generate (id : EngineId) (prompt title : String) (debug : Bool) :
    Flow Registry (Outcome Unit) := do
  let event ← eventOf id
  let generated ← Client.generate (some event) prompt
    { temperature := none, includeContext := none, debug }
  match generated with
  | .error problem => return .error problem
  | .ok generated =>
      let (savedId, title) ←
        saveGenerated id prompt (Text.trimmed title) generated.segment
      apply id
        { results := some (some generated.results)
          savedId := some savedId
          ast := some (some generated.segment.toJson)
          title := some (some title)
          prompt := some (some prompt) }
      return .ok ()

/-- What a question for a prompt is about. -/
inductive Mode where
  | prompt
  | refine
  deriving DecidableEq, Repr, Inhabited

namespace Mode

/-- The name of a mode. -/
def text : Mode → String
  | prompt => "prompt"
  | refine => "refine"

end Mode

/-- What is filled in when a question is asked. -/
structure Defaults where
  prompt : String
  title : String
  savedSegmentId : Option String
  deriving Repr, Inhabited

/-- A question that was asked. -/
structure Question where
  mode : Mode
  defaults : Defaults
  deriving Repr, Inhabited

/-- The outcome of a question, `none` when it was dismissed. -/
structure Turn where
  question : Question
  outcome : Option (Outcome Unit)

/-- Ask for a prompt: the given surface if there is one, otherwise the one of
the engine. -/
def ask (id : EngineId) (surface : Option Surface) :
    Flow Registry (Option Submission) := do
  let own ← Flow.query fun registry : Registry =>
    (registry.engine id).surface
  match surface, own with
  | some surface, _ => return surface.answer
  | none, some surface => return surface.answer
  | none, none => .fail .noSurface

/-- A prompt was given: generate a segment or run a saved one again. -/
def answerPrompt (id : EngineId) (submission : Submission) :
    Flow Registry (Outcome Unit) := do
  match Registry.nonempty? submission.savedSegmentId with
  | some segment =>
      let found ← requireSaved id segment
      match found with
      | .error problem => return .error problem
      | .ok saved => runSaved id saved
  | none => generate id submission.prompt submission.title submission.debug

/-- Ask for a prompt, and generate a segment or run a saved one again. -/
def openPrompt (id : EngineId) (defaults : Defaults)
    (surface : Option Surface) : Flow Registry Turn := do
  let question : Question := { mode := .prompt, defaults }
  let submission ← ask id surface
  match submission with
  | none => return { question, outcome := none }
  | some submission =>
      let outcome ← answerPrompt id submission
      return { question, outcome := some outcome }

/-- What is filled in when the segment on screen is refined. -/
def refineDefaults (state : AiState) (segment : Option SavedSegment) :
    Defaults :=
  let ofSegment (part : SavedSegment → String) : String :=
    (segment.map part).getD ""
  { prompt :=
      AiState.firstNonempty [state.prompt] (ofSegment SavedSegment.prompt)
    title :=
      AiState.firstNonempty
        [state.savedTitle, ofSegment SavedSegment.title] state.persistedTitle
    savedSegmentId := state.savedId }

/-- The changes that give a saved segment a new title; a blank one changes
nothing. -/
def titleChange (title : String) : SavedSegment.Patch :=
  if Text.isBlankText title then .empty else .ofTitle (Text.trimmed title)

/-- Rename the saved segment on screen. -/
def rename (id : EngineId) (segment : String) (submission : Submission) :
    Flow Registry (Outcome Unit) := do
  let renamed ← updateSaved id segment (titleChange submission.title)
  match renamed with
  | .error problem => return .error problem
  | .ok saved =>
      let state ← Flow.query fun registry : Registry =>
        (registry.engine id).state
      apply id
        { results := none
          savedId := some (some segment)
          ast := some (state.ast.map Filter.Root.toJson)
          title := some (some saved.title)
          prompt := some (some submission.prompt) }
      return .ok ()

/-- The saved segment on screen, after loading the list. -/
def savedOnScreen (id : EngineId) : Flow Registry (Option SavedSegment) := do
  let state ← Flow.query fun registry : Registry => (registry.engine id).state
  match Registry.nonempty? state.savedId with
  | none => return none
  | some _ =>
      let _ ← loadSaved id false
      Flow.query fun registry : Registry =>
        let engine := registry.engine id
        engine.findSaved? (engine.state.savedId.getD "")

/-- A refined prompt was given.  When it is the same up to blanks and the segment
is a saved one, only its title changes; otherwise the segment is generated
anew. -/
def answerRefine (id : EngineId) (defaults : Defaults)
    (submission : Submission) : Flow Registry (Outcome Unit) := do
  let state ← Flow.query fun registry : Registry => (registry.engine id).state
  match Registry.nonempty? state.savedId with
  | some saved =>
      if Prompt.sameWords submission.prompt defaults.prompt then
        rename id saved submission
      else generate id submission.prompt submission.title submission.debug
  | none => generate id submission.prompt submission.title submission.debug

/-- Ask for a refined prompt, and change the segment on screen. -/
def openRefine (id : EngineId) (surface : Option Surface) :
    Flow Registry Turn := do
  let segment ← savedOnScreen id
  let state ← Flow.query fun registry : Registry => (registry.engine id).state
  let defaults := refineDefaults state segment
  let question : Question := { mode := .refine, defaults }
  let submission ← ask id surface
  match submission with
  | none => return { question, outcome := none }
  | some submission =>
      let outcome ← answerRefine id defaults submission
      return { question, outcome := some outcome }

end Engine
end Audience
