import Audience.Document.Basic
import Audience.Flow.Basic
import Audience.Segment.Saved

/-!
# Engines

An engine answers, for one event, whether a segment from a prompt is active and
which one.  This module holds the state of an engine and what can be read off
it.
-/

namespace Audience

/-- What is on screen. -/
structure AiState where
  results : Option Results
  savedId : Option String
  prompt : String
  ast : Option Filter.Root
  savedTitle : String
  /-- The title in the stored document. -/
  persistedTitle : String
  deriving Repr, Inhabited

namespace AiState

/-- No segment is active. -/
def empty : AiState :=
  { results := none, savedId := none, prompt := "", ast := none,
    savedTitle := "", persistedTitle := "" }

/-- A segment is active. -/
def usesAi (state : AiState) : Bool := state.results.isSome

/-- The first text that is not empty, or the last one. -/
def firstNonempty : List String → String → String
  | [], last => last
  | text :: rest, last => if text = "" then firstNonempty rest last else text

/-- The title on screen: the most specific that there is. -/
def title (fallback : String) (state : AiState) : String :=
  firstNonempty [state.savedTitle, state.persistedTitle, state.prompt] fallback

/-- There is anything that a user could have brought on screen. -/
def isActive (state : AiState) : Bool :=
  state.results.isSome || state.ast.isSome || state.savedId.isSome

end AiState

/-- What a user answers when asked for a prompt.  With the identifier of a
saved segment, that segment is to be run again. -/
structure Submission where
  prompt : String
  title : String
  savedSegmentId : Option String
  debug : Bool
  deriving Repr, Inhabited

/-- Whoever is asked for a prompt: always with the same answer, `none` when
the question is dismissed. -/
structure Surface where
  answer : Option Submission
  deriving Repr, Inhabited

/-- The table under the segment: the page it is on, the number of rows when no
segment is active if that is known, and how often it ran the segment again. -/
structure Table where
  page : Page
  manualTotal : Option Int
  executions : Nat
  deriving Repr, Inhabited

/-- How far the state of an engine is restored from the stored document. -/
inductive Phase where
  | uninitialized
  | hydrating
  | hydrated
  deriving DecidableEq, Repr, Inhabited

namespace Phase

/-- The name of a phase. -/
def text : Phase → String
  | uninitialized => "uninitialized"
  | hydrating => "hydrating"
  | hydrated => "hydrated"

end Phase

/-- The engine of an event. -/
structure Engine where
  event : String
  firstPage : Page
  table : Table
  surface : Option Surface
  state : AiState
  /-- Changes of the state are told to an observer. -/
  observed : Bool
  latestToken : Nat
  /-- How often a user changed the state. -/
  generation : Nat
  saved : Option (List SavedSegment)
  phase : Phase
  hydrationError : Option Problem
  deriving Repr, Inhabited

namespace Engine

/-- A new engine. -/
def initial (event : String) (firstPage : Page) (surface : Option Surface) :
    Engine :=
  { event, firstPage
    table := { page := firstPage, manualTotal := none, executions := 0 }
    surface
    state := .empty
    observed := false
    latestToken := 0
    generation := 0
    saved := none
    phase := .uninitialized
    hydrationError := none }

/-- The saved segments that are loaded. -/
def savedSegments (engine : Engine) : List SavedSegment :=
  engine.saved.getD []

/-- The saved segment with an identifier, if it is loaded. -/
def findSaved? (identifier : String) (engine : Engine) : Option SavedSegment :=
  if identifier = "" then none
  else engine.savedSegments.find? fun segment => segment.id == identifier

/-- Put a saved segment in the place of the one with its identifier. -/
def replaceSaved (segment : SavedSegment) (engine : Engine) : Engine :=
  { engine with
    saved := engine.saved.map fun segments =>
      segments.map fun other =>
        if other.id = segment.id then segment else other }

/-- The prompt of the saved segment on screen, when no prompt is shown. -/
def missingPrompt? (engine : Engine) : Option String :=
  match engine.state.savedId with
  | none => none
  | some identifier =>
      if Text.isBlankText engine.state.prompt then
        match engine.findSaved? identifier with
        | some segment =>
            if segment.prompt = "" then none else some segment.prompt
        | none => none
      else none

/-- Take the next request token. -/
def takeToken (engine : Engine) : Engine :=
  { engine with latestToken := engine.latestToken + 1 }

/-- Move the table to a page. -/
def moveTo (page : Page) (engine : Engine) : Engine :=
  { engine with table := { engine.table with page } }

end Engine
end Audience
