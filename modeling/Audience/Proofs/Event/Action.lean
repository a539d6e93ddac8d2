import Audience.Proofs.Engine.Paging
import Audience.Service.Endpoint

/-!
# What is done about an event

Everything that can be done about an event is an action: its engine is used,
which makes it if there is none, its document is read or written, or all that is
known of it is forgotten.  An action ends with what whoever asked for it learns.
-/

namespace Audience

/-- What whoever asked for an action learns. -/
inductive Learned where
  | nothing
  | phase (phase : Phase)
  | turn (turn : Engine.Turn)
  | moved (outcome : Option (Outcome Results))
  | shown (shown : Engine.Shown)
  | listed (outcome : Outcome (List SavedSegment))
  | changed (outcome : Outcome SavedSegment)
  | document (document : Document)
  | written (outcome : Outcome Document)

namespace Engine

/-- What is done with an engine. -/
inductive Use where
  /-- It is made if there is none. -/
  | touch
  /-- An observer listens to it from now on. -/
  | observe
  | disregard
  | hydrate
  | apply (change : Change)
  | clear
  | openPrompt (defaults : Defaults) (surface : Option Surface)
  | openRefine (surface : Option Surface)
  | move (way : Move)
  | setTotal (total : Option Int)
  | showTable (rows : Json) (total : Option Int)
  | loadSaved (refresh : Bool)
  | updateSaved (segment : String) (patch : SavedSegment.Patch)

/-- How an engine is used. -/
def Use.flow (id : EngineId) : Use → Flow Registry Learned
  | touch => return .nothing
  | observe => do
      Flow.modify (Registry.observe id)
      return .nothing
  | disregard => do
      Flow.modify (Registry.disregard id)
      return .nothing
  | hydrate => do
      let phase ← Engine.hydrate id
      return .phase phase
  | apply change => do
      Engine.apply id change
      return .nothing
  | clear => do
      Engine.clear id
      return .nothing
  | openPrompt defaults surface => do
      let turn ← Engine.openPrompt id defaults surface
      return .turn turn
  | openRefine surface => do
      let turn ← Engine.openRefine id surface
      return .turn turn
  | move way => do
      let outcome ← way.flow id
      return .moved outcome
  | setTotal total => do
      Engine.setManualTotal id total
      return .nothing
  | showTable rows total => do
      let shown ← Engine.tableShown id rows total
      return .shown shown
  | loadSaved refresh => do
      let outcome ← Engine.loadSaved id refresh
      return .listed outcome
  | updateSaved segment patch => do
      let outcome ← Engine.updateSaved id segment patch
      return .changed outcome

end Engine

/-- What is done about an event. -/
inductive Action where
  | engine (use : Engine.Use)
  | read (refresh : Bool)
  | write (change : Change)
  | writeManual (search filters : Json)
  | reset

/-- How something is done about an event. -/
def Action.flow (event : String) : Action → Flow Registry Learned
  | engine use => do
      let id ← Service.engineFor event
      use.flow id
  | read refresh => do
      let document ← Store.read event refresh
      return .document document
  | write change => do
      let outcome ← Store.write event change
      return .written outcome
  | writeManual search filters => do
      let outcome ← Store.writeTable event search filters
      return .written outcome
  | reset => do
      Flow.modify (Registry.reset event)
      return .nothing

end Audience
