import Audience.Address.Basic
import Audience.Document.Cache
import Audience.Engine.Basic
import Audience.Settings
import Audience.Title

/-!
# The registry

The shared state of all flows: one engine per event, made on first use, and one
cache of documents that all engines listen to.  Every change in this module is
immediate and tells whoever listens.
-/

namespace Audience

/-- How the backend is called. -/
structure Client where
  /-- The address of the backend. -/
  service : Address
  token : Option String
  instanceId : Option String
  /-- A call was made. -/
  opened : Bool
  deriving Repr, Inhabited

/-- What an observer hears. -/
inductive Notice where
  | document (event : String) (document : Document)
  | engine (event : String) (state : AiState)
  deriving Repr, Inhabited

/-- The shared state of all flows. -/
structure Registry where
  settings : Settings
  now : Timestamp
  /-- The identifier that work gets which comes without one. -/
  freshId : String
  client : Client
  cache : Cache
  /-- All engines ever made, in order. -/
  engines : List Engine
  /-- The engine in use for each event. -/
  current : Keyed String EngineId
  /-- What the observers heard, latest last. -/
  heard : List Notice
  deriving Repr, Inhabited

namespace Registry

/-- A registry without engines. -/
def initial (settings : Settings) (now : Timestamp) (freshId : String)
    (client : Client) : Registry :=
  { settings, now, freshId, client, cache := .empty, engines := [],
    current := [], heard := [] }

/-- An engine. -/
def engine (id : EngineId) (registry : Registry) : Engine :=
  (registry.engines[id]?).getD default

/-- Change an engine. -/
def modifyEngine (id : EngineId) (change : Engine → Engine)
    (registry : Registry) : Registry :=
  { registry with engines := registry.engines.modify id change }

/-- Tell an observer. -/
def tell (notice : Notice) (registry : Registry) : Registry :=
  { registry with heard := registry.heard ++ [notice] }

/-- Change the state of an engine and tell its observer. -/
def transition (id : EngineId) (change : AiState → AiState)
    (registry : Registry) : Registry :=
  let registry := registry.modifyEngine id fun engine =>
    { engine with state := change engine.state }
  let engine := registry.engine id
  if engine.observed then registry.tell (.engine engine.event engine.state)
  else registry

/-- Show the prompt of the saved segment on screen once it is known. -/
def backfillPrompt (id : EngineId) (registry : Registry) : Registry :=
  match (registry.engine id).missingPrompt? with
  | some prompt => registry.transition id fun state => { state with prompt }
  | none => registry

/-- An engine hears of a document: it follows the title. -/
def hearDocument (id : EngineId) (event : String) (document : Document)
    (registry : Registry) : Registry :=
  let engine := registry.engine id
  if engine.event = event ∧ document.ai.title ≠ engine.state.persistedTitle then
    registry.transition id fun state =>
      { state with persistedTitle := document.ai.title }
  else registry

/-- Tell a subscriber of a document. -/
def tellSubscriber (event : String) (document : Document)
    (registry : Registry) : Subscriber → Registry
  | .engine id => registry.hearDocument id event document
  | .observer => registry.tell (.document event document)

/-- Change the cache of documents. -/
def modifyCache (change : Cache → Cache) (registry : Registry) : Registry :=
  { registry with cache := change registry.cache }

/-- Put a document into the cache and tell all subscribers. -/
def setDocument (event : String) (document : Document) (registry : Registry) :
    Registry :=
  let registry := registry.modifyCache fun cache =>
    { cache with documents := Keyed.put event document cache.documents }
  registry.cache.subscribers.foldl (tellSubscriber event document) registry

/-- Subscribe to documents. -/
def subscribe (subscriber : Subscriber) (registry : Registry) : Registry :=
  registry.modifyCache fun cache =>
    { cache with subscribers := cache.subscribers ++ [subscriber] }

/-- End a subscription to documents. -/
def unsubscribe (subscriber : Subscriber) (registry : Registry) : Registry :=
  registry.modifyCache fun cache =>
    { cache with subscribers := cache.subscribers.erase subscriber }

/-- Put an engine into use for its event. -/
def addEngine (engine : Engine) (registry : Registry) : EngineId × Registry :=
  let id := registry.engines.length
  let added :=
    { registry with
      engines := registry.engines ++ [engine]
      current := Keyed.put engine.event id registry.current }
  (id, added.subscribe (.engine id))

/-- The engine in use for an event, made when there is none. -/
def engineFor (event : String) (registry : Registry) : EngineId × Registry :=
  match Keyed.get? event registry.current with
  | some id => (id, registry)
  | none =>
      registry.addEngine
        (Engine.initial event registry.settings.firstPage none)

/-- Forget an event.  Its engine hears of documents no more. -/
def reset (event : String) (registry : Registry) : Registry :=
  let detached :=
    match Keyed.get? event registry.current with
    | some id =>
        { registry.unsubscribe (.engine id) with
          current := Keyed.erase event registry.current }
    | none => registry
  detached.modifyCache (Cache.forget event)

/-- Take the next request token of an engine. -/
def takeToken (id : EngineId) (registry : Registry) : Nat × Registry :=
  let registry := registry.modifyEngine id Engine.takeToken
  ((registry.engine id).latestToken, registry)

/-- Show the results of running the segment again: only those of the latest
request, and only while a segment is active. -/
def updateResults (id : EngineId) (results : Results) (token : Int)
    (registry : Registry) : Bool × Registry :=
  let engine := registry.engine id
  if token = engine.latestToken ∧ engine.state.usesAi then
    (true, registry.transition id fun state =>
      { state with results := some results })
  else (false, registry)

/-- A user changes the state of an engine. -/
def countUser (id : EngineId) (registry : Registry) : Registry :=
  registry.modifyEngine id fun engine =>
    { engine with generation := engine.generation + 1 }

/-- What an engine is restored to. -/
structure Restored where
  results : Results
  savedId : Option String
  ast : Option Filter.Root
  title : String
  prompt : String

/-- An optional text, where the empty one counts as absent. -/
def nonempty? : Option String → Option String
  | some text => if text = "" then none else some text
  | none => none

/-- The state that is restored. -/
def Restored.apply (restored : Restored) (state : AiState) : AiState :=
  { state with
    results := some restored.results
    savedId := nonempty? restored.savedId
    ast := restored.ast
    savedTitle := restored.title
    prompt := if restored.prompt = "" then state.prompt else restored.prompt }

/-- Restore the state of an engine, unless a user changed it since the given
generation or something is on screen already. -/
def restore (id : EngineId) (restored : Restored) (generation : Option Int)
    (registry : Registry) : Bool × Registry :=
  let engine := registry.engine id
  let late :=
    match generation with
    | some seen => seen != (engine.generation : Int)
    | none => false
  if late || engine.state.isActive then (false, registry)
  else
    let registry := registry.modifyEngine id fun engine =>
      engine.takeToken.moveTo engine.firstPage
    (true,
      (registry.transition id restored.apply).backfillPrompt id)

/-- Show the state of an engine to an observer from now on. -/
def observe (id : EngineId) (registry : Registry) : Registry :=
  registry.modifyEngine id fun engine => { engine with observed := true }

/-- Show the state of an engine to nobody. -/
def disregard (id : EngineId) (registry : Registry) : Registry :=
  registry.modifyEngine id fun engine => { engine with observed := false }

end Registry
end Audience
