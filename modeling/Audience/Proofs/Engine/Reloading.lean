import Audience.Engine.Hydration
import Audience.Proofs.Client
import Audience.Proofs.Engine.Applying
import Audience.Proofs.Filter.Finite

/-!
# Reloading

What a user brought on screen is written to the filter document.  When the page
is loaded again, a new engine finds it there: the segment is run once more, and
the screen shows what it showed before.  A cleared screen stays empty.
-/

namespace Audience
namespace Reloading

open Engine
open Store

/-- What the backend stores under each path, and the calls that it received. -/
structure Backend where
  stored : Keyed String Fields
  received : List Call

namespace Backend

/-- The fields of the document that is stored under a path. -/
def document (path : String) (backend : Backend) : Fields :=
  (Keyed.get? path backend.stored).getD []

end Backend

/-- The backend confirms every write, merging its blocks, tells what is stored
where it is asked, and runs every segment. -/
def serves (before : Backend) (call : Call) (reply : Reply) (after : Backend) :
    Prop :=
  after.received = before.received ++ [call] ∧
  ∃ json, Client.ended none reply = .ok json ∧
    if isWrite call then
      after.stored = Keyed.put call.path
        (Memory.mergeBlocks (call.body.getD .null) (before.document call.path)
          Memory.blocks) before.stored
    else after.stored = before.stored ∧
      (call.method = "GET" →
        Document.unwrapFields json = before.document call.path) ∧
      (call.method = "POST" → ∃ results, Results.read json = .value results)

section Writing

variable {registry : Registry} {server : Backend}

/-- The path of a call depends only on the service and the path below it. -/
theorem path_of_call {client other : Client} {method second path : String}
    {body more : Option Json} {call last : Call}
    (service : other.service = client.service)
    (made : client.call method path body = .ok call)
    (also : other.call second path more = .ok last) :
    last.path = call.path := by
  unfold Client.call at made also
  obtain ⟨address, resolved, rest⟩ := Filter.bind_eq_ok.mp made
  obtain ⟨_, -, same⟩ := Filter.bind_eq_ok.mp rest
  cases same
  obtain ⟨_, again, further⟩ := Filter.bind_eq_ok.mp also
  rw [service, resolved] at again
  cases again
  obtain ⟨_, -, same⟩ := Filter.bind_eq_ok.mp further
  cases same
  rfl

/-- A confirmed write ends, and asks the backend no more. -/
theorem alone_confirmed {pending : PendingWrite} {change : Change} {json : Json}
    {ends : Except Fault (Outcome Document) → Registry → Backend → Prop}
    (ended : ∀ document later, ends (.ok (.ok document)) later server) :
    (settle pending change (.ok json)).Alone serves ends registry server := by
  show Flow.Alone serves (if change.manual.isSome then _ else _) ends _ server
  split
  · exact ended _ _
  · exact ended _ _

/-- A write that ends leaves its blocks in the document that is stored. -/
theorem alone_write {event : String} {change : Change} {client : Client}
    {get : Call} (service : client.service = registry.client.service)
    (asks : client.call "GET" (path event) none = .ok get) :
    (Store.write event change).Alone serves (fun result _ after =>
      ∀ outcome, result = .ok outcome → after.document get.path =
        change.written (server.document get.path)) registry server := by
  apply Store.alone_write
  · intro fault later outcome same
    cases same
  rintro pending call - made reply after ⟨_, json, answered, stored⟩
  rw [if_pos (isWrite_of_put made)] at stored
  have place : get.path = call.path := path_of_call service made asks
  have taken : after.document get.path =
      change.written (server.document get.path) := by
    rw [place, Backend.document, stored, Keyed.get?_put_self,
      Client.body_of_call made]
    rfl
  rw [answered]
  exact alone_confirmed fun _ _ _ _ => taken

/-- An AI block that was written is in the document that is stored. -/
theorem alone_persist {id : EngineId} {event : String} {block : AiBlock}
    {client : Client} {get : Call}
    (named : (registry.engine id).event = event)
    (service : client.service = registry.client.service)
    (asks : client.call "GET" (path event) none = .ok get) :
    (persist id block).Alone serves (fun result _ after =>
      result = .ok () → after.document get.path =
        (Change.ofAi block).written (server.document get.path))
      registry server :=
  Engine.alone_persist named (alone_write service asks)

/-- A user's change that ends is in the document that is stored, and on
screen. -/
theorem alone_apply {id : EngineId} {event : String} {change : Engine.Change}
    {client : Client} {get : Call}
    (named : (registry.engine id).event = event)
    (service : client.service = registry.client.service)
    (asks : client.call "GET" (path event) none = .ok get) :
    (apply id change).Alone serves (fun result later after =>
      result = .ok () → ∃ root, change.root = .ok root ∧
        after.document get.path =
          (Change.ofAi (change.block root (registry.cache.document event).ai)
            ).written (server.document get.path) ∧
        (registry.Has id → ∃ persistedTitle, (later.engine id).state =
          { change.apply root (registry.engine id).state with
            persistedTitle })) registry server := by
  apply Engine.alone_apply
  · intro misuse _ ended
    cases ended
  · intro root normal
    rw [named]
    have service' :
        client.service = (change.shown id root registry).client.service := by
      rw [change.shown_client, service]
    have event' := (change.event_shown id registry root).trans named
    apply (Engine.alone_persist_quiet
      (alone_persist event' service' asks)).mono
    rintro result later after ⟨written, quiet⟩ ended
    exact ⟨root, normal, written ended, fun has =>
      Engine.Change.state_of_quiet has quiet⟩

/-- A cleared screen is in the document that is stored. -/
theorem alone_clear {id : EngineId} {event : String} {client : Client}
    {get : Call} (named : (registry.engine id).event = event)
    (service : client.service = registry.client.service)
    (asks : client.call "GET" (path event) none = .ok get) :
    (clear id).Alone serves (fun result _ after =>
      result = .ok () → after.document get.path =
        (Change.ofAi .cleared).written (server.document get.path))
      registry server := by
  apply Engine.alone_clear
  exact alone_persist ((event_wiped id registry).trans named)
    (by rw [wiped_client, service]) asks

end Writing

section Restoring

variable {registry : Registry} {server : Backend} {id : EngineId}
variable {event : String} {page : Page}

/-- Nothing is on screen of an engine, and no user changed it. -/
structure Blank (event : String) (page : Page) (engine : Engine) : Prop where
  event : engine.event = event
  firstPage : engine.firstPage = page
  generation : engine.generation = 0
  saved : engine.saved = none
  results : engine.state.results = none
  savedId : engine.state.savedId = none
  ast : engine.state.ast = none
  error : engine.hydrationError = none

/-- The title of the document is not on screen. -/
theorem Blank.of_retitled {before after : Engine}
    (blank : Blank event page before) (quiet : before.Retitled after) :
    Blank event page after := by
  obtain ⟨title, rfl⟩ := quiet
  exact { blank with }

/-- Setting the phase of an engine. -/
def phased (phase : Phase) (id : EngineId) (registry : Registry) : Registry :=
  registry.modifyEngine id fun engine => { engine with phase }

/-- An engine that was restored is hydrated. -/
theorem alone_hydrate {β : Type} {serves : β → Call → Reply → β → Prop}
    {server : β} {ends : Registry → β → Prop}
    (restores : (restoreFromDocument id).Alone serves
      (fun result later after => result = .ok () ∧ later.Has id ∧
        ends (phased .hydrated id later) after)
      (phased .hydrating id registry) server) :
    ((hydrate id).serial Engine.restoring []).Alone serves
      (fun result later after => result = .ok .hydrated ∧ ends later after)
      registry server := by
  show ((Engine.restoring id).finish _).Alone serves _ registry server
  rw [Flow.alone_finish]
  show ((restoreFromDocument id).finish (concludeRestoring id)).Alone serves _
    (phased .hydrating id registry) server
  rw [Flow.alone_finish]
  apply restores.mono
  rintro result later after ⟨rfl, has, ended⟩
  refine ⟨?_, ended⟩
  show Except.ok ((phased .hydrated id later).engine id).phase = _
  rw [phased, Registry.engine_modifyEngine_self has]

/-- A document that is not known is asked for and kept. -/
theorem alone_read {get : Call} {document : Document}
    (opens : registry.client.ensureOpen =
      .ok { registry.client with opened := true })
    (asks : registry.client.call "GET" (path event) none = .ok get)
    (unknown : Keyed.get? event registry.cache.documents = none)
    (readable : Document.read (.obj (server.document get.path)) =
      .value document) :
    (Store.read event false).Alone serves (fun result later after =>
      result = .ok document ∧ later = kept event document registry.opened ∧
        after.stored = server.stored ∧
        after.received = server.received ++ [get]) registry server := by
  rw [read_eq, Flow.alone_locked]
  simp only [Flow.Alone, unknown]
  rw [load_eq, Flow.alone_finish]
  apply Client.alone_sent opens asks
  rintro reply after ⟨received, json, answered, stored⟩
  rw [if_neg (by simp [isWrite_of_get asks])] at stored
  obtain ⟨stored, told, -⟩ := stored
  have carried := told (Client.parts_of_call asks).1
  have found : fetched (.ok json) = .ok document := by
    show (Document.ofStored json).mapError Fault.problem = _
    rw [Document.ofStored_eq_ok.mpr (carried ▸ readable)]
    rfl
  rw [Client.ended_eq_ok answered, found]
  exact ⟨rfl, rfl, stored, received⟩

/-- Keeping a document that was asked for is quiet. -/
theorem quiet_kept (event : String) (document : Document) (registry : Registry) :
    registry.Quiet (kept event document registry.opened) :=
  (Registry.quiet_opened.trans (Registry.quiet_modifyCache _)).trans
    (Registry.quiet_setDocument _ _)

/-- A segment is run. -/
theorem alone_runSegment {node : Filter.Node} {run : Call}
    (named : event ≠ "")
    (opens : registry.client.ensureOpen =
      .ok { registry.client with opened := true })
    (asks : registry.client.call "POST" (Client.pathOf event "segments")
      (some (Client.runBody node false (some page))) = .ok run) :
    (Client.runSegment (some event) (some node) false (some page)).Alone serves
      (fun result later after => (∃ results, result = .ok (.ok results)) ∧
        later = registry.opened ∧ after.stored = server.stored ∧
        after.received = server.received ++ [run]) registry server := by
  have path : Client.eventPath (some event) "segments" =
      .done (Client.pathOf event "segments") := by
    simp [Client.eventPath, Registry.nonempty?, named]
  unfold Client.runSegment
  rw [path, Flow.guard_eq, Flow.alone_finish]
  show Flow.Alone serves (Flow.bind (Client.request "POST" _ _ none) _) _ _ _
  apply Flow.alone_bind.mpr
  apply Client.alone_sent opens asks
  rintro reply after ⟨received, json, answered, stored⟩
  have method := (Client.parts_of_call asks).1
  have runs : isWrite run = false := by
    unfold isWrite
    rw [method]
    decide
  rw [if_neg (by simp [runs])] at stored
  obtain ⟨stored, -, ran⟩ := stored
  obtain ⟨results, read⟩ := ran method
  rw [answered]
  dsimp only
  rw [Client.parse_eq_ok.mpr read]
  exact ⟨⟨results, rfl⟩, rfl, stored, received⟩

/-- No prompt is filled in before the saved segments are listed. -/
theorem missingPrompt?_of_unlisted {engine : Engine}
    (unlisted : engine.saved = none) : engine.missingPrompt? = none := by
  unfold Engine.missingPrompt? Engine.findSaved? Engine.savedSegments
  rw [unlisted]
  split <;> simp

/-- Restoring is accepted as long as nothing is on screen. -/
theorem engine_restore (has : registry.Has id)
    (blank : Blank event page (registry.engine id))
    (restored : Registry.Restored) :
    (registry.restore id restored (some 0)).2.Has id ∧
      (registry.restore id restored (some 0)).2.engine id =
        { (registry.engine id).takeToken.moveTo page with
          state := restored.apply (registry.engine id).state } := by
  have accepted : registry.restore id restored (some 0) =
      (true, ((registry.modifyEngine id fun engine =>
        engine.takeToken.moveTo engine.firstPage).transition id
          restored.apply).backfillPrompt id) := by
    unfold Registry.restore
    simp [blank.generation, AiState.isActive, blank.results, blank.savedId,
      blank.ast]
  have shown : ((registry.modifyEngine id fun engine =>
      engine.takeToken.moveTo engine.firstPage).transition id
        restored.apply).engine id =
      { (registry.engine id).takeToken.moveTo page with
        state := restored.apply (registry.engine id).state } := by
    rw [Registry.engine_transition, Registry.engine_modifyEngine_self
      ((Registry.has_modifyEngine _).mpr has),
      Registry.engine_modifyEngine_self has, blank.firstPage]
    rfl
  rw [accepted]
  dsimp only
  unfold Registry.backfillPrompt
  rw [shown, missingPrompt?_of_unlisted (by exact blank.saved)]
  exact ⟨by simpa using has, shown⟩

/-- A segment is on screen, as it was restored. -/
structure Shown (root : Filter.Root) (savedId : Option String)
    (title : String) (engine : Engine) : Prop where
  usesAi : engine.state.usesAi = true
  ast : engine.state.ast = some root
  savedId : engine.state.savedId = savedId
  savedTitle : engine.state.savedTitle = title
  error : engine.hydrationError = none

/-- A client that made a call can make the next one. -/
theorem ensureOpen_opened {client : Client}
    (opens : client.ensureOpen = .ok { client with opened := true }) :
    ({ client with opened := true } : Client).ensureOpen =
      .ok { client with opened := true } := by
  unfold Client.ensureOpen at opens ⊢
  dsimp only at opens ⊢
  split at opens
  · rename_i ascii
    exact if_pos ascii
  · cases opens

/-- The tree that is found in the document is run and shown. -/
theorem alone_restoreFromDocument {get run : Call} {document : Document}
    {root : Filter.Root} (has : registry.Has id)
    (blank : Blank event page (registry.engine id)) (named : event ≠ "")
    (opens : registry.client.ensureOpen =
      .ok { registry.client with opened := true })
    (asks : registry.client.call "GET" (path event) none = .ok get)
    (runs : registry.client.call "POST" (Client.pathOf event "segments")
      (some (Client.runBody root.filter false (some page))) = .ok run)
    (unknown : Keyed.get? event registry.cache.documents = none)
    (readable : Document.read (.obj (server.document get.path)) =
      .value document)
    (canonical : root.Canonical) (enabled : document.ai.enabled = true)
    (tree : document.ai.ast = some root.toJson) :
    (restoreFromDocument id).Alone serves (fun result later after =>
      result = .ok () ∧ later.Has id ∧
        Shown root (Registry.nonempty? document.ai.savedSegmentId)
          document.ai.title (later.engine id) ∧
        after.stored = server.stored ∧
        after.received = server.received ++ [get, run]) registry server := by
  show Flow.Alone serves (Flow.bind (Store.read _ false) _) _ _ _
  rw [blank.event]
  apply Flow.alone_bind.mpr
  apply (alone_read opens asks unknown readable).mono
  rintro result later after ⟨rfl, rfl, stored, received⟩
  -- Reading the document changed nothing of the engine but a title.
  have quiet := quiet_kept event document registry
  generalize known : kept event document registry.opened = reading at quiet
  have client : reading.client =
      { registry.client with opened := true } := by
    subst known
    simp [kept, Registry.modifyCache, Registry.opened]
  have still := blank.of_retitled (quiet.engine id)
  dsimp only
  rw [enabled, tree, blank.generation]
  show Flow.Alone serves
    (Flow.bind (Flow.ofNormal (Filter.Root.ofJson root.toJson)) _) _ _ _
  rw [Filter.Root.ofJson_toJson canonical]
  show Flow.Alone serves (Flow.bind (Client.runSegment
    (some (reading.engine id).event) (some root.filter) false
      (some (reading.engine id).firstPage)) _) _ _ _
  rw [still.event, still.firstPage]
  apply Flow.alone_bind.mpr
  have possible : reading.client.ensureOpen =
      .ok { reading.client with opened := true } := by
    rw [client]
    exact ensureOpen_opened opens
  have runsAgain : reading.client.call "POST" (Client.pathOf event "segments")
      (some (Client.runBody root.filter false (some page))) = .ok run := by
    rw [client]
    exact runs
  apply (alone_runSegment named possible runsAgain).mono
  rintro result later ending ⟨⟨results, rfl⟩, rfl, unchanged, ran⟩
  have there : reading.opened.Has id := (quiet.has id).mpr has
  obtain ⟨remains, engine⟩ := engine_restore there still
    { results, savedId := document.ai.savedSegmentId, ast := some root,
      title := document.ai.title, prompt := "" }
  refine ⟨rfl, remains, ?_, unchanged.trans stored, ?_⟩
  · show Shown _ _ _ ((reading.opened.restore id _ (some 0)).2.engine id)
    rw [engine]
    exact ⟨rfl, rfl, rfl, rfl, still.error⟩
  · rw [ran, received, List.append_assoc]
    rfl

/-- Where the document says that the screen was cleared, nothing is run. -/
theorem alone_restoreNothing {get : Call} {document : Document}
    (has : registry.Has id) (blank : Blank event page (registry.engine id))
    (opens : registry.client.ensureOpen =
      .ok { registry.client with opened := true })
    (asks : registry.client.call "GET" (path event) none = .ok get)
    (unknown : Keyed.get? event registry.cache.documents = none)
    (readable : Document.read (.obj (server.document get.path)) =
      .value document)
    (disabled : document.ai.enabled = false) :
    (restoreFromDocument id).Alone serves (fun result later after =>
      result = .ok () ∧ later.Has id ∧ Blank event page (later.engine id) ∧
        after.stored = server.stored ∧
        after.received = server.received ++ [get]) registry server := by
  show Flow.Alone serves (Flow.bind (Store.read _ false) _) _ _ _
  rw [blank.event]
  apply Flow.alone_bind.mpr
  apply (alone_read opens asks unknown readable).mono
  rintro result later after ⟨rfl, rfl, stored, received⟩
  have quiet := quiet_kept event document registry
  dsimp only
  rw [disabled]
  exact ⟨rfl, (quiet.has id).mpr has, blank.of_retitled (quiet.engine id),
    stored, received⟩

end Restoring

section Reload

variable {registry later : Registry} {before after : Backend}
variable {id : EngineId} {event : String}

/-- The phase is not on screen. -/
theorem Shown.phased {root : Filter.Root} {savedId : Option String}
    {title : String} (has : registry.Has id)
    (shown : Shown root savedId title (registry.engine id)) (phase : Phase) :
    Shown root savedId title ((phased phase id registry).engine id) := by
  rw [Reloading.phased, Registry.engine_modifyEngine_self has]
  exact { shown with }

theorem Blank.phased {page : Page} (has : registry.Has id)
    (blank : Blank event page (registry.engine id)) (phase : Phase) :
    Blank event page ((phased phase id registry).engine id) := by
  rw [Reloading.phased, Registry.engine_modifyEngine_self has]
  exact { blank with }

@[simp] theorem nonempty?_nonempty? (text : Option String) :
    Registry.nonempty? (Registry.nonempty? text) = Registry.nonempty? text := by
  cases text with
  | none => rfl
  | some text =>
      by_cases empty : text = "" <;> simp [Registry.nonempty?, empty]

/-- A user's change that brings a segment with all its parts. -/
def whole (results : Results) (savedId : Option String) (json : Json)
    (title prompt : Option String) : Engine.Change :=
  { results := some (some results)
    savedId := some savedId
    ast := some (some json)
    title := some title
    prompt := some prompt }

/-- The block that is written with it is read back as it is. -/
theorem ai_of_whole {results : Results} {savedId : Option String} {json : Json}
    {title prompt : Option String} {root : Filter.Root} {prior : AiBlock}
    {fields : Fields} {document : Document}
    (normal : Filter.Root.ofJson json = .ok root)
    (readable : Document.read (.obj ((Change.ofAi
      ((whole results savedId json title prompt).block (some (some root)) prior)
        ).written fields)) = .value document) :
    document.ai =
      { enabled := true
        savedSegmentId := Registry.nonempty? savedId
        ast := some root.toJson
        title := title.getD "" } := by
  have sent : ((whole results savedId json title prompt).block
      (some (some root)) prior).onWire = _ :=
    AiBlock.onWire_of_root (fun tree same =>
      Option.some.inj same ▸ Filter.Root.canonical_ofJson normal) rfl
  have enabled : ((whole results savedId json title prompt).block
      (some (some root)) prior).enabled = true := Bool.or_true _
  rw [Change.ai_of_written readable, sent, ← enabled]
  rfl

/-- A registry that was just made, with the engine that it makes for an event. -/
def fresh (settings : Settings) (now : Timestamp) (freshId : String)
    (client : Client) (event : String) : Registry :=
  ((Registry.initial settings now freshId client).engineFor event).2

/-- Whatever was done before, a user brings a segment on screen and the backend
confirms the write; what it stores can be read.  Then the page is loaded again
and the engine restored.  The segment that was normalized is run on the first
page, and it is on screen with its identifier and its title; the backend is only
asked for the document and for the run.  If the user cleared the screen instead,
nothing is run and nothing is on screen. -/
theorem reload_gives_back_segment (settings : Settings) (now : Timestamp)
    (freshId : String) {client : Client} {get : Call} {document : Document}
    (named : (registry.engine id).event = event)
    (service : client.service = registry.client.service)
    (opens : client.ensureOpen = .ok { client with opened := true })
    (asks : client.call "GET" (path event) none = .ok get)
    (readable : Document.read (.obj (after.document get.path)) =
      .value document) :
    (∀ results savedId json title prompt root run,
      Filter.Root.ofJson json = .ok root →
      (apply id (whole results savedId json title prompt)).Ran serves registry
        before (.ok ()) later after →
      event ≠ "" →
      client.call "POST" (Client.pathOf event "segments") (some
        (Client.runBody root.filter false (some settings.firstPage))) =
          .ok run →
      ((hydrate 0).serial Engine.restoring []).Alone serves
        (fun result final ending => result = .ok .hydrated ∧
          Shown root (Registry.nonempty? savedId) (title.getD "")
            (final.engine 0) ∧
          ending.stored = after.stored ∧
          ending.received = after.received ++ [get, run])
        (fresh settings now freshId client event) after) ∧
    ((clear id).Ran serves registry before (.ok ()) later after →
      ((hydrate 0).serial Engine.restoring []).Alone serves
        (fun result final ending => result = .ok .hydrated ∧
          Blank event settings.firstPage (final.engine 0) ∧
          ending.stored = after.stored ∧
          ending.received = after.received ++ [get])
        (fresh settings now freshId client event) after) := by
  have has : (phased .hydrating 0
      (fresh settings now freshId client event)).Has 0 := Nat.zero_lt_one
  have blank : Blank event settings.firstPage ((phased .hydrating 0
      (fresh settings now freshId client event)).engine 0) :=
    ⟨rfl, rfl, rfl, rfl, rfl, rfl, rfl, rfl⟩
  constructor
  · intro results savedId json title prompt root run normal ran filled runs
    have canonical := Filter.Root.canonical_ofJson normal
    have given : (whole results savedId json title prompt).root =
        .ok (some (some root)) := by
      simp only [whole, Engine.Change.root, normal]
      rfl
    obtain ⟨found, same, written, -⟩ :=
      (alone_apply named service asks).ran ran rfl
    obtain rfl : found = some (some root) :=
      Except.ok.inj (same.symm.trans given)
    -- The tree is stored in normal form, so normalizing it again when it is
    -- restored does not change it.
    have ai := ai_of_whole normal (written ▸ readable)
    have enabled : document.ai.enabled = true := by rw [ai]
    have tree : document.ai.ast = some root.toJson := by rw [ai]
    apply alone_hydrate
    apply (alone_restoreFromDocument has blank filled opens asks runs rfl
      readable canonical enabled tree).mono
    rintro result last ending ⟨ended, remains, shown, stored, received⟩
    rw [ai, nonempty?_nonempty?] at shown
    exact ⟨ended, remains, shown.phased remains _, stored, received⟩
  · intro ran
    have written := (alone_clear named service asks).ran ran rfl
    have ai := Change.ai_of_written (written ▸ readable)
    have disabled : document.ai.enabled = false := by rw [ai]; rfl
    apply alone_hydrate
    apply (alone_restoreNothing has blank opens asks rfl readable disabled).mono
    rintro result last ending ⟨ended, remains, empty, stored, received⟩
    exact ⟨ended, remains, empty.phased remains _, stored, received⟩

end Reload

section FirstReload

/-- A backend that tells what it stores, after the blocks of a write are merged
into it. -/
def keep (before : Backend) (call : Call) : Reply × Backend :=
  let received := before.received ++ [call]
  if isWrite call then
    let merged := Memory.mergeBlocks (call.body.getD .null)
      (before.document call.path) Memory.blocks
    (Memory.documentReply (.obj merged),
      { stored := Keyed.put call.path merged before.stored, received })
  else if call.method = "GET" then
    (Memory.documentReply (.obj (before.document call.path)),
      { before with received })
  else (.response 200 (.json (.obj [])), { before with received })

/-- That backend serves as long as what it stores can be sent. -/
theorem serves_keep {exchange : Backend × Call}
    (sendable : (keep exchange.1 exchange.2).1.ensureSendable.isOk = true) :
    serves exchange.1 exchange.2 (keep exchange.1 exchange.2).1
      (keep exchange.1 exchange.2).2 := by
  obtain ⟨before, call⟩ := exchange
  have answered (document : Json)
      (fits : (Memory.documentReply document).ensureSendable.isOk = true) :
      Client.ended none (Memory.documentReply document) =
        .ok (.obj [("filters", document)]) := by
    unfold Client.ended
    cases checked : (Memory.documentReply document).ensureSendable with
    | error misuse =>
        rw [checked] at fits
        cases fits
    | ok _ => rfl
  unfold keep at sendable ⊢
  dsimp only at sendable ⊢
  by_cases writes : isWrite call
  · simp only [if_pos writes] at sendable ⊢
    exact ⟨rfl, _, answered _ sendable, by rw [if_pos writes]⟩
  simp only [if_neg writes] at sendable ⊢
  by_cases asks : call.method = "GET"
  · simp only [if_pos asks] at sendable ⊢
    refine ⟨rfl, _, answered _ sendable, ?_⟩
    rw [if_neg writes]
    refine ⟨rfl, fun _ => rfl, fun runs => ?_⟩
    rw [asks] at runs
    exact absurd runs (by decide)
  · simp only [if_neg asks]
    refine ⟨rfl, .obj [], rfl, ?_⟩
    rw [if_neg writes]
    exact ⟨rfl, fun reads => absurd reads asks, fun _ => ⟨_, rfl⟩⟩

/-- A client of a service. -/
def client : Client :=
  { service := .ofService "http" "crm" "", token := none, instanceId := none,
    opened := false }

/-- A registry with one engine that was not used yet. -/
def withEngine : Registry := fresh .standard default "" client "event"

/-- The empty tree. -/
def everyone : Filter.Root := { filter := .empty }

/-- A user brings all persons on screen, as a saved segment. -/
def showEveryone : Flow Registry Unit :=
  apply 0 (whole default (some "seg_1") everyone.toJson (some "All") none)

/-- The page is loaded again. -/
def reload : Flow Registry Phase := (hydrate 0).serial Engine.restoring []

/-- What the backend stores can be read where a client asks for it. -/
def canRead (after : Backend) : Bool :=
  match client.call "GET" (path "event") none with
  | .ok get =>
      (Document.read (.obj (after.document get.path))).toExcept.toOption.isSome
  | .error _ => false

/-- The calls of a flow are answered with what can be sent. -/
def fits {α : Type} (flow : Flow Registry α) (registry : Registry)
    (server : Backend) : Bool :=
  (flow.exchanges keep registry server).all fun exchange =>
    (keep exchange.1 exchange.2).1.ensureSendable.isOk

/-- Then it can be run, and ends as it is computed to end. -/
theorem exists_served {α : Type} {flow : Flow Registry α} {registry : Registry}
    {server : Backend} (fit : fits flow registry server = true)
    (passes : Except Fault α → Registry → Backend → Bool)
    (ended : (flow.computed keep registry server).any
      (fun ends => passes ends.1 ends.2.1 ends.2.2) = true) :
    ∃ result later after, flow.Ran serves registry server result later after ∧
      passes result later after = true :=
  Flow.exists_ran keep flow registry server passes
    (fun exchange member =>
      serves_keep (List.all_eq_true.mp fit exchange member)) ended

/-- After a reload, the segment of all persons is on screen again. -/
theorem reload_gives_back_segment_of_everyone :
    ∃ later after final ending,
      showEveryone.Ran serves withEngine ⟨[], []⟩ (.ok ()) later after ∧
      reload.Ran serves withEngine after (.ok .hydrated) final ending ∧
      Shown everyone (some "seg_1") "All" (final.engine 0) := by
  obtain ⟨result, later, after, ran, good⟩ := exists_served
    (by decide +kernel : fits showEveryone withEngine ⟨[], []⟩ = true)
    (fun result _ after => result.isOk && canRead after &&
      fits reload withEngine after &&
      (reload.computed keep withEngine after).isSome)
    (by decide +kernel)
  simp only [Bool.and_eq_true] at good
  obtain ⟨⟨⟨fine, readable⟩, fit⟩, ended⟩ := good
  obtain fault | _ := result
  · cases fine
  obtain ⟨get, asks⟩ := Flow.exists_ok (client.call "GET" (path "event") none)
    (by decide +kernel)
  obtain ⟨run, runs⟩ := Flow.exists_ok (client.call "POST"
      (Client.pathOf "event" "segments") (some (Client.runBody everyone.filter
        false (some Settings.standard.firstPage)))) (by decide +kernel)
  obtain ⟨document, found⟩ :
      ∃ document, Document.read (.obj (after.document get.path)) =
        .value document := by
    simp only [canRead, asks] at readable
    cases read : Document.read (.obj (after.document get.path)) with
    | value document => exact ⟨document, rfl⟩
    | _ =>
        rw [read] at readable
        cases readable
  obtain ⟨⟨last, final, ending⟩, computed⟩ := Option.isSome_iff_exists.mp ended
  have reloaded : reload.Ran serves withEngine after last final ending :=
    Flow.ran_of_exchanges (fun exchange member =>
      serves_keep (List.all_eq_true.mp fit exchange member)) computed
  have named : (withEngine.engine 0).event = "event" := rfl
  have service : client.service = withEngine.client.service := rfl
  have opens : client.ensureOpen = .ok { client with opened := true } := rfl
  have back := (reload_gives_back_segment .standard default "" named service
    opens asks found).1 default (some "seg_1") everyone.toJson (some "All") none
      everyone run (Filter.Root.ofJson_toJson trivial) ran (by decide) runs
  obtain ⟨rfl, shown, -, -⟩ := back.ran reloaded
  exact ⟨later, after, final, ending, ran, reloaded, shown⟩

end FirstReload

end Reloading
end Audience
