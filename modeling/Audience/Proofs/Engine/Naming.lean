import Audience.Proofs.Engine.Clamping
import Audience.Proofs.Engine.Renaming
import Audience.Proofs.Engine.Transparency
import Audience.Proofs.Event.Action
import Audience.Proofs.Store.Coherence

/-!
# The saved segment on screen is the stored one

One client works with an engine and with the document of its event, one call
after the other, and every request succeeds.  Then the AI block that the backend
stores names the saved segment that is on screen, whether a user brought it there
or it was restored from the document.
-/

namespace Audience
namespace Naming

open Engine
open Recalling (Recalls Shows leads_resuming)
open Registry (Alters)
open Restoring (WritesNothing writesNothing_of_get writesNothing_of_post)

/-- What the backend stores for an event. -/
structure Backend where
  fields : Fields
  rows : List SavedSegment

/-- A client can send the call to read the document of an event. -/
def Reads (event : String) (call : Call) : Prop :=
  ∃ client : Client, client.call "GET" (Store.path event) none = .ok call

/-- The backend handles a call successfully.  It lists its rows in its order and
tells the document where it is asked for, merges the blocks of a write, and
confirms it with the document or with nothing. -/
structure Serves (listing : List SavedSegment → List SavedSegment)
    (event : String) (before : Backend) (call : Call) (reply : Reply)
    (after : Backend) : Prop where
  rows : Listing.Serves event (fun rows listed => listed = listing rows)
    before.rows call reply after.rows
  fields : after.fields = if Store.isWrite call then
      Memory.mergeBlocks (call.body.getD .null) before.fields Memory.blocks
    else before.fields
  tells : Reads event call → ∀ json, Client.ended none reply = .ok json →
    Document.unwrapFields json = before.fields
  confirms : Store.isWrite call = true → ∀ json,
    Client.ended none reply = .ok json →
      Document.unwrapFields json = after.fields ∨
        Document.unwrapFields json = []

/-- Without a write the document stays as it is. -/
theorem Serves.unwritten {listing : List SavedSegment → List SavedSegment}
    {event : String} {before after : Backend} {call : Call} {reply : Reply}
    (served : Serves listing event before call reply after)
    (silent : WritesNothing call) : after.fields = before.fields := by
  have quiet : Store.isWrite call = false := beq_eq_false_iff_ne.mpr silent
  have same := served.fields
  rw [quiet] at same
  exact same

/-- A block makes a saved segment active. -/
structure Names (block : AiBlock) (segment : String) : Prop where
  enabled : block.enabled = true
  savedId : Registry.nonempty? block.savedSegmentId = some segment

/-- The saved segment on screen of an engine, and the document of its event as it
is cached. -/
def outlook (id : EngineId) (event : String) :
    Outlook Registry (Option String × Option Document) where
  view registry := ((registry.engine id).state.savedId,
    Keyed.get? event registry.cache.documents)
  proper registry := registry.Has id ∧ (registry.engine id).event = event

/-- The segment on screen is the one that the cached document names, and whatever
that names, the stored block names. -/
structure Agrees (seen : Option String × Option Document) (block : AiBlock) :
    Prop where
  shown : ∀ segment, seen.1 = some segment →
    ∃ document, seen.2 = some document ∧ Names document.ai segment
  cached : ∀ document segment, seen.2 = some document →
    Names document.ai segment → Names block segment

/-- What is on screen and in the cache agrees with what is stored. -/
structure Kept (id : EngineId) (event : String) (registry : Registry)
    (server : Backend) : Prop where
  proper : (outlook id event).proper registry
  agrees : ∃ document, Store.Stored server.fields document ∧
    Agrees ((outlook id event).view registry) document.ai

theorem Names.onWire {block : AiBlock} {segment : String}
    (names : Names block segment) : Names block.onWire segment :=
  ⟨names.enabled, names.savedId⟩

theorem Names.of_onWire {block : AiBlock} {segment : String}
    (names : Names block.onWire segment) : Names block segment :=
  ⟨names.enabled, names.savedId⟩

section Sparing

variable {listing : List SavedSegment → List SavedSegment}
variable {id : EngineId} {event : String} {registry later : Registry}
variable {server : Backend}

theorem Kept.spared (kept : Kept id event registry server)
    (spares : (outlook id event).Spares registry later) :
    Kept id event later server := by
  obtain ⟨same, proper⟩ := spares kept.proper
  obtain ⟨document, stored, agrees⟩ := kept.agrees
  exact ⟨proper, document, stored, same ▸ agrees⟩

/-- The cached document names what is on screen. -/
theorem Agrees.names {block : AiBlock} {segment : String}
    (agrees : Agrees ((outlook id event).view registry) block)
    (shown : (registry.engine id).state.savedId = some segment) :
    Names (registry.cache.document event).ai segment := by
  obtain ⟨known, there, names⟩ := agrees.shown segment shown
  have there : Keyed.get? event registry.cache.documents = some known := there
  rw [Cache.document, there]
  exact names

/-- The stored block names what the cached document names. -/
theorem Agrees.stored {block : AiBlock} {segment : String}
    (agrees : Agrees ((outlook id event).view registry) block)
    (names : Names (registry.cache.document event).ai segment) :
    Names block segment := by
  unfold Cache.document at names
  cases held : Keyed.get? event registry.cache.documents with
  | none =>
      rw [held] at names
      cases names.enabled
  | some known =>
      rw [held] at names
      exact agrees.cached known segment held names

/-- A change of an engine that brings no other segment on screen. -/
theorem spares_of_alters {other : EngineId} {change : Engine → Engine}
    (alters : Alters other change registry later)
    (cache : later.cache = registry.cache)
    (savedId : ∀ engine, (change engine).state.savedId = engine.state.savedId)
    (named : ∀ engine, (change engine).event = engine.event) :
    (outlook id event).Spares registry later := by
  rintro ⟨has, same⟩
  have engine := alters.engine id
  have kept : (later.engine id).state.savedId =
        (registry.engine id).state.savedId ∧
      (later.engine id).event = (registry.engine id).event := by
    rw [engine]
    split
    · exact ⟨savedId _, named _⟩
    · exact ⟨rfl, rfl⟩
  refine ⟨?_, (alters.has id).mpr has, kept.2.trans same⟩
  show ((later.engine id).state.savedId, Keyed.get? event later.cache.documents) =
    _
  rw [kept.1, cache]
  rfl

theorem spares_opened (registry : Registry) :
    (outlook id event).Spares registry registry.opened :=
  fun proper => ⟨rfl, proper⟩

theorem spares_modifyEngine {other : EngineId} {change : Engine → Engine}
    (registry : Registry)
    (savedId : ∀ engine, (change engine).state.savedId = engine.state.savedId)
    (named : ∀ engine, (change engine).event = engine.event) :
    (outlook id event).Spares registry (registry.modifyEngine other change) :=
  spares_of_alters (.of_modifyEngine change) (by simp) savedId named

theorem spares_transition {other : EngineId} {change : AiState → AiState}
    (registry : Registry)
    (savedId : ∀ state, (change state).savedId = state.savedId) :
    (outlook id event).Spares registry (registry.transition other change) :=
  spares_of_alters (.of_transition change) (by simp) (fun _ => savedId _)
    fun _ => rfl

theorem spares_backfillPrompt (registry : Registry) (other : EngineId) :
    (outlook id event).Spares registry (registry.backfillPrompt other) := by
  unfold Registry.backfillPrompt
  cases (registry.engine other).missingPrompt? with
  | none => exact .refl registry
  | some prompt => exact spares_transition registry fun _ => rfl

/-- A reply to a call that writes no document keeps the agreement. -/
theorem Kept.replied {call : Call} {reply : Reply} {after : Backend}
    (kept : Kept id event registry server) (silent : WritesNothing call)
    (served : Serves listing event server call reply after) :
    Kept id event registry after := by
  obtain ⟨document, stored, agrees⟩ := kept.agrees
  exact ⟨kept.proper, document, served.unwritten silent ▸ stored, agrees⟩

/-- What spares the screen and the cache, and writes no document, keeps the
agreement. -/
theorem leads_sparing {α : Type} {flow : Flow Registry α}
    (kept : Kept id event registry server)
    (makes : flow.Makes (outlook id event).Spares (fun _ => True) registry)
    (sends : flow.Sends WritesNothing) :
    flow.Leads (Serves listing event) (fun _ => Kept id event) registry
      server :=
  Flow.Makes.leads (fun _ _ _ spares kept => kept.spared spares)
    (fun _ _ _ _ _ silent served kept => kept.replied silent served) makes
    sends kept

/-- So does what only opens the client. -/
theorem leads_opening {α : Type} {flow : Flow Registry α}
    (kept : Kept id event registry server)
    (opens : flow.Makes (fun before after => after = before.opened)
      (fun _ => True) registry)
    (sends : flow.Sends WritesNothing) :
    flow.Leads (Serves listing event) (fun _ => Kept id event) registry server :=
  leads_sparing kept (opens.relax fun before _ same => same ▸ spares_opened before)
    sends

/-- Loading the list of saved segments. -/
theorem makes_loadListOf (name : String) (later : Registry) :
    (loadListOf id name).Makes (outlook id event).Spares (fun _ => True)
      later := by
  apply Flow.Makes.andThen ((Client.opens_listSaved name later).relax
    fun before _ same => same ▸ spares_opened before)
  intro outcome last
  cases outcome with
  | error problem => trivial
  | ok segments =>
      exact ⟨spares_modifyEngine last (fun _ => rfl) fun _ => rfl, trivial⟩

theorem makes_requireSaved (segment : String) (later : Registry) :
    (requireSaved id segment).Makes (outlook id event).Spares (fun _ => True)
      later :=
  Provenance.makes_requireSaved makes_loadListOf
    (fun later => spares_backfillPrompt later id) segment later

theorem leads_loadSaved (refresh : Bool)
    (kept : Kept id event registry server) :
    (loadSaved id refresh).Leads (Serves listing event)
      (fun _ => Kept id event) registry server :=
  leads_sparing kept (Provenance.makes_loadSaved makes_loadListOf
    (fun later => spares_backfillPrompt later id) refresh registry)
    (Restoring.sends_loadSaved (fun _ => writesNothing_of_get) id refresh)

theorem leads_requireSaved (segment : String)
    (kept : Kept id event registry server) :
    (requireSaved id segment).Leads (Serves listing event)
      (fun _ => Kept id event) registry server :=
  leads_sparing kept (makes_requireSaved segment registry)
    (Restoring.sends_requireSaved (fun _ => writesNothing_of_get) id segment)

theorem leads_saveGenerated (prompt title : String) (root : Filter.Root)
    (kept : Kept id event registry server) :
    (saveGenerated id prompt title root).Leads (Serves listing event)
      (fun _ => Kept id event) registry server := by
  show Flow.Leads _ (Flow.bind (Client.createSaved _ prompt root title false) _)
    _ _ _
  apply (leads_opening kept
    (Client.opens_createSaved _ prompt root title false registry)
    ((Client.sends_createSaved _ prompt root title false).relax
      fun _ => writesNothing_of_post)).andThen
  intro outcome later after kept
  obtain problem | saved := outcome
  · exact kept
  have dropped : Kept id event
      (later.modifyEngine id fun engine => { engine with saved := none }) after :=
    kept.spared (spares_modifyEngine later (fun _ => rfl) fun _ => rfl)
  show Flow.Leads _ (if title = "" then _ else _) _ _ _
  split
  · show Flow.Leads _ ((titleSaved id saved.id prompt root).bind _) _ _ _
    exact (leads_opening dropped
      (Provenance.opens_titleSaved id saved.id prompt root _)
      (Pairing.sends_titleSaved id saved.id prompt root)).andThen
        fun _ _ _ kept => kept
  · exact dropped

/-- Changing a saved segment changes its title on screen, but neither which
segment is on screen nor the document. -/
theorem leads_updateSaved (segment : String) (patch : SavedSegment.Patch)
    (kept : Kept id event registry server) :
    (updateSaved id segment patch).Leads (Serves listing event)
      (fun _ => Kept id event) registry server := by
  show Flow.Leads _ (Flow.bind (Client.updateSaved _ segment patch) _) _ _ _
  apply (leads_opening kept (Client.opens_updateSaved _ segment patch registry)
    ((Client.sends_updateSaved _ segment patch).relax
      fun _ => Pairing.fits_patch)).andThen
  intro outcome later after kept
  obtain problem | saved := outcome
  · exact kept
  have replaced : Kept id event
      (later.modifyEngine id (Engine.replaceSaved saved)) after :=
    kept.spared (spares_modifyEngine later (fun _ => rfl) fun _ => rfl)
  show Kept id event (if _ then _ else _) after
  split
  · exact replaced.spared (spares_transition _ fun _ => rfl)
  · exact replaced

theorem leads_ask (surface : Option Surface)
    (kept : Kept id event registry server) :
    (ask id surface).Leads (Serves listing event) (fun _ => Kept id event)
      registry server :=
  leads_opening kept (Provenance.opens_ask id surface registry)
    ((Pairing.sends_ask id surface))

theorem leads_savedOnScreen (kept : Kept id event registry server) :
    (savedOnScreen id).Leads (Serves listing event) (fun _ => Kept id event)
      registry server := by
  rw [Provenance.savedOnScreen_eq]
  simp only [Flow.Leads]
  cases Registry.nonempty? (registry.engine id).state.savedId with
  | none => exact kept
  | some saved => exact (leads_loadSaved false kept).andThen fun _ _ _ kept => kept

/-- Moving the table brings no other segment on screen. -/
theorem Kept.moved (page : Page) (kept : Kept id event registry server) :
    Kept id event (registry.modifyEngine id (Engine.moveTo page)) server :=
  kept.spared (spares_modifyEngine registry (fun _ => rfl) fun _ => rfl)

theorem leads_clamp (kept : Kept id event registry server) :
    (clamp id).Leads (Serves listing event) (fun _ => Kept id event) registry
      server := by
  rw [Provenance.clamp_eq]
  simp only [Flow.Leads]
  cases (registry.engine id).clampedPage with
  | error misuse => exact kept
  | ok page => exact kept.moved page

/-- Running the segment on another page keeps the agreement. -/
theorem leads_execute (page : Page) (kept : Kept id event registry server) :
    (execute id page).Leads (Serves listing event) (fun _ => Kept id event)
      registry server := by
  rw [Paging.execute_eq]
  simp only [Flow.Leads]
  have counted : Alters id _ registry
      ((registry.modifyEngine id Paging.counted).takeToken id).2 :=
    (Alters.of_modifyEngine Paging.counted).trans
      (.of_modifyEngine Engine.takeToken)
  have taken := kept.spared
    (spares_of_alters counted rfl (fun _ => rfl) fun _ => rfl)
  apply (leads_opening taken (Client.opens_runSegment _ _ false _ _)
    ((Client.sends_runSegment _ _ false _).relax
      fun _ => writesNothing_of_post)).andThen
  intro outcome later after kept
  obtain problem | results := outcome
  · exact kept
  show Kept id event (later.updateResults id results _).2 after
  unfold Registry.updateResults
  dsimp only
  split
  · exact kept.spared (spares_transition later fun _ => rfl)
  · exact kept

/-- So does going to a page, with a segment on screen or without. -/
theorem leads_setPage (page : Page) (kept : Kept id event registry server) :
    (setPage id page).Leads (Serves listing event) (fun _ => Kept id event)
      registry server := by
  rw [Paging.setPage_eq]
  simp only [Flow.Leads]
  split
  · exact (leads_clamp (kept.moved page)).andThen fun _ _ _ kept => kept
  split
  · exact kept.moved page
  split
  · exact kept.moved page
  · exact (leads_execute page (kept.moved page)).andThen fun _ _ _ kept => kept

end Sparing

section Writing

variable {listing : List SavedSegment → List SavedSegment}
variable {id : EngineId} {event : String} {registry later : Registry}
variable {server after : Backend} {document : Document}

/-- A document that comes into the cache agrees with what is stored if it names
the segment on screen, and no other than the stored one does. -/
theorem kept_of_known {known : Document} (quiet : registry.Quiet later)
    (proper : (outlook id event).proper registry)
    (stored : Store.Stored after.fields document)
    (there : Keyed.get? event later.cache.documents = some known)
    (shown : ∀ segment, (registry.engine id).state.savedId = some segment →
      Names known.ai segment)
    (cached : ∀ segment, Names known.ai segment → Names document.ai segment) :
    Kept id event later after := by
  obtain ⟨title, same⟩ := quiet.engine id
  have savedId : (later.engine id).state.savedId =
      (registry.engine id).state.savedId := by rw [same]
  refine ⟨⟨(quiet.has id).mpr proper.1, by rw [same]; exact proper.2⟩, document,
    stored, fun segment here => ?_, fun other segment also names => ?_⟩
  · exact ⟨known, there, shown segment (savedId.symm.trans here)⟩
  · obtain rfl := Option.some.inj (there.symm.trans also)
    exact cached segment names

/-- A document that is loaded is the stored one, and is cached. -/
theorem leads_load (kept : Kept id event registry server) :
    (Store.load event).Leads (Serves listing event)
      (fun result later after => Kept id event later after ∧
        ∀ document, result = .ok document →
          Keyed.get? event later.cache.documents = some document ∧
            Store.Stored server.fields document) registry server := by
  obtain ⟨document, stored, agrees⟩ := kept.agrees
  rw [Store.load_eq, Flow.leads_finish]
  apply Flow.Alone.leads
  apply Client.alone_request
  · rintro misuse later (rfl | rfl)
    · exact ⟨kept, fun _ => nofun⟩
    · exact ⟨kept.spared (spares_opened registry), fun _ => nofun⟩
  intro call made reply after served
  obtain ⟨json, answered⟩ := served.rows.succeeds
  have told := served.tells ⟨registry.client, made⟩ json answered
  have same := served.unwritten
    (writesNothing_of_get (Client.parts_of_call made).1)
  have found : Store.fetched (.ok json) = .ok document := by
    show (Document.ofStored json).mapError Fault.problem = _
    rw [Document.ofStored_eq_ok.mpr (told ▸ stored.2)]
    rfl
  rw [Client.ended_eq_ok answered, found]
  have there : Keyed.get? event (Store.kept event document
      registry.opened).cache.documents = some document := by
    simp [Store.kept]
  refine ⟨kept_of_known (Reloading.quiet_kept event document registry)
    kept.proper (same ▸ stored) there
    (fun _ shown => agrees.stored (agrees.names shown)) fun _ names => names,
    fun other equal => ?_⟩
  cases equal
  exact ⟨there, stored⟩

/-- A document that is read is cached, and is the stored one if there was none in
the cache. -/
theorem leads_read (refresh : Bool) (kept : Kept id event registry server) :
    (Store.read event refresh).Leads (Serves listing event)
      (fun result later after => Kept id event later after ∧
        ∀ document, result = .ok document →
          Keyed.get? event later.cache.documents = some document ∧
            (Keyed.get? event registry.cache.documents = none →
              Store.Stored server.fields document))
      registry server := by
  rw [Store.read_eq, Flow.leads_locked]
  simp only [Flow.Leads]
  cases known : Keyed.get? event registry.cache.documents with
  | none =>
      apply (leads_load kept).mono
      rintro result later after ⟨kept, loaded⟩
      exact ⟨kept, fun document ended =>
        ⟨(loaded document ended).1, fun _ => (loaded document ended).2⟩⟩
  | some document =>
      cases refresh with
      | true =>
          apply (leads_load kept).mono
          rintro result later after ⟨kept, loaded⟩
          exact ⟨kept, fun document ended =>
            ⟨(loaded document ended).1, by simp⟩⟩
      | false =>
          refine ⟨kept, fun other equal => ?_⟩
          cases equal
          exact ⟨known, by simp⟩

/-- A write that ends leaves its blocks in what is stored, and caches what it
tried or what is stored. -/
theorem alone_write {change : Audience.Change} {own : Document}
    (stored : Store.Stored server.fields document)
    (given : Document.read change.wire = .value own) :
    (Store.write event change).Alone (Serves listing event)
      (fun result later after => ∀ outcome, result = .ok outcome →
        Store.Stored after.fields (Coherence.merged change own document) ∧
        ∃ known, Keyed.get? event later.cache.documents = some known ∧
          (known = Coherence.merged change own document ∨
            known.ai = if change.ai.isSome then own.ai
              else (registry.cache.document event).ai.onWire))
      registry server := by
  apply Store.alone_write
  · exact fun _ _ _ => nofun
  intro pending call tried made reply after served
  obtain ⟨json, answered⟩ := served.rows.succeeds
  have writes := Store.isWrite_of_put made
  have same := served.fields
  rw [if_pos writes, Client.body_of_call made] at same
  have next : Store.Stored after.fields (Coherence.merged change own document) :=
    same ▸ ⟨change.plain_written stored.1, change.read_written stored.2 given⟩
  obtain ⟨named, previous, read⟩ := PendingWrite.staged_of_stage tried
  obtain ⟨other, readable, -, staged⟩ := (change.read_mergedFields _).mp read
  obtain rfl := Reading.value.inj (readable.symm.trans given)
  have confirmed : pending.confirmed json = Coherence.merged change other document ∨
      pending.confirmed json = pending.staged := by
    rw [← Store.confirmed_eq]
    obtain content | nothing := served.confirms writes json answered
    · by_cases nothing : after.fields = []
      · exact .inr (Store.confirmed_of_nil (content.trans nothing))
      · exact .inl (next.confirmed nothing content)
    · exact .inr (Store.confirmed_of_nil nothing)
  have known : pending.confirmed json = Coherence.merged change other document ∨
      (pending.confirmed json).ai = if change.ai.isSome then other.ai
        else (registry.cache.document event).ai.onWire :=
    confirmed.imp_right fun same => by rw [same, staged]
  rw [answered]
  show Flow.Alone _ (if change.manual.isSome then _ else _) _ _ _
  split
  · exact fun _ _ => ⟨next, _, by simp [named, Cache.rememberManual], known⟩
  · exact fun _ _ => ⟨next, _, by simp [named], known⟩

/-- The AI block that is written is stored, and names what is on screen if the
block does. -/
theorem leads_persist {block : AiBlock}
    (proper : (outlook id event).proper registry)
    (stored : Store.Stored server.fields document)
    (names : ∀ segment, (registry.engine id).state.savedId = some segment →
      Names block segment) :
    (persist id block).Leads (Serves listing event)
      (Flow.Yields (Kept id event)) registry server := by
  have own : Document.read (Audience.Change.ofAi block).wire =
      .value { manual := .empty, ai := block.onWire } :=
    Document.read_eq_value.mpr
      ⟨(Audience.Change.ofAi block).manualIn_wireFields rfl,
        Audience.Change.aiIn_ofAi block⟩
  have written : (Store.write event (.ofAi block)).Alone (Serves listing event)
      (fun result later after => ∀ outcome, result = .ok outcome →
        ∃ next : Document, Store.Stored after.fields next ∧
          next.ai = block.onWire ∧
          ∃ known, Keyed.get? event later.cache.documents = some known ∧
            known.ai = block.onWire) registry server := by
    apply (alone_write stored own).mono
    intro result later after written outcome ended
    obtain ⟨next, known, there, same⟩ := written outcome ended
    refine ⟨_, next, rfl, known, there, ?_⟩
    obtain rfl | same := same
    · rfl
    · exact same
  apply Flow.Alone.leads
  apply (Engine.alone_persist_quiet (Engine.alone_persist proper.2 written)).mono
  rintro result later after ⟨ended, quiet⟩ _ rfl
  obtain ⟨next, holds, here, known, there, same⟩ := ended rfl
  refine kept_of_known quiet proper holds there (fun segment shown => ?_)
    fun segment names => ?_
  · rw [same]
    exact (names segment shown).onWire
  · rw [here, ← same]
    exact names

end Writing

section Users

variable {listing : List SavedSegment → List SavedSegment}
variable {id : EngineId} {event : String} {registry : Registry}
variable {server : Backend}

/-- The block that is written with a change names the segment that the change
shows, if the known block names the one on screen. -/
theorem names_block {change : Engine.Change} {root : Option (Option Filter.Root)}
    {prior : AiBlock} {state : AiState} {segment : String}
    (known : state.savedId = some segment → Names prior segment)
    (shown : (change.apply root state).savedId = some segment) :
    Names (change.block root prior) segment := by
  have savedId : Registry.nonempty? (change.block root prior).savedSegmentId =
      some segment := by
    cases given : change.savedId with
    | none =>
        simp only [Engine.Change.apply, given] at shown
        simpa [Engine.Change.block, given] using (known shown).savedId
    | some text =>
        simp only [Engine.Change.apply, given] at shown
        simpa [Engine.Change.block, given] using shown
  refine ⟨?_, savedId⟩
  show ((Registry.nonempty? (change.block root prior).savedSegmentId).isSome ||
    _) = true
  rw [savedId]
  rfl

/-- A user's change that ends leaves what is stored in agreement. -/
theorem leads_apply (change : Engine.Change)
    (kept : Kept id event registry server) :
    (apply id change).Leads (Serves listing event) (Flow.Yields (Kept id event))
      registry server := by
  obtain ⟨⟨has, named⟩, document, stored, agrees⟩ := kept
  have counted : (change.counted id registry).Has id :=
    ((Provenance.alters_noted change registry).has id).mpr has
  show Flow.Leads _ (Flow.bind (Flow.ofNormal change.root) _) _
    (change.counted id registry) _
  cases change.root with
  | error misuse => exact Flow.yields_error
  | ok root =>
      show Flow.Leads _ (persist id (change.block root
        ((change.shown id root registry).cache.document
          ((change.shown id root registry).engine id).event).ai)) _
            (change.shown id root registry) _
      rw [change.event_shown, change.shown_cache, named]
      refine leads_persist ⟨by simpa [Engine.Change.shown] using counted,
        (change.event_shown id registry root).trans named⟩ stored
        fun segment shown => ?_
      rw [change.state_shown id registry root has] at shown
      exact names_block agrees.names shown

/-- So does clearing the screen. -/
theorem leads_clear (kept : Kept id event registry server) :
    (clear id).Leads (Serves listing event) (Flow.Yields (Kept id event))
      registry server := by
  obtain ⟨⟨has, named⟩, document, stored, -⟩ := kept
  obtain ⟨state, empty⟩ := state_wiped id registry has
  have there : (wiped id registry).Has id := by
    simpa [wiped, Registry.countUser] using has
  show Flow.Leads _ (persist id .cleared) _ (wiped id registry) _
  refine leads_persist ⟨there, (event_wiped id registry).trans named⟩ stored
    fun segment shown => ?_
  rw [empty] at shown
  cases shown

/-- Moving the table and bringing a segment on screen. -/
theorem leads_moveAndApply (page : Page) (change : Engine.Change)
    (kept : Kept id event registry server) :
    (Flow.bind (Flow.modify fun registry : Registry =>
      registry.modifyEngine id (Engine.moveTo page)) fun _ =>
        (apply id change).bind fun _ =>
          (Flow.done (.ok ()) : Flow Registry (Outcome Unit))).Leads
      (Serves listing event) (Flow.Yields (Kept id event)) registry server := by
  show Flow.Leads _ ((apply id change).bind _) _ _ _
  exact (leads_apply change (kept.moved page)).thenDone

/-- Running a saved segment again. -/
theorem leads_runSaved (segment : SavedSegment)
    (kept : Kept id event registry server) :
    (runSaved id segment).Leads (Serves listing event)
      (Flow.Yields (Kept id event)) registry server := by
  show Flow.Leads _ (Flow.bind (Client.runSegment _ (some segment.ast.filter)
    false _) _) _ _ _
  apply (leads_opening kept (Client.opens_runSegment _ _ false _ registry)
    ((Client.sends_runSegment _ _ false _).relax
      fun _ => writesNothing_of_post)).yields.thenYields
  intro outcome later after kept
  obtain problem | results := outcome
  · exact fun _ _ => kept
  apply (leads_opening kept (Client.opens_markUsed _ segment.id later)
    ((Client.sends_markUsed _ segment.id).relax
      fun _ => Pairing.fits_patch)).yields.thenYields
  intro used last ending kept
  dsimp only
  split
  · exact leads_moveAndApply _ _ (kept.spared
      (spares_modifyEngine last (fun _ => rfl) fun _ => rfl))
  · exact leads_moveAndApply _ _ kept

/-- Generating a segment from a prompt. -/
theorem leads_generate (prompt title : String) (debug : Bool)
    (kept : Kept id event registry server) :
    (generate id prompt title debug).Leads (Serves listing event)
      (Flow.Yields (Kept id event)) registry server := by
  show Flow.Leads _ (Flow.bind (Client.generate _ prompt _) _) _ _ _
  apply (leads_opening kept (Client.opens_generate _ prompt _ registry)
    ((Client.sends_generate _ prompt _).relax
      fun _ => writesNothing_of_post)).yields.thenYields
  intro outcome later after kept
  obtain problem | generated := outcome
  · exact fun _ _ => kept
  apply (leads_saveGenerated prompt _ generated.segment kept).yields.thenYields
  intro saved last ending kept
  exact (leads_apply _ kept).thenDone

/-- Opening the prompt. -/
theorem leads_openPrompt (defaults : Defaults) (surface : Option Surface)
    (kept : Kept id event registry server) :
    (openPrompt id defaults surface).Leads (Serves listing event)
      (Flow.Yields (Kept id event)) registry server := by
  apply (leads_ask surface kept).yields.thenYields
  intro submission later after kept
  cases submission with
  | none => exact fun _ _ => kept
  | some submission =>
      refine Flow.Leads.thenDone ?_
      unfold answerPrompt
      cases Registry.nonempty? submission.savedSegmentId with
      | none => exact leads_generate _ _ _ kept
      | some segment =>
          apply (leads_requireSaved segment kept).yields.thenYields
          intro outcome last ending kept
          cases outcome with
          | error problem => exact fun _ _ => kept
          | ok saved => exact leads_runSaved saved kept

/-- Renaming the segment on screen. -/
theorem leads_rename (segment : String) (submission : Submission)
    (kept : Kept id event registry server) :
    (rename id segment submission).Leads (Serves listing event)
      (Flow.Yields (Kept id event)) registry server := by
  apply (leads_updateSaved segment _ kept).yields.thenYields
  intro outcome later after kept
  cases outcome with
  | error problem => exact fun _ _ => kept
  | ok row => exact (leads_apply _ kept).thenDone

theorem leads_answerRefine (defaults : Defaults) (submission : Submission)
    (kept : Kept id event registry server) :
    (answerRefine id defaults submission).Leads (Serves listing event)
      (Flow.Yields (Kept id event)) registry server := by
  rw [Provenance.answerRefine_eq]
  simp only [Flow.Leads]
  cases Registry.nonempty? (registry.engine id).state.savedId with
  | none => exact leads_generate _ _ _ kept
  | some saved =>
      cases Prompt.sameWords submission.prompt defaults.prompt with
      | false => exact leads_generate _ _ _ kept
      | true => exact leads_rename saved submission kept

/-- Refining the segment on screen, be it renamed or generated anew. -/
theorem leads_openRefine (surface : Option Surface)
    (kept : Kept id event registry server) :
    (openRefine id surface).Leads (Serves listing event)
      (Flow.Yields (Kept id event)) registry server := by
  apply (leads_savedOnScreen kept).yields.thenYields
  intro segment later after kept
  show Flow.Leads _ (Flow.bind (ask id surface) _) _ _ _
  apply (leads_ask surface kept).yields.thenYields
  intro submission last ending kept
  cases submission with
  | none => exact fun _ _ => kept
  | some submission =>
      exact (leads_answerRefine _ submission kept).thenDone

/-- What is remembered of the manual filters is neither on screen nor stored. -/
theorem Kept.remembered (manual : ManualState)
    (kept : Kept id event registry server) :
    Kept id event (registry.modifyCache (Cache.rememberManual event manual))
      server :=
  kept.spared fun proper => ⟨rfl, proper⟩

/-- Writing the manual block leaves the AI block that is stored alone, and that
in the cache. -/
theorem leads_writeBlock (manual : ManualState)
    (kept : Kept id event registry server) :
    (Store.write event (.ofManual manual)).Leads (Serves listing event)
      (Flow.Yields (Kept id event)) registry server := by
  obtain ⟨proper, document, stored, agrees⟩ := kept
  apply Flow.Alone.leads
  apply ((alone_write stored (Audience.Change.read_ofManual manual)).making
    .refl .trans (Store.makes_write event _ _)).mono
  rintro result later after ⟨written, quiet⟩ outcome ended
  obtain ⟨next, known, there, same⟩ := written outcome ended
  -- The cache has what the backend confirmed, or what was tried on top of the
  -- block that it had before.
  have same : known = Coherence.merged (.ofManual manual) _ document ∨
    known.ai = (registry.cache.document event).ai.onWire := same
  refine kept_of_known quiet proper next there (fun segment shown => ?_)
    fun segment names => ?_
  · obtain rfl | same := same
    · exact agrees.stored (agrees.names shown)
    · exact same ▸ (agrees.names shown).onWire
  · obtain rfl | same := same
    · exact names
    · exact agrees.stored (same ▸ names).of_onWire

/-- Writing the manual filters keeps the agreement. -/
theorem leads_writeManual (manual : ManualState)
    (kept : Kept id event registry server) :
    (Store.writeManual event manual).Leads (Serves listing event)
      (Flow.Yields (Kept id event)) registry server := by
  show Flow.Leads _ (if (registry.cache.manual event).same manual then _
    else _) _ _ _
  split
  · exact fun _ _ => kept
  show Flow.Leads _ ((Store.write event (.ofManual manual)).bind _) _
    (registry.modifyCache (Cache.rememberManual event manual)) _
  apply (leads_writeBlock manual (kept.remembered manual)).thenYields
  intro outcome later after kept
  cases outcome with
  | ok document => exact fun _ _ => kept
  | error problem => exact fun _ _ => kept.remembered _

end Users

section Histories

variable {listing : List SavedSegment → List SavedSegment}
variable {id : EngineId} {event : String} {registry later start : Registry}
variable {server stored : Backend}

/-- What is recalled from the cached document keeps the agreement. -/
theorem Kept.restored {document : Document} {restored : Registry.Restored}
    (kept : Kept id event registry server)
    (cached : Keyed.get? event registry.cache.documents = some document)
    (enabled : document.ai.enabled = true)
    (recalls : Recalls id document registry restored)
    (shows : Shows id restored registry later) :
    Kept id event later server := by
  obtain ⟨proper, stored, holds, agrees⟩ := kept
  refine ⟨⟨shows.has, shows.event.trans proper.2⟩, stored, holds,
    fun segment shown => ?_, fun other segment there names => ?_⟩
  · refine ⟨document, ?_, enabled, ?_⟩
    · show Keyed.get? event later.cache.documents = some document
      rw [shows.cache]
      exact cached
    · exact recalls.savedId_eq.symm.trans (shows.savedId.symm.trans shown)
  · have there : Keyed.get? event later.cache.documents = some other := there
    rw [shows.cache] at there
    exact agrees.cached other segment there names

/-- Restoring the engine keeps the agreement. -/
theorem leads_restoring (kept : Kept id event registry server) :
    (Engine.restoring id).Leads (Serves listing event)
      (fun _ => Kept id event) registry server := by
  have notes (change : Engine → Engine) (registry : Registry) (server : Backend)
      (noted : ∀ engine, ∃ phase hydrationError,
        change engine = { engine with phase, hydrationError })
      (kept : Kept id event registry server) :
      Kept id event (registry.modifyEngine id change) server :=
    kept.spared (spares_modifyEngine registry
      (fun engine => by obtain ⟨_, _, same⟩ := noted engine; rw [same])
      fun engine => by obtain ⟨_, _, same⟩ := noted engine; rw [same])
  have began : Kept id event (Reloading.phased .hydrating id registry) server :=
    notes _ registry server
      (fun engine => ⟨.hydrating, engine.hydrationError, rfl⟩) kept
  apply Recalling.leads_restoring notes
  generalize Reloading.phased .hydrating id registry = registry at *
  rw [Hydrating.restoreFromDocument_eq]
  show Flow.Leads _ (Flow.bind (Store.read (registry.engine id).event false) _)
    _ _ _
  rw [began.proper.2]
  apply Flow.leads_bind.mpr
  apply (leads_read false began).mono
  rintro result later after ⟨kept, read⟩
  cases result with
  | error fault => exact kept
  | ok document =>
      apply leads_resuming fun registry server =>
        Kept id event registry server ∧
          Keyed.get? event registry.cache.documents = some document
      · exact fun _ _ holds => holds.1.proper.1
      · exact fun state _ holds => ⟨holds.1.spared (spares_opened state), holds.2⟩
      · exact fun _ _ _ _ _ _ quiet served holds =>
          ⟨holds.1.replied quiet served, holds.2⟩
      · exact fun _ _ holds => holds.1
      · intro segment
        apply ((leads_requireSaved segment kept).both
          (Flow.Makes.leads_along Outlook.Spares.refl Outlook.Spares.trans
            (makes_requireSaved segment later))).mono
        rintro result last ending ⟨kept', -, spares⟩
        have same : Keyed.get? event last.cache.documents =
            Keyed.get? event later.cache.documents :=
          congrArg Prod.snd (spares kept.proper).1
        exact ⟨kept', same.trans (read document rfl).1⟩
      · exact fun restored before last server holds enabled recalls shows =>
          holds.1.restored holds.2 enabled recalls shows
      · exact ⟨kept, (read document rfl).1⟩

/-- Learning how many rows the table has moves it at most. -/
theorem leads_setManualTotal (total : Option Int)
    (kept : Kept id event registry server) :
    (setManualTotal id total).Leads (Serves listing event)
      (fun _ => Kept id event) registry server :=
  leads_clamp (kept.spared (spares_modifyEngine registry (fun _ => rfl)
    fun _ => rfl) : Kept id event
      (registry.modifyEngine id (Limits.withTotal total)) server)

theorem leads_tableShown (rows : Json) (total : Option Int)
    (kept : Kept id event registry server) :
    (tableShown id rows total).Leads (Serves listing event)
      (fun _ => Kept id event) registry server := by
  rw [Limits.tableShown_eq]
  simp only [Flow.Leads]
  split
  · exact (leads_setManualTotal total kept).andThen fun _ _ _ kept => kept
  · exact kept

/-- What a client does with an engine and with the document of its event. -/
inductive Task where
  | engine (use : Use)
  | generate (prompt title : String) (debug : Bool)
  | runSaved (segment : SavedSegment)
  /-- The engine is restored, unless it is known how that ended. -/
  | hydrate (known : Keyed EngineId (Except Fault Unit))
  | read (refresh : Bool)
  | writeManual (search filters : Json)

/-- How it is done. -/
def Task.flow (id : EngineId) (event : String) : Task → Flow Registry Unit
  | engine use => (use.flow id).bind fun _ => .done ()
  | generate prompt title debug =>
      (Engine.generate id prompt title debug).bind fun _ => .done ()
  | runSaved segment => (Engine.runSaved id segment).bind fun _ => .done ()
  | hydrate known =>
      ((Engine.hydrate id).serial Engine.restoring known).bind fun _ => .done ()
  | read refresh => (Store.read event refresh).bind fun _ => .done ()
  | writeManual search filters =>
      (Store.writeTable event search filters).bind fun _ => .done ()

/-- Whatever is done with the engine keeps the agreement. -/
theorem leads_use (use : Use) (kept : Kept id event registry server) :
    (use.flow id).Leads (Serves listing event) (Flow.Yields (Kept id event))
      registry server := by
  cases use with
  | touch => exact fun _ _ => kept
  | observe =>
      exact fun _ _ => kept.spared
        (spares_modifyEngine registry (fun _ => rfl) fun _ => rfl)
  | disregard =>
      exact fun _ _ => kept.spared
        (spares_modifyEngine registry (fun _ => rfl) fun _ => rfl)
  | hydrate => trivial
  | apply change => exact (leads_apply change kept).thenDone
  | clear => exact (leads_clear kept).thenDone
  | openPrompt defaults surface =>
      exact (leads_openPrompt defaults surface kept).thenDone
  | openRefine surface => exact (leads_openRefine surface kept).thenDone
  | move way =>
      apply Flow.Leads.thenDone
      apply Clamping.leads_flow way
      · exact fun _ _ => Flow.yields_error
      · exact fun page _ => (leads_setPage page kept).yields
  | setTotal total => exact (leads_setManualTotal total kept).yields.thenDone
  | showTable rows total =>
      exact (leads_tableShown rows total kept).yields.thenDone
  | loadSaved refresh => exact (leads_loadSaved refresh kept).yields.thenDone
  | updateSaved segment patch =>
      exact (leads_updateSaved segment patch kept).yields.thenDone

/-- So does every task. -/
theorem leads_task (task : Task) (kept : Kept id event registry server) :
    (task.flow id event).Leads (Serves listing event)
      (Flow.Yields (Kept id event)) registry server := by
  cases task with
  | engine use => exact (leads_use use kept).thenDone
  | generate prompt title debug =>
      exact (leads_generate prompt title debug kept).thenDone
  | runSaved segment => exact (leads_runSaved segment kept).thenDone
  | hydrate known =>
      exact (Recalling.leads_hydrate kept (leads_restoring kept)
        known).yields.thenDone
  | read refresh =>
      exact ((leads_read refresh kept).mono fun _ _ _ ended =>
        ended.1).yields.thenDone
  | writeManual search filters =>
      apply Flow.Leads.thenDone
      show Flow.Leads _ (Flow.bind (Flow.ofResult _) _) _ _ _
      rw [Flow.leads_bind, Flow.leads_ofResult]
      cases (ManualState.ofTable search filters).toExcept with
      | error fault => exact Flow.yields_error
      | ok manual => exact leads_writeManual manual kept

/-- Tasks that do not overlap lead from one state to another, and none of them
fails. -/
inductive Reached (listing : List SavedSegment → List SavedSegment)
    (id : EngineId) (event : String) (start : Registry) (stored : Backend) :
    Registry → Backend → Prop where
  | start : Reached listing id event start stored start stored
  | task {registry later : Registry} {server after : Backend} (task : Task)
      (reached : Reached listing id event start stored registry server)
      (ran : (task.flow id event).Ran (Serves listing event) registry server
        (.ok ()) later after) :
      Reached listing id event start stored later after

/-- After every task, the stored block names what is on screen. -/
theorem Reached.kept (first : Kept id event start stored)
    (reached : Reached listing id event start stored registry server) :
    Kept id event registry server := by
  induction reached with
  | start => exact first
  | task task reached ran ih => exact (leads_task task ih).ran ran () rfl

/-- With nothing on screen and nothing in the cache, there is nothing that could
disagree. -/
theorem kept_of_idle {document : Document} (has : start.Has id)
    (named : (start.engine id).event = event)
    (idle : (start.engine id).state.savedId = none)
    (unknown : Keyed.get? event start.cache.documents = none)
    (readable : Store.Stored stored.fields document) :
    Kept id event start stored := by
  refine ⟨⟨has, named⟩, document, readable, fun segment shown => ?_,
    fun other segment there => ?_⟩
  · cases idle.symm.trans shown
  · cases unknown.symm.trans there

end Histories

end Naming
end Audience
