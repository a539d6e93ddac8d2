import Audience.Proofs.Engine.Rows
import Audience.Proofs.Event.Action
import Audience.Proofs.Filter.Normalization
import Audience.Proofs.Flow.Trading

/-!
# Filter trees in calls

Nobody normalizes a filter tree on its way out.  Instead every tree that an
engine gets hold of is normalized on its way in: from a document, a saved
segment, the answer to a prompt, or a change by a user.  So whatever overlaps,
all trees at hand are canonical, and so are those in calls.
-/

namespace Audience
namespace Outgoing

open Engine
open Registry (Alters Quiet)

/-- The wire form of a tree that normalization leaves as it is, with no null and
no empty text inside. -/
def NormalFilter (json : Json) : Prop :=
  ∃ node : Filter.Node, Filter.Node.ofJson json = .ok node ∧
    node.toJson = json ∧ node.Canonical ∧ json.isGapless = true

/-- The same of a tree under its root. -/
def NormalTree (json : Json) : Prop :=
  ∃ root : Filter.Root, Filter.Root.ofJson json = .ok root ∧
    root.toJson = json ∧ root.Canonical ∧ json.isGapless = true

/-- Every filter and every tree that a body carries is normal. -/
structure CleanBody (body : Option Json) : Prop where
  filter : ∀ fields json, body = some (.obj fields) →
    Keyed.get? "filter" fields = some json → NormalFilter json
  tree : ∀ fields json, body = some (.obj fields) →
    Keyed.get? "ast" fields = some json → NormalTree json

/-- A call with such a body. -/
def Clean (call : Call) : Prop := CleanBody call.body

/-- All trees that an engine has at hand are canonical. -/
structure Tame (engine : Engine) : Prop where
  shown : ∀ root, engine.state.ast = some root → root.Canonical
  saved : ∀ segment ∈ engine.savedSegments, segment.ast.Canonical

/-- So it is with all engines. -/
def AllTame (registry : Registry) : Prop := ∀ id, Tame (registry.engine id)

section Bodies

theorem normalFilter_toJson {node : Filter.Node} (canonical : node.Canonical) :
    NormalFilter node.toJson :=
  ⟨node, Filter.Node.ofJson_toJson canonical, rfl, canonical,
    Filter.Node.isGapless_toJson canonical⟩

theorem normalTree_toJson {root : Filter.Root} (canonical : root.Canonical) :
    NormalTree root.toJson := by
  refine ⟨root, Filter.Root.ofJson_toJson canonical, rfl, canonical, ?_⟩
  have inside : root.filter.toJson.isGapless :=
    Filter.Node.isGapless_toJson canonical
  simp [Filter.Root.toJson, Json.isGapless, Json.fieldsGapless, inside]

theorem cleanBody_none : CleanBody none := ⟨by simp, by simp⟩

/-- Without a filter and without a tree, a body is clean. -/
theorem cleanBody_plain {fields : Fields}
    (filter : Keyed.get? "filter" fields = none)
    (tree : Keyed.get? "ast" fields = none) :
    CleanBody (some (.obj fields)) := by
  constructor
  · rintro _ json ⟨⟩ found
    simp [filter] at found
  · rintro _ json ⟨⟩ found
    simp [tree] at found

/-- A canonical filter goes out as its wire form. -/
theorem cleanBody_run {node : Filter.Node} (canonical : node.Canonical)
    (debug : Bool) (page : Option Page) :
    CleanBody (some (Client.runBody node debug page)) := by
  constructor
  · rintro _ json ⟨⟩ found
    obtain rfl : node.toJson = json := by simpa [Keyed.get?] using found
    exact normalFilter_toJson canonical
  · rintro _ json ⟨⟩ found
    cases page <;> simp [Keyed.get?] at found

theorem cleanBody_create {root : Filter.Root} (canonical : root.Canonical)
    (prompt title : String) (favorite : Bool) :
    CleanBody (some (Client.createBody prompt root title favorite)) := by
  constructor
  · rintro _ json ⟨⟩ found
    by_cases blank : Text.isBlankText title <;>
      simp [Keyed.get?, blank] at found
  · rintro _ json ⟨⟩ found
    obtain rfl : root.toJson = json := by simpa [Keyed.get?] using found
    exact normalTree_toJson canonical

theorem cleanBody_title {root : Filter.Root} (canonical : root.Canonical)
    (prompt : String) :
    CleanBody (some (Client.titleBody prompt (some root))) := by
  constructor
  · rintro _ json ⟨⟩ found
    simp [Keyed.get?] at found
  · rintro _ json ⟨⟩ found
    obtain rfl : root.toJson = json := by simpa [Keyed.get?] using found
    exact normalTree_toJson canonical

theorem cleanBody_generate (settings : Settings) (prompt : String)
    (generation : Client.Generation) :
    CleanBody (some (Client.generateBody settings prompt generation)) :=
  cleanBody_plain (by simp [Keyed.get?]) (by simp [Keyed.get?])

/-- Changes of a saved segment carry no tree. -/
theorem cleanBody_patch (patch : SavedSegment.Patch) :
    CleanBody (some patch.toJson) := by
  obtain ⟨title, favorite, lastUsed⟩ := patch
  apply cleanBody_plain <;>
    obtain _ | _ | title := title <;>
    obtain _ | _ | favorite := favorite <;>
    obtain _ | _ | lastUsed := lastUsed <;>
    simp [SavedSegment.Patch.field, Keyed.get?]

/-- The blocks of a document go out whole, with no tree beside them. -/
theorem cleanBody_wire (change : Audience.Change) :
    CleanBody (some change.wire) := by
  obtain ⟨manual, ai⟩ := change
  apply cleanBody_plain <;> cases manual <;> cases ai <;>
    simp [Change.wireFields, Keyed.get?]

end Bodies

section Calls

/-- A request with a clean body is clean. -/
theorem sends_request {body : Option Json} (clean : CleanBody body)
    (method path : String) (missing : Option (String × String)) :
    (Client.request method path body missing).Sends Clean := by
  rw [Client.request_eq]
  simp only [Flow.Sends]
  intro registry
  cases registry.client.ensureOpen with
  | error misuse => trivial
  | ok client =>
      intro later
      cases made : client.call method path body with
      | error misuse => trivial
      | ok call =>
          refine ⟨?_, fun reply => Flow.sends_ofResult _⟩
          unfold Clean
          rwa [Client.body_of_call made]

/-- So is one whose answer is read. -/
theorem sends_asking {α : Type} {body : Option Json} (clean : CleanBody body)
    (method path : String) (missing : Option (String × String))
    (read : Json → Except Fault α) :
    ((Client.request method path body missing).bind fun json =>
      .ofResult (read json)).Sends Clean :=
  (sends_request clean method path missing).bind
    fun _ => Flow.sends_ofResult _

theorem sends_listSaved (event : Option String) :
    (Client.listSaved event).Sends Clean := by
  rw [Client.listSaved_eq]
  exact Client.sends_ofEvent fun path =>
    sends_asking cleanBody_none "GET" path none _

theorem sends_runSegment (event : Option String) {filter : Option Filter.Node}
    (canonical : ∀ node, filter = some node → node.Canonical) (debug : Bool)
    (page : Option Page) :
    (Client.runSegment event filter debug page).Sends Clean := by
  apply Client.sends_ofEvent
  intro path
  cases filter with
  | none => trivial
  | some node =>
      exact sends_asking (cleanBody_run (canonical node rfl) debug page) "POST"
        path none _

theorem sends_generate (event : Option String) (prompt : String)
    (generation : Client.Generation) :
    (Client.generate event prompt generation).Sends Clean := by
  unfold Client.generate
  split
  · trivial
  · exact Client.sends_ofEvent fun path registry =>
      sends_asking (cleanBody_generate registry.settings prompt generation)
        "POST" path none _

theorem sends_createSaved (event : Option String) {root : Filter.Root}
    (canonical : root.Canonical) (prompt title : String) (favorite : Bool) :
    (Client.createSaved event prompt root title favorite).Sends Clean := by
  apply Client.sends_ofEvent
  intro path
  apply (sends_request (cleanBody_create canonical prompt title favorite)
    "POST" path none).bind
  intro json
  rw [Client.savedRow_eq]
  exact Flow.sends_ofResult _

theorem sends_updateSaved (event : Option String) (segment : String)
    (patch : SavedSegment.Patch) :
    (Client.updateSaved event segment patch).Sends Clean := by
  apply Client.sends_ofEvent
  intro path
  apply (sends_request (cleanBody_patch patch) "PATCH" path _).bind
  intro json
  rw [Client.savedRow_eq]
  exact Flow.sends_ofResult _

theorem sends_markUsed (event : Option String) (segment : String) :
    (Client.markUsed event segment).Sends Clean :=
  fun _ => sends_updateSaved event segment _

theorem sends_suggestTitle (event : Option String) {root : Filter.Root}
    (canonical : root.Canonical) (prompt : String) :
    (Client.suggestTitle event prompt (some root)).Sends Clean := by
  rw [Client.suggestTitle_eq]
  exact Client.sends_ofEvent fun path =>
    sends_asking (cleanBody_title canonical prompt) "POST" path none _

/-- Turning a prompt into a segment is quiet, and brings a canonical tree. -/
theorem makes_generate (event prompt : String) (generation : Client.Generation)
    (now : Registry) :
    (Client.generate (some event) prompt generation).Makes Quiet (fun result =>
      ∀ generated, result = .ok (.ok generated) →
        generated.segment.Canonical) now := by
  unfold Client.generate
  split
  · simp [Flow.Makes]
  apply Client.makes_ofEvent (by simp)
  intro path
  apply Client.makes_asking
  · intro fault
    cases fault <;> simp [Flow.guarded]
  · intro json later
    apply Flow.makes_ofResult.mpr
    intro generated same
    cases read : Client.parse "GenerateResponse" Generated.read json with
    | error fault =>
        rw [read] at same
        cases fault <;> simp [Flow.guarded] at same
    | ok found =>
        rw [read] at same
        cases same
        exact Generated.canonical_read (Client.parse_eq_ok.mp read)

end Calls

section Changes

variable {registry before after : Registry} {id : EngineId}

theorem tame_initial (event : String) (page : Page)
    (surface : Option Surface) : Tame (Engine.initial event page surface) :=
  ⟨by simp [Engine.initial, AiState.empty],
    by simp [Engine.initial, Engine.savedSegments]⟩

/-- An engine that was never made has no tree at hand. -/
theorem tame_default : Tame default := by
  constructor
  · intro root missing
    cases missing
  · intro segment missing
    cases missing

/-- A change of one engine that keeps it tame. -/
theorem AllTame.of_alters {change : Engine → Engine} (tame : AllTame before)
    (alters : Alters id change before after)
    (kept : ∀ engine, Tame engine → Tame (change engine)) : AllTame after := by
  intro other
  rw [alters.engine]
  split
  · exact kept _ (tame other)
  · exact tame other

theorem AllTame.of_quiet (tame : AllTame before) (quiet : before.Quiet after) :
    AllTame after := by
  intro other
  obtain ⟨title, same⟩ := quiet.engine other
  rw [same]
  exact ⟨(tame other).shown, (tame other).saved⟩

theorem AllTame.modifyEngine {change : Engine → Engine}
    (tame : AllTame registry) (id : EngineId)
    (kept : ∀ engine, Tame engine → Tame (change engine)) :
    AllTame (registry.modifyEngine id change) :=
  tame.of_alters (.of_modifyEngine change) kept

/-- What is learned of an engine besides its trees keeps it tame. -/
theorem AllTame.learn {change : Engine → Engine} (tame : AllTame registry)
    (id : EngineId) (shown : ∀ engine, (change engine).state = engine.state)
    (saved : ∀ engine, (change engine).saved = engine.saved) :
    AllTame (registry.modifyEngine id change) :=
  tame.modifyEngine id fun engine tame =>
    ⟨by rw [shown]; exact tame.shown,
      by unfold Engine.savedSegments; rw [saved]; exact tame.saved⟩

/-- So does a change of the state to a canonical tree, or to none. -/
theorem AllTame.transition {change : AiState → AiState}
    (tame : AllTame registry) (id : EngineId)
    (shown : ∀ state, (∀ root, state.ast = some root → root.Canonical) →
      ∀ root, (change state).ast = some root → root.Canonical) :
    AllTame (registry.transition id change) :=
  tame.of_alters (.of_transition change) fun engine tame =>
    ⟨shown engine.state tame.shown, tame.saved⟩

theorem AllTame.backfillPrompt (tame : AllTame registry) (id : EngineId) :
    AllTame (registry.backfillPrompt id) := by
  unfold Registry.backfillPrompt
  split
  · exact tame.transition id fun _ shown => shown
  · exact tame

theorem AllTame.restore (tame : AllTame registry) (id : EngineId)
    {restored : Registry.Restored} (generation : Option Int)
    (canonical : ∀ root, restored.ast = some root → root.Canonical) :
    AllTame (registry.restore id restored generation).2 := by
  obtain refused | accepted :=
    Registry.restore_cases registry id restored generation
  · rw [refused]
    exact tame
  · rw [accepted]
    apply AllTame.backfillPrompt
    apply AllTame.transition
    · exact tame.learn id (fun _ => rfl) fun _ => rfl
    · exact fun _ _ => canonical

/-- A new engine has no tree at hand. -/
theorem AllTame.addEngine (tame : AllTame registry) {engine : Engine}
    (new : Tame engine) : AllTame (registry.addEngine engine).2 := by
  intro other
  show Tame (((registry.engines ++ [engine])[other]?).getD default)
  by_cases has : other < registry.engines.length
  · rw [List.getElem?_append_left has]
    exact tame other
  · rw [List.getElem?_append_right (Nat.le_of_not_lt has)]
    cases other - registry.engines.length with
    | zero => exact new
    | succ _ => exact tame_default

theorem AllTame.engineFor (tame : AllTame registry) (event : String) :
    AllTame (registry.engineFor event).2 := by
  unfold Registry.engineFor
  split
  · exact tame
  · exact tame.addEngine (tame_initial _ _ _)

theorem AllTame.reset (tame : AllTame registry) (event : String) :
    AllTame (registry.reset event) := by
  have same : (registry.reset event).engines = registry.engines := by
    unfold Registry.reset
    cases Keyed.get? event registry.current <;> rfl
  exact tame.of_quiet (.of_engines same)

end Changes

/-- A flow keeps all engines tame and sends clean calls. -/
abbrev Trades {α : Type} (ends : Except Fault α → Prop)
    (flow : Flow Registry α) : Prop :=
  flow.Trades AllTame Clean ends

section Documents

/-- Whatever is quiet keeps all engines tame. -/
theorem trades_quiet {α : Type} {flow : Flow Registry α}
    {ends : Except Fault α → Prop}
    (makes : ∀ now, flow.Makes Quiet ends now) (sends : flow.Sends Clean) :
    Trades ends flow :=
  Flow.Makes.trades makes sends fun _ _ quiet tame => tame.of_quiet quiet

theorem sends_ask (event : String) : (Store.ask event).Sends Clean :=
  sends_request cleanBody_none _ _ _

theorem sends_load (event : String) : (Store.load event).Sends Clean := by
  rw [Store.load_eq]
  apply (sends_ask event).finish
  intro answer
  cases Store.fetched answer with
  | error fault => trivial
  | ok document => exact fun _ => trivial

theorem sends_read (event : String) (refresh : Bool) :
    (Store.read event refresh).Sends Clean := by
  rw [Store.read_eq]
  apply Flow.Sends.locked
  intro registry
  dsimp only
  cases Keyed.get? event registry.cache.documents with
  | none => exact sends_load event
  | some document =>
      cases refresh with
      | true => exact sends_load event
      | false => trivial

theorem sends_rollback (pending : PendingWrite) :
    (Store.rollback pending).Sends Clean := by
  rw [Store.rollback_eq]
  apply (sends_ask _).finish
  intro answer
  cases Flow.guarded (Store.fetched answer) with
  | error fault => trivial
  | ok outcome => exact fun _ => trivial

theorem sends_write (event : String) (change : Audience.Change) :
    (Store.write event change).Sends Clean := by
  rw [Store.write_eq]
  intro registry
  dsimp only
  cases PendingWrite.stage event change registry.cache with
  | error fault => trivial
  | ok pending =>
      apply (sends_request (cleanBody_wire change) _ _ _).finish
      intro answer
      obtain fault | json := answer
      · cases fault with
        | problem problem =>
            exact (sends_rollback pending).bind fun _ => trivial
        | _ => trivial
      · intro registry
        show Flow.Sends Clean (if change.manual.isSome then _ else _)
        split
        · exact fun _ => trivial
        · trivial

theorem trades_read (event : String) (refresh : Bool) :
    Trades (fun _ => True) (Store.read event refresh) :=
  trades_quiet (Store.makes_read event refresh) (sends_read event refresh)

theorem trades_write (event : String) (change : Audience.Change) :
    Trades (fun _ => True) (Store.write event change) :=
  trades_quiet (Store.makes_write event change) (sends_write event change)

/-- Changing the manual filters sends the block of a document at most. -/
theorem trades_writeTable (event : String) (search filters : Json) :
    Trades (fun _ => True) (Store.writeTable event search filters) := by
  apply (Flow.trades_ofResult _).andThen
  intro manual _
  have remembers (manual : ManualState) : ∀ registry : Registry,
      AllTame registry → AllTame (registry.modifyCache
        (Cache.rememberManual event manual)) :=
    fun _ tame => tame.of_quiet (Registry.quiet_modifyCache _)
  apply Flow.trades_inspect
  intro registry _
  show Trades _ (if (registry.cache.manual event).same manual then _ else _)
  split
  · exact Flow.trades_done trivial
  apply (Flow.trades_modify (remembers manual)).andThen
  intro _ _
  apply (trades_write event _).andThen
  intro outcome _
  cases outcome with
  | ok document => exact Flow.trades_done trivial
  | error problem =>
      exact (Flow.trades_modify fun _ tame =>
        tame.of_quiet (Registry.quiet_modifyCache _)).andThen
          fun _ _ => Flow.trades_done trivial

theorem trades_persist (id : EngineId) (block : AiBlock) :
    Trades (fun _ => True) (persist id block) :=
  Flow.trades_inspect fun _ _ =>
    (trades_write _ (.ofAi block)).andThen fun _ _ => Flow.trades_done trivial

end Documents

section Saved

/-- The list that an engine loads has canonical trees. -/
theorem trades_loadSaved (id : EngineId) (refresh : Bool) :
    Trades (fun _ => True) (loadSaved id refresh) := by
  have lists (event : String) (now : Registry) :
      (loadListOf id event).Makes (fun before after : Registry =>
        AllTame before → AllTame after) (fun _ => True) now := by
    apply Flow.Makes.bind
    apply ((Client.makes_listSaved event now).relax
      fun _ _ quiet tame => AllTame.of_quiet tame quiet).mono
    intro result canonical
    obtain fault | problem | segments := result
    · trivial
    · exact fun _ => trivial
    · exact fun later => ⟨fun tame => tame.modifyEngine id
        fun engine tame => ⟨tame.shown, canonical segments rfl⟩, trivial⟩
  have sends : (loadSaved id refresh).Sends Clean := by
    apply Flow.Sends.bind
    · rw [loadList_eq]
      apply Flow.Sends.locked
      intro registry
      dsimp only
      have asked : ((loadListOf id (registry.engine id).event).bind
          fun result => .done (true, result)).Sends Clean := by
        refine Flow.Sends.bind ((sends_listSaved _).bind fun outcome => ?_)
          fun _ => trivial
        cases outcome with
        | error problem => trivial
        | ok segments => exact fun _ => trivial
      cases (registry.engine id).saved with
      | none => exact asked
      | some segments =>
          cases refresh with
          | true => exact asked
          | false => trivial
    · intro result
      show Flow.Sends Clean (if result.1 && result.2.isOk then _ else _)
      split
      · exact fun _ => trivial
      · trivial
  exact Flow.Makes.trades (Provenance.makes_loadSaved lists
    (fun _ tame => tame.backfillPrompt id) refresh) sends
      fun _ _ kept => kept

/-- A saved segment that is found has a canonical tree. -/
theorem trades_findSaved (id : EngineId) (segment : String) :
    Trades (fun result => ∀ saved, result = .ok (some saved) →
      saved.ast.Canonical) (findSaved id segment) := by
  apply Flow.trades_query
  intro registry tame saved found
  have among : (registry.engine id).findSaved? segment = some saved :=
    Except.ok.inj found
  unfold Engine.findSaved? at among
  split at among
  · cases among
  · exact (tame id).saved saved (List.mem_of_find?_eq_some among)

/-- So has one that is required. -/
theorem trades_requireSaved (id : EngineId) (segment : String) :
    Trades (fun result => ∀ saved, result = .ok (.ok saved) →
      saved.ast.Canonical) (requireSaved id segment) := by
  apply (trades_loadSaved id false).bind (by simp)
  intro outcome _
  obtain problem | segments := outcome
  · exact Flow.trades_done (by simp)
  apply (trades_findSaved id segment).bind (by simp)
  intro found canonical
  cases found with
  | some saved =>
      exact Flow.trades_done fun other same => by
        cases same
        exact canonical saved rfl
  | none =>
      apply (trades_loadSaved id true).bind (by simp)
      intro outcome _
      obtain problem | segments := outcome
      · exact Flow.trades_done (by simp)
      apply (trades_findSaved id segment).bind (by simp)
      intro found canonical
      cases found with
      | some saved =>
          exact Flow.trades_done fun other same => by
            cases same
            exact canonical saved rfl
      | none => exact Flow.trades_done (by simp)

/-- A saved segment that was changed takes its place in the list with a
canonical tree. -/
theorem trades_updateSaved (id : EngineId) (segment : String)
    (patch : SavedSegment.Patch) :
    Trades (fun _ => True) (updateSaved id segment patch) := by
  apply Flow.trades_inspect
  intro registry _
  apply (trades_quiet (Client.makes_updateSaved _ segment patch)
    (sends_updateSaved _ segment patch)).andThen
  intro outcome canonical
  obtain problem | saved := outcome
  · exact Flow.trades_done trivial
  apply (Flow.trades_modify fun registry tame => ?_).andThen
    fun _ _ => Flow.trades_done trivial
  have replaced : AllTame
      (registry.modifyEngine id (Engine.replaceSaved saved)) :=
    tame.modifyEngine id fun engine tame => ⟨tame.shown,
      Provenance.canonical_replaceSaved (canonical saved rfl) tame.saved⟩
  dsimp only
  split
  · exact replaced.transition id fun _ shown => shown
  · exact replaced

theorem trades_dropSaved (id : EngineId) :
    Trades (fun _ => True) (dropSaved id) :=
  Flow.trades_modify fun _ tame => tame.modifyEngine id
    fun _ tame => ⟨tame.shown, fun _ missing => by cases missing⟩

end Saved

section Users

/-- The tree that a change brings is canonical. -/
theorem canonical_of_root {change : Engine.Change}
    {root : Option (Option Filter.Root)} {tree : Filter.Root}
    (read : change.root = .ok root) (brings : root = some (some tree)) :
    tree.Canonical := by
  unfold Engine.Change.root at read
  split at read
  · cases read
    cases brings
  · cases read
    cases brings
  · rename_i json _
    cases normal : Filter.Root.ofJson json with
    | error misuse =>
        rw [normal] at read
        cases read
    | ok found =>
        rw [normal] at read
        cases read
        cases brings
        exact Filter.Root.canonical_ofJson normal

/-- Whatever tree a user brings is normalized. -/
theorem trades_apply (id : EngineId) (change : Engine.Change) :
    Trades (fun _ => True) (apply id change) := by
  apply Flow.trades_inspect
  intro registry tame
  apply Flow.trades_update
  · apply tame.of_alters (Provenance.alters_noted change registry)
    intro engine tame
    unfold Provenance.noted
    split
    · exact ⟨tame.shown, tame.saved⟩
    · exact ⟨tame.shown, tame.saved⟩
  show Trades _ (Flow.bind (Flow.ofNormal change.root) _)
  cases read : change.root with
  | error misuse => exact Flow.trades_fail trivial
  | ok root =>
      apply Flow.trades_inspect
      intro registry tame
      apply Flow.trades_update
      · apply tame.transition id
        intro state shown tree ast
        obtain _ | given := root
        · exact shown tree ast
        · exact canonical_of_root read (congrArg some ast)
      · exact Flow.trades_inspect fun _ _ => trades_persist id _

theorem trades_clear (id : EngineId) : Trades (fun _ => True) (clear id) := by
  apply Flow.trades_inspect
  intro registry tame
  have counted : AllTame (registry.countUser id) :=
    tame.learn id (fun _ => rfl) fun _ => rfl
  have numbered : AllTame ((registry.countUser id).takeToken id).2 :=
    counted.learn id (fun _ => rfl) fun _ => rfl
  exact Flow.trades_update
    (numbered.transition id fun _ _ _ missing => by cases missing)
    (trades_persist id _)

theorem trades_moveAndApply (id : EngineId) (page : Page)
    (change : Engine.Change) :
    Trades (fun (_ : Except Fault (Outcome Unit)) => True)
      (Flow.bind (Flow.modify fun registry : Registry =>
        registry.modifyEngine id (Engine.moveTo page)) fun _ =>
          (apply id change).bind fun _ => Flow.done (Except.ok ())) :=
  (Flow.trades_modify fun _ tame =>
    tame.learn id (fun _ => rfl) fun _ => rfl).andThen
      fun _ _ => (trades_apply id change).andThen
        fun _ _ => Flow.trades_done trivial

/-- Running a canonical tree sends it as it is. -/
theorem trades_runSegment (event : String) {filter : Option Filter.Node}
    (canonical : ∀ node, filter = some node → node.Canonical) (debug : Bool)
    (page : Option Page) :
    Trades (fun _ => True)
      (Client.runSegment (some event) filter debug page) :=
  trades_quiet (fun now => Client.quiet_of_opens
    (Client.opens_runSegment event filter debug page now))
      (sends_runSegment _ canonical debug page)

/-- Running a saved segment again sends its tree. -/
theorem trades_runSaved (id : EngineId) {segment : SavedSegment}
    (canonical : segment.ast.Canonical) :
    Trades (fun _ => True) (runSaved id segment) := by
  apply Flow.trades_inspect
  intro registry _
  apply (trades_runSegment _ (fun node same =>
    Option.some.inj same ▸ canonical) false _).andThen
  intro outcome _
  obtain problem | results := outcome
  · exact Flow.trades_done trivial
  apply (trades_quiet (Client.makes_markUsed _ segment.id)
    (sends_markUsed _ segment.id)).andThen
  intro used _
  dsimp only
  split
  · exact (trades_dropSaved id).andThen fun _ _ => trades_moveAndApply id _ _
  · exact trades_moveAndApply id _ _

/-- Titling a segment sends its tree. -/
theorem trades_titleSaved (id : EngineId) (segment prompt : String)
    {root : Filter.Root} (canonical : root.Canonical) :
    Trades (fun _ => True) (titleSaved id segment prompt root) := by
  apply Flow.trades_inspect
  intro registry _
  apply (trades_quiet (fun now => Client.quiet_of_opens
    (Client.opens_suggestTitle _ prompt (some root) now))
      (sends_suggestTitle _ canonical prompt)).andThen
  intro outcome _
  obtain problem | title := outcome
  · exact Flow.trades_done trivial
  apply (trades_quiet (Client.makes_updateSaved _ segment (.ofTitle title))
    (sends_updateSaved _ segment (.ofTitle title))).andThen
  intro outcome _
  cases outcome with
  | error problem => exact Flow.trades_done trivial
  | ok saved => exact Flow.trades_done trivial

/-- Saving a generated segment sends its tree. -/
theorem trades_saveGenerated (id : EngineId) (prompt title : String)
    {root : Filter.Root} (canonical : root.Canonical) :
    Trades (fun _ => True) (saveGenerated id prompt title root) := by
  apply Flow.trades_inspect
  intro registry _
  apply (trades_quiet (Client.makes_createSaved _ prompt root title false)
    (sends_createSaved _ canonical prompt title false)).andThen
  intro outcome _
  obtain problem | saved := outcome
  · exact Flow.trades_done trivial
  apply (trades_dropSaved id).andThen
  intro _ _
  show Trades _ (if title = "" then _ else _)
  split
  · exact (trades_titleSaved id saved.id prompt canonical).andThen
      fun _ _ => Flow.trades_done trivial
  · exact Flow.trades_done trivial

theorem trades_generate (id : EngineId) (prompt title : String)
    (debug : Bool) : Trades (fun _ => True) (generate id prompt title debug) := by
  apply Flow.trades_inspect
  intro registry _
  apply (trades_quiet (makes_generate _ prompt _)
    (sends_generate _ prompt _)).andThen
  intro outcome canonical
  obtain problem | generated := outcome
  · exact Flow.trades_done trivial
  apply (trades_saveGenerated id prompt _ (canonical generated rfl)).andThen
  intro saved _
  exact (trades_apply id _).andThen fun _ _ => Flow.trades_done trivial

theorem trades_answerPrompt (id : EngineId) (submission : Submission) :
    Trades (fun _ => True) (answerPrompt id submission) := by
  unfold answerPrompt
  cases Registry.nonempty? submission.savedSegmentId with
  | none => exact trades_generate id _ _ _
  | some segment =>
      apply (trades_requireSaved id segment).andThen
      intro outcome canonical
      cases outcome with
      | error problem => exact Flow.trades_done trivial
      | ok saved => exact trades_runSaved id (canonical saved rfl)

theorem trades_ask (id : EngineId) (surface : Option Surface) :
    Trades (fun _ => True) (ask id surface) := by
  rw [Provenance.ask_eq]
  apply Flow.trades_inspect
  intro registry _
  split
  · exact Flow.trades_done trivial
  · exact Flow.trades_done trivial
  · exact Flow.trades_fail trivial

theorem trades_openPrompt (id : EngineId) (defaults : Defaults)
    (surface : Option Surface) :
    Trades (fun _ => True) (openPrompt id defaults surface) := by
  apply (trades_ask id surface).andThen
  intro submission _
  cases submission with
  | none => exact Flow.trades_done trivial
  | some submission =>
      exact (trades_answerPrompt id submission).andThen
        fun _ _ => Flow.trades_done trivial

theorem trades_rename (id : EngineId) (segment : String)
    (submission : Submission) :
    Trades (fun _ => True) (rename id segment submission) := by
  apply (trades_updateSaved id segment _).andThen
  intro outcome _
  cases outcome with
  | error problem => exact Flow.trades_done trivial
  | ok saved =>
      exact Flow.trades_inspect fun _ _ => (trades_apply id _).andThen
        fun _ _ => Flow.trades_done trivial

theorem trades_savedOnScreen (id : EngineId) :
    Trades (fun _ => True) (savedOnScreen id) := by
  rw [Provenance.savedOnScreen_eq]
  apply Flow.trades_inspect
  intro registry _
  cases Registry.nonempty? (registry.engine id).state.savedId with
  | none => exact Flow.trades_done trivial
  | some saved =>
      exact (trades_loadSaved id false).andThen
        fun _ _ => Flow.trades_query fun _ _ => trivial

theorem trades_answerRefine (id : EngineId) (defaults : Defaults)
    (submission : Submission) :
    Trades (fun _ => True) (answerRefine id defaults submission) := by
  rw [Provenance.answerRefine_eq]
  apply Flow.trades_inspect
  intro registry _
  cases Registry.nonempty? (registry.engine id).state.savedId with
  | none => exact trades_generate id _ _ _
  | some saved =>
      dsimp only
      split
      · exact trades_rename id saved submission
      · exact trades_generate id _ _ _

theorem trades_openRefine (id : EngineId) (surface : Option Surface) :
    Trades (fun _ => True) (openRefine id surface) := by
  apply (trades_savedOnScreen id).andThen
  intro segment _
  apply Flow.trades_inspect
  intro registry _
  apply (trades_ask id surface).andThen
  intro submission _
  cases submission with
  | none => exact Flow.trades_done trivial
  | some submission =>
      exact (trades_answerRefine id _ submission).andThen
        fun _ _ => Flow.trades_done trivial

end Users

section Tables

theorem trades_clamp (id : EngineId) : Trades (fun _ => True) (clamp id) := by
  rw [Provenance.clamp_eq]
  apply Flow.trades_inspect
  intro registry tame
  cases (registry.engine id).clampedPage with
  | error misuse => exact Flow.trades_fail trivial
  | ok page =>
      exact Flow.trades_update (tame.learn id (fun _ => rfl) fun _ => rfl)
        (Flow.trades_done trivial)

/-- Running the segment on screen sends its tree. -/
theorem trades_execute (id : EngineId) (page : Page) :
    Trades (fun _ => True) (execute id page) := by
  rw [Paging.execute_eq]
  apply Flow.trades_inspect
  intro registry tame
  have counted : AllTame (registry.modifyEngine id Paging.counted) :=
    tame.learn id (fun _ => rfl) fun _ => rfl
  apply Flow.trades_update
  · exact counted.learn id (fun _ => rfl) fun _ => rfl
  apply Flow.trades_inspect
  intro taken tame
  refine (trades_runSegment _ (fun node same => ?_) false _).andThen ?_
  · obtain ⟨root, shown, rfl⟩ := Option.map_eq_some_iff.mp same
    exact (tame id).shown root shown
  intro outcome _
  obtain problem | results := outcome
  · exact Flow.trades_done trivial
  apply Flow.trades_inspect
  intro registry tame
  apply Flow.trades_update _ (Flow.trades_done trivial)
  unfold Registry.updateResults
  dsimp only
  split
  · exact tame.transition id fun _ shown => shown
  · exact tame

theorem trades_setPage (id : EngineId) (page : Page) :
    Trades (fun _ => True) (setPage id page) := by
  rw [Paging.setPage_eq]
  apply Flow.trades_inspect
  intro before _
  apply Flow.trades_inspect
  intro registry tame
  apply Flow.trades_update
  · exact tame.learn id (fun _ => rfl) fun _ => rfl
  split
  · exact (trades_clamp id).andThen fun _ _ => Flow.trades_done trivial
  split
  · exact Flow.trades_done trivial
  split
  · exact Flow.trades_done trivial
  · exact (trades_execute id page).andThen fun _ _ => Flow.trades_done trivial

theorem trades_ofNormal {α : Type} (result : Except Misuse α) :
    Trades (fun _ => True) (Flow.ofNormal result) := by
  cases result with
  | error misuse => exact Flow.trades_fail trivial
  | ok value => exact Flow.trades_done trivial

theorem trades_move (id : EngineId) (way : Move) :
    Trades (fun _ => True) (way.flow id) := by
  cases way with
  | toPage page => exact trades_setPage id page
  | toNumber number =>
      exact Flow.trades_inspect fun _ _ => (trades_ofNormal _).andThen
        fun _ _ => trades_setPage id _
  | toSize size =>
      exact Flow.trades_inspect fun _ _ => (trades_ofNormal _).andThen
        fun _ _ => trades_setPage id _
  | toOrder orderBy order =>
      exact Flow.trades_inspect fun _ _ =>
        (Flow.trades_ofResult _).andThen fun _ _ => trades_setPage id _

theorem trades_setManualTotal (id : EngineId) (total : Option Int) :
    Trades (fun _ => True) (setManualTotal id total) :=
  (Flow.trades_modify fun _ tame =>
    tame.learn id (fun _ => rfl) fun _ => rfl).andThen
      fun _ _ => trades_clamp id

theorem trades_tableShown (id : EngineId) (rows : Json)
    (total : Option Int) :
    Trades (fun _ => True) (tableShown id rows total) := by
  apply Flow.trades_inspect
  intro before _
  show Trades _ (if total.isSome &&
    total != (before.engine id).table.manualTotal then _ else _)
  split
  · apply (trades_setManualTotal id total).andThen
    intro _ _
    apply Flow.trades_inspect
    intro registry _
    rw [Flow.bind_done]
    cases (registry.engine id).state.results <;> exact Flow.trades_done trivial
  · apply Flow.trades_inspect
    intro registry _
    rw [Flow.bind_done]
    cases (registry.engine id).state.results <;> exact Flow.trades_done trivial

end Tables

section Restored

/-- Running a canonical tree and restoring an engine to it. -/
theorem trades_restoreRun (id : EngineId) {root : Filter.Root}
    (canonical : root.Canonical) (debug : Bool) (generation : Nat)
    {restored : Results → Registry.Restored}
    (same : ∀ results, (restored results).ast = some root) :
    Trades (fun _ => True) (restoreRun id root debug generation restored) := by
  apply Flow.trades_inspect
  intro registry _
  apply (trades_runSegment _ (fun node same =>
    Option.some.inj same ▸ canonical) debug _).andThen
  intro outcome _
  cases outcome with
  | error problem => exact Flow.trades_fail trivial
  | ok results =>
      apply Flow.trades_modify
      intro registry tame
      apply tame.restore id
      intro tree ast
      rw [same] at ast
      exact Option.some.inj ast ▸ canonical

/-- A tree in a document is normalized before it is run, and a saved segment was
when it was read. -/
theorem trades_restoreFromDocument (id : EngineId) :
    Trades (fun _ => True) (restoreFromDocument id) := by
  apply Flow.trades_inspect
  intro registry _
  apply (trades_read _ false).andThen
  intro document _
  dsimp only
  split
  · exact Flow.trades_done trivial
  split
  · show Trades _ (Flow.bind (Flow.ofNormal _) _)
    cases normal : Filter.Root.ofJson (document.ai.ast.getD .null) with
    | error misuse => exact Flow.trades_fail trivial
    | ok root =>
        exact trades_restoreRun id (Filter.Root.canonical_ofJson normal) _ _
          fun _ => rfl
  · split
    · rename_i segment _
      apply (trades_requireSaved id segment).andThen
      intro outcome canonical
      cases outcome with
      | error problem => exact Flow.trades_fail trivial
      | ok saved =>
          exact trades_restoreRun id (canonical saved rfl) _ _ fun _ => rfl
    · exact Flow.trades_done trivial

theorem trades_setPhase (id : EngineId) (phase : Phase) :
    Trades (fun _ => True) (setPhase id phase) :=
  Flow.trades_modify fun _ tame => tame.learn id (fun _ => rfl) fun _ => rfl

theorem trades_concludeRestoring (id : EngineId)
    (result : Except Fault Unit) :
    Trades (fun _ => True) (concludeRestoring id result) := by
  obtain fault | _ := result
  · cases fault with
    | problem problem =>
        exact (Flow.trades_modify fun _ tame =>
          tame.learn id (fun _ => rfl) fun _ => rfl).andThen
            fun _ _ => (trades_setPhase id .hydrated).andThen
              fun _ _ => Flow.trades_done trivial
    | _ =>
        exact (trades_setPhase id .hydrated).andThen
          fun _ _ => Flow.trades_fail trivial
  · exact (trades_setPhase id .hydrated).andThen
      fun _ _ => Flow.trades_done trivial

theorem trades_restoring (id : EngineId) :
    Trades (fun _ => True) (restoring id) :=
  (trades_setPhase id .hydrating).andThen fun _ _ =>
    (trades_restoreFromDocument id).finish
      fun result _ => trades_concludeRestoring id result

theorem trades_hydrate (id : EngineId) :
    Trades (fun _ => True) (hydrate id) :=
  Flow.trades_restored fun result => by
    cases result with
    | error fault => exact Flow.trades_fail trivial
    | ok _ => exact Flow.trades_query fun _ _ => trivial

end Restored

section Runs

/-- However an engine is used, the calls are clean. -/
theorem trades_use (id : EngineId) (use : Engine.Use) :
    Trades (fun _ => True) (use.flow id) := by
  have ends {α : Type} {flow : Flow Registry α} {value : α → Learned}
      (trades : Trades (fun _ => True) flow) :
      Trades (fun _ => True) (flow.bind fun result => .done (value result)) :=
    trades.andThen fun _ _ => Flow.trades_done trivial
  cases use with
  | touch => exact Flow.trades_done trivial
  | observe =>
      exact ends (Flow.trades_modify fun _ tame =>
        tame.learn id (fun _ => rfl) fun _ => rfl)
  | disregard =>
      exact ends (Flow.trades_modify fun _ tame =>
        tame.learn id (fun _ => rfl) fun _ => rfl)
  | hydrate => exact ends (trades_hydrate id)
  | apply change => exact ends (trades_apply id change)
  | clear => exact ends (trades_clear id)
  | openPrompt defaults surface =>
      exact ends (trades_openPrompt id defaults surface)
  | openRefine surface => exact ends (trades_openRefine id surface)
  | move way => exact ends (trades_move id way)
  | setTotal total => exact ends (trades_setManualTotal id total)
  | showTable rows total => exact ends (trades_tableShown id rows total)
  | loadSaved refresh => exact ends (trades_loadSaved id refresh)
  | updateSaved segment patch => exact ends (trades_updateSaved id segment patch)

theorem trades_action (event : String) (action : Action) :
    Trades (fun _ => True) (action.flow event) := by
  cases action with
  | engine use =>
      exact Flow.trades_inspect fun registry tame =>
        Flow.trades_update (tame.engineFor event) (trades_use _ use)
  | read refresh =>
      exact (trades_read event refresh).andThen
        fun _ _ => Flow.trades_done trivial
  | write change =>
      exact (trades_write event change).andThen
        fun _ _ => Flow.trades_done trivial
  | writeManual search filters =>
      exact (trades_writeTable event search filters).andThen
        fun _ _ => Flow.trades_done trivial
  | reset =>
      exact (Flow.trades_modify fun _ tame => tame.reset event).andThen
        fun _ _ => Flow.trades_done trivial

/-- Anything is done about any events, at any time. -/
def scene {β : Type} (serves : β → Call → Reply → β → Prop) :
    Scene Registry β (String × Action) Learned :=
  { flow := fun task => task.2.flow task.1
    restoring := Engine.restoring
    admits := fun _ _ => True
    serves }

/-- Any number of events are dealt with in any way and at the same time, and the
backend replies whatever it likes.  Every filter and every tree in a call that
was sent is the wire form of a canonical tree, and so are all trees on screen and
in the loaded lists of saved segments. -/
theorem only_canonical_trees_leave {β : Type}
    {serves : β → Call → Reply → β → Prop} {settings : Settings}
    {now : Timestamp} {freshId : String} {client : Client} {server : β}
    {pool : Pool Registry β Learned}
    (reached : (scene serves).Reach
      (.fresh (.initial settings now freshId client) server) pool) :
    (∀ entry ∈ pool.world.sent, Clean entry.2) ∧
      ∀ id, Tame (pool.world.state.engine id) := by
  have unused : AllTame (.initial settings now freshId client) :=
    fun _ => tame_default
  obtain ⟨tame, sent⟩ := Scene.trades
    (fun task => trades_action task.1 task.2) trades_restoring unused reached
  exact ⟨sent, tame⟩

end Runs

section Untidy

/-- A client of a backend that is somewhere. -/
def someClient : Client :=
  { service := .ofService "http" "crm" "", token := none, instanceId := none,
    opened := false }

/-- A reply that brings a tree with nulls and empty texts. -/
def untidy : Reply :=
  .response 200 (.json (.obj
    [ ("segment", .obj
        [ ("filter", .obj
            [ ("type", .str "group"), ("op", .null),
              ("conditions", .arr
                [.obj [("type", .str "upsell"), ("upsellItemId", .str "")]])
            ]) ]),
      ("results", .obj []) ]))

/-- A backend that always gives that reply. -/
def answersUntidily (_ : Unit) (_ : Call) (reply : Reply) (_ : Unit) : Prop :=
  reply = untidy

/-- A prompt for what the reply brings. -/
def prompted : Action :=
  .engine (.openPrompt { prompt := "", title := "", savedSegmentId := none }
    (some
      { answer := some
          { prompt := "Buyers", title := "Buyers", savedSegmentId := none,
            debug := false } }))

/-- The tree in the body of a call. -/
def treeIn (call : Call) : Option Json :=
  match call.body with
  | some (.obj fields) => Keyed.get? "ast" fields
  | _ => none

/-- The untidy tree in the answer to a prompt is normal when it is saved. -/
theorem only_canonical_trees_leave_at_first_prompt :
    ∃ pool : Pool Registry Unit Learned,
      (scene answersUntidily).Reach
        (.fresh (.initial .standard default "" someClient) ()) pool ∧
      ∃ entry ∈ pool.world.sent, ∃ tree,
        treeIn entry.2 = some tree ∧ NormalTree tree := by
  obtain ⟨pool, reached, saved⟩ : ∃ pool : Pool Registry Unit Learned,
      (scene answersUntidily).Reach
        (.fresh (.initial .standard default "" someClient) ()) pool ∧
      pool.world.sent.any (fun entry => (treeIn entry.2).isSome) = true := by
    refine ⟨_, .step (.step (.step .refl
      (.start ("event", prompted) trivial))
      (.handle [] [] () rfl rfl))
      (.deliver [] [] rfl), ?_⟩
    decide +kernel
  obtain ⟨entry, member, carries⟩ := List.any_eq_true.mp saved
  obtain ⟨tree, found⟩ := Option.isSome_iff_exists.mp carries
  refine ⟨pool, reached, entry, member, tree, found, ?_⟩
  have clean := (only_canonical_trees_leave reached).1 entry member
  unfold treeIn at found
  split at found
  · rename_i fields body
    exact clean.tree fields tree body found
  · cases found

end Untidy

end Outgoing
end Audience
