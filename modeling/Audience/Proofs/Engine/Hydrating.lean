import Audience.Engine.Hydration
import Audience.Proofs.Engine.Loading
import Audience.Proofs.Engine.Restoring
import Audience.Proofs.Store.Solo

/-!
# How an engine is restored

What is said while an engine is restored, and what it ends with, depends on the
document, the saved segments and the replies alone.  If nothing overlaps, the
screen shows all of a segment in the end, or what it showed before.
-/

namespace Audience
namespace Hydrating

open Engine

section Stories

/-- The document of an engine, if it is known. -/
abbrev cached (id : EngineId) (registry : Registry) : Option Document :=
  Keyed.get? (registry.engine id).event registry.cache.documents

/-- What is said when a tree is run on the first page, and what comes of it. -/
def Runs (client : Client) (engine : Engine) (root : Filter.Root)
    (debug : Bool) (said : List (Call × Reply)) (result : Except Fault Results) :
    Prop :=
  ∃ outcome, Client.Running client (some engine.event) root.filter debug
    (some engine.firstPage) said outcome ∧ result = Flow.unwrapped outcome

/-- The tree that a document has; `null` if there is none. -/
def storedTree (document : Document) : Json := document.ai.ast.getD .null

/-- What is shown from a document with a tree. -/
def ofTree (document : Document) (root : Filter.Root) (results : Results) :
    Registry.Restored :=
  { results, savedId := document.ai.savedSegmentId, ast := some root,
    title := document.ai.title, prompt := "" }

/-- What is shown from a document with only a saved segment. -/
def ofSegment (document : Document) (saved : SavedSegment) (results : Results) :
    Registry.Restored :=
  { results, savedId := some saved.id, ast := some saved.ast,
    title := AiState.firstNonempty [document.ai.title] saved.title,
    prompt := saved.prompt }

/-- How the restoring of an engine goes: what is said, and what is shown in the
end, if anything is. -/
inductive Story (client : Client) (engine : Engine) (known : Option Document) :
    List (Call × Reply) → Except Fault (Option Registry.Restored) → Prop where
  /-- The document cannot be read. -/
  | unread {read : List (Call × Reply)} {fault : Fault}
      (reads : Store.Reads client engine.event known read (.error fault)) :
      Story client engine known read (.error fault)
  /-- The document says that no segment is active. -/
  | disabled {read : List (Call × Reply)} {document : Document}
      (reads : Store.Reads client engine.event known read (.ok document))
      (off : document.ai.enabled = false) :
      Story client engine known read (.ok none)
  /-- The document names no segment. -/
  | nothing {read : List (Call × Reply)} {document : Document}
      (reads : Store.Reads client engine.event known read (.ok document))
      (on : document.ai.enabled = true)
      (treeless : (storedTree document).isFull = false)
      (nameless : Registry.nonempty? document.ai.savedSegmentId = none) :
      Story client engine known read (.ok none)
  /-- The tree in the document stops the normalizer. -/
  | misread {read : List (Call × Reply)} {document : Document}
      {misuse : Misuse}
      (reads : Store.Reads client engine.event known read (.ok document))
      (on : document.ai.enabled = true)
      (tree : (storedTree document).isFull = true)
      (stops : Filter.Root.ofJson (storedTree document) = .error misuse) :
      Story client engine known read (.error (.misuse misuse))
  /-- The tree in the document is run. -/
  | tree {read run : List (Call × Reply)} {document : Document}
      {root : Filter.Root} {result : Except Fault Results}
      (reads : Store.Reads client engine.event known read (.ok document))
      (on : document.ai.enabled = true)
      (tree : (storedTree document).isFull = true)
      (normal : Filter.Root.ofJson (storedTree document) = .ok root)
      (runs : Runs client engine root (asksDebug (storedTree document)) run
        result) :
      Story client engine known (read ++ run)
        (result.map fun results => some (ofTree document root results))
  /-- The saved segment that the document names is not found. -/
  | unfound {read find : List (Call × Reply)} {document : Document}
      {segment : String} {fault : Fault}
      (reads : Store.Reads client engine.event known read (.ok document))
      (on : document.ai.enabled = true)
      (treeless : (storedTree document).isFull = false)
      (named : Registry.nonempty? document.ai.savedSegmentId = some segment)
      (finds : Finds client engine.event engine.saved segment find
        (.error fault)) :
      Story client engine known (read ++ find) (.error fault)
  /-- The saved segment that the document names is run. -/
  | segment {read find run : List (Call × Reply)} {document : Document}
      {segment : String} {saved : SavedSegment} {result : Except Fault Results}
      (reads : Store.Reads client engine.event known read (.ok document))
      (on : document.ai.enabled = true)
      (treeless : (storedTree document).isFull = false)
      (named : Registry.nonempty? document.ai.savedSegmentId = some segment)
      (finds : Finds client engine.event engine.saved segment find (.ok saved))
      (runs : Runs client engine saved.ast false run result) :
      Story client engine known (read ++ find ++ run)
        (result.map fun results => some (ofSegment document saved results))

/-- A segment is shown as it is restored.  Only a blank prompt gives way to that
of the saved segment on screen. -/
structure Shows (before : AiState) (restored : Registry.Restored)
    (after : AiState) : Prop where
  results : after.results = some restored.results
  savedId : after.savedId = Registry.nonempty? restored.savedId
  ast : after.ast = restored.ast
  savedTitle : after.savedTitle = restored.title
  prompt : restored.prompt ≠ "" → after.prompt = restored.prompt
  kept : restored.prompt = "" → Text.isBlankText before.prompt = false →
    after.prompt = before.prompt

/-- What was shown before is still shown. -/
structure Keeps (before after : AiState) : Prop where
  results : after.results = before.results
  savedId : after.savedId = before.savedId
  ast : after.ast = before.ast
  savedTitle : after.savedTitle = before.savedTitle
  prompt : after.prompt = before.prompt

/-- All of a segment is shown, or what was shown before. -/
def AllOrNothing (before : AiState)
    (ending : Except Fault (Option Registry.Restored)) (after : AiState) :
    Prop :=
  match ending with
  | .ok (some restored) => Shows before restored after
  | _ => Keeps before after

/-- The problem that is kept of a restoring. -/
def problemOf (ending : Except Fault (Option Registry.Restored)) :
    Option Problem :=
  match ending with
  | .error (.problem problem) => some problem
  | _ => none

/-- How the restoring ends for those who wait for it. -/
def concluded (ending : Except Fault (Option Registry.Restored)) :
    Except Fault Unit :=
  match ending with
  | .ok _ => .ok ()
  | .error (.problem _) => .ok ()
  | .error fault => .error fault

/-- An engine was restored. -/
structure Restored (before : Engine)
    (ending : Except Fault (Option Registry.Restored)) (after : Engine) :
    Prop where
  phase : after.phase = .hydrated
  error : after.hydrationError = (problemOf ending).or before.hydrationError
  state : AllOrNothing before.state ending after.state

end Stories

section Phases

/-- An engine goes on at most to the next phase. -/
def Advances (id : EngineId) (before after : Registry) : Prop :=
  (after.engine id).phase = (before.engine id).phase ∨
    (before.engine id).phase = .uninitialized ∧
      (after.engine id).phase = .hydrating ∨
    (before.engine id).phase = .hydrating ∧
      (after.engine id).phase = .hydrated

/-- A restoring waits for nobody else and goes on phase by phase. -/
def terms (id : EngineId) : Terms Registry :=
  { changes := Advances id, live := True }

variable {before after registry : Registry} {id : EngineId}

theorem advances_of_retitled
    (retitled : (before.engine id).Retitled (after.engine id)) :
    Advances id before after := by
  obtain ⟨title, retitled⟩ := retitled
  exact .inl (by rw [retitled])

theorem advances_modifyEngine {change : Engine → Engine}
    (same : ∀ engine, (change engine).phase = engine.phase) :
    Advances id registry (registry.modifyEngine id change) := by
  refine .inl ?_
  rw [Registry.engine_modifyEngine]
  split
  · exact same _
  · rfl

theorem lenient (id : EngineId) : Lenient (terms id) id where
  opened _ := .inl rfl
  kept _ _ := advances_modifyEngine fun _ => rfl
  filled registry := .inl (by rw [engine_backfillPrompt]; rfl)

end Phases

section Running

variable {client : Client} {before : Engine} {id : EngineId}
variable {known : Option Document}

/-- The engine is being restored, and nothing is shown yet. -/
structure Going (id : EngineId) (client : Client) (before : Engine)
    (now : Registry) : Prop where
  has : now.Has id
  client : ∃ opened, now.client = { client with opened }
  engine : ∃ saved persistedTitle, now.engine id =
    { before with
      saved, phase := .hydrating
      state := { before.state with persistedTitle } }

theorem Going.quiet {now later : Registry} (going : Going id client before now)
    (quiet : now.Quiet later)
    (same : ∃ opened, later.client = { now.client with opened }) :
    Going id client before later := by
  obtain ⟨opened, first⟩ := going.client
  obtain ⟨opened', second⟩ := same
  obtain ⟨saved, title, engine⟩ := going.engine
  obtain ⟨title', retitled⟩ := quiet.engine id
  refine ⟨(quiet.has id).mpr going.has, ⟨opened', ?_⟩, saved, title', ?_⟩
  · rw [second, first]
  · rw [retitled, engine]

theorem Going.loads {now later : Registry} (going : Going id client before now)
    (loads : Loads id now later) : Going id client before later := by
  obtain ⟨opened, first⟩ := going.client
  obtain ⟨opened', second⟩ := loads.client
  obtain ⟨saved, title, engine⟩ := going.engine
  obtain ⟨saved', loaded⟩ := loads.engine
  refine ⟨loads.has.mpr going.has, ⟨opened', ?_⟩, saved', title, ?_⟩
  · rw [second, first]
  · rw [loaded, engine]

/-- The engine is about to be restored. -/
structure Halfway (before : Engine)
    (ending : Except Fault (Option Registry.Restored)) (after : Engine) :
    Prop where
  phase : after.phase = .hydrating
  error : after.hydrationError = before.hydrationError
  state : AllOrNothing before.state ending after.state

/-- As long as nothing is shown, what was shown before is. -/
theorem Going.halfway {now : Registry}
    {ending : Except Fault (Option Registry.Restored)}
    (going : Going id client before now)
    (nothing : ending.toOption.join = none) :
    now.Has id ∧ Halfway before ending (now.engine id) := by
  obtain ⟨saved, title, engine⟩ := going.engine
  refine ⟨going.has, by rw [engine], by rw [engine], ?_⟩
  have keeps : Keeps before.state (now.engine id).state := by
    rw [engine]
    exact ⟨rfl, rfl, rfl, rfl, rfl⟩
  obtain fault | _ | restored := ending
  · exact keeps
  · exact keeps
  · cases nothing

/-- How far a restoring has come that was to end so. -/
def Ends (id : EngineId) (client : Client) (before : Engine)
    (known : Option Document) (log : List (Call × Reply))
    (result : Except Fault Unit) (later : Course Registry) : Prop :=
  ∃ said ending, later.log = log ++ said ∧
    Story client before known said ending ∧
    result = ending.map (fun _ => ()) ∧
    later.state.Has id ∧ Halfway before ending (later.state.engine id)

/-- What is restored is shown, and at most a missing prompt is filled in. -/
theorem shows_filledIn {engine : Engine} {restored : Registry.Restored}
    (same : ∀ identifier saved,
      Registry.nonempty? restored.savedId = some identifier →
      engine.findSaved? identifier = some saved → restored.prompt ≠ "" →
        saved.prompt = restored.prompt) :
    Shows engine.state restored (filledIn
      { engine.takeToken.moveTo engine.firstPage with
        state := restored.apply engine.state }).state := by
  refine ⟨rfl, rfl, rfl, rfl, fun given => ?_, fun none present => ?_⟩
  · have shown : (restored.apply engine.state).prompt = restored.prompt :=
      if_neg given
    show (Engine.missingPrompt? _).getD (restored.apply engine.state).prompt = _
    cases missing : Engine.missingPrompt? _ with
    | none => exact shown
    | some prompt =>
        obtain ⟨-, identifier, saved, named, listed, rfl⟩ :=
          of_missingPrompt? missing
        exact same identifier saved named listed given
  · have shown : (restored.apply engine.state).prompt = engine.state.prompt :=
      if_pos none
    show (Engine.missingPrompt? _).getD (restored.apply engine.state).prompt = _
    cases missing : Engine.missingPrompt? _ with
    | none => exact shown
    | some prompt =>
        have blank := (of_missingPrompt? missing).1
        rw [show Engine.state _ = restored.apply engine.state from rfl, shown,
          present] at blank
        cases blank

/-- The engine shows what is restored. -/
theorem Going.restored {now : Registry} {restored : Registry.Restored}
    (going : Going id client before now)
    (idle : before.state.isActive = false)
    (same : ∀ identifier saved,
      Registry.nonempty? restored.savedId = some identifier →
      (now.engine id).findSaved? identifier = some saved →
      restored.prompt ≠ "" → saved.prompt = restored.prompt) :
    (now.restore id restored (some (before.generation : Int))).2.Has id ∧
      Halfway before (.ok (some restored))
        ((now.restore id restored (some (before.generation : Int))).2.engine
          id) := by
  obtain ⟨saved, title, engine⟩ := going.engine
  -- The restoring is not late: no user did anything since it began.
  have accepted :
      (now.restore id restored (some (before.generation : Int))).2 =
        ((now.modifyEngine id fun engine =>
          engine.takeToken.moveTo engine.firstPage).transition id
            restored.apply).backfillPrompt id := by
    have free : (now.engine id).state.isActive = false := by
      rw [engine]
      exact idle
    have current : (before.generation : Int) = (now.engine id).generation := by
      rw [engine]
    simp [Registry.restore, free, current]
  have moved : (now.modifyEngine id fun engine =>
      engine.takeToken.moveTo engine.firstPage).Has id :=
    (Registry.has_modifyEngine _).mpr going.has
  have shown : (((now.modifyEngine id fun engine =>
      engine.takeToken.moveTo engine.firstPage).transition id
        restored.apply).backfillPrompt id).engine id =
      filledIn { (now.engine id).takeToken.moveTo (now.engine id).firstPage with
        state := restored.apply (now.engine id).state } := by
    rw [engine_backfillPrompt, Registry.engine_transition,
      Registry.engine_modifyEngine_self moved,
      Registry.engine_modifyEngine_self going.has]
    rfl
  have shows := shows_filledIn same
  rw [accepted, shown]
  refine ⟨?_, ?_, ?_, ?_⟩
  · rw [(Restoring.spares_backfillPrompt _ id).has, Registry.has_transition]
    exact moved
  · rw [engine]
    rfl
  · rw [engine]
    rfl
  · rw [engine] at shows ⊢
    exact ⟨shows.results, shows.savedId, shows.ast, shows.savedTitle,
      shows.prompt, shows.kept⟩

theorem Going.phase {now : Registry} (going : Going id client before now) :
    (now.engine id).phase = .hydrating := by
  obtain ⟨saved, title, engine⟩ := going.engine
  rw [engine]

theorem Going.asks {now : Registry} (going : Going id client before now) :
    (now.engine id).event = before.event ∧
      (now.engine id).firstPage = before.firstPage ∧
      (now.engine id).generation = before.generation := by
  obtain ⟨saved, title, engine⟩ := going.engine
  rw [engine]
  exact ⟨rfl, rfl, rfl⟩

variable {course : Course Registry}

/-- The end of a run of a filter, which the engine may show. -/
def RunEnds (id : EngineId) (client : Client) (before : Engine)
    (root : Filter.Root) (debug : Bool)
    (restored : Results → Registry.Restored) (log : List (Call × Reply))
    (result : Except Fault Unit) (later : Course Registry) : Prop :=
  ∃ run outcome, later.log = log ++ run ∧
    Runs client before root debug run outcome ∧
    result = outcome.map (fun _ => ()) ∧ later.state.Has id ∧
    Halfway before (outcome.map fun results => some (restored results))
      (later.state.engine id)

/-- A filter that is run is shown, if it can be run. -/
theorem solo_restoreRun (going : Going id client before course.state)
    (idle : before.state.isActive = false) (root : Filter.Root) (debug : Bool)
    {restored : Results → Registry.Restored}
    (same : ∀ results identifier saved,
      Registry.nonempty? (restored results).savedId = some identifier →
      (course.state.engine id).findSaved? identifier = some saved →
      (restored results).prompt ≠ "" →
        saved.prompt = (restored results).prompt) :
    (restoreRun id root debug before.generation restored).Solo (terms id)
      (RunEnds id client before root debug restored course.log) course := by
  show Flow.Solo _ _ (Flow.bind (Client.runSegment _ _ debug _) _) course
  rw [Flow.solo_bind]
  apply Client.solo_runSegment ((lenient id).opened _)
  intro result later asked
  have ⟨loads, unchanged⟩ : Loads id course.state later.state ∧
      later.state.engine id = course.state.engine id := by
    obtain same | opened := asked.state
    · rw [same]
      exact ⟨.refl id _, rfl⟩
    · rw [opened]
      exact ⟨loads_opened id _, rfl⟩
  have going' := going.loads loads
  obtain ⟨run, logged, exchanged⟩ := asked.said
  have runs : Runs client before root debug run (Flow.unwrapped result) := by
    obtain ⟨_, same⟩ := going.client
    rw [going.asks.1, going.asks.2.1, same] at exchanged
    exact ⟨result, exchanged.unopened, rfl⟩
  obtain fault | problem | results := result
  · exact ⟨run, _, logged, runs, rfl, going'.halfway rfl⟩
  · exact ⟨run, _, logged, runs, rfl, going'.halfway rfl⟩
  · rw [← unchanged] at same
    have shown := going'.restored idle (same results)
    exact ⟨.inl (shown.2.phase.trans going'.phase.symm), run, _, logged, runs,
      rfl, shown⟩

/-- While nothing is shown, no saved segment is on screen. -/
theorem Going.unsaved {now : Registry} (going : Going id client before now)
    (idle : before.state.isActive = false) :
    (now.engine id).state.savedId = none := by
  obtain ⟨saved, title, engine⟩ := going.engine
  rw [engine]
  simp only [AiState.isActive, Bool.or_eq_false_iff,
    Option.isSome_eq_false_iff, Option.isNone_iff_eq_none] at idle
  exact idle.2

/-- A story ends as told. -/
theorem Ends.of_story {log said : List (Call × Reply)}
    {ending : Except Fault (Option Registry.Restored)}
    (logged : course.log = log ++ said)
    (story : Story client before known said ending)
    (last : course.state.Has id ∧
      Halfway before ending (course.state.engine id)) :
    Ends id client before known log (ending.map fun _ => ()) course :=
  ⟨said, ending, logged, story, rfl, last⟩

/-- The tree in a document is run, if it can be read. -/
theorem solo_restoreInline {log read : List (Call × Reply)}
    {document : Document} (going : Going id client before course.state)
    (idle : before.state.isActive = false)
    (logged : course.log = log ++ read)
    (reads : Store.Reads client before.event known read (.ok document))
    (on : document.ai.enabled = true)
    (tree : (storedTree document).isFull = true) :
    (restoreInline id document.ai (storedTree document)
      before.generation).Solo (terms id) (Ends id client before known log)
        course := by
  show Flow.Solo _ _ (Flow.bind (Flow.ofNormal _) _) course
  cases normal : Filter.Root.ofJson (storedTree document) with
  | error misuse =>
      exact .of_story logged (.misread reads on tree normal)
        (going.halfway rfl)
  | ok root =>
      apply (solo_restoreRun going idle root (asksDebug (storedTree document))
        fun _ _ _ _ _ given => absurd rfl given).mono
      rintro _ later ⟨run, outcome, logged', runs, rfl, last⟩
      rw [logged, List.append_assoc] at logged'
      have told := Ends.of_story logged'
        (.tree reads on tree normal runs) last
      cases outcome <;> exact told

/-- The saved segment that a document names is run, if it can be found. -/
theorem solo_restoreSaved {log read : List (Call × Reply)}
    {document : Document} {segment : String}
    (going : Going id client before course.state)
    (unloaded : (course.state.engine id).saved = before.saved)
    (held : course.held = [])
    (idle : before.state.isActive = false)
    (logged : course.log = log ++ read)
    (reads : Store.Reads client before.event known read (.ok document))
    (on : document.ai.enabled = true)
    (treeless : (storedTree document).isFull = false)
    (named : Registry.nonempty? document.ai.savedSegmentId = some segment) :
    (restoreSaved id document.ai segment before.generation).Solo (terms id)
      (Ends id client before known log) course := by
  show Flow.Solo _ _ (Flow.bind (requireSaved id segment) _) course
  rw [Flow.solo_bind]
  apply solo_requireSaved (lenient id) (by simp [held])
  intro result later sought
  obtain ⟨loads, listed, find, logged', finds⟩ :=
    sought.finds going.has (going.unsaved idle) (Registry.ne_of_nonempty? named)
  rw [logged, List.append_assoc] at logged'
  have going' := going.loads loads
  replace finds : Finds client before.event before.saved segment find
      (Flow.unwrapped result) := by
    obtain ⟨_, same⟩ := going.client
    rw [going.asks.1, unloaded, same] at finds
    exact finds.unopened
  obtain fault | problem | saved := result
  · exact .of_story logged' (.unfound reads on treeless named finds)
      (going'.halfway rfl)
  · exact .of_story logged' (.unfound reads on treeless named finds)
      (going'.halfway rfl)
  · have shown := listed saved rfl
    apply (solo_restoreRun going' idle saved.ast false ?_).mono
    · rintro _ last ⟨run, outcome, logged'', runs, rfl, last⟩
      rw [logged', List.append_assoc] at logged''
      have told := Ends.of_story logged''
        (.segment reads on treeless named finds runs) last
      cases outcome <;> exact told
    -- The list has the segment, so a prompt that is filled in is the one that
    -- is restored.
    · intro results identifier other same known given
      have here : identifier = saved.id := Registry.eq_of_nonempty? same
      rw [here, id_of_findSaved? shown, shown] at known
      rw [← Option.some.inj known]

/-- The rest of a restoring, once the document is read. -/
def resuming (id : EngineId) (generation : Nat) (document : Document) :
    Flow Registry Unit :=
  if !document.ai.enabled then .done ()
  else if (storedTree document).isFull then
    restoreInline id document.ai (storedTree document) generation
  else
    match Registry.nonempty? document.ai.savedSegmentId with
    | some segment => restoreSaved id document.ai segment generation
    | none => .done ()

theorem restoreFromDocument_eq (id : EngineId) :
    restoreFromDocument id = .inspect fun registry =>
      (Store.read (registry.engine id).event false).bind
        (resuming id (registry.engine id).generation) :=
  rfl

/-- Restoring an engine from its document ends in one of the ways told. -/
theorem solo_restoreFromDocument
    (going : Going id client before course.state)
    (unloaded : (course.state.engine id).saved = before.saved)
    (held : course.held = []) (idle : before.state.isActive = false) :
    (restoreFromDocument id).Solo (terms id)
      (Ends id client before
        (Keyed.get? before.event course.state.cache.documents) course.log)
      course := by
  rw [restoreFromDocument_eq]
  show Flow.Solo _ _ (Flow.bind _ _) course
  rw [Flow.solo_bind, going.asks.1, going.asks.2.2]
  refine Store.solo_read
    (fun _ _ quiet => advances_of_retitled (quiet.engine id))
    (by simp [held]) ?_
  intro read result later reads quiet opened
  have going' := going.quiet quiet opened
  replace reads : Store.Reads client before.event
      (Keyed.get? before.event course.state.cache.documents) read result := by
    obtain ⟨_, same⟩ := going.client
    rw [same] at reads
    exact reads.unopened
  obtain fault | document := result
  · exact .of_story rfl (.unread reads) (going'.halfway rfl)
  show (resuming id before.generation document).Solo _ _ _
  unfold resuming
  split
  · next off =>
      rw [Bool.not_eq_true'] at off
      exact .of_story rfl (.disabled reads off) (going'.halfway rfl)
  next on =>
  rw [Bool.not_eq_true', Bool.not_eq_false] at on
  split
  · next tree => exact solo_restoreInline going' idle rfl reads on tree
  next treeless =>
  rw [Bool.not_eq_true] at treeless
  split
  · next segment named =>
      refine solo_restoreSaved going' ?_ (by simp [held]) idle rfl reads on
        treeless named
      obtain ⟨title, retitled⟩ := quiet.engine id
      rw [retitled]
      exact unloaded
  · next nameless =>
      exact .of_story rfl (.nothing reads on treeless nameless)
        (going'.halfway rfl)

/-- The restoring is over, and went as told. -/
def Done (id : EngineId) (start : Registry) (result : Except Fault Unit)
    (later : Course Registry) : Prop :=
  ∃ ending, Story start.client (start.engine id) (cached id start) later.log
      ending ∧
    Restored (start.engine id) ending (later.state.engine id) ∧
    result = concluded ending

/-- The engine is restored as soon as it says so. -/
theorem restored_of_phase (registry : Registry)
    (ending : Except Fault (Option Registry.Restored))
    (has : registry.Has id) (phase : (registry.engine id).phase = .hydrating)
    (error : (registry.engine id).hydrationError =
      (problemOf ending).or before.hydrationError)
    (shown : AllOrNothing before.state ending (registry.engine id).state) :
    Advances id registry (registry.modifyEngine id fun engine =>
        { engine with phase := .hydrated }) ∧
      Restored before ending
        ((registry.modifyEngine id fun engine =>
          { engine with phase := .hydrated }).engine id) := by
  unfold Advances
  rw [Registry.engine_modifyEngine_self has]
  exact ⟨.inr (.inr ⟨phase, rfl⟩), rfl, error, shown⟩

/-- Whatever a restoring came to, it is over. -/
theorem solo_concludeRestoring {start : Registry}
    {ending : Except Fault (Option Registry.Restored)}
    (story : Story start.client (start.engine id) (cached id start) course.log
      ending)
    (has : course.state.Has id)
    (halfway : Halfway (start.engine id) ending (course.state.engine id)) :
    (concludeRestoring id (ending.map fun _ => ())).Solo (terms id)
      (Done id start) course := by
  have quietly (same : problemOf ending = none) :=
    restored_of_phase course.state ending has halfway.phase
      (by rw [halfway.error, same, Option.none_or]) halfway.state
  obtain (problem | _ | _ | _) | _ := ending
  · let kept := course.state.modifyEngine id fun engine =>
      { engine with hydrationError := some problem }
    have engine : kept.engine id = { course.state.engine id with
        hydrationError := some problem } :=
      Registry.engine_modifyEngine_self has _
    have finished := restored_of_phase kept (.error (.problem problem))
      ((Registry.has_modifyEngine _).mpr has)
      (by rw [engine]; exact halfway.phase) (by rw [engine]; rfl)
      (by rw [engine]; exact halfway.state)
    exact ⟨advances_modifyEngine fun _ => rfl, finished.1, _, story,
      finished.2, rfl⟩
  all_goals
    have finished := quietly rfl
    exact ⟨finished.1, _, story, finished.2, rfl⟩

/-- A restoring goes on phase by phase, and ends in one of the ways told. -/
theorem solo_restoring {start : Registry} (has : start.Has id)
    (new : (start.engine id).phase = .uninitialized)
    (idle : (start.engine id).state.isActive = false) :
    (restoring id).Solo (terms id) (Done id start)
      { state := start, log := [], held := [] } := by
  let begun := start.modifyEngine id fun engine =>
    { engine with phase := .hydrating }
  have engine : begun.engine id =
      { start.engine id with phase := .hydrating } :=
    Registry.engine_modifyEngine_self has _
  have going : Going id start.client (start.engine id) begun :=
    ⟨(Registry.has_modifyEngine _).mpr has, ⟨start.client.opened, rfl⟩, _, _,
      engine⟩
  refine ⟨.inr (.inl ⟨new, by rw [engine]⟩), ?_⟩
  show Flow.Solo _ _ (Flow.finish _ _) _
  rw [Flow.solo_finish]
  apply (solo_restoreFromDocument going (by rw [engine]) rfl idle).mono
  rintro _ later ⟨said, ending, logged, story, rfl, has, halfway⟩
  rw [List.nil_append] at logged
  rw [← logged] at story
  exact solo_concludeRestoring story has halfway

end Running

end Hydrating
end Audience
