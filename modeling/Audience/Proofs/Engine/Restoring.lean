import Audience.Proofs.Engine.Sparing
import Audience.Proofs.Flow.Diary

/-!
# A late restoring

While an engine is restored, its user may bring a segment on screen or clear the
screen.  Every such change counts a generation, and a restoring is accepted only
in the generation in which it began.  So once a user changed something, all that
the restoring still does is to show what it learns: the list of saved segments,
the title of the document, and a prompt where none was shown.
-/

namespace Audience
namespace Restoring

open Registry (Alters)
open Provenance (Begins noted)
open Engine

/-- An engine on which nothing was on screen is restored: in one transition it
shows the results together with their tree, title and saved segment, on the first
page and under a new token.  A prompt that is missing then is filled in. -/
structure Restores (id : EngineId) (restored : Registry.Restored)
    (before after : Registry) : Prop where
  noResults : (before.engine id).state.results = none
  noAst : (before.engine id).state.ast = none
  noSavedId : (before.engine id).state.savedId = none
  transition : after = ((before.modifyEngine id fun engine =>
    engine.takeToken.moveTo engine.firstPage).transition id
      restored.apply).backfillPrompt id
  results : (after.engine id).state.results = some restored.results
  tree : restored.ast.isSome
  ast : (after.engine id).state.ast = restored.ast
  savedId : (after.engine id).state.savedId =
    Registry.nonempty? restored.savedId
  savedTitle : (after.engine id).state.savedTitle = restored.title
  page : (after.engine id).table.page = (before.engine id).firstPage
  token : (after.engine id).latestToken = (before.engine id).latestToken + 1
  others : ∀ other, other ≠ id → after.engine other = before.engine other

/-- What the restoring of an engine may change that began in the given
generation. -/
def Allowed (id : EngineId) (generation : Nat) (before after : Registry) :
    Prop :=
  Steady before after ∧ (before.Has id → Spares before after ∨
    ((before.engine id).generation = generation ∧
      ∃ restored, Restores id restored before after))

section Changes

variable {registry before after : Registry} {id : EngineId}

theorem Spares.allowed {generation : Nat} (spares : Spares before after) :
    Allowed id generation before after :=
  ⟨spares.steady, fun _ => .inl spares⟩

/-- Filling in a prompt changes no other engine. -/
theorem engine_backfillPrompt_of_ne {other : EngineId} (ne : other ≠ id) :
    (registry.backfillPrompt id).engine other = registry.engine other := by
  unfold Registry.backfillPrompt
  split
  · rw [Registry.engine_transition, Registry.engine_modifyEngine,
      if_neg fun here => ne here.1]
  · rfl

/-- Restoring changes nothing, or it is accepted in its generation with nothing
on screen. -/
theorem restore_in_generation (registry : Registry) (id : EngineId)
    (restored : Registry.Restored) (generation : Nat) :
    (registry.restore id restored (some (generation : Int))).2 = registry ∨
      (registry.engine id).generation = generation ∧
        (registry.engine id).state.isActive = false ∧
        (registry.restore id restored (some (generation : Int))).2 =
          ((registry.modifyEngine id fun engine =>
            engine.takeToken.moveTo engine.firstPage).transition id
              restored.apply).backfillPrompt id := by
  unfold Registry.restore
  dsimp only
  split
  · exact .inl rfl
  · rename_i accepted
    simp only [Bool.or_eq_true, bne_iff_ne, not_or, Decidable.not_not,
      Bool.not_eq_true] at accepted
    exact .inr ⟨(Int.ofNat_inj.mp accepted.1).symm, accepted.2, rfl⟩

theorem restores_of_accepted {restored : Registry.Restored}
    (has : registry.Has id) (tree : restored.ast.isSome)
    (idle : (registry.engine id).state.isActive = false) :
    Restores id restored registry
      (((registry.modifyEngine id fun engine =>
        engine.takeToken.moveTo engine.firstPage).transition id
          restored.apply).backfillPrompt id) := by
  have alters : Alters id _ registry _ :=
    (Alters.of_modifyEngine fun engine : Engine =>
      engine.takeToken.moveTo engine.firstPage).trans
      (.of_transition restored.apply)
  have shown := alters.engine id
  rw [if_pos ⟨rfl, has⟩] at shown
  have filled := (spares_backfillPrompt ((registry.modifyEngine id
    fun engine => engine.takeToken.moveTo engine.firstPage).transition id
      restored.apply) id).engine id
  simp only [AiState.isActive, Bool.or_eq_false_iff,
    Option.isSome_eq_false_iff, Option.isNone_iff_eq_none] at idle
  obtain ⟨⟨results, ast⟩, savedId⟩ := idle
  refine ⟨results, ast, savedId, rfl, ?_, tree, ?_, ?_, ?_, ?_, ?_, ?_⟩
  · rw [filled.results, shown]
    rfl
  · rw [filled.ast, shown]
    rfl
  · rw [filled.savedId, shown]
    rfl
  · rw [filled.savedTitle, shown]
    rfl
  · rw [filled.table, shown]
    rfl
  · rw [filled.token, shown]
    rfl
  · intro other ne
    rw [engine_backfillPrompt_of_ne ne, alters.engine,
      if_neg fun here => ne here.1]

/-- Restoring does what is allowed, whether it is accepted or not. -/
theorem allowed_restore (registry : Registry) (id : EngineId)
    {restored : Registry.Restored} (tree : restored.ast.isSome)
    (generation : Nat) :
    Allowed id generation registry
      (registry.restore id restored (some (generation : Int))).2 := by
  obtain refused | ⟨current, idle, accepted⟩ :=
    restore_in_generation registry id restored generation
  · rw [refused]
    exact (Spares.refl registry).allowed
  · rw [accepted]
    have alters : Alters id _ registry _ :=
      (Alters.of_modifyEngine fun engine : Engine =>
        engine.takeToken.moveTo engine.firstPage).trans
        (.of_transition restored.apply)
    have steady := (steady_of_alters alters fun _ => Nat.le_refl _).trans
      (spares_backfillPrompt _ id).steady
    exact ⟨steady, fun has =>
      .inr ⟨current, restored, restores_of_accepted has tree idle⟩⟩

end Changes

section Restored

/-- Running a filter and restoring the engine does what is allowed. -/
theorem makes_restoreRun (id : EngineId) (filter : Filter.Root) (debug : Bool)
    (generation : Nat) {restored : Results → Registry.Restored}
    (tree : ∀ results, (restored results).ast.isSome) (now : Registry) :
    (restoreRun id filter debug generation restored).Makes
      (Allowed id generation) (fun _ => True) now := by
  show Flow.Makes _ _ (Flow.bind (Client.runSegment _ _ debug _) _) now
  apply ((makes_opening (Client.opens_runSegment _ _ debug _ now)).relax
    fun _ _ spares => spares.allowed).andThen
  intro outcome later
  cases outcome with
  | error problem => trivial
  | ok results => exact ⟨allowed_restore later id (tree results) generation, trivial⟩

/-- Restoring an engine from its document does what is allowed in the generation
in which it begins, however the engine changes meanwhile. -/
theorem makes_restoreFromDocument (id : EngineId) (now : Registry) :
    (restoreFromDocument id).Makes (Allowed id (now.engine id).generation)
      (fun _ => True) now := by
  show Flow.Makes _ _ (Flow.bind (Store.read _ false) _) now
  apply ((makes_read _ false now).relax
    fun _ _ spares => spares.allowed).andThen
  intro document later
  dsimp only
  split
  · trivial
  split
  · show Flow.Makes _ _ (Flow.bind (Flow.ofNormal _) _) _
    cases Filter.Root.ofJson (document.ai.ast.getD .null) with
    | error misuse => trivial
    | ok root => exact makes_restoreRun id root _ _ (fun _ => rfl) later
  · split
    · rename_i segment _
      apply ((makes_requireSaved id segment later).relax
        fun _ _ spares => spares.allowed).andThen
      intro outcome later
      cases outcome with
      | error problem => trivial
      | ok saved => exact makes_restoreRun id saved.ast false _ (fun _ => rfl) later
    · trivial

/-- Noting how far an engine is restored spares all users. -/
theorem makes_setPhase (id : EngineId) (phase : Phase) (now : Registry) :
    (setPhase id phase).Makes Spares (fun _ => True) now :=
  ⟨spares_modifyEngine (.of_learned _ _ _ _) rfl, trivial⟩

theorem makes_concludeRestoring (id : EngineId) (result : Except Fault Unit)
    (now : Registry) :
    (concludeRestoring id result).Makes Spares (fun _ => True) now := by
  obtain fault | _ := result
  · cases fault with
    | problem problem =>
        exact ⟨spares_modifyEngine (.of_learned _ _ _ _) rfl,
          makes_setPhase id .hydrated _⟩
    | _ => exact (makes_setPhase id .hydrated now).andThen fun _ _ => trivial
  · exact (makes_setPhase id .hydrated now).andThen fun _ _ => trivial

/-- The one-time restoring of an engine does what is allowed in the generation
in which it begins. -/
theorem makes_restoring (id : EngineId) (now : Registry) :
    (restoring id).Makes (Allowed id (now.engine id).generation)
      (fun _ => True) now := by
  have begun : Spares now (now.modifyEngine id fun engine =>
      { engine with phase := .hydrating }) :=
    spares_modifyEngine (.of_learned _ _ _ _) rfl
  refine ⟨begun.allowed, ?_⟩
  -- The generation is read after the phase was noted, which does not change it.
  have restores := makes_restoreFromDocument id
    (now.modifyEngine id fun engine => { engine with phase := .hydrating })
  rw [(begun.engine id).generation] at restores
  apply Flow.Makes.finish
  apply restores.mono
  intro result _ later
  exact (makes_concludeRestoring id result later).relax
    fun _ _ spares => spares.allowed

end Restored

section Sent

/-- A call that writes no document. -/
def WritesNothing (call : Call) : Prop := call.method ≠ "PUT"

theorem writesNothing_of_get {call : Call}
    (get : call.method = Text.upper "GET") : WritesNothing call := by
  unfold WritesNothing
  rw [get]
  decide

theorem writesNothing_of_post {call : Call}
    (post : call.method = Text.upper "POST") : WritesNothing call := by
  unfold WritesNothing
  rw [post]
  decide

section Getting

variable {sendable : Call → Prop}
variable (gets : ∀ call, call.method = Text.upper "GET" → sendable call)

include gets

/-- Reading a document sends at most a `GET`. -/
theorem sends_read (event : String) (refresh : Bool) :
    (Store.read event refresh).Sends sendable := by
  have loads : (Store.load event).Sends sendable := by
    rw [Store.load_eq]
    apply ((Client.sends_request "GET" _ none _).relax gets).finish
    intro answer
    cases Store.fetched answer with
    | error fault => trivial
    | ok document => exact fun _ => trivial
  rw [Store.read_eq]
  apply Flow.Sends.locked
  intro registry
  dsimp only
  cases Keyed.get? event registry.cache.documents with
  | none => exact loads
  | some document =>
      cases refresh with
      | true => exact loads
      | false => trivial

/-- So does loading the saved segments. -/
theorem sends_loadSaved (id : EngineId) (refresh : Bool) :
    (loadSaved id refresh).Sends sendable := by
  have asked (event : String) : ((loadListOf id event).bind
      fun result => .done (true, result)).Sends sendable := by
    apply Flow.Sends.bind
    · apply ((Client.sends_listSaved (some event)).relax gets).bind
      intro outcome
      cases outcome with
      | error problem => trivial
      | ok segments => exact fun _ => trivial
    · exact fun _ => trivial
  apply Flow.Sends.bind
  · rw [loadList_eq]
    apply Flow.Sends.locked
    intro registry
    dsimp only
    cases (registry.engine id).saved with
    | none => exact asked _
    | some segments =>
        cases refresh with
        | true => exact asked _
        | false => trivial
  · intro result
    show Flow.Sends _ (if result.1 && result.2.isOk then _ else _)
    split
    · exact fun _ => trivial
    · trivial

theorem sends_requireSaved (id : EngineId) (segment : String) :
    (requireSaved id segment).Sends sendable := by
  apply (sends_loadSaved gets id false).bind
  intro outcome
  obtain problem | segments := outcome
  · trivial
  have looks : (findSaved id segment).Sends sendable := fun _ => trivial
  apply looks.bind
  intro found
  cases found with
  | some saved => trivial
  | none =>
      apply (sends_loadSaved gets id true).bind
      intro outcome
      obtain problem | segments := outcome
      · trivial
      apply looks.bind
      intro found
      cases found <;> trivial

end Getting

/-- Settling a write writes nothing more. -/
theorem sends_settle (pending : PendingWrite) (change : Audience.Change)
    (answer : Except Fault Json) :
    (Store.settle pending change answer).Sends WritesNothing := by
  obtain fault | json := answer
  · cases fault with
    | problem problem =>
        show (Flow.bind (Store.rollback pending) _).Sends _
        rw [Store.rollback_eq]
        refine Flow.Sends.bind ?_ fun _ => trivial
        apply ((Client.sends_request "GET" _ none _).relax
          fun _ get => writesNothing_of_get get).finish
        intro answer
        cases Flow.guarded (Store.fetched answer) with
        | error fault => trivial
        | ok outcome => exact fun _ => trivial
    | _ => trivial
  · intro registry
    dsimp only [Flow.Sends]
    split
    · exact fun _ => trivial
    · trivial

theorem sends_restoreRun (id : EngineId) (filter : Filter.Root) (debug : Bool)
    (generation : Nat) (restored : Results → Registry.Restored) :
    (restoreRun id filter debug generation restored).Sends WritesNothing := by
  intro registry
  apply ((Client.sends_runSegment _ _ debug _).relax
    fun _ post => writesNothing_of_post post).bind
  intro outcome
  cases outcome with
  | error problem => trivial
  | ok results => exact fun _ => trivial

theorem sends_restoreFromDocument (id : EngineId) :
    (restoreFromDocument id).Sends WritesNothing := by
  intro registry
  apply (sends_read (fun _ => writesNothing_of_get) _ false).bind
  intro document
  dsimp only
  split
  · trivial
  split
  · show Flow.Sends _ (Flow.bind (Flow.ofNormal _) _)
    cases Filter.Root.ofJson (document.ai.ast.getD .null) with
    | error misuse => trivial
    | ok root => exact sends_restoreRun id root _ _ _
  · split
    · rename_i segment _
      apply (sends_requireSaved (fun _ => writesNothing_of_get) id segment).bind
      intro outcome
      cases outcome with
      | error problem => trivial
      | ok saved => exact sends_restoreRun id saved.ast false _ _
    · trivial

/-- Restoring an engine writes no document. -/
theorem sends_restoring (id : EngineId) :
    (restoring id).Sends WritesNothing := by
  intro registry
  apply (sends_restoreFromDocument id).finish
  intro result
  have set : (setPhase id .hydrated).Sends WritesNothing := fun _ => trivial
  obtain fault | _ := result
  · cases fault with
    | problem problem => exact fun _ => set
    | _ => exact set.bind fun _ => trivial
  · exact set.bind fun _ => trivial

end Sent

section Runs

/-- What is done with engines: a segment is brought on screen, or anything
else. -/
inductive Task where
  | apply (id : EngineId) (change : Engine.Change)
  | other (task : Provenance.Task)

/-- What a task does. -/
def Task.flow : Task → Flow Registry Unit
  | apply id change => Engine.apply id change
  | other task => task.flow

/-- Tasks that start at any time, against a backend that serves in any way. -/
def scene {β : Type} (serves : β → Call → Reply → β → Prop) :
    Scene Registry β Task Unit where
  flow := Task.flow
  restoring := Engine.restoring
  admits _ _ := True
  serves := serves

/-- Users may do what is steady; the restoring of an engine, what is allowed in
the generation in which it begins, and it writes no document. -/
def rules : Work Task → Registry → Rule Registry
  | .task _, _ => { change := Steady, call := fun _ => True }
  | .restoring id, origin =>
      { change := Allowed id (origin.engine id).generation
        call := WritesNothing }

/-- Everybody obeys these rules, whatever the others do. -/
theorem obeys {β : Type} (serves : β → Call → Reply → β → Prop) :
    (scene serves).Obeys rules where
  tasks task origin := by
    refine ⟨?_, Flow.sends_any _⟩
    cases task with
    | apply id change => exact makes_apply id change origin
    | other task => exact makes_task task origin
  restorings id origin := ⟨makes_restoring id origin, sends_restoring id⟩

variable {start : Registry} {diary : Diary Registry Task}

/-- Whatever is written in a lawful diary is steady. -/
theorem steady_of_lawful (lawful : diary.Lawful rules start)
    {entry : Entry Registry Task} (member : entry ∈ diary.entries) :
    Steady entry.before entry.after := by
  obtain ⟨place, found⟩ := List.mem_iff_getElem?.mp member
  obtain ⟨author, before, deed⟩ := entry
  cases deed with
  | began work => exact .refl before
  | called call => exact .refl before
  | changed state =>
      cases lawful.permitted place _ found with
      | begins work same deed => cases deed
      | obeys work origin later began allowed =>
          cases work with
          | task task => exact allowed
          | restoring id => exact allowed.1

/-- A user begins to bring a segment on screen or to clear it. -/
inductive Starts (id : EngineId) (change : Registry × Registry) : Prop where
  | apply (given : Engine.Change) (begins : Begins (apply id given) change)
  | clear (begins : Begins (clear id) change)

/-- That counts a generation. -/
theorem generation_of_starts {id : EngineId} {change : Registry × Registry}
    (starts : Starts id change) (has : change.1.Has id) :
    (change.2.engine id).generation = (change.1.engine id).generation + 1 := by
  cases starts with
  | apply given begins =>
      have same : (change.1, _) = change := Option.some.inj begins
      have alters : Alters id (noted given) change.1 change.2 := by
        rw [← same]
        exact Provenance.alters_noted given change.1
      rw [alters.engine, if_pos ⟨rfl, has⟩, generation_noted]
  | clear begins =>
      have same : (change.1, _) = change := Option.some.inj begins
      rw [← same]
      simp [Registry.engine_modifyEngine, Registry.countUser, has,
        Engine.takeToken]

/-- After a thread began and before a place in the diary, a user began to bring a
segment on screen or to clear it. -/
def Overtaken (id : EngineId) (began place : Nat)
    (diary : Diary Registry Task) : Prop :=
  ∃ between entry, began < between ∧ between < place ∧
    diary.entries[between]? = some entry ∧ Starts id entry.span

/-- A task in which the user of an engine brings a segment on screen or clears
it. -/
def Task.Overtakes (id : EngineId) : Task → Prop
  | apply engine _ => engine = id
  | other (.clear engine) => engine = id
  | _ => False

theorem starts_of_overtakes {id : EngineId} {task : Task}
    (overtakes : task.Overtakes id) (now : Registry) :
    ∃ change, (task.flow.stretch now).changes.head? = some change ∧
      Starts id change := by
  cases task with
  | apply engine given =>
      cases overtakes
      exact ⟨_, rfl, .apply given rfl⟩
  | other task =>
      cases task with
      | clear engine =>
          cases overtakes
          exact ⟨_, rfl, .clear rfl⟩
      | _ => cases overtakes

/-- From the moment at which such a task starts, a restoring that began before is
overtaken. -/
theorem overtaken_of_start {β : Type} {serves : β → Call → Reply → β → Prop}
    {server : β} {recorded last : Pool (Diary Registry Task) β Unit}
    {id : EngineId} {task : Task} (overtakes : task.Overtakes id)
    (reached : (scene serves).recorded.Reach (.fresh (.blank start) server)
      recorded)
    (further : (scene serves).recorded.Reach
      (recorded.perform (scene serves).recorded.restoring
        ((scene serves).recorded.thread task)) last)
    {began place : Nat} (first : began < recorded.world.state.entries.length)
    (later : recorded.world.state.entries.length + 1 < place) :
    Overtaken id began place last.world.state := by
  obtain ⟨change, begins, starts⟩ :=
    starts_of_overtakes overtakes recorded.world.state.state
  have entry := (scene serves).entry_of_start begins
  have started := Scene.Reach.step reached (.start task trivial)
  obtain ⟨rest, whole⟩ := ((obeys serves).honoured start).moves
    (Diary.Lawful.blank start) trivial started further fun _ _ => trivial
  have within := (List.getElem?_eq_some_iff.mp entry).1
  refine ⟨recorded.world.state.entries.length + 1,
    { author := recorded.world.state.entries.length, before := change.1,
      deed := .changed change.2 }, by omega, later, ?_, starts⟩
  rw [← whole, List.getElem?_append_left within]
  exact entry

/-- Once a restoring was overtaken, a user is in a later generation than that
in which it began. -/
theorem generation_of_overtaken (lawful : diary.Lawful rules start)
    {id : EngineId} (has : start.Has id) {began place : Nat}
    {origin : Registry} {entry : Entry Registry Task}
    (first : diary.Began began (.restoring id) origin)
    (found : diary.entries[place]? = some entry)
    (overtaken : Overtaken id began place diary) :
    (origin.engine id).generation < (entry.before.engine id).generation := by
  obtain ⟨between, other, after, earlier, there, starts⟩ := overtaken
  have each : ∀ entry ∈ diary.entries, Steady entry.before entry.after :=
    fun entry member => steady_of_lawful lawful member
  -- No generation is lost before or after the change of the user, which counts
  -- one.
  have upTo := (lawful.related Steady.refl Steady.trans each first there
    after).engine id
  have since := (lawful.related Steady.refl Steady.trans each there found
    earlier).engine id
  have made : other.before.Has id :=
    ((lawful.related_start Steady.refl Steady.trans each
      (List.mem_of_getElem? there)).has id).mpr has
  have counts := generation_of_starts starts made
  simp only [Entry.span] at counts
  simp only [Entry.after] at upTo
  omega

variable {β : Type} {serves : β → Call → Reply → β → Prop} {server : β}

/-- Any number of engines are used in any way while one is restored.  Every run
has a diary, and whatever a diary says, the restoring wrote no document, and
every change that it made either spared all users, or restored the engine in one
transition from a state in which nothing was on screen.  Every change that it
made after its user began to bring a segment on screen or to clear it spared all
users. -/
theorem late_restoring_spares_users {id : EngineId} (has : start.Has id) :
    (∀ pool : Pool Registry β Unit,
      (scene serves).Reach (.fresh start server) pool →
      ∃ recorded : Pool (Diary Registry Task) β Unit,
        (scene serves).recorded.Reach (.fresh (.blank start) server) recorded ∧
          recorded.Records pool) ∧
    ∀ recorded : Pool (Diary Registry Task) β Unit,
      (scene serves).recorded.Reach (.fresh (.blank start) server) recorded →
      ∀ began origin place entry,
        recorded.world.state.Began began (.restoring id) origin →
        recorded.world.state.entries[place]? = some entry →
        entry.author = began → place ≠ began →
        (∀ call, entry.deed = .called call → call.method ≠ "PUT") ∧
        ∀ after, entry.deed = .changed after →
          (Spares entry.before after ∨
            ∃ restored, Restores id restored entry.before after) ∧
          (Overtaken id began place recorded.world.state →
            Spares entry.before after) := by
  refine ⟨fun pool reached => Scene.recorded_of_reach reached, ?_⟩
  intro recorded reached began origin place entry first found own other
  have lawful := (obeys serves).lawful reached
  subst own
  obtain ⟨later, allows⟩ := lawful.allows found first other
  constructor
  · intro call called
    rw [called] at allows
    exact allows
  · intro after changed
    rw [changed] at allows
    have made : entry.before.Has id :=
      ((lawful.related_start Steady.refl Steady.trans
        (fun entry member => steady_of_lawful lawful member)
        (List.mem_of_getElem? found)).has id).mpr has
    obtain spares | ⟨current, restored, restores⟩ := allows.2 made
    · exact ⟨.inl spares, fun _ => spares⟩
    · refine ⟨.inr ⟨restored, restores⟩, fun overtaken => ?_⟩
      have passed := generation_of_overtaken lawful has first found overtaken
      omega

end Runs

section ClearedMeanwhile

/-- A backend that has no rows. -/
def servesNoRows (_ : Unit) (_ : Call) (reply : Reply) (_ : Unit) : Prop :=
  reply = .response 200 (.json (.obj []))

/-- A saved segment of all persons. -/
def savedEveryone : SavedSegment :=
  { id := "everyone", title := "All", prompt := "Everyone",
    ast := { filter := .empty }, favorite := false, lastUsed := none,
    createdAt := none, updatedAt := none }

/-- A registry with one engine that was not used yet, whose document names the
saved segment. -/
def withSavedSegment : Registry :=
  { Provenance.withNewEngine with
    cache :=
      { Cache.empty with
        documents :=
          [("event",
            { Document.empty with
              ai :=
                { AiBlock.cleared with
                  enabled := true
                  savedSegmentId := some "everyone" } })] }
    engines :=
      [{ Engine.initial "event" .standard none with
         saved := some [savedEveryone] }] }

/-- An entry with which the restoring of an engine begins. -/
def beginsRestoring (id : EngineId) (entry : Entry Registry Task) : Bool :=
  match entry.deed with
  | .began (.restoring engine) => engine == id
  | _ => false

theorem began_of_beginsRestoring {diary : Diary Registry Task} {id : EngineId}
    {place : Nat} {entry : Entry Registry Task}
    (found : diary.entries[place]? = some entry) (own : entry.author = place)
    (begins : beginsRestoring id entry = true) :
    ∃ origin, diary.Began place (.restoring id) origin := by
  obtain ⟨author, before, deed⟩ := entry
  cases own
  cases deed with
  | began work =>
      cases work with
      | task task => cases begins
      | restoring engine =>
          cases eq_of_beq begins
          exact ⟨before, found⟩
  | _ => cases begins

/-- A run in which nobody disturbs the restoring. -/
theorem exists_undisturbed :
    ∃ pool : Pool (Diary Registry Task) Unit Unit,
      (scene servesNoRows).recorded.Reach
        (.fresh (.blank withSavedSegment) ()) pool ∧
      pool.world.state.entries[1]?.map (fun entry =>
        (entry.author, beginsRestoring 0 entry)) = some (1, true) ∧
      pool.world.state.entries[5]?.map (fun entry =>
        (entry.author, entry.change?.map fun change =>
          (change.1.engine 0).state.results.isSome !=
            (change.2.engine 0).state.results.isSome)) =
        some (1, some true) := by
  refine ⟨_, .step (.step (.step (.step (.step (.step .refl
    (.start (.other (.hydrate 0)) trivial))
    (.begin [_] [] rfl))
    (.lock [] [_] rfl (by decide)))
    (.lock [] [_] rfl (by decide)))
    (.handle [] [_] () rfl rfl))
    (.deliver [] [_] rfl), ?_⟩
  decide +kernel

/-- A run in which the screen is cleared while the restoring waits for the
rows. -/
theorem exists_cleared :
    ∃ waiting pool : Pool (Diary Registry Task) Unit Unit,
      (scene servesNoRows).recorded.Reach
        (.fresh (.blank withSavedSegment) ()) waiting ∧
      (scene servesNoRows).recorded.Reach
        (waiting.perform (scene servesNoRows).recorded.restoring
          ((scene servesNoRows).recorded.thread (.other (.clear 0)))) pool ∧
      waiting.world.state.entries.length = 5 ∧
      pool.world.state.entries[1]?.map (fun entry =>
        (entry.author, beginsRestoring 0 entry)) = some (1, true) ∧
      pool.world.state.entries[10]?.map (fun entry =>
        (entry.author, entry.change?.isSome)) = some (1, true) := by
  refine ⟨_, _, .step (.step (.step (.step (.step .refl
    (.start (.other (.hydrate 0)) trivial))
    (.begin [_] [] rfl))
    (.lock [] [_] rfl (by decide)))
    (.lock [] [_] rfl (by decide)))
    (.handle [] [_] () rfl rfl),
    .step .refl (.deliver _ [_] (Pool.waits_of_perform _ _ rfl)), ?_⟩
  decide +kernel

/-- A change that an entry holds is what its author did. -/
theorem deed_of_change? {entry : Entry Registry Task}
    {change : Registry × Registry} (made : entry.change? = some change) :
    entry.before = change.1 ∧ entry.deed = .changed change.2 := by
  obtain ⟨author, before, deed⟩ := entry
  cases deed with
  | changed state =>
      cases made
      exact ⟨rfl, rfl⟩
  | _ => cases made

/-- Restoring shows the saved segment.  When the screen is cleared while the
restoring waits for the rows, the change that it makes then spares the user. -/
theorem late_restoring_spares_users_at_clear :
    ∃ undisturbed cleared : Pool (Diary Registry Task) Unit Unit,
      (scene servesNoRows).recorded.Reach
        (.fresh (.blank withSavedSegment) ()) undisturbed ∧
      (scene servesNoRows).recorded.Reach
        (.fresh (.blank withSavedSegment) ()) cleared ∧
      (∃ entry after restored,
        undisturbed.world.state.entries[5]? = some entry ∧
        entry.author = 1 ∧ entry.deed = .changed after ∧
        Restores 0 restored entry.before after) ∧
      ∃ entry after,
        cleared.world.state.entries[10]? = some entry ∧
        entry.author = 1 ∧ entry.deed = .changed after ∧
        Overtaken 0 1 10 cleared.world.state ∧ Spares entry.before after := by
  obtain ⟨undisturbed, alone, beginning, shows⟩ := exists_undisturbed
  obtain ⟨waiting, cleared, reached, further, early, beginning', changes⟩ :=
    exists_cleared
  have has : withSavedSegment.Has 0 := by decide
  have begun := Scene.Reach.step reached
    (Scene.Step.start (Task.other (.clear 0)) trivial)
  have started := begun.trans further
  refine ⟨undisturbed, cleared, alone, started, ?_, ?_⟩
  · obtain ⟨first, found, begins⟩ := Option.map_eq_some_iff.mp beginning
    obtain ⟨origin, began⟩ := began_of_beginsRestoring found
      (Prod.mk.inj begins).1 (Prod.mk.inj begins).2
    obtain ⟨entry, there, what⟩ := Option.map_eq_some_iff.mp shows
    obtain ⟨own, brought⟩ := Prod.mk.inj what
    obtain ⟨change, made, brings⟩ := Option.map_eq_some_iff.mp brought
    obtain ⟨before, changed⟩ := deed_of_change? made
    obtain ⟨spares | ⟨restored, restores⟩, _⟩ :=
      ((late_restoring_spares_users has).2 undisturbed alone 1 origin 5 entry
        began there own (by decide)).2 change.2 changed
    · rw [before] at spares
      rw [(spares.engine 0).results, bne_self_eq_false] at brings
      cases brings
    · exact ⟨entry, change.2, restored, there, own, changed, restores⟩
  · obtain ⟨first, found, begins⟩ := Option.map_eq_some_iff.mp beginning'
    obtain ⟨origin, began⟩ := began_of_beginsRestoring found
      (Prod.mk.inj begins).1 (Prod.mk.inj begins).2
    obtain ⟨entry, there, what⟩ := Option.map_eq_some_iff.mp changes
    obtain ⟨own, some⟩ := Prod.mk.inj what
    obtain ⟨change, made⟩ := Option.isSome_iff_exists.mp some
    obtain ⟨_, changed⟩ := deed_of_change? made
    have clears : (Task.other (.clear 0)).Overtakes 0 := rfl
    have overtaken : Overtaken 0 1 10 cleared.world.state :=
      overtaken_of_start clears reached further (by omega) (by omega)
    exact ⟨entry, change.2, there, own, changed, overtaken,
      (((late_restoring_spares_users has).2 cleared started 1 origin 10 entry
        began there own (by decide)).2 change.2 changed).2 overtaken⟩

end ClearedMeanwhile

end Restoring
end Audience
