import Audience.Proofs.Engine.Failing
import Audience.Proofs.Engine.Generating
import Audience.Proofs.Engine.Outgoing
import Audience.Proofs.Prompt

/-!
# Refining the segment on screen

A prompt that is refined without changing its words gives the saved segment on
screen another title, and leaves everything else as it is.  With other words, or
without a saved segment, a segment is generated anew.
-/

namespace Audience
namespace Refining

open Engine

/-! ## What is filled in -/

/-- The saved segment on screen, as far as it is in the list. -/
def onScreen (engine : Engine) : Option SavedSegment :=
  match Registry.nonempty? engine.state.savedId with
  | none => none
  | some _ => engine.findSaved? (engine.state.savedId.getD "")

/-- What is filled in when the segment on screen is refined. -/
def prefilled (engine : Engine) : Defaults :=
  refineDefaults engine.state (onScreen engine)

/-- The list of saved segments was loaded if need be, and nothing that a user
sees is new but a prompt that was missing. -/
structure Looks (id : EngineId) (start : Registry) (said : List (Call × Reply))
    (middle : Registry) : Prop where
  unseen : Failing.Unseen id start said middle
  few : said.length ≤ 1
  lists : ∀ exchange ∈ said, start.client.call "GET"
    (Client.pathOf (start.engine id).event "saved-segments") none =
      .ok exchange.1

section Looking

variable {id : EngineId} {course later : Course Registry}

theorem looks_of_loaded
    {result : Except Fault (Outcome (List SavedSegment))}
    (loaded : Loaded id false course result later) :
    ∃ said, later.log = course.log ++ said ∧
      Looks id course.state said later.state ∧
      ∀ fault, result = .error fault →
        Unlisted course.state.client (course.state.engine id).event said := by
  obtain ⟨said, logged, unseen⟩ := Failing.leaves_of_loaded loaded
  obtain ⟨_, logged', lists⟩ := loaded.lists
  obtain rfl := List.append_cancel_left (logged.symm.trans logged')
  obtain ⟨few, asks⟩ := lists.calls
  refine ⟨said, logged, ⟨unseen, few, asks⟩, ?_⟩
  rintro fault rfl
  exact lists.stopped

/-- The identifier on screen stays. -/
theorem Looks.savedId {start middle : Registry} {said : List (Call × Reply)}
    (looks : Looks id start said middle) :
    (middle.engine id).state.savedId = (start.engine id).state.savedId := by
  obtain ⟨saved, prompt, engine, -, -⟩ := looks.unseen.engine
  rw [engine]

/-- So does a prompt that is not blank. -/
theorem Looks.prompt {start middle : Registry} {said : List (Call × Reply)}
    (looks : Looks id start said middle)
    (given : Text.isBlankText (start.engine id).state.prompt = false) :
    (middle.engine id).state.prompt = (start.engine id).state.prompt := by
  obtain ⟨saved, prompt, engine, -, kept | ⟨_, _, missing⟩⟩ :=
    looks.unseen.engine
  · rw [engine, kept]
  · have blank := (of_missingPrompt? missing).1
    exact absurd (given.symm.trans blank) (by decide)

/-- Looking for the segment on screen ends with what is filled in, or stops
because the saved segments cannot be listed. -/
theorem solo_savedOnScreen
    {ends : Except Fault (Option SavedSegment) → Course Registry → Prop}
    (stopped : ∀ fault said later, Looks id course.state said later.state →
      Unlisted course.state.client (course.state.engine id).event said →
      later.log = course.log ++ said → ends (.error fault) later)
    (looked : ∀ said later, Looks id course.state said later.state →
      later.log = course.log ++ said →
        ends (.ok (onScreen (later.state.engine id))) later) :
    (savedOnScreen id).Solo .any ends course := by
  rw [Provenance.savedOnScreen_eq]
  simp only [Flow.Solo]
  cases named : Registry.nonempty? (course.state.engine id).state.savedId with
  | none =>
      have told := looked [] course
        ⟨.refl id course.state, by simp, by simp⟩
        (List.append_nil _).symm
      rwa [onScreen, named] at told
  | some saved =>
      apply Flow.solo_bind.mpr
      apply solo_loadSaved (lenient_any id) False.elim
      intro result later loaded
      obtain ⟨said, logged, looks, unlisted⟩ := looks_of_loaded loaded
      cases result with
      | error fault => exact stopped fault said later looks (unlisted _ rfl) logged
      | ok _ =>
          have told := looked said later looks logged
          rwa [onScreen, looks.savedId, named, ← looks.savedId] at told

end Looking

/-! ## Renaming -/

/-- The client was opened, the loaded list may be another, and the segment may
have another title. -/
structure Patched (id : EngineId) (start state : Registry) : Prop where
  client : ∃ opened, state.client = { start.client with opened }
  engine : ∃ saved savedTitle, state.engine id = { start.engine id with
    saved, state := { (start.engine id).state with savedTitle } }
  has : state.Has id ↔ start.Has id
  cache : state.cache = start.cache

/-- The registry once a saved segment has a new row. -/
def withRow (id : EngineId) (segment : String) (patch : SavedSegment.Patch)
    (row : SavedSegment) (registry : Registry) : Registry :=
  let registry := registry.modifyEngine id (Engine.replaceSaved row)
  if (registry.engine id).state.savedId = some segment ∧
      patch.title.isSome then
    registry.transition id fun state => { state with savedTitle := row.title }
  else registry

section Patching

variable {id : EngineId} {start state : Registry} {course : Course Registry}
variable {segment : String} {patch : SavedSegment.Patch}

theorem patched_withRow (steady : Steady id start state) (row : SavedSegment) :
    Patched id start (withRow id segment patch row state) := by
  obtain ⟨saved, engine⟩ := steady.engine
  have replaced : Patched id start
      (state.modifyEngine id (Engine.replaceSaved row)) := by
    refine ⟨steady.client, ?_, by simpa using steady.has, steady.cache⟩
    rw [Registry.engine_modifyEngine]
    split
    · exact ⟨_, _, by rw [engine]; rfl⟩
    · exact ⟨saved, _, engine⟩
  unfold withRow
  dsimp only
  split
  · obtain ⟨saved, savedTitle, engine⟩ := replaced.engine
    refine ⟨?_, ?_, by simpa using replaced.has, ?_⟩
    · rw [Registry.transition_client]
      exact replaced.client
    · rw [Registry.engine_transition, Registry.engine_modifyEngine]
      split
      · exact ⟨saved, row.title, by rw [engine]⟩
      · exact ⟨saved, savedTitle, engine⟩
    · rw [Registry.transition_cache]
      exact replaced.cache
  · exact replaced

/-- Changing a saved segment on its own. -/
theorem solo_updateSaved
    {ends : Except Fault (Outcome SavedSegment) → Course Registry → Prop}
    (stopped : ∀ fault said later, Client.Updating course.state.client
        (some (course.state.engine id).event) segment patch said (.error fault) →
      Steady id course.state later.state →
      later.log = course.log ++ said → ends (.error fault) later)
    (failed : ∀ problem said later, Client.Updating course.state.client
        (some (course.state.engine id).event) segment patch said
          (.ok (.error problem)) →
      Steady id course.state later.state →
      later.log = course.log ++ said → ends (.ok (.error problem)) later)
    (updated : ∀ row said later, Client.Updating course.state.client
        (some (course.state.engine id).event) segment patch said
          (.ok (.ok row)) →
      Patched id course.state later.state →
      later.log = course.log ++ said → ends (.ok (.ok row)) later) :
    (updateSaved id segment patch).Solo .any ends course := by
  show (Flow.bind (Client.updateSaved (some (course.state.engine id).event)
    segment patch) _).Solo .any ends course
  apply Flow.solo_bind.mpr
  apply Client.solo_updateSaved trivial
  intro result later asked
  have start := Steady.refl id course.state
  obtain ⟨said, logged, updating⟩ := start.said asked
  have steady := start.asked asked
  obtain fault | problem | row := result
  · exact stopped fault said later updating steady logged
  · exact failed problem said later updating steady logged
  · exact ⟨trivial, updated row said
      { later with state := withRow id segment patch row later.state } updating
      (patched_withRow steady row) logged⟩

end Patching

/-- The change that shows a saved segment under another title. -/
def retitling (segment title prompt : String) (ast : Option Filter.Root) :
    Engine.Change :=
  { results := none
    savedId := some (some segment)
    ast := some (ast.map Filter.Root.toJson)
    title := some (some title)
    prompt := some (some prompt) }

/-- The block that is stored for it. -/
def blockOf (segment title : String) (ast : Option Filter.Root) : AiBlock :=
  { enabled := true
    savedSegmentId := some segment
    ast := ast.map Filter.Root.toJson
    title }

theorem root_retitling {segment title prompt : String}
    {ast : Option Filter.Root}
    (canonical : ∀ root, ast = some root → root.Canonical) :
    (retitling segment title prompt ast).root = .ok (some ast) := by
  cases ast with
  | none => rfl
  | some root =>
      simp [Change.root, retitling, bind, pure, Except.bind, Except.pure,
        Filter.Root.ofJson_toJson (canonical root rfl)]

theorem block_retitling {segment : String} (named : segment ≠ "")
    (title prompt : String) (ast : Option Filter.Root) (prior : AiBlock) :
    (retitling segment title prompt ast).block (some ast) prior =
      blockOf segment title ast := by
  simp [Change.block, retitling, blockOf, Registry.nonempty?, named]

/-- Only the title and the prompt on screen are new, and perhaps the title of the
document: the rows, the tree, the segment, the table and the latest token stay. -/
structure Keeps (id : EngineId) (start : Registry) (title prompt : String)
    (later : Registry) : Prop where
  state : ∃ persistedTitle, (later.engine id).state =
    { (start.engine id).state with
      savedTitle := title, prompt, persistedTitle }
  table : (later.engine id).table = (start.engine id).table
  token : (later.engine id).latestToken = (start.engine id).latestToken

section Renaming

variable {id : EngineId} {start state : Registry} {course : Course Registry}
variable {segment title prompt : String} {submission : Submission}

/-- Where a change brings no rows, the table and the latest token stay. -/
theorem engine_shown {change : Engine.Change}
    {root : Option (Option Filter.Root)} (has : state.Has id)
    (same : change.results = none) :
    ∃ generation, (change.shown id root state).engine id =
      { state.engine id with
        generation, state := change.apply root (state.engine id).state } := by
  have counted : change.counted id state = state.countUser id := by
    simp [Change.counted, same]
  have there : (state.countUser id).Has id := by
    simpa [Registry.countUser] using has
  refine ⟨(state.engine id).generation + 1, ?_⟩
  rw [Change.shown, counted, Registry.engine_transition,
    Registry.engine_modifyEngine_self there, Registry.countUser,
    Registry.engine_modifyEngine_self has]

theorem keeps_of_quiet {later : Registry} (has : start.Has id)
    (named : Registry.nonempty? (start.engine id).state.savedId = some segment)
    (patched : Patched id start state)
    (quiet : ((retitling segment title prompt (start.engine id).state.ast).shown
      id (some (start.engine id).state.ast) state).Quiet later) :
    Keeps id start title prompt later := by
  obtain ⟨saved, savedTitle, engine⟩ := patched.engine
  obtain ⟨generation, shown⟩ :=
    @engine_shown id state
      (retitling segment title prompt (start.engine id).state.ast)
      (some (start.engine id).state.ast) (patched.has.mpr has) rfl
  obtain ⟨persistedTitle, same⟩ := quiet.engine id
  have whole := Registry.eq_some_of_nonempty? named
  have kept : Registry.nonempty? (some segment) =
      (start.engine id).state.savedId := by
    rw [← whole, named, whole]
  rw [shown, engine] at same
  refine ⟨⟨persistedTitle, ?_⟩, ?_, ?_⟩
  · rw [same]
    simp [Change.apply, retitling, kept]
  · rw [same]
  · rw [same]

/-- What is said while the saved segment on screen is renamed, how that ends, and
the state that it leaves. -/
inductive Renames (id : EngineId) (start : Registry) (segment : String)
    (submission : Submission) : List (Call × Reply) →
      Except Fault (Outcome Unit) → Registry → Prop where
  | stopped {said : List (Call × Reply)} {fault : Fault} {later : Registry}
      (updating : Client.Updating start.client (some (start.engine id).event)
        segment (titleChange submission.title) said (.error fault))
      (steady : Steady id start later) :
      Renames id start segment submission said (.error fault) later
  | failed {said : List (Call × Reply)} {problem : Problem} {later : Registry}
      (updating : Client.Updating start.client (some (start.engine id).event)
        segment (titleChange submission.title) said (.ok (.error problem)))
      (steady : Steady id start later) :
      Renames id start segment submission said (.ok (.error problem)) later
  | renamed {said writing : List (Call × Reply)} {row : SavedSegment}
      {written : Except Fault (Outcome Document)} {later : Registry}
      (updating : Client.Updating start.client (some (start.engine id).event)
        segment (titleChange submission.title) said (.ok (.ok row)))
      (writes : Store.Writes start.client (start.engine id).event
        (.ofAi (blockOf segment row.title (start.engine id).state.ast)) writing
          written)
      (keeps : Keeps id start row.title submission.prompt later) :
      Renames id start segment submission (said ++ writing)
        (written.map fun _ => .ok ()) later

/-- Renaming the segment on screen on its own ends in one of these ways. -/
theorem solo_rename
    {ends : Except Fault (Outcome Unit) → Course Registry → Prop}
    (canonical : ∀ root, (course.state.engine id).state.ast = some root →
      root.Canonical)
    (named : Registry.nonempty? (course.state.engine id).state.savedId =
      some segment)
    (ended : ∀ said result later,
      Renames id course.state segment submission said result later.state →
      later.log = course.log ++ said → ends result later) :
    (rename id segment submission).Solo .any ends course := by
  have has : course.state.Has id := by
    by_contra missing
    rw [Registry.engine_of_not_has missing] at named
    cases named
  apply Flow.solo_bind.mpr
  apply solo_updateSaved
  · exact fun fault said later updating steady logged =>
      ended _ _ _ (.stopped updating steady) logged
  · exact fun problem said later updating steady logged =>
      ended _ _ _ (.failed updating steady) logged
  · intro row said middle updating patched logged
    obtain ⟨saved, savedTitle, engine⟩ := patched.engine
    obtain ⟨opened, client⟩ := patched.client
    have same : (middle.state.engine id).state.ast =
        (course.state.engine id).state.ast := by rw [engine]
    have event : (middle.state.engine id).event =
        (course.state.engine id).event := by rw [engine]
    show (Flow.bind (apply id (retitling segment row.title submission.prompt
      (middle.state.engine id).state.ast)) _).Solo .any ends middle
    rw [same]
    apply Flow.solo_bind.mpr
    apply solo_apply (root_retitling canonical)
    intro writing written later writes quiet
    rw [block_retitling (Registry.ne_of_nonempty? named), event, client]
      at writes
    have told := ended _ _
      { middle with state := later, log := middle.log ++ writing }
      (.renamed updating writes.unopened
        (keeps_of_quiet has named patched quiet))
      (by rw [logged, List.append_assoc])
    cases written <;> exact told

end Renaming

/-! ## Refining -/

/-- A saved segment is on screen, and the prompt has the words of the one that is
filled in. -/
def Unchanged (id : EngineId) (start : Registry) (submission : Submission)
    (segment : String) : Prop :=
  Registry.nonempty? (start.engine id).state.savedId = some segment ∧
    Text.words submission.prompt.toList =
      Text.words (prefilled (start.engine id)).prompt.toList

section Refinement

variable {id : EngineId} {course : Course Registry} {submission : Submission}

/-- A refined prompt is answered by renaming the segment or by generating one. -/
theorem solo_answerRefine
    {ends : Except Fault (Outcome Unit) → Course Registry → Prop}
    (canonical : ∀ root, (course.state.engine id).state.ast = some root →
      root.Canonical)
    (renamed : ∀ segment said result later,
      Unchanged id course.state submission segment →
      Renames id course.state segment submission said result later.state →
      later.log = course.log ++ said → ends result later)
    (generated : ∀ said result later,
      (∀ segment, ¬ Unchanged id course.state submission segment) →
      Generating.Generates id course.state submission.prompt submission.title
        submission.debug said result later.state →
      later.log = course.log ++ said → ends result later) :
    (answerRefine id (prefilled (course.state.engine id)) submission).Solo .any
      ends course := by
  have generates (changed : ∀ segment,
      ¬ Unchanged id course.state submission segment) :
      (generate id submission.prompt submission.title submission.debug).Solo
        .any ends course :=
    Generating.solo_generate fun said result later generates logged =>
      generated said result later changed generates logged
  rw [Provenance.answerRefine_eq]
  simp only [Flow.Solo]
  cases named : Registry.nonempty? (course.state.engine id).state.savedId with
  | none =>
      refine generates fun segment unchanged => ?_
      have shown := named.symm.trans unchanged.1
      cases shown
  | some segment =>
      cases same : Prompt.sameWords submission.prompt
          (prefilled (course.state.engine id)).prompt with
      | true =>
          have unchanged : Unchanged id course.state submission segment :=
            ⟨named, Prompt.sameWords_iff.mp same⟩
          have renames := @solo_rename id course segment submission ends
            canonical named fun said result later =>
              renamed segment said result later unchanged
          exact renames
      | false =>
          refine generates fun _ unchanged => ?_
          rw [Prompt.sameWords_iff.mpr unchanged.2] at same
          cases same

end Refinement

/-! ## The whole run -/

/-- The call changes a saved segment. -/
def patches (exchange : Call × Reply) : Bool := exchange.1.method == "PATCH"

/-- The body with which a segment is stored under another title. -/
def bodyOf (segment title : String) (ast : Option Filter.Root) : Json :=
  .obj [("ai", (blockOf segment title ast).toJson)]

/-- A segment was saved. -/
def Created (exchange : Call × Reply) : Prop :=
  exchange.1.method = "POST" ∧ ∃ row,
    Client.outcome none Client.readSavedRow exchange.2 = .ok (.ok row)

section Runs

variable {id : EngineId} {start later : Registry} {segment : String}
variable {submission : Submission} {said : List (Call × Reply)}
variable {outcome : Except Fault (Outcome Unit)}

/-- What is said begins with posts, and no saved segment is changed after them
unless one of them saved a segment. -/
def PostsFirst (said : List (Call × Reply)) : Prop :=
  ∃ early late, said = early ++ late ∧
    (∀ exchange ∈ early, exchange.1.method = "POST") ∧
    ((∀ exchange ∈ late, exchange.1.method ≠ "PATCH") ∨
      ∃ creation ∈ early, Created creation)

namespace PostsFirst

variable {rest : List (Call × Reply)}

/-- So it is before anything that changes no saved segment. -/
theorem append (first : PostsFirst said)
    (silent : ∀ exchange ∈ rest, exchange.1.method ≠ "PATCH") :
    PostsFirst (said ++ rest) := by
  obtain ⟨early, late, rfl, posts, saved⟩ := first
  refine ⟨early, late ++ rest, List.append_assoc .., posts, ?_⟩
  refine saved.imp_left fun none exchange member => ?_
  obtain member | member := List.mem_append.mp member
  · exact none exchange member
  · exact silent exchange member

end PostsFirst

end Runs

section Trial

/-- A backend that accepts everything. -/
def accepts (_ : Unit) (_ : Call) (reply : Reply) (_ : Unit) : Prop :=
  reply = .response 200 .empty

/-- A saved segment of all persons is brought on screen. -/
def showEveryone : Action :=
  .engine (.apply
    { results := some (some default)
      savedId := some (some "seg_1")
      ast := some (some (Filter.Root.toJson { filter := .empty }))
      title := some (some "Everyone")
      prompt := some (some "Everyone here") })

/-- It is refined, with other blanks in its prompt. -/
def submitting (title : String) : Submission :=
  { prompt := " Everyone  here", title, savedSegmentId := none, debug := false }

/-- This is answered when asked for a prompt. -/
def asking (title : String) : Option Surface :=
  some { answer := some (submitting title) }

/-- No segment is in the list, and the one that is changed has that title now. -/
def answer (log : List (Call × Reply)) (call : Call) :
    Reply × List (Call × Reply) :=
  let reply : Reply :=
    if call.method = "GET" then
      .response 200 (.json (.obj [("savedSegments", .arr [])]))
    else if call.method = "PATCH" then
      .response 200 (.json (Generating.rowOf "All of them"))
    else .response 200 .empty
  (reply, log ++ [(call, reply)])

/-- A run that ended so, after so many changes of a saved segment. -/
def ended (good : Except Fault Turn → Bool) (count : Nat)
    (result : Except Fault Turn) (_ : Registry)
    (said : List (Call × Reply)) : Bool :=
  good result && said.countP patches == count

/-- The segment was renamed. -/
def isRenamed : Except Fault Turn → Bool
  | .ok turn => turn.outcome.any Except.isOk
  | .error _ => false

/-- The segment on screen can be renamed, but not to a title with half a
character. -/
theorem exists_shown :
    ∃ pool : Pool Registry Unit Learned,
      (Outgoing.scene accepts).Reach
        (.fresh (.initial .standard default "" Outgoing.someClient) ()) pool ∧
      (pool.world.state.engine 0).state.savedId = some "seg_1" ∧
      (pool.world.state.engine 0).state.prompt = "Everyone here" ∧
      ((openRefine 0 (asking "New")).computed answer pool.world.state []).any
        (fun ends => ended isRenamed 1 ends.1 ends.2.1 ends.2.2) = true ∧
      ((openRefine 0 (asking Generating.halfTitle)).computed answer
        pool.world.state []).any
          (fun ends => ended Generating.isHalf 0 ends.1 ends.2.1
            ends.2.2) = true := by
  refine ⟨_, .step (.step (.step .refl
    (.start ("event", showEveryone) trivial))
    (.handle [] [] () rfl rfl))
    (.deliver [] [] rfl), ?_⟩
  decide +kernel

end Trial

end Refining
end Audience
