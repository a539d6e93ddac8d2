import Audience.Proofs.Engine.Loading
import Audience.Proofs.Engine.Rows

/-!
# Failures change nothing that a user sees

A prompt is opened or refined, and nothing overlaps.  Unless a segment is shown
in the end, everything is as before but the loaded list of saved segments, and
a blank prompt may have been filled in from it.
-/

namespace Audience
namespace Failing

open Engine
open Registry (Alters)

/-- Listing the saved segments of an engine brought these. -/
def Lists (id : EngineId) (before : Registry) (said : List (Call × Reply))
    (segments : List SavedSegment) : Prop :=
  ∃ call reply, (call, reply) ∈ said ∧
    before.client.call "GET"
      (Client.pathOf (before.engine id).event "saved-segments") none =
      .ok call ∧
    Client.outcome none Client.readSavedRows reply = .ok (.ok segments)

/-- The engine once these saved segments are loaded. -/
def withList (segments : List SavedSegment) (engine : Engine) : Engine :=
  { engine with saved := some segments }

/-- After what was said, nothing is new but the loaded list, and a prompt that
was blank and is now the one of the saved segment on screen. -/
structure Unseen (id : EngineId) (before : Registry)
    (said : List (Call × Reply)) (after : Registry) : Prop where
  engine : ∃ saved prompt,
    after.engine id = { before.engine id with
      saved
      state := { (before.engine id).state with prompt } } ∧
    (saved = (before.engine id).saved ∨
      ∃ segments, Lists id before said segments ∧ saved = some segments) ∧
    (prompt = (before.engine id).state.prompt ∨
      ∃ segments, Lists id before said segments ∧
        (withList segments (before.engine id)).missingPrompt? = some prompt)
  others : ∀ other, other ≠ id → after.engine other = before.engine other
  cache : after.cache = before.cache
  client : ∃ opened, after.client = { before.client with opened }
  writesNothing : ∀ exchange ∈ said, exchange.1.method ≠ "PUT"

variable {id : EngineId} {before middle after : Registry}
variable {early late said : List (Call × Reply)}

section Relation

theorem Unseen.refl (id : EngineId) (before : Registry) :
    Unseen id before [] before where
  engine := ⟨_, _, rfl, .inl rfl, .inl rfl⟩
  others := fun _ _ => rfl
  cache := rfl
  client := ⟨_, rfl⟩
  writesNothing := fun _ member => absurd member List.not_mem_nil

theorem Lists.mono {segments : List SavedSegment}
    (lists : Lists id before early segments)
    (more : ∀ exchange ∈ early, exchange ∈ said) :
    Lists id before said segments := by
  obtain ⟨call, reply, member, made, read⟩ := lists
  exact ⟨call, reply, more _ member, made, read⟩

/-- What is listed later could have been listed before. -/
theorem Unseen.lists {segments : List SavedSegment}
    (unseen : Unseen id before early middle)
    (lists : Lists id middle late segments) :
    Lists id before late segments := by
  obtain ⟨saved, prompt, engine, -, -⟩ := unseen.engine
  obtain ⟨opened, client⟩ := unseen.client
  obtain ⟨call, reply, member, made, read⟩ := lists
  rw [client, engine] at made
  exact ⟨call, reply, member, made, read⟩

/-- It does not matter which blank prompt is filled in. -/
theorem missingPrompt?_of_blank {segments : List SavedSegment}
    {engine : Engine} {saved : Option (List SavedSegment)} {prompt : String}
    (blank : Text.isBlankText engine.state.prompt)
    (other : Text.isBlankText prompt) :
    (withList segments { engine with
      saved, state := { engine.state with prompt } }).missingPrompt? =
      (withList segments engine).missingPrompt? := by
  simp only [Engine.missingPrompt?, withList, blank, other]
  rfl

/-- A prompt that is filled in later could have been filled in before. -/
theorem Unseen.missingPrompt? {segments : List SavedSegment} {filled : String}
    (unseen : Unseen id before said middle)
    (missing : (withList segments (middle.engine id)).missingPrompt? =
      some filled) :
    (withList segments (before.engine id)).missingPrompt? = some filled := by
  obtain ⟨saved, prompt, engine, -, fill⟩ := unseen.engine
  have last := (of_missingPrompt? missing).1
  rw [engine] at missing last
  rw [← missing]
  refine (missingPrompt?_of_blank ?_ last).symm
  obtain rfl | ⟨_, _, filled⟩ := fill
  · exact last
  · exact (of_missingPrompt? filled).1

theorem Unseen.trans (first : Unseen id before early middle)
    (second : Unseen id middle late after) :
    Unseen id before (early ++ late) after := by
  obtain ⟨saved, prompt, engine, list, fill⟩ := first.engine
  obtain ⟨saved', prompt', engine', list', fill'⟩ := second.engine
  have sooner {segments} (lists : Lists id before early segments) :
      Lists id before (early ++ late) segments :=
    lists.mono fun _ => List.mem_append_left late
  have later {segments} (lists : Lists id middle late segments) :
      Lists id before (early ++ late) segments :=
    (first.lists lists).mono fun _ => List.mem_append_right early
  refine ⟨⟨saved', prompt', ?_, ?_, ?_⟩, ?_, ?_, ?_, ?_⟩
  · rw [engine', engine]
  · obtain rfl | ⟨segments, lists, rfl⟩ := list'
    · rw [engine]
      exact list.imp_right fun ⟨segments, lists, same⟩ =>
        ⟨segments, sooner lists, same⟩
    · exact .inr ⟨segments, later lists, rfl⟩
  · obtain rfl | ⟨segments, lists, missing⟩ := fill'
    · rw [engine]
      exact fill.imp_right fun ⟨segments, lists, same⟩ =>
        ⟨segments, sooner lists, same⟩
    · exact .inr ⟨segments, later lists, first.missingPrompt? missing⟩
  · intro other different
    rw [second.others other different, first.others other different]
  · rw [second.cache, first.cache]
  · obtain ⟨opened, client⟩ := first.client
    obtain ⟨opened', client'⟩ := second.client
    exact ⟨opened', by rw [client', client]⟩
  · intro exchange member
    obtain member | member := List.mem_append.mp member
    · exact first.writesNothing exchange member
    · exact second.writesNothing exchange member

/-- Keeping the list that was loaded is not seen. -/
theorem Unseen.kept {segments : List SavedSegment}
    (unseen : Unseen id before said after)
    (lists : Lists id before said segments) :
    Unseen id before said (after.modifyEngine id (withList segments)) := by
  obtain ⟨saved, prompt, engine, list, fill⟩ := unseen.engine
  refine { unseen with engine := ?_, others := fun other different => ?_ }
  · rw [Registry.engine_modifyEngine]
    split
    · exact ⟨some segments, prompt, by rw [engine]; rfl,
        .inr ⟨segments, lists, rfl⟩, fill⟩
    · exact unseen.engine
  · rw [Registry.engine_modifyEngine, if_neg fun same => different same.1]
    exact unseen.others other different

/-- Nor is filling in the prompt from it. -/
theorem Unseen.filled {segments : List SavedSegment}
    (unseen : Unseen id before said after)
    (lists : Lists id before said segments)
    (brought : ∀ prompt, (after.engine id).missingPrompt? = some prompt →
      after.engine id = withList segments (after.engine id)) :
    Unseen id before said (after.backfillPrompt id) := by
  unfold Registry.backfillPrompt
  cases missing : (after.engine id).missingPrompt? with
  | none => exact unseen
  | some filled =>
      have alters : Alters id _ after _ :=
        .of_transition fun state => { state with prompt := filled }
      obtain ⟨saved, prompt, engine, list, -⟩ := unseen.engine
      refine ⟨?_, fun other different => ?_, ?_, ?_, unseen.writesNothing⟩
      · dsimp only
        rw [alters.engine]
        split
        · refine ⟨saved, filled, by rw [engine], list,
            .inr ⟨segments, lists, ?_⟩⟩
          rw [brought filled missing] at missing
          exact unseen.missingPrompt? missing
        · exact unseen.engine
      · dsimp only
        rw [alters.engine, if_neg fun same => different same.1]
        exact unseen.others other different
      · exact (Registry.transition_cache _).trans unseen.cache
      · obtain ⟨opened, client⟩ := unseen.client
        exact ⟨opened, (Registry.transition_client _).trans client⟩

/-- Both together are what loading the list does. -/
theorem Unseen.listed {segments : List SavedSegment}
    (unseen : Unseen id before said after)
    (lists : Lists id before said segments) :
    Unseen id before said
      ((after.modifyEngine id (withList segments)).backfillPrompt id) := by
  refine (unseen.kept lists).filled lists fun prompt missing => ?_
  by_cases has : after.Has id
  · rw [Registry.engine_modifyEngine_self has]
    rfl
  · rw [Registry.engine_of_not_has (by simpa using has)] at missing
    cases missing

end Relation

section Steps

/-- A course leads on without anything that a user sees. -/
def Leaves (id : EngineId) (course later : Course Registry) : Prop :=
  ∃ said, later.log = course.log ++ said ∧
    Unseen id course.state said later.state

variable {course between later : Course Registry}

theorem Leaves.refl (id : EngineId) (course : Course Registry) :
    Leaves id course course :=
  ⟨[], (List.append_nil _).symm, .refl id _⟩

theorem Leaves.trans (first : Leaves id course between)
    (second : Leaves id between later) : Leaves id course later := by
  obtain ⟨early, logged, unseen⟩ := first
  obtain ⟨late, logged', unseen'⟩ := second
  exact ⟨early ++ late, by rw [logged', logged, List.append_assoc],
    unseen.trans unseen'⟩

/-- Opening the client is not seen. -/
theorem unseen_opened (id : EngineId) (before : Registry) :
    Unseen id before [] before.opened :=
  { Unseen.refl id before with client := ⟨true, rfl⟩ }

/-- A call that writes no document is not seen. -/
theorem leaves_of_asked {α : Type} {event : Option String}
    {suffix method : String} {body : Option Json}
    {missing : Option (String × String)} {read : Json → Except Fault α}
    {result : Except Fault (Outcome α)}
    (notPut : Text.upper method ≠ "PUT")
    (asked : Client.Asked event suffix method body missing read course result
      later) : Leaves id course later := by
  obtain ⟨said, logged, exchanged⟩ := asked.said
  have writesNothing : ∀ exchange ∈ said, exchange.1.method ≠ "PUT" :=
    fun exchange member => exchanged.methods exchange member ▸ notPut
  refine ⟨said, logged, ?_⟩
  obtain same | opened := asked.state
  · rw [same]
    exact { Unseen.refl id course.state with
      engine := ⟨_, _, rfl, .inl rfl, .inl rfl⟩, writesNothing }
  · rw [opened]
    exact { unseen_opened id course.state with
      engine := ⟨_, _, rfl, .inl rfl, .inl rfl⟩, writesNothing }

/-- What listing the saved segments brought was said. -/
theorem lists_of_listed (course : Course Registry)
    {later : Course Registry} {segments : List SavedSegment}
    (asked : Client.Listed (some (course.state.engine id).event) course
      (.ok (.ok segments)) later) :
    ∃ said, later.log = course.log ++ said ∧
      Lists id course.state said segments := by
  obtain ⟨said, logged, exchanged⟩ := asked.said
  refine ⟨said, logged, ?_⟩
  generalize ended : (Except.ok (Except.ok segments) :
    Except Fault (Outcome (List SavedSegment))) = result at exchanged
  cases exchanged with
  | unnamed none => cases ended
  | unsendable misuse named unsendable => cases ended
  | answered reply named made sendable =>
      rw [Registry.eq_of_nonempty? named] at made
      exact ⟨_, _, List.mem_singleton.mpr rfl, made, ended.symm⟩

/-- Nothing that a user sees comes of loading the list. -/
theorem leaves_of_loaded {refresh : Bool}
    {result : Except Fault (Outcome (List SavedSegment))}
    (loaded : Loaded id refresh course result later) :
    Leaves id course later := by
  have get : Text.upper "GET" ≠ "PUT" := by decide +kernel
  have asked {result : Except Fault (Outcome (List SavedSegment))}
      {later : Course Registry}
      (asked : Client.Listed (some (course.state.engine id).event)
        (course.hold (.savedSegments id)) result later) :
      Leaves id course (later.free (.savedSegments id)) :=
    show Leaves id (course.hold (.savedSegments id)) later from
      leaves_of_asked get asked
  cases loaded with
  | known saved kept => exact .refl id course
  | failed needed failed => exact asked failed
  | stopped needed stopped => exact asked stopped
  | listed needed listed =>
      obtain ⟨said, logged, unseen⟩ := asked listed
      obtain ⟨_, logged', lists⟩ :=
        lists_of_listed (course.hold (.savedSegments id)) listed
      obtain rfl := List.append_cancel_left (logged.symm.trans logged')
      exact ⟨said, logged, unseen.listed lists⟩

/-- Nor of looking for a saved segment. -/
theorem leaves_of_sought {segment : String}
    {result : Except Fault (Outcome SavedSegment)}
    (sought : Sought id segment course result later) :
    Leaves id course later := by
  cases sought with
  | once first settled => exact leaves_of_loaded first
  | again first missing second =>
      exact (leaves_of_loaded first).trans (leaves_of_loaded second)

end Steps

section Flows

variable {course : Course Registry} {α : Type}

/-- Where a problem is reported, nothing that a user sees is new. -/
def Fails (id : EngineId) (course : Course Registry)
    (result : Except Fault (Outcome Unit)) (later : Course Registry) : Prop :=
  ∀ problem, result = .ok (.error problem) → Leaves id course later

/-- A segment is shown, or everything stops. -/
def Shows (result : Except Fault (Outcome Unit)) (_ : Course Registry) :
    Prop :=
  ∀ problem, result ≠ .ok (.error problem)

theorem Shows.fails {result : Except Fault (Outcome Unit)}
    {later : Course Registry} (shown : Shows result later) :
    Fails id course result later :=
  fun problem failed => absurd failed (shown problem)

/-- What ends with success shows a segment. -/
theorem shows_bind (flow : Flow Registry α) (between : Course Registry) :
    (flow.bind fun _ => .done (.ok ())).Solo .any Shows between :=
  Flow.solo_any_bind (fun _ _ _ => nofun) fun _ _ _ => nofun

/-- A flow that asks, reports a problem, and goes on to show a segment
otherwise. -/
theorem fails_bind {flow : Flow Registry (Outcome α)}
    {rest : Outcome α → Flow Registry (Outcome Unit)}
    (asked : flow.Solo .any (fun _ later => Leaves id course later) course)
    (failed : ∀ problem, rest (.error problem) = .done (.error problem))
    (shows : ∀ value later, (rest (.ok value)).Solo .any Shows later) :
    (flow.bind rest).Solo .any (Fails id course) course := by
  rw [Flow.solo_bind]
  apply asked.mono
  intro result later leaves
  obtain fault | problem | value := result
  · exact fun _ _ => leaves
  · dsimp only
    rw [failed]
    exact fun _ _ => leaves
  · exact (shows value later).mono fun _ _ => Shows.fails

/-- Running a saved segment fails before anything is seen. -/
theorem solo_runSaved (segment : SavedSegment) :
    (runSaved id segment).Solo .any (Fails id course) course := by
  show (Flow.bind (Client.runSegment _ (some segment.ast.filter) false _)
    _).Solo .any (Fails id course) course
  apply fails_bind
  · exact Client.solo_runSegment trivial
      fun _ _ asked => leaves_of_asked (by decide +kernel) asked
  · exact fun _ => rfl
  · intro results later
    apply Flow.solo_any_bind fun _ _ _ => nofun
    intro used later
    dsimp only
    split
    · exact Flow.solo_any_bind (fun _ _ _ => nofun) fun _ later =>
        Flow.solo_any_bind (fun _ _ _ => nofun) fun _ later =>
          shows_bind _ later
    · exact Flow.solo_any_bind (fun _ _ _ => nofun) fun _ later =>
        shows_bind _ later

/-- Generating a segment fails before anything is seen. -/
theorem solo_generate (prompt title : String) (debug : Bool) :
    (generate id prompt title debug).Solo .any (Fails id course) course := by
  show (Flow.bind (Client.generate _ prompt _) _).Solo .any (Fails id course)
    course
  apply fails_bind
  · exact Client.solo_generate trivial (fun _ => .refl id course)
      fun _ _ asked => leaves_of_asked (by decide +kernel) asked
  · exact fun _ => rfl
  · intro generated later
    exact Flow.solo_any_bind (fun _ _ _ => nofun) fun _ later =>
      shows_bind _ later

/-- Renaming a segment fails before anything is seen. -/
theorem solo_rename (segment : String) (submission : Submission) :
    (rename id segment submission).Solo .any (Fails id course) course := by
  show (Flow.bind (Flow.bind (Client.updateSaved _ segment _) _) _).Solo .any
    (Fails id course) course
  rw [Flow.bind_assoc]
  apply fails_bind
  · exact Client.solo_updateSaved trivial
      fun _ _ asked => leaves_of_asked (by decide +kernel) asked
  · exact fun _ => rfl
  · intro saved later
    refine ⟨trivial, ?_⟩
    show ((apply id _).bind _).Solo .any Shows _
    exact shows_bind _ _

/-- A given prompt is answered with a segment, or with a problem before anything
is seen. -/
theorem solo_answerPrompt (submission : Submission) :
    (answerPrompt id submission).Solo .any (Fails id course) course := by
  unfold answerPrompt
  cases Registry.nonempty? submission.savedSegmentId with
  | none => exact solo_generate _ _ _
  | some segment =>
      apply Flow.solo_bind.mpr
      apply solo_requireSaved (lenient_any id) False.elim
      intro result later sought
      have leaves := leaves_of_sought sought
      obtain fault | problem | saved := result
      · exact fun _ _ => leaves
      · exact fun _ _ => leaves
      · exact (solo_runSaved saved).mono fun _ _ fails problem failed =>
          leaves.trans (fails problem failed)

theorem solo_answerRefine (defaults : Defaults) (submission : Submission) :
    (answerRefine id defaults submission).Solo .any (Fails id course)
      course := by
  rw [Provenance.answerRefine_eq]
  simp only [Flow.Solo]
  cases Registry.nonempty? (course.state.engine id).state.savedId with
  | none => exact solo_generate _ _ _
  | some saved =>
      dsimp only
      split
      · exact solo_rename saved submission
      · exact solo_generate _ _ _

/-- Looking for the segment on screen is not seen. -/
theorem solo_savedOnScreen :
    (savedOnScreen id).Solo .any (fun _ later => Leaves id course later)
      course := by
  rw [Provenance.savedOnScreen_eq]
  simp only [Flow.Solo]
  cases Registry.nonempty? (course.state.engine id).state.savedId with
  | none => exact .refl id course
  | some saved =>
      apply Flow.solo_bind.mpr
      apply solo_loadSaved (lenient_any id) False.elim
      intro result later loaded
      have leaves := leaves_of_loaded loaded
      obtain fault | _ := result
      · exact leaves
      · exact leaves

/-- Unless a segment is shown, nothing that a user sees is new. -/
def Turns (id : EngineId) (course : Course Registry)
    (result : Except Fault Turn) (later : Course Registry) : Prop :=
  ∀ turn, result = .ok turn → turn.outcome ≠ some (.ok ()) →
    Leaves id course later

/-- What becomes of a question, with the answer that is given. -/
def answered (question : Question)
    (answer : Submission → Flow Registry (Outcome Unit)) :
    Option Submission → Flow Registry Turn
  | none => .done { question, outcome := none }
  | some submission => (answer submission).bind fun outcome =>
      .done { question, outcome := some outcome }

/-- A question that is asked is dismissed, or answered with a segment, or with a
problem before anything is seen. -/
theorem solo_asked {question : Question} {surface : Option Surface}
    {answer : Submission → Flow Registry (Outcome Unit)}
    (fails : ∀ submission,
      (answer submission).Solo .any (Fails id course) course) :
    ((ask id surface).bind (answered question answer)).Solo .any
      (Turns id course) course := by
  have asked (submission : Option Submission) :
      (answered question answer submission).Solo .any (Turns id course)
        course := by
    cases submission with
    | none => exact fun _ _ _ => .refl id course
    | some submission =>
        apply Flow.solo_bind.mpr
        apply (fails submission).mono
        intro result later fails
        obtain fault | problem | _ := result
        · rintro _ ⟨⟩
        · exact fun _ _ _ => fails problem rfl
        · rintro _ ⟨⟩ shown
          exact absurd rfl shown
  rw [Provenance.ask_eq, Flow.solo_bind]
  simp only [Flow.Solo]
  split
  · exact asked _
  · exact asked _
  · rintro _ ⟨⟩

theorem openPrompt_eq (id : EngineId) (defaults : Defaults)
    (surface : Option Surface) :
    openPrompt id defaults surface =
      (ask id surface).bind
        (answered { mode := .prompt, defaults } (answerPrompt id)) :=
  rfl

theorem openRefine_eq (id : EngineId) (surface : Option Surface) :
    openRefine id surface =
      (savedOnScreen id).bind fun segment => .inspect fun registry =>
        let defaults := refineDefaults (registry.engine id).state segment
        (ask id surface).bind
          (answered { mode := .refine, defaults } (answerRefine id defaults)) :=
  rfl

/-- A prompt is opened or refined. -/
inductive Opens (id : EngineId) : Flow Registry Turn → Prop where
  | prompt (defaults : Defaults) (surface : Option Surface) :
      Opens id (openPrompt id defaults surface)
  | refine (surface : Option Surface) : Opens id (openRefine id surface)

theorem solo_opens {flow : Flow Registry Turn} (opens : Opens id flow) :
    flow.Solo .any (Turns id course) course := by
  cases opens with
  | prompt defaults surface =>
      rw [openPrompt_eq]
      exact solo_asked solo_answerPrompt
  | refine surface =>
      rw [openRefine_eq, Flow.solo_bind]
      apply solo_savedOnScreen.mono
      intro result later leaves
      cases result with
      | error fault => exact fun _ => nofun
      | ok segment =>
          exact (solo_asked (solo_answerRefine _)).mono
            fun _ _ turns turn ended shown =>
              leaves.trans (turns turn ended shown)

/-- A prompt that is opened or refined, and dismissed or answered with a problem,
leaves everything that a user sees as it was: the rows, the segment, its tree and
titles, the table, the latest token, the count of the user's changes and the
cached documents.  No document was written, and a new prompt is the one of the
saved segment on screen, where there was a blank one. -/
theorem unseen_unless_shown {flow : Flow Registry Turn} {turn : Turn}
    {registry later : Registry} {said : List (Call × Reply)}
    (opens : Opens id flow)
    (ran : flow.Ran Flow.Transcribes registry [] (.ok turn) later said)
    (notShown : turn.outcome ≠ some (.ok ())) :
    Unseen id registry said later := by
  have solo : flow.Solo .any (Turns id _)
      { state := registry, log := [], held := [] } := solo_opens opens
  obtain ⟨_, leaves⟩ := solo.ran ran
  obtain ⟨_, rfl, unseen⟩ := leaves turn rfl notShown
  exact unseen

end Flows

section SavedSegmentThatCannotRun

/-- The saved segment of all persons is on screen, without its prompt. -/
def restored : Registry :=
  Provenance.withNewEngine.modifyEngine 0 fun engine =>
    { engine with state := { engine.state with
        results := some default
        savedId := some "seg_1"
        ast := some { filter := .empty } } }

/-- The list of saved segments has it, and nothing can be run. -/
def answer (log : List (Call × Reply)) (call : Call) :
    Reply × List (Call × Reply) :=
  let reply : Reply :=
    if call.method = "GET" then
      .response 200 (.json (.obj [("savedSegments", .arr [.obj
        [ ("id", .str "seg_1"), ("prompt", .str "Everyone"),
          ("ast", .obj [("filter", Filter.Node.empty.toJson)]) ]])]))
    else .unreachable "ConnectError"
  (reply, log ++ [(call, reply)])

/-- The segment is to be run again. -/
def again : Surface :=
  { answer := some
      { prompt := "", title := "", savedSegmentId := some "seg_1",
        debug := false } }

/-- A problem was reported after two calls, and the prompt was filled in. -/
def filledIn : Except Fault Turn → Registry → List (Call × Reply) → Bool
  | .ok turn, later, said =>
      turn.outcome.any (fun outcome => !outcome.isOk) &&
        (later.engine 0).state.prompt == "Everyone" && said.length == 2
  | .error _, _, _ => false

/-- Its prompt is filled in, and nothing else is seen. -/
theorem unseen_unless_shown_at_failed_run :
    ∃ turn later said,
      (openPrompt 0 default (some again)).Ran Flow.Transcribes restored []
        (.ok turn) later said ∧
      turn.outcome ≠ some (.ok ()) ∧
      (later.engine 0).state.prompt = "Everyone" ∧
      said.length = 2 ∧ Unseen 0 restored said later := by
  obtain ⟨result, later, said, ran, good⟩ :
      ∃ result later said,
        (openPrompt 0 default (some again)).Ran Flow.Transcribes restored []
          result later said ∧ filledIn result later said = true :=
    Flow.exists_ran answer _ _ _ filledIn (fun _ _ => rfl) (by decide +kernel)
  obtain fault | turn := result
  · cases good
  simp only [filledIn, Bool.and_eq_true, beq_iff_eq] at good
  obtain ⟨⟨failed, prompt⟩, length⟩ := good
  have notShown : turn.outcome ≠ some (.ok ()) := by
    intro shown
    rw [shown] at failed
    cases failed
  exact ⟨turn, later, said, ran, notShown, prompt, length,
    unseen_unless_shown (.prompt default (some again)) ran notShown⟩

end SavedSegmentThatCannotRun

end Failing
end Audience
