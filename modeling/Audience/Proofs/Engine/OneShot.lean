import Audience.Proofs.Engine.Hydrating
import Audience.Proofs.Flow.Job

/-!
# An engine is restored once

However many ask for an engine to be restored, and whenever they do, it is
restored once: with at most one call for its document and one that runs a filter.
All of them see the same end of it.
-/

namespace Audience
namespace Hydrating

open Engine

section Talk

variable {client : Client} {engine : Engine} {known : Option Document}
variable {said : List (Call × Reply)}

/-- A limited number of calls of one kind. -/
def AtMost (count : Nat) (kind : Call → Prop) (calls : List Call) : Prop :=
  calls.length ≤ count ∧ ∀ call ∈ calls, kind call

theorem AtMost.nil (count : Nat) (kind : Call → Prop) : AtMost count kind [] :=
  ⟨Nat.zero_le count, fun _ => nofun⟩

theorem AtMost.take {count : Nat} {kind : Call → Prop} {calls : List Call}
    (few : AtMost count kind calls) (number : Nat) :
    AtMost count kind (calls.take number) :=
  ⟨Nat.le_trans (List.length_take_le' _ _) few.1,
    fun call member => few.2 call (List.mem_of_mem_take member)⟩

theorem atMost_of_said {count : Nat} {kind : Call → Prop}
    (few : said.length ≤ count ∧ ∀ exchange ∈ said, kind exchange.1) :
    AtMost count kind (said.map Prod.fst) := by
  refine ⟨by rw [List.length_map]; exact few.1, fun call member => ?_⟩
  obtain ⟨exchange, within, rfl⟩ := List.mem_map.mp member
  exact few.2 exchange within

/-- A call that asks for the document of an event. -/
def Fetches (client : Client) (event : String) (call : Call) : Prop :=
  client.call "GET" (Store.path event) none = .ok call

/-- A call that lists the saved segments. -/
def ListsSaved (client : Client) (event : String) (call : Call) : Prop :=
  client.call "GET" (Client.pathOf event "saved-segments") none = .ok call

/-- A call that runs a filter. -/
def RunsFilter (client : Client) (engine : Engine) (root : Filter.Root)
    (debug : Bool) (call : Call) : Prop :=
  client.call "POST" (Client.pathOf engine.event "segments")
    (some (Client.runBody root.filter debug (some engine.firstPage))) = .ok call

/-- Calls of which at most one asks for the document, two list the saved segments
and one runs a filter, in that order. -/
def Sparing (client : Client) (engine : Engine) (calls : List Call) : Prop :=
  ∃ fetches lists runs root debug, calls = fetches ++ lists ++ runs ∧
    AtMost 1 (Fetches client engine.event) fetches ∧
    AtMost 2 (ListsSaved client engine.event) lists ∧
    AtMost 1 (RunsFilter client engine root debug) runs

/-- So are the first of these calls. -/
theorem Sparing.earlier {calls more : List Call}
    (sparing : Sparing client engine more) (first : calls <+: more) :
    Sparing client engine calls := by
  obtain ⟨fetches, lists, runs, root, debug, rfl, fetching, listing, running⟩ :=
    sparing
  rw [List.prefix_iff_eq_take] at first
  rw [first, List.take_append, List.take_append]
  exact ⟨_, _, _, root, debug, rfl, fetching.take _, listing.take _,
    running.take _⟩

/-- No document is written. -/
theorem Sparing.writesNothing {calls : List Call}
    (sparing : Sparing client engine calls) :
    ∀ call ∈ calls, Restoring.WritesNothing call := by
  obtain ⟨fetches, lists, runs, root, debug, rfl, fetching, listing, running⟩ :=
    sparing
  intro call member
  simp only [List.mem_append] at member
  obtain (member | member) | member := member
  · exact Restoring.writesNothing_of_get
      (Client.parts_of_call (fetching.2 call member)).1
  · exact Restoring.writesNothing_of_get
      (Client.parts_of_call (listing.2 call member)).1
  · exact Restoring.writesNothing_of_post
      (Client.parts_of_call (running.2 call member)).1

theorem Runs.few {root : Filter.Root} {debug : Bool}
    {result : Except Fault Results}
    (runs : Runs client engine root debug said result) :
    AtMost 1 (RunsFilter client engine root debug) (said.map Prod.fst) := by
  obtain ⟨outcome, exchanged, -⟩ := runs
  refine atMost_of_said ⟨exchanged.calls.1, fun exchange member => ?_⟩
  obtain ⟨_, ⟨⟩, made⟩ := exchanged.calls.2 exchange member
  exact made

/-- However an engine is restored, few calls are sent. -/
theorem Story.sparing {ending : Except Fault (Option Registry.Restored)}
    (story : Story client engine known said ending) :
    Sparing client engine (said.map Prod.fst) := by
  have fetched {read : List (Call × Reply)} {result : Except Fault Document}
      (reads : Store.Reads client engine.event known read result) :
      Sparing client engine (read.map Prod.fst) :=
    ⟨_, [], [], default, false, by simp, atMost_of_said reads.calls, .nil ..,
      .nil ..⟩
  cases story with
  | unread reads => exact fetched reads
  | disabled reads _ => exact fetched reads
  | nothing reads _ _ _ => exact fetched reads
  | misread reads _ _ _ => exact fetched reads
  | tree reads _ _ _ runs =>
      exact ⟨_, [], _, _, _, by simp, atMost_of_said reads.calls, .nil ..,
        runs.few⟩
  | unfound reads _ _ _ finds =>
      exact ⟨_, _, [], default, false, by simp, atMost_of_said reads.calls,
        atMost_of_said finds.calls, .nil ..⟩
  | segment reads _ _ _ finds runs =>
      exact ⟨_, _, _, _, _, by simp, atMost_of_said reads.calls,
        atMost_of_said finds.calls, runs.few⟩

/-- The filter that is to be run after what was said, and whether debug
information is asked for. -/
inductive Chosen (client : Client) (engine : Engine) (known : Option Document) :
    List (Call × Reply) → Filter.Root → Bool → Prop where
  | tree {read : List (Call × Reply)} {document : Document}
      {root : Filter.Root}
      (reads : Store.Reads client engine.event known read (.ok document))
      (on : document.ai.enabled = true)
      (tree : (storedTree document).isFull = true)
      (normal : Filter.Root.ofJson (storedTree document) = .ok root) :
      Chosen client engine known read root (asksDebug (storedTree document))
  | segment {read find : List (Call × Reply)} {document : Document}
      {segment : String} {saved : SavedSegment}
      (reads : Store.Reads client engine.event known read (.ok document))
      (on : document.ai.enabled = true)
      (treeless : (storedTree document).isFull = false)
      (named : Registry.nonempty? document.ai.savedSegmentId = some segment)
      (finds : Finds client engine.event engine.saved segment find (.ok saved)) :
      Chosen client engine known (read ++ find) saved.ast false

theorem get_of_call {path : String} {body : Option Json} {call : Call}
    (made : client.call "GET" path body = .ok call) : call.method = "GET" := by
  rw [(Client.parts_of_call made).1]
  decide

/-- Whatever is not only read, runs the filter that is to be run. -/
theorem Story.runs {ending : Except Fault (Option Registry.Restored)}
    (story : Story client engine known said ending) :
    ∀ exchange ∈ said, exchange.1.method ≠ "GET" →
      ∃ before root debug, before <+: said ∧
        Chosen client engine known before root debug ∧
        RunsFilter client engine root debug exchange.1 := by
  have reading {read : List (Call × Reply)} {result : Except Fault Document}
      (reads : Store.Reads client engine.event known read result) :
      ∀ exchange ∈ read, exchange.1.method = "GET" :=
    fun exchange member => get_of_call (reads.calls.2 exchange member)
  have finding {segment : String} {find : List (Call × Reply)}
      {result : Except Fault SavedSegment}
      (finds : Finds client engine.event engine.saved segment find result) :
      ∀ exchange ∈ find, exchange.1.method = "GET" :=
    fun exchange member => get_of_call (finds.calls.2 exchange member)
  have running {before run : List (Call × Reply)} {root : Filter.Root}
      {debug : Bool} {result : Except Fault Results}
      (chosen : Chosen client engine known before root debug)
      (runs : Runs client engine root debug run result) :
      ∀ exchange ∈ run, ∃ first root debug, first <+: before ++ run ∧
        Chosen client engine known first root debug ∧
        RunsFilter client engine root debug exchange.1 := by
    intro exchange member
    obtain ⟨outcome, exchanged, -⟩ := runs
    obtain ⟨_, ⟨⟩, made⟩ := exchanged.calls.2 exchange member
    exact ⟨before, root, debug, List.prefix_append _ _, chosen, made⟩
  intro exchange member other
  cases story with
  | unread reads => exact absurd (reading reads exchange member) other
  | disabled reads off => exact absurd (reading reads exchange member) other
  | nothing reads on treeless nameless =>
      exact absurd (reading reads exchange member) other
  | misread reads on tree stops =>
      exact absurd (reading reads exchange member) other
  | tree reads on tree normal runs =>
      obtain read | run := List.mem_append.mp member
      · exact absurd (reading reads exchange read) other
      · exact running (.tree reads on tree normal) runs exchange run
  | unfound reads on treeless named finds =>
      obtain read | find := List.mem_append.mp member
      · exact absurd (reading reads exchange read) other
      · exact absurd (finding finds exchange find) other
  | segment reads on treeless named finds runs =>
      obtain early | run := List.mem_append.mp member
      · obtain read | find := List.mem_append.mp early
        · exact absurd (reading reads exchange read) other
        · exact absurd (finding finds exchange find) other
      · exact running (.segment reads on treeless named finds) runs exchange run

/-- What else than a problem can stop a restoring. -/
inductive Unforeseen (client : Client) (engine : Engine)
    (known : Option Document) (said : List (Call × Reply)) : Prop where
  /-- The document cannot be asked for. -/
  | unread (unsendable : ¬ client.Sendable (Store.path engine.event) none)
  /-- The tree in the document stops the normalizer. -/
  | misread {document : Document} {misuse : Misuse}
      (reads : Store.Reads client engine.event known said (.ok document))
      (on : document.ai.enabled = true)
      (stops : Filter.Root.ofJson (storedTree document) = .error misuse)
  /-- The saved segments cannot be listed. -/
  | unlisted (unlisted : Unlisted client engine.event said)
  /-- The filter cannot be sent. -/
  | unrunnable {before : List (Call × Reply)} {root : Filter.Root} {debug : Bool}
      (first : before <+: said)
      (chosen : Chosen client engine known before root debug)
      (unsendable : ¬ client.Sendable (Client.pathOf engine.event "segments")
        (some (Client.runBody root.filter debug (some engine.firstPage))))
  /-- A reply cannot have been sent. -/
  | unsent {exchange : Call × Reply} (member : exchange ∈ said)
      (unsendable : exchange.2.ensureSendable ≠ .ok ())

/-- A run is stopped by more than a problem only if it cannot be sent. -/
theorem Runs.stopped {root : Filter.Root} {debug : Bool} {fault : Fault}
    {before : List (Call × Reply)}
    (chosen : Chosen client engine known before root debug)
    (runs : Runs client engine root debug said (.error fault)) :
    (∃ problem, fault = .problem problem) ∨
      Unforeseen client engine known (before ++ said) := by
  obtain ⟨outcome, exchanged, same⟩ := runs
  obtain other | problem | results := outcome
  · right
    obtain ⟨_, ⟨⟩, unsendable⟩ | ⟨exchange, member, illegible⟩ :=
      exchanged.stopped Client.settledIff_results
    · exact .unrunnable (List.prefix_append _ _) chosen unsendable
    · refine .unsent (List.mem_append_right _ member)
        (illegible.resolve_right ?_)
      exact not_not.mpr fun _ _ => trivial
  · exact .inl ⟨problem, Except.error.inj same⟩
  · cases same

/-- Nothing else stops a restoring by more than a problem. -/
theorem Story.stopped {fault : Fault}
    (story : Story client engine known said (.error fault)) :
    (∃ problem, fault = .problem problem) ∨
      Unforeseen client engine known said := by
  generalize same : Except.error fault = ending at story
  cases story with
  | unread reads =>
      cases same
      refine reads.stopped.imp_right fun stopped => ?_
      obtain unsendable | ⟨exchange, member, unsendable⟩ := stopped
      · exact .unread unsendable
      · exact .unsent member unsendable
  | disabled reads off => cases same
  | nothing reads on treeless nameless => cases same
  | misread reads on tree stops => exact .inr (.misread reads on stops)
  | @tree _ _ _ _ result reads on tree normal runs =>
      cases result with
      | ok results => cases same
      | error other =>
          cases same
          exact runs.stopped (.tree reads on tree normal)
  | unfound reads on treeless named finds =>
      cases same
      exact finds.stopped.imp_right fun unlisted =>
        .unlisted (unlisted.mono (List.subset_append_right _ _))
  | @segment _ _ _ _ _ _ result reads on treeless named finds runs =>
      cases result with
      | ok results => cases same
      | error other =>
          cases same
          exact runs.stopped (.segment reads on treeless named finds)

end Talk

section Phases

variable {id : EngineId}

/-- The phases that an engine leaves, each with the one that follows. -/
def turns (id : EngineId) (changes : List (Registry × Registry)) :
    List (Phase × Phase) :=
  (changes.map fun change =>
    ((change.1.engine id).phase, (change.2.engine id).phase)).filter
      fun turn => turn.1 ≠ turn.2

/-- The way to a phase. -/
def journey : Phase → List (Phase × Phase)
  | .uninitialized => []
  | .hydrating => [(.uninitialized, .hydrating)]
  | .hydrated => [(.uninitialized, .hydrating), (.hydrating, .hydrated)]

theorem turns_cons (change : Registry × Registry)
    (rest : List (Registry × Registry)) :
    turns id (change :: rest) = turns id [change] ++ turns id rest := by
  unfold turns
  rw [← List.filter_append]
  rfl

theorem journey_of_advances {before after : Registry}
    (advances : Advances id before after) :
    journey (after.engine id).phase =
      journey (before.engine id).phase ++ turns id [(before, after)] := by
  obtain same | ⟨first, second⟩ | ⟨first, second⟩ := advances
  · simp [turns, same]
  · simp [turns, first, second, journey]
  · simp [turns, first, second, journey]

/-- Whatever the changes, an engine goes through its phases one by one. -/
theorem journey_of_chained {start last : Registry}
    {changes : List (Registry × Registry)}
    (chained : Chained start changes last)
    (allowed : ∀ change ∈ changes, Advances id change.1 change.2) :
    journey (last.engine id).phase =
      journey (start.engine id).phase ++ turns id changes := by
  induction changes generalizing start with
  | nil =>
      cases chained
      simp [turns]
  | cons change rest ih =>
      obtain ⟨rfl, chained⟩ := chained
      have first := journey_of_advances
        (allowed change (List.mem_cons_self ..))
      have further := ih chained fun other member =>
        allowed other (List.mem_cons_of_mem _ member)
      rw [further, first, List.append_assoc, ← turns_cons]

end Phases

section Callers

variable {β : Type} {serves : β → Call → Reply → β → Prop}
variable {id : EngineId} {count : Nat} {start : Registry} {server : β}
variable {pool : Pool Registry β Phase}

/-- A limited number of callers ask for an engine to be restored. -/
def callers (id : EngineId) (count : Nat)
    (serves : β → Call → Reply → β → Prop) : Scene Registry β Unit Phase :=
  { flow := fun _ => hydrate id
    restoring := Engine.restoring
    admits := fun pool _ => pool.callers < count
    serves }

/-- What a caller sees of an engine that was restored so. -/
def seen (result : Except Fault Unit) : Except Fault Phase :=
  result.map fun _ => .hydrated

/-- The restoring that the callers wait for. -/
def job (id : EngineId) (start : Registry) : Job Registry Phase where
  engine := id
  flow := Engine.restoring id
  next result := ((Flow.ofResult result).bind fun _ =>
    Flow.query fun registry : Registry =>
      (registry.engine id).phase).reported .task
  view result registry := result.map fun _ => (registry.engine id).phase
  terms := terms id
  ends := Done id start

theorem shared : (job id start).Shared (callers id count serves) where
  restoring := rfl
  waits _ := rfl
  looks result state := by cases result <;> rfl
  live := trivial

/-- A pool in which an engine is restored as told. -/
structure Follows (id : EngineId) (start : Registry)
    (pool : Pool Registry β Phase) (said : List (Call × Reply))
    (ending : Except Fault (Option Registry.Restored)) : Prop where
  /-- The calls are the first of the story. -/
  calls : pool.world.sent.map Prod.snd <+: said.map Prod.fst
  /-- What is not only read runs the filter that the document calls for. -/
  runs : ∀ call ∈ pool.world.sent.map Prod.snd, call.method ≠ "GET" →
    ∃ before root debug, before <+: said ∧
      Chosen start.client (start.engine id) (cached id start) before root
        debug ∧
      RunsFilter start.client (start.engine id) root debug call
  replies : pool.world.delivered.map Prod.snd <+: said.map Prod.snd
  /-- Once the restoring is over, all of the story has been told. -/
  finished : ∀ result, Keyed.get? id pool.restorings = some (some result) →
    result = concluded ending ∧
      Restored (start.engine id) ending (pool.world.state.engine id) ∧
      pool.world.sent.map Prod.snd = said.map Prod.fst ∧
      pool.world.delivered.map Prod.snd = said.map Prod.snd
  /-- Every caller that has a result waited for the end, and saw it. -/
  results : ∀ result ∈ pool.results,
    Keyed.get? id pool.restorings = some (some (concluded ending)) ∧
      result = seen (concluded ending)

/-- Wherever the callers are, a story fits to it. -/
theorem follows_of_foretells {result : Except Fault Unit}
    {last : Course Registry}
    (foretells : (job id start).Foretells pool result last) :
    ∃ ending, Story start.client (start.engine id) (cached id start) last.log
        ending ∧
      Follows id start pool last.log ending := by
  obtain ⟨ending, story, restored, rfl⟩ := foretells.ends
  refine ⟨ending, story, foretells.calls, ?_, foretells.replies, ?_, ?_⟩
  · intro call sent
    obtain ⟨exchange, member, rfl⟩ :=
      List.mem_map.mp (foretells.calls.subset sent)
    exact story.runs exchange member
  · intro known finished
    obtain ⟨rfl, state, calls, replies⟩ := foretells.finished known finished
    rw [state]
    exact ⟨rfl, restored, calls, replies⟩
  · intro result member
    obtain ⟨finished, same⟩ := foretells.results result member
    refine ⟨finished, same.trans ?_⟩
    show (concluded ending).map _ = _
    rw [restored.phase]
    rfl

theorem exists_stage (has : start.Has id)
    (new : (start.engine id).phase = .uninitialized)
    (idle : (start.engine id).state.isActive = false)
    (reached : (callers id count serves).Reach (.fresh start server) pool) :
    ∃ rest moves waiting, (job id start).Stage pool rest moves waiting :=
  Job.Stage.of_reach shared (fun _ _ admitted => admitted)
    ⟨_, _, _, .idle start server (solo_restoring has new idle)⟩ reached

/-- What holds whenever callers ask for an engine to be restored. -/
structure OneShot (id : EngineId) (count : Nat)
    (serves : β → Call → Reply → β → Prop) (start : Registry)
    (pool : Pool Registry β Phase) : Prop where
  /-- The engine goes through its phases one by one, and through none twice. -/
  phases : turns id pool.changes = journey (pool.world.state.engine id).phase
  /-- Few calls are sent. -/
  sparing : Sparing start.client (start.engine id)
    (pool.world.sent.map Prod.snd)
  /-- No document is written. -/
  writesNothing : ∀ call ∈ pool.world.sent.map Prod.snd,
    Restoring.WritesNothing call
  /-- All follow one story.  Unless something unforeseen happens, it ends well
  for those who wait. -/
  story : ∃ said ending,
    Story start.client (start.engine id) (cached id start) said ending ∧
    Follows id start pool said ending ∧
    (concluded ending = .ok () ∨
      Unforeseen start.client (start.engine id) (cached id start) said)
  /-- Nothing goes on for ever. -/
  ends : Acc (fun later pool => (callers id count serves).Step pool later) pool
  /-- When nothing can happen any more, all callers have their result. -/
  everyone : (∀ later, ¬ (callers id count serves).Step pool later) →
    count ≤ pool.results.length

/-- However many callers ask for an engine to be restored on which nothing is on
screen, and however they overlap: it is restored once, and they all see how that
ended. -/
theorem restored_once (has : start.Has id)
    (new : (start.engine id).phase = .uninitialized)
    (idle : (start.engine id).state.isActive = false)
    (answers : ∀ server call, ∃ reply after, serves server call reply after)
    (reached : (callers id count serves).Reach (.fresh start server) pool) :
    OneShot id count serves start pool := by
  obtain ⟨rest, moves, waiting, stage⟩ := exists_stage has new idle reached
  obtain ⟨result, last, foretells⟩ := stage.foretells trivial
  obtain ⟨ending, story, follows⟩ := follows_of_foretells foretells
  have sparing := story.sparing.earlier follows.calls
  constructor
  case phases =>
    have whole : journey (pool.world.state.engine id).phase =
        journey (start.engine id).phase ++ turns id pool.changes :=
      journey_of_chained reached.chained stage.allowed
    rw [whole, new]
    rfl
  case sparing => exact sparing
  case writesNothing => exact sparing.writesNothing
  case story =>
    refine ⟨last.log, ending, story, follows, ?_⟩
    obtain fault | _ := ending
    · refine story.stopped.imp_left ?_
      rintro ⟨problem, rfl⟩
      rfl
    · exact .inl rfl
  case ends => exact stage.acc shared fun _ _ admitted => admitted
  case everyone =>
    intro still
    -- Whoever waits can go on, and whoever has not asked can ask.
    have goesOn (waits : pool.waiting ≠ []) :
        ∃ later, (callers id count serves).Step pool later :=
      stage.goesOn answers waits
    have settled : pool.waiting = [] := by
      by_contra waits
      obtain ⟨later, step⟩ := goesOn waits
      exact still later step
    have asked : ¬ pool.callers < count := fun admitted =>
      still _ (.start () admitted)
    simpa [Pool.callers, settled] using asked

end Callers

section TwoCallers

/-- A backend that gives prepared replies, and is silent after that. -/
def serves (replies : List Reply) (_ : Call) (reply : Reply)
    (after : List Reply) : Prop :=
  reply = replies.headD .timeout ∧ after = replies.tail

/-- A document with the empty tree, and no rows. -/
def replies : List Reply :=
  [ .response 200 (.json (.obj [("filters", .obj [("ai", .obj
      [ ("enabled", .bool true),
        ("ast", .obj [("filter", Filter.Node.empty.toJson)]) ])])])),
    .response 200 (.json (.obj [])) ]

/-- Two callers ask for an engine to be restored, the second while the document
is on the way. -/
theorem exists_restored :
    ∃ pool : Pool Registry (List Reply) Phase,
      (callers 0 2 serves).Reach (.fresh Provenance.withNewEngine replies)
        pool ∧
      pool.results.map Except.isOk = [true, true] ∧
      pool.world.sent.length = 2 ∧
      (pool.world.state.engine 0).state.results.isSome = true := by
  refine ⟨_, .step (.step (.step (.step (.step (.step (.step (.step (.step
    (.step .refl
    (.start () ?_))
    (.begin [_] [] rfl))
    (.lock [] [_] rfl (by decide)))
    (.handle [] [_] _ rfl ⟨rfl, rfl⟩))
    (.start () ?_))
    (.deliver [_] [_] rfl))
    (.handle [] [_, _] _ rfl ⟨rfl, rfl⟩))
    (.deliver [] [_, _] rfl))
    (.learn [] [_] rfl rfl))
    (.learn [] [] rfl rfl), ?_⟩
  · exact Nat.zero_lt_two
  · exact Nat.one_lt_two
  · decide +kernel

/-- Both see that the engine is restored, with one call for the document and one
that runs the tree. -/
theorem restored_once_for_two_callers :
    ∃ pool : Pool Registry (List Reply) Phase,
      (callers 0 2 serves).Reach (.fresh Provenance.withNewEngine replies)
        pool ∧
      pool.results.map Except.isOk = [true, true] ∧
      pool.world.sent.length = 2 ∧
      (pool.world.state.engine 0).state.results.isSome = true ∧
      OneShot 0 2 serves Provenance.withNewEngine pool := by
  obtain ⟨pool, reached, good, sent, shown⟩ := exists_restored
  have answers (replies : List Reply) (call : Call) :
      ∃ reply after, serves replies call reply after := ⟨_, _, rfl, rfl⟩
  exact ⟨pool, reached, good, sent, shown,
    restored_once (by decide) rfl rfl answers reached⟩

/-- A tree with half a character: all who have bought an item of that name. -/
def halfTree : Json :=
  .obj [("filter", .obj
    [ ("type", .str "upsell"),
      ("upsellItemName",
        .str (String.singleton (Text.unitChar 0xD800))) ])]

/-- The document with this tree is known, and nothing is on screen. -/
def withHalfTree : Registry :=
  { Provenance.withNewEngine with
    cache :=
      { Cache.empty with
        documents :=
          [("event",
            { Document.empty with
              ai :=
                { AiBlock.cleared with
                  enabled := true
                  ast := some halfTree } })] } }

/-- The tree can be read but not sent.  The engine counts as restored and keeps
no problem, and no caller gets to know its phase. -/
theorem unencodable_tree_fails_callers :
    ∃ pool : Pool Registry (List Reply) Phase,
      (callers 0 2 serves).Reach (.fresh withHalfTree []) pool ∧
      (Filter.Root.ofJson halfTree).isOk = true ∧
      pool.results.map Except.isOk = [false, false] ∧
      pool.world.sent.length = 0 ∧
      (pool.world.state.engine 0).phase = .hydrated ∧
      (pool.world.state.engine 0).hydrationError.isSome = false := by
  refine ⟨_, .step (.step (.step (.step (.step (.step .refl
    (.start () ?_))
    (.begin [_] [] rfl))
    (.start () ?_))
    (.lock [_] [_] rfl (by decide)))
    (.learn [] [_] rfl rfl))
    (.learn [] [] rfl rfl), ?_⟩
  · exact Nat.zero_lt_two
  · exact Nat.one_lt_two
  · decide +kernel

end TwoCallers

end Hydrating
end Audience
