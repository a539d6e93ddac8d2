import Audience.Proofs.Flow.Changes
import Audience.Proofs.Flow.History
import Audience.Proofs.Flow.Soundness
import Mathlib.Data.List.Forall2

/-!
# Diaries

A pool keeps every change of the shared state, but not which of its threads
made it.  In a recorded pool the shared state carries a diary, and every thread
signs what it does there: that it begins, what it changes, and which calls it
sends.  Nothing else is different, so whatever happens in a pool happens in a
recorded one as well.  What a thread may do is read off its flow; in every diary
it then did nothing else.
-/

namespace Audience

/-- What a thread was started for. -/
inductive Work (ι : Type) where
  | task (task : ι)
  | restoring (engine : EngineId)

/-- What a thread did. -/
inductive Deed (σ ι : Type) where
  | began (work : Work ι)
  | changed (state : σ)
  | called (call : Call)

/-- What a thread did in which state.  A thread signs with the place at which
the diary says that it began. -/
structure Entry (σ ι : Type) where
  author : Nat
  before : σ
  deed : Deed σ ι

namespace Entry

variable {σ ι : Type}

/-- The state after what a thread did. -/
def after (entry : Entry σ ι) : σ :=
  match entry.deed with
  | .changed state => state
  | _ => entry.before

/-- The change that a thread made, if it made one. -/
def change? (entry : Entry σ ι) : Option (σ × σ) :=
  match entry.deed with
  | .changed state => some (entry.before, state)
  | _ => none

/-- The states before and after what a thread did. -/
def span (entry : Entry σ ι) : σ × σ := (entry.before, entry.after)

end Entry

/-- A state with all that was done so far. -/
structure Diary (σ ι : Type) where
  state : σ
  entries : List (Entry σ ι)

namespace Diary

variable {σ ι : Type}

/-- A diary in which nothing was written. -/
def blank (state : σ) : Diary σ ι := { state, entries := [] }

/-- Write down what a thread does in the state that the diary is at. -/
def write (author : Nat) (deed : Deed σ ι) (diary : Diary σ ι) : Diary σ ι :=
  let entry : Entry σ ι := { author, before := diary.state, deed }
  { state := entry.after, entries := diary.entries ++ [entry] }

/-- The changes that were made, by whomever. -/
def changes (diary : Diary σ ι) : List (σ × σ) :=
  diary.entries.filterMap Entry.change?

/-- A thread began in the given state. -/
def Began (author : Nat) (work : Work ι) (origin : σ) (diary : Diary σ ι) :
    Prop :=
  diary.entries[author]? = some { author, before := origin, deed := .began work }

@[simp] theorem changes_write_began (author : Nat) (work : Work ι)
    (diary : Diary σ ι) : (diary.write author (.began work)).changes =
      diary.changes := by
  simp [changes, write, Entry.change?]

/-- Nothing is struck out. -/
theorem entries_write (author : Nat) (deed : Deed σ ι) (diary : Diary σ ι) :
    diary.entries <+: (diary.write author deed).entries :=
  List.prefix_append _ _

/-- That a thread began is not forgotten. -/
theorem Began.mono {author : Nat} {work : Work ι} {origin : σ}
    {earlier later : Diary σ ι} (began : earlier.Began author work origin)
    (grown : earlier.entries <+: later.entries) :
    later.Began author work origin := by
  obtain ⟨rest, whole⟩ := grown
  have within := (List.getElem?_eq_some_iff.mp began).1
  rw [Began, ← whole, List.getElem?_append_left within]
  exact began

end Diary

namespace Flow

variable {σ ι α ε : Type}

/-- A flow that signs its changes and calls. -/
def signed (author : Nat) (flow : Flow σ α) : Flow (Diary σ ι) α :=
  match flow with
  | done result => done result
  | fail fault => fail fault
  | inspect next => inspect fun diary => (next diary.state).signed author
  | update state next => inspect fun diary =>
      update (diary.write author (.changed state)) (next.signed author)
  | send call next => inspect fun diary =>
      update (diary.write author (.called call))
        (send call fun reply => (next reply).signed author)
  | acquire lock next => acquire lock (next.signed author)
  | release lock next => release lock (next.signed author)
  | restored engine next =>
      restored engine fun result => (next result).signed author

/-- A thread that signs for its flow, from its beginning on. -/
def recorded (work : Work ι) (flow : Flow σ α) : Flow (Diary σ ι) α :=
  inspect fun diary =>
    update (diary.write diary.entries.length (.began work))
      (flow.signed diary.entries.length)

/-- Reporting the end is not signed. -/
theorem reported_signed (author : Nat) (report : Except Fault α → ε)
    (flow : Flow σ α) : ((flow.signed author).reported report : Flow (Diary σ ι) ε) =
      (flow.reported report).signed author := by
  unfold reported
  induction flow with
  | done result => rfl
  | fail fault => rfl
  | inspect next ih => simp only [signed, finish, ih]
  | update state next ih => simp only [signed, finish, ih]
  | send call next ih => simp only [signed, finish, ih]
  | acquire lock next ih => simp only [signed, finish, ih]
  | release lock next ih => simp only [signed, finish, ih]
  | restored engine next ih => simp only [signed, finish, ih]

theorem reported_recorded (work : Work ι) (report : Except Fault α → ε)
    (flow : Flow σ α) : (flow.recorded work).reported report =
      (flow.reported report).recorded work := by
  show Flow.inspect _ = Flow.inspect _
  congr 1
  funext diary
  show Flow.update _ _ = Flow.update _ _
  congr 1
  exact reported_signed _ report flow

end Flow

/-!
### Recording changes nothing

A stretch that is signed ends where the plain one ends and writes its changes
down, so a recorded pool can follow a plain one step by step.
-/

/-- What a stretch that ends here writes down at its end: the call that it
sends, if it sends one. -/
def Halt.entries {σ ι ε : Type} (author : Nat) (state : σ) :
    Halt σ ε → List (Entry σ ι)
  | .calls call _ => [{ author, before := state, deed := .called call }]
  | _ => []

/-- What a stretch writes down: its changes, and then its call. -/
def Stretch.entries {σ ι ε : Type} (author : Nat) (stretch : Stretch σ ε) :
    List (Entry σ ι) :=
  stretch.changes.map (fun change =>
    { author, before := change.1, deed := .changed change.2 }) ++
      stretch.halt.entries author stretch.state

/-- The end of a stretch, in a flow that signs. -/
def Halt.signed {σ ι ε : Type} (author : Nat) :
    Halt σ ε → Halt (Diary σ ι) ε
  | .ended result => .ended result
  | .calls call next => .calls call fun reply => (next reply).signed author
  | .locks lock next => .locks lock (next.signed author)
  | .awaits engine next =>
      .awaits engine fun result => (next result).signed author

/-- A flow on a state with a diary does in its next stretch what the plain flow
does, and writes it down. -/
structure Flow.Follows {σ ι ε : Type} (diary : Diary σ ι)
    (signing : Flow (Diary σ ι) ε) (flow : Flow σ ε) : Prop where
  state : (signing.stretch diary).state.state =
    (flow.stretch diary.state).state
  changes : (signing.stretch diary).state.changes =
    diary.changes ++ (flow.stretch diary.state).changes
  freed : (signing.stretch diary).freed = (flow.stretch diary.state).freed
  halt : ∃ author, (signing.stretch diary).halt =
    (flow.stretch diary.state).halt.signed author

namespace Flow

variable {σ ι ε : Type}

/-- What a stretch of a signed flow comes to. -/
theorem stretch_signed (author : Nat) (flow : Flow σ ε) (diary : Diary σ ι) :
    ((flow.signed author).stretch diary).state =
        { state := (flow.stretch diary.state).state
          entries := diary.entries ++
            (flow.stretch diary.state).entries author } ∧
      ((flow.signed author).stretch diary).freed =
        (flow.stretch diary.state).freed ∧
      ((flow.signed author).stretch diary).halt =
        (flow.stretch diary.state).halt.signed author := by
  induction flow generalizing diary with
  | done result =>
      simp [signed, stretch, Stretch.entries, Halt.entries, Halt.signed]
  | fail fault =>
      simp [signed, stretch, Stretch.entries, Halt.entries, Halt.signed]
  | inspect next ih => exact ih diary.state diary
  | update state next ih =>
      obtain ⟨ended, freed, halt⟩ := ih (diary.write author (.changed state))
      refine ⟨ended.trans ?_, freed, halt⟩
      simp [stretch, Stretch.after, Stretch.entries, Diary.write, Entry.after]
  | send call next ih =>
      simp [signed, stretch, Stretch.after, Stretch.entries, Halt.entries,
        Halt.signed, Diary.write, Entry.after]
  | acquire lock next ih =>
      simp [signed, stretch, Stretch.entries, Halt.entries, Halt.signed]
  | release lock next ih =>
      obtain ⟨ended, freed, halt⟩ := ih diary
      exact ⟨ended, congrArg (lock :: ·) freed, halt⟩
  | restored engine next ih =>
      simp [signed, stretch, Stretch.entries, Halt.entries, Halt.signed]

/-- What a stretch of a recorded flow comes to that begins a thread. -/
theorem stretch_recorded (work : Work ι) (flow : Flow σ ε)
    (diary : Diary σ ι) :
    ((flow.recorded work).stretch diary).state =
      { state := (flow.stretch diary.state).state
        entries := (diary.write diary.entries.length (.began work)).entries ++
          (flow.stretch diary.state).entries diary.entries.length } :=
  (stretch_signed diary.entries.length flow
    (diary.write diary.entries.length (.began work))).1

/-- All changes of a stretch, and nothing else, are in what it writes down. -/
theorem changes_entries (author : Nat) (stretch : Stretch σ ε) :
    (stretch.entries author : List (Entry σ ι)).filterMap Entry.change? =
      stretch.changes := by
  have none : (stretch.halt.entries author stretch.state :
      List (Entry σ ι)).filterMap Entry.change? = [] := by
    cases stretch.halt <;> rfl
  rw [Stretch.entries, List.filterMap_append, none, List.append_nil,
    List.filterMap_map]
  exact List.filterMap_some

theorem follows_signed (author : Nat) (flow : Flow σ ε) (diary : Diary σ ι) :
    Follows diary (flow.signed author) flow := by
  obtain ⟨ended, freed, halt⟩ := stretch_signed author flow diary
  refine ⟨by rw [ended], ?_, freed, author, halt⟩
  rw [ended, Diary.changes, List.filterMap_append, changes_entries]
  rfl

/-- A thread that signs its beginning first does so too. -/
theorem follows_recorded (work : Work ι) (flow : Flow σ ε)
    (diary : Diary σ ι) : Follows diary (flow.recorded work) flow := by
  have begins := follows_signed diary.entries.length flow
    (diary.write diary.entries.length (.began work))
  refine ⟨begins.state, ?_, begins.freed, begins.halt⟩
  rw [← Diary.changes_write_began diary.entries.length work diary]
  exact begins.changes

end Flow

/-- A thread of a recorded pool that waits where one of the plain pool does. -/
inductive Pending.Signs {σ ι ε : Type} :
    Pending (Diary σ ι) ε → Pending σ ε → Prop
  | ready (work : Work ι) (flow : Flow σ ε) :
      Signs (.ready (flow.recorded work)) (.ready flow)
  | sent (author number : Nat) (call : Call) (next : Reply → Flow σ ε) :
      Signs (.sent number call fun reply => (next reply).signed author)
        (.sent number call next)
  | answered (author number : Nat) (reply : Reply) (next : Reply → Flow σ ε) :
      Signs (.answered number reply fun reply => (next reply).signed author)
        (.answered number reply next)
  | locking (author : Nat) (lock : Lock) (next : Flow σ ε) :
      Signs (.locking lock (next.signed author)) (.locking lock next)
  | awaiting (author : Nat) (engine : EngineId)
      (next : Except Fault Unit → Flow σ ε) :
      Signs (.awaiting engine fun result => (next result).signed author)
        (.awaiting engine next)

/-- A recorded pool that is where the plain one is, with all its changes in the
diary. -/
structure Pool.Records {σ ι β α : Type} (recorded : Pool (Diary σ ι) β α)
    (pool : Pool σ β α) : Prop where
  state : recorded.world.state.state = pool.world.state
  sent : recorded.world.sent.map (fun entry => (entry.1.state, entry.2)) =
    pool.world.sent
  delivered : recorded.world.delivered = pool.world.delivered
  changes : recorded.world.state.changes = pool.changes
  held : recorded.held = pool.held
  server : recorded.server = pool.server
  handled : recorded.handled = pool.handled
  restorings : recorded.restorings = pool.restorings
  waiting : List.Forall₂ Pending.Signs recorded.waiting pool.waiting
  results : recorded.results = pool.results

/-- What runs in a pool, with every thread signing what it does.  Tasks may
start at any time. -/
def Scene.recorded {σ β ι α : Type} (scene : Scene σ β ι α) :
    Scene (Diary σ ι) β ι α where
  flow task := (scene.flow task).recorded (.task task)
  restoring engine := (scene.restoring engine).recorded (.restoring engine)
  admits _ _ := True
  serves := scene.serves

/-- Reporting the end changes nothing. -/
theorem Flow.changes_reported {σ α ε : Type} (report : Except Fault α → ε)
    (flow : Flow σ α) (now : σ) :
    ((flow.reported report).stretch now).changes =
      (flow.stretch now).changes := by
  unfold reported
  induction flow generalizing now with
  | done result => rfl
  | fail fault => rfl
  | inspect next ih => exact ih now now
  | update state next ih => exact congrArg ((now, state) :: ·) (ih state)
  | send call next ih => rfl
  | acquire lock next ih => rfl
  | release lock next ih => exact ih now
  | restored engine next ih => rfl

/-- A task that starts with a change has it written down right after its
beginning. -/
theorem Scene.entry_of_start {σ β ι α : Type} (scene : Scene σ β ι α)
    {pool : Pool (Diary σ ι) β α} {task : ι} {change : σ × σ}
    (begins : ((scene.flow task).stretch pool.world.state.state).changes.head? =
      some change) :
    (pool.perform scene.recorded.restoring
        (scene.recorded.thread task)).world.state.entries[
          pool.world.state.entries.length + 1]? =
      some { author := pool.world.state.entries.length, before := change.1,
             deed := .changed change.2 } := by
  obtain ⟨rest, changes⟩ := List.head?_eq_some_iff.mp begins
  have thread : scene.recorded.thread task =
      ((scene.flow task).reported .task).recorded (.task task) :=
    Flow.reported_recorded (.task task) _ (scene.flow task)
  have written := congrArg Diary.entries (Flow.stretch_recorded (.task task)
    ((scene.flow task).reported Ending.task) pool.world.state)
  rw [← thread] at written
  simp only [Pool.perform, written, Stretch.entries, Flow.changes_reported,
    changes, Diary.write]
  rw [List.append_assoc, List.getElem?_append_right (by omega)]
  simp

namespace Pool

variable {σ ι β α : Type} {recorded : Pool (Diary σ ι) β α}
variable {pool : Pool σ β α}

/-- Nothing runs in either pool. -/
theorem Records.fresh (state : σ) (server : β) :
    Records (.fresh (.blank state) server : Pool (Diary σ ι) β α)
      (.fresh state server) :=
  ⟨rfl, rfl, rfl, rfl, rfl, rfl, rfl, rfl, .nil, rfl⟩

theorem callsOf_signed {diary : Diary σ ι} {state : σ} (author : Nat)
    (halt : Halt σ α) (same : diary.state = state) :
    (callsOf diary (halt.signed author)).map
        (fun entry => (entry.1.state, entry.2)) = callsOf state halt := by
  cases halt with
  | calls call next => simp [Halt.signed, callsOf, same]
  | _ => rfl

theorem resultsOf_signed (author : Nat) (halt : Halt σ (Ending α)) :
    resultsOf (halt.signed author : Halt (Diary σ ι) (Ending α)) =
      resultsOf halt := by
  cases halt with
  | ended result =>
      obtain fault | ending := result
      · rfl
      · cases ending <;> rfl
  | _ => rfl

theorem Records.restoringsAfter (records : recorded.Records pool)
    (author : Nat) (halt : Halt σ (Ending α)) :
    recorded.restoringsAfter (halt.signed author) =
      pool.restoringsAfter halt := by
  have same := records.restorings
  cases halt with
  | ended result =>
      obtain fault | ending := result
      · exact same
      · cases ending with
        | task ended => exact same
        | restoring engine ended =>
            simp only [Halt.signed, Pool.restoringsAfter, same]
  | calls call next => exact same
  | locks lock next => exact same
  | awaits engine next => simp only [Halt.signed, Pool.restoringsAfter, same]

/-- The threads that wait after a stretch wait in both pools. -/
theorem Records.threadsAfter (records : recorded.Records pool)
    (scene : Scene σ β ι α) (author : Nat) (halt : Halt σ (Ending α)) :
    List.Forall₂ Pending.Signs
      (recorded.threadsAfter scene.recorded.restoring (halt.signed author))
      (pool.threadsAfter scene.restoring halt) := by
  have count : recorded.world.sent.length = pool.world.sent.length := by
    rw [← records.sent, List.length_map]
  cases halt with
  | ended result => exact .nil
  | calls call next =>
      simp only [Halt.signed, Pool.threadsAfter, count]
      exact .cons (.sent author _ call next) .nil
  | locks lock next => exact .cons (.locking author lock next) .nil
  | awaits engine next =>
      simp only [Halt.signed, Pool.threadsAfter, records.restorings]
      refine .cons (.awaiting author engine next) ?_
      cases Keyed.get? engine pool.restorings with
      | some known => exact .nil
      | none =>
          refine .cons ?_ .nil
          rw [Scene.recorded, Flow.reported_recorded]
          exact .ready (.restoring engine) _

/-- Both pools run a stretch. -/
theorem Records.perform (records : recorded.Records pool)
    (scene : Scene σ β ι α) {signing : Flow (Diary σ ι) (Ending α)}
    {flow : Flow σ (Ending α)}
    (follows : Flow.Follows recorded.world.state signing flow) :
    (recorded.perform scene.recorded.restoring signing).Records
      (pool.perform scene.restoring flow) := by
  obtain ⟨state, changes, freed, author, halt⟩ := follows
  rw [records.state] at state changes freed halt
  refine ⟨state, ?_, records.delivered, ?_, ?_, records.server,
    records.handled, ?_, ?_, ?_⟩
  · simp only [Pool.perform, List.map_append, records.sent, halt,
      callsOf_signed author _ state]
  · simp only [Pool.perform, changes, records.changes]
  · simp only [Pool.perform, records.held, freed]
  · simp only [Pool.perform, halt, records.restoringsAfter]
  · simp only [Pool.perform, halt]
    exact List.rel_append (records.threadsAfter scene author _)
      records.waiting
  · simp only [Pool.perform, records.results, halt, resultsOf_signed]

/-- A thread that waits has its counterpart. -/
theorem Records.split (records : recorded.Records pool)
    {before after : List (Pending σ (Ending α))}
    {thread : Pending σ (Ending α)}
    (waits : pool.waiting = before ++ thread :: after) :
    ∃ early signing late, recorded.waiting = early ++ signing :: late ∧
      Pending.Signs signing thread ∧
      List.Forall₂ Pending.Signs early before ∧
      List.Forall₂ Pending.Signs late after := by
  -- Threads keep their places: the counterpart waits at the same place.
  have both := records.waiting
  rw [waits] at both
  have early := List.forall₂_take_append _ _ _ both
  obtain ⟨signing, late, signs, rest, split⟩ :=
    List.forall₂_cons_right_iff.mp (List.forall₂_drop_append _ _ _ both)
  refine ⟨_, signing, late, ?_, signs, early, rest⟩
  rw [← split, List.take_append_drop]

/-- A thread and its counterpart may leave. -/
theorem Records.leave (records : recorded.Records pool)
    {early late : List (Pending (Diary σ ι) (Ending α))}
    {before after : List (Pending σ (Ending α))}
    (first : List.Forall₂ Pending.Signs early before)
    (second : List.Forall₂ Pending.Signs late after) :
    ({ recorded with waiting := early ++ late } :
      Pool (Diary σ ι) β α).Records
        { pool with waiting := before ++ after } :=
  { records with waiting := List.rel_append first second }

/-- Whatever happens in a pool happens in the recorded one. -/
theorem Records.step (records : recorded.Records pool)
    {scene : Scene σ β ι α} {next : Pool σ β α}
    (step : scene.Step pool next) :
    ∃ later, scene.recorded.Step recorded later ∧ later.Records next := by
  cases step with
  | start task admitted =>
      refine ⟨_, .start task trivial, records.perform scene ?_⟩
      rw [Scene.thread, Scene.thread, Scene.recorded, Flow.reported_recorded]
      exact Flow.follows_recorded _ _ _
  | @begin before after flow waits =>
      obtain ⟨early, signing, late, there, signs, first, second⟩ :=
        records.split waits
      cases signs with
      | ready work =>
          exact ⟨_, .begin early late there,
            (records.leave first second).perform scene
              (Flow.follows_recorded work flow _)⟩
  | @handle before after number call rest reply server waits served =>
      obtain ⟨early, signing, late, there, signs, first, second⟩ :=
        records.split waits
      rw [← records.server] at served
      cases signs with
      | sent author =>
          exact ⟨_, .handle early late server there served,
            { records with
              server := rfl
              handled := congrArg (· ++ [(number, reply)]) records.handled
              waiting := List.rel_append first
                (.cons (.answered author number reply rest) second) }⟩
  | @deliver before after number reply rest waits =>
      obtain ⟨early, signing, late, there, signs, first, second⟩ :=
        records.split waits
      have left : Records
          { recorded with
            world := recorded.world.deliver number reply
            waiting := early ++ late }
          { pool with
            world := pool.world.deliver number reply
            waiting := before ++ after } :=
        { records.leave first second with
          delivered := congrArg (· ++ [(number, reply)]) records.delivered }
      cases signs with
      | answered author =>
          exact ⟨_, .deliver early late there,
            left.perform scene (Flow.follows_signed author (rest reply) _)⟩
  | @lock before after lock rest waits free =>
      obtain ⟨early, signing, late, there, signs, first, second⟩ :=
        records.split waits
      have left : Records
          { recorded with
            held := lock :: recorded.held
            waiting := early ++ late }
          { pool with
            held := lock :: pool.held
            waiting := before ++ after } :=
        { records.leave first second with
          held := congrArg (lock :: ·) records.held }
      rw [← records.held] at free
      cases signs with
      | locking author =>
          exact ⟨_, .lock early late there free,
            left.perform scene (Flow.follows_signed author rest _)⟩
  | @learn before after engine rest result waits known =>
      obtain ⟨early, signing, late, there, signs, first, second⟩ :=
        records.split waits
      rw [← records.restorings] at known
      cases signs with
      | awaiting author =>
          exact ⟨_, .learn early late there known,
            (records.leave first second).perform scene
              (Flow.follows_signed author (rest result) _)⟩

end Pool

/-- Every run of a pool has a diary: some run of the recorded pool comes to the
same, with all changes written down. -/
theorem Scene.recorded_of_reach {σ β ι α : Type} {scene : Scene σ β ι α}
    {start : σ} {server : β} {pool : Pool σ β α}
    (reached : scene.Reach (.fresh start server) pool) :
    ∃ recorded : Pool (Diary σ ι) β α,
      scene.recorded.Reach (.fresh (.blank start) server) recorded ∧
        recorded.Records pool := by
  induction reached with
  | refl => exact ⟨_, .refl, .fresh start server⟩
  | step before step ih =>
      obtain ⟨recorded, reached, records⟩ := ih
      obtain ⟨later, follows, kept⟩ := records.step step
      exact ⟨later, .step reached follows, kept⟩

/-!
### Rules

A thread that, whatever others do, makes only changes and sends only calls that
a rule allows is found in no diary to have done anything else.
-/

/-- What a thread may change, and which calls it may send. -/
structure Rule (σ : Type) where
  change : σ → σ → Prop
  call : Call → Prop

/-- What a rule says about a deed.  Nobody begins twice. -/
def Rule.Allows {σ ι : Type} (rule : Rule σ) (before : σ) : Deed σ ι → Prop
  | .began _ => False
  | .changed state => rule.change before state
  | .called call => rule.call call

namespace Diary

variable {σ ι : Type} (rules : Work ι → σ → Rule σ)

/-- An entry is the beginning of its author, or comes later and is as the rule
for its author allows.  The rule may depend on the state in which the author
began. -/
inductive Permitted (diary : Diary σ ι) (place : Nat) (entry : Entry σ ι) :
    Prop
  | begins (work : Work ι) (same : entry.author = place)
      (deed : entry.deed = .began work)
  | obeys (work : Work ι) (origin : σ) (later : entry.author < place)
      (began : diary.Began entry.author work origin)
      (allowed : (rules work origin).Allows entry.before entry.deed)

/-- All entries are permitted, and they lead from one state to the other without
a gap. -/
structure Lawful (start : σ) (diary : Diary σ ι) : Prop where
  chained : Chained start (diary.entries.map Entry.span) diary.state
  permitted : ∀ place entry, diary.entries[place]? = some entry →
    diary.Permitted rules place entry

variable {rules} {start : σ} {diary : Diary σ ι}

/-- An entry stays permitted. -/
theorem Permitted.mono {later : Diary σ ι} {place : Nat} {entry : Entry σ ι}
    (permitted : diary.Permitted rules place entry)
    (grown : diary.entries <+: later.entries) :
    later.Permitted rules place entry := by
  cases permitted with
  | begins work same deed => exact .begins work same deed
  | obeys work origin after began allowed =>
      exact .obeys work origin after (began.mono grown) allowed

theorem Lawful.blank (start : σ) :
    (Diary.blank start : Diary σ ι).Lawful rules start :=
  ⟨rfl, by simp [Diary.blank]⟩

/-- A diary stays lawful when something permitted is written. -/
theorem Lawful.write (lawful : diary.Lawful rules start) {author : Nat}
    {deed : Deed σ ι}
    (permitted : (diary.write author deed).Permitted rules
      diary.entries.length { author, before := diary.state, deed }) :
    (diary.write author deed).Lawful rules start := by
  constructor
  · rw [Diary.write, List.map_append]
    exact lawful.chained.append ⟨rfl, rfl⟩
  · intro place entry found
    by_cases old : place < diary.entries.length
    · rw [Diary.write, List.getElem?_append_left old] at found
      exact (lawful.permitted place entry found).mono (entries_write ..)
    · have same : place = diary.entries.length := by
        have within := (List.getElem?_eq_some_iff.mp found).1
        simp only [Diary.write, List.length_append,
          List.length_singleton] at within
        omega
      subst same
      simp only [Diary.write, List.getElem?_concat_length,
        Option.some.injEq] at found
      exact found ▸ permitted

/-- What a thread does is written lawfully if its rule allows it. -/
theorem Lawful.write_of_allows (lawful : diary.Lawful rules start)
    {author : Nat} {work : Work ι} {origin : σ} {deed : Deed σ ι}
    (began : diary.Began author work origin)
    (allowed : (rules work origin).Allows diary.state deed) :
    (diary.write author deed).Lawful rules start :=
  lawful.write (.obeys work origin (List.getElem?_eq_some_iff.mp began).1
    (began.mono (entries_write ..)) allowed)

/-- An entry that is not the beginning of its author is as the rule for its
author allows. -/
theorem Lawful.allows (lawful : diary.Lawful rules start) {place : Nat}
    {entry : Entry σ ι} {work : Work ι} {origin : σ}
    (found : diary.entries[place]? = some entry)
    (began : diary.Began entry.author work origin)
    (own : place ≠ entry.author) :
    entry.author < place ∧
      (rules work origin).Allows entry.before entry.deed := by
  cases lawful.permitted place entry found with
  | begins work same deed => exact absurd same.symm own
  | obeys other begun later first allowed =>
      rw [Diary.Began, began] at first
      cases first
      exact ⟨later, allowed⟩

/-- What everything does that is done, is done from the end of an entry up to
the beginning of a later one. -/
theorem Lawful.related (lawful : diary.Lawful rules start)
    {relation : σ → σ → Prop} (refl : ∀ state, relation state state)
    (trans : ∀ {first second third}, relation first second →
      relation second third → relation first third)
    (each : ∀ entry ∈ diary.entries, relation entry.before entry.after)
    {early late : Nat} {first second : Entry σ ι}
    (earlier : diary.entries[early]? = some first)
    (later : diary.entries[late]? = some second) (before : early < late) :
    relation first.after second.before := by
  -- The diary is cut before the earlier entry, and the later one is in the
  -- second part.
  obtain ⟨within, same⟩ := List.getElem?_eq_some_iff.mp earlier
  have split := List.take_append_drop early diary.entries
  rw [List.drop_eq_getElem_cons within, same] at split
  have chained := lawful.chained
  rw [← split, List.map_append, List.map_cons] at chained
  have among : second ∈ diary.entries.drop (early + 1) := by
    apply List.mem_of_getElem? (i := late - (early + 1))
    rw [List.getElem?_drop, ← later]
    congr 1
    omega
  apply chained.of_append.2.related refl trans
  · intro change member
    obtain ⟨entry, entered, rfl⟩ := List.mem_map.mp member
    exact each entry (List.mem_of_mem_drop entered)
  · apply List.mem_cons_of_mem
    rw [List.map_map]
    exact List.mem_map_of_mem among

/-- It is done from the start up to the beginning of any entry, too. -/
theorem Lawful.related_start (lawful : diary.Lawful rules start)
    {relation : σ → σ → Prop} (refl : ∀ state, relation state state)
    (trans : ∀ {first second third}, relation first second →
      relation second third → relation first third)
    (each : ∀ entry ∈ diary.entries, relation entry.before entry.after)
    {entry : Entry σ ι} (member : entry ∈ diary.entries) :
    relation start entry.before := by
  apply lawful.chained.related refl trans
  · intro change among
    obtain ⟨other, entered, rfl⟩ := List.mem_map.mp among
    exact each other entered
  · apply List.mem_cons_of_mem
    rw [List.map_map]
    exact List.mem_map_of_mem member

/-- Nothing is struck out of a diary that is left as it is. -/
theorem grown_refl (diary : Diary σ ι) : diary.entries <+: diary.entries :=
  List.prefix_rfl

theorem grown_trans {first second third : Diary σ ι}
    (early : first.entries <+: second.entries)
    (late : second.entries <+: third.entries) :
    first.entries <+: third.entries :=
  early.trans late

/-- What threads rely on that write into a diary: it is lawful, and nothing is
struck out. -/
def contract (rules : Work ι → σ → Rule σ) (start : σ) :
    Contract (Diary σ ι) where
  inv world := world.state.Lawful rules start
  moves earlier later := earlier.entries <+: later.entries
  change earlier later := earlier.entries <+: later.entries
  replies _ _ := True
  moves_refl := grown_refl
  moves_trans := grown_trans
  change_trans := grown_trans
  change_of_moves moves := moves

end Diary

namespace Flow

variable {σ ι α : Type} {rules : Work ι → σ → Rule σ} {start : σ}
variable {first : Diary σ ι} {now : World (Diary σ ι)}

/-- A thread that does only what its rule allows keeps the diary lawful. -/
theorem upholds_signed {author : Nat} {work : Work ι} {origin : σ}
    {flow : Flow σ α} (began : now.state.Began author work origin)
    (makes : flow.Makes (rules work origin).change (fun _ => True)
      now.state.state)
    (sends : flow.Sends (rules work origin).call)
    (turn : (Diary.contract rules start).Turn first now) :
    (flow.signed author).Upholds (Diary.contract rules start)
      (fun _ => (Diary.contract rules start).Turn) first now := by
  induction flow generalizing first now with
  | done result => exact turn
  | fail fault => exact turn
  | inspect next ih => exact ih now.state.state began makes (sends _) turn
  | update state next ih =>
      have grown := now.state.entries_write author (.changed state)
      refine ⟨grown, ih (began.mono grown) makes.2 sends ⟨?_, ?_⟩⟩
      · exact turn.1.write_of_allows began makes.1
      · exact turn.2.trans grown
  | release lock next ih => exact ih began makes sends turn
  | send call next ih =>
      have grown := now.state.entries_write author (.called call)
      refine ⟨grown, ⟨?_, turn.2.trans grown⟩, ?_⟩
      · exact turn.1.write_of_allows began sends.1
      -- The reply comes in a later turn, in which the diary has only grown.
      intro reply later _ moved
      exact ih reply (began.mono (grown.trans moved.moved)) (makes reply _)
        (sends.2 reply) ⟨moved.inv, List.prefix_rfl⟩
  | acquire lock next ih =>
      refine ⟨turn, fun later moved => ?_⟩
      exact ih (began.mono moved.moved) (makes _) sends
        ⟨moved.inv, List.prefix_rfl⟩
  | restored engine next ih =>
      refine ⟨turn, fun result later moved => ?_⟩
      exact ih result (began.mono moved.moved) (makes result _) (sends result)
        ⟨moved.inv, List.prefix_rfl⟩

/-- So does one that signs its beginning first. -/
theorem upholds_recorded {work : Work ι} {flow : Flow σ α}
    (makes : flow.Makes (rules work now.state.state).change (fun _ => True)
      now.state.state)
    (sends : flow.Sends (rules work now.state.state).call)
    (turn : (Diary.contract rules start).Turn first now) :
    (flow.recorded work).Upholds (Diary.contract rules start)
      (fun _ => (Diary.contract rules start).Turn) first now := by
  have grown :=
    now.state.entries_write now.state.entries.length (.began work)
  have began : (now.state.write now.state.entries.length
      (.began work)).Began now.state.entries.length work now.state.state := by
    simp [Diary.Began, Diary.write]
  refine ⟨grown, upholds_signed began makes sends ⟨?_, turn.2.trans grown⟩⟩
  exact turn.1.write (.begins work rfl rfl)

end Flow

namespace Scene

variable {σ β ι α : Type} {scene : Scene σ β ι α}
variable {rules : Work ι → σ → Rule σ} {start : σ} {server : β}

/-- Whatever else happens, every task and every restoring does only what its
rule allows. -/
structure Obeys (scene : Scene σ β ι α) (rules : Work ι → σ → Rule σ) :
    Prop where
  tasks : ∀ task origin,
    (scene.flow task).Makes (rules (.task task) origin).change
        (fun _ => True) origin ∧
      (scene.flow task).Sends (rules (.task task) origin).call
  restorings : ∀ engine origin,
    (scene.restoring engine).Makes (rules (.restoring engine) origin).change
        (fun _ => True) origin ∧
      (scene.restoring engine).Sends (rules (.restoring engine) origin).call

theorem Obeys.honoured (obeys : scene.Obeys rules) (start : σ) :
    (Diary.contract rules start).Honoured (fun _ => True) (fun _ => True)
      scene.recorded where
  tasks pool task _ lawful _ := by
    obtain ⟨makes, sends⟩ := obeys.tasks task pool.world.state.state
    exact (Flow.upholds_recorded makes sends ⟨lawful, List.prefix_rfl⟩).mono
      fun _ _ _ turn _ => turn
  restorings engine world lawful := by
    obtain ⟨makes, sends⟩ := obeys.restorings engine world.state.state
    exact Flow.upholds_recorded makes sends ⟨lawful, List.prefix_rfl⟩
  replies _ _ _ _ _ _ _ _ _ := ⟨trivial, trivial⟩

/-- When everybody obeys the rules, every diary is lawful. -/
theorem Obeys.lawful (obeys : scene.Obeys rules)
    {pool : Pool (Diary σ ι) β α}
    (reached : scene.recorded.Reach (.fresh (.blank start) server) pool) :
    pool.world.state.Lawful rules start :=
  ((obeys.honoured start).kept (Diary.Lawful.blank start) trivial reached
    fun _ _ => trivial).inv

end Scene

end Audience
