import Audience.Proofs.Flow.History
import Audience.Proofs.Flow.Solo
import Mathlib.Data.Prod.Lex
import Mathlib.Logic.Relation

/-!
# One job for all

Any number of tasks want the same engine to be restored, and only look at the
shared state afterwards.  However they overlap, the job is done once, and as if
it were on its own: while it goes on everybody else waits.  All of them get to
see its end.
-/

namespace Audience

/-- What was said in a world so far, and the calls that were not answered. -/
structure World.Said {σ : Type} (world : World σ) (log : List (Call × Reply))
    (unanswered : List Call) : Prop where
  calls : world.sent.map Prod.snd = log.map Prod.fst ++ unanswered
  replies : world.delivered.map Prod.snd = log.map Prod.snd

namespace Flow

variable {σ α : Type}

/-- What may be next in a flow. -/
inductive Next : Flow σ α → Flow σ α → Prop where
  | inspect (next : σ → Flow σ α) (state : σ) :
      Next (next state) (.inspect next)
  | update (state : σ) (next : Flow σ α) : Next next (.update state next)
  | send (call : Call) (next : Reply → Flow σ α) (reply : Reply) :
      Next (next reply) (.send call next)
  | acquire (lock : Lock) (next : Flow σ α) : Next next (.acquire lock next)
  | release (lock : Lock) (next : Flow σ α) : Next next (.release lock next)

/-- No flow goes on for ever. -/
theorem next_wf : WellFounded (Next : Flow σ α → Flow σ α → Prop) := by
  refine ⟨fun flow => ?_⟩
  induction flow with
  | done result => exact ⟨_, fun _ next => nomatch next⟩
  | fail fault => exact ⟨_, fun _ next => nomatch next⟩
  | inspect next ih => exact ⟨_, fun | _, .inspect _ state => ih state⟩
  | update state next ih => exact ⟨_, fun | _, .update _ _ => ih⟩
  | send call next ih => exact ⟨_, fun | _, .send _ _ reply => ih reply⟩
  | acquire lock next ih => exact ⟨_, fun | _, .acquire _ _ => ih⟩
  | release lock next ih => exact ⟨_, fun | _, .release _ _ => ih⟩
  | restored engine next ih => exact ⟨_, fun _ next => nomatch next⟩

/-- A flow on its own that waits for nobody else can always be run to its
end. -/
theorem Solo.exists_end {terms : Terms σ}
    {ends : Except Fault α → Course σ → Prop} {flow : Flow σ α}
    {course : Course σ} (live : terms.live)
    (solo : flow.Solo terms ends course) :
    ∃ result later, ends result later ∧ course.log <+: later.log := by
  induction flow generalizing course with
  | done result => exact ⟨_, _, solo, List.prefix_rfl⟩
  | fail fault => exact ⟨_, _, solo, List.prefix_rfl⟩
  | inspect next ih => exact ih _ solo
  | update state next ih =>
      obtain ⟨result, later, ended, grown⟩ := ih solo.2
      exact ⟨result, later, ended, grown⟩
  | send call next ih =>
      obtain ⟨result, later, ended, grown⟩ := ih .timeout (solo .timeout)
      exact ⟨result, later, ended, (List.prefix_append _ _).trans grown⟩
  | acquire lock next ih =>
      obtain ⟨result, later, ended, grown⟩ := ih solo.2
      exact ⟨result, later, ended, grown⟩
  | release lock next ih =>
      obtain ⟨result, later, ended, grown⟩ := ih solo
      exact ⟨result, later, ended, grown⟩
  | restored engine next ih => exact absurd live solo

end Flow

/-- A thread waits for an engine to be restored. -/
def Pending.isAwaiting {σ ε : Type} : Pending σ ε → Bool
  | awaiting _ _ => true
  | _ => false

namespace Pool

variable {σ β α : Type} {pool : Pool σ β α}
variable {restoring : EngineId → Flow σ Unit}

/-- How many tasks have asked for an engine to be restored, if all do. -/
def callers (pool : Pool σ β α) : Nat :=
  pool.results.length + pool.waiting.countP Pending.isAwaiting

/-- A change of the state is a part of the stretch. -/
theorem perform_update (state : σ) (next : Flow σ (Ending α)) :
    pool.perform restoring (.update state next) =
      ({ pool with
          world := { pool.world with state }
          changes := pool.changes ++ [(pool.world.state, state)] } :
        Pool σ β α).perform restoring next := by
  simp only [perform, Flow.stretch, Stretch.after, List.append_assoc,
    List.singleton_append]
  rfl

/-- So is giving back a lock. -/
theorem perform_release (lock : Lock) (next : Flow σ (Ending α)) :
    pool.perform restoring (.release lock next) =
      ({ pool with held := pool.held.filter (· ≠ lock) } :
        Pool σ β α).perform restoring next := by
  simp only [perform, Flow.stretch, Stretch.freeing, Pool.mk.injEq, true_and]
  refine ⟨?_, rfl, rfl, trivial⟩
  rw [List.filter_filter]
  apply List.filter_congr
  intro other _
  simp [Bool.and_comm]

/-- A call ends a stretch. -/
theorem perform_send (call : Call) (next : Reply → Flow σ (Ending α)) :
    pool.perform restoring (.send call next) =
      { pool with
        world := pool.world.send call
        waiting :=
          .sent pool.world.sent.length call next :: pool.waiting } := by
  simp [perform, Flow.stretch, restoringsAfter, threadsAfter, callsOf,
    resultsOf, World.send]

/-- So does wanting a lock. -/
theorem perform_acquire (lock : Lock) (next : Flow σ (Ending α)) :
    pool.perform restoring (.acquire lock next) =
      { pool with waiting := .locking lock next :: pool.waiting } := by
  simp [perform, Flow.stretch, restoringsAfter, threadsAfter, callsOf,
    resultsOf]

/-- Once an engine is restored, everybody knows. -/
theorem perform_over {engine : EngineId} (result : Except Fault Unit)
    (begun : pool.restorings = [(engine, none)]) :
    pool.perform restoring (.done (.restoring engine result)) =
      { pool with restorings := [(engine, some result)] } := by
  simp [perform, Flow.stretch, restoringsAfter, threadsAfter, callsOf,
    resultsOf, begun, Keyed.put]

/-- Waiting for an engine that is being restored, or was. -/
theorem perform_restored {engine : EngineId}
    {status : Option (Except Fault Unit)}
    (next : Except Fault Unit → Flow σ (Ending α))
    (begun : pool.restorings = [(engine, status)]) :
    pool.perform restoring (.restored engine next) =
      { pool with waiting := .awaiting engine next :: pool.waiting } := by
  simp [perform, Flow.stretch, restoringsAfter, threadsAfter, callsOf,
    resultsOf, begun, Keyed.get?]

end Pool

/-- A one-time job for which callers wait. -/
structure Job (σ α : Type) where
  /-- The engine that is restored. -/
  engine : EngineId
  flow : Flow σ Unit
  /-- What a caller does afterwards. -/
  next : Except Fault Unit → Flow σ (Ending α)
  /-- What a caller sees then. -/
  view : Except Fault Unit → σ → Except Fault α
  terms : Terms σ
  /-- How the job ends. -/
  ends : Except Fault Unit → Course σ → Prop

namespace Job

variable {σ β ι α : Type}

/-- All tasks of a scene wait for the job, and then only look at the state.  The
job keeps to its terms, and waits for nobody else. -/
structure Shared (job : Job σ α) (scene : Scene σ β ι α) : Prop where
  restoring : scene.restoring job.engine = job.flow
  waits : ∀ task, scene.thread task = .restored job.engine job.next
  looks : ∀ result state, (job.next result).stretch state =
    { state, changes := [], freed := [],
      halt := .ended (.ok (.task (job.view result state))) }
  live : job.terms.live

/-- What the job does at the moment: the calls that are not answered, what is
left to be done, and how many moves the next stretch is away. -/
inductive Works (job : Job σ α) (course : Course σ) :
    Pending σ (Ending α) → List Call → Flow σ Unit → Nat → Prop where
  | ready {rest : Flow σ Unit} (solo : rest.Solo job.terms job.ends course) :
      job.Works course (.ready (rest.reported (.restoring job.engine)))
        [] rest 2
  | sent {rest : Reply → Flow σ Unit} (number : Nat) (call : Call)
      (solo : ∀ reply,
        (rest reply).Solo job.terms job.ends (course.told call reply)) :
      job.Works course
        (.sent number call fun reply =>
          (rest reply).reported (.restoring job.engine))
        [call] (.send call rest) 1
  | answered {rest : Reply → Flow σ Unit} (number : Nat) (call : Call)
      (reply : Reply)
      (solo : (rest reply).Solo job.terms job.ends
        (course.told call reply)) :
      job.Works course
        (.answered number reply fun reply =>
          (rest reply).reported (.restoring job.engine))
        [call] (.send call rest) 0
  | locking {rest : Flow σ Unit} (lock : Lock) (free : lock ∉ course.held)
      (solo : rest.Solo job.terms job.ends (course.hold lock)) :
      job.Works course
        (.locking lock (rest.reported (.restoring job.engine)))
        [] (.acquire lock rest) 1

/-- Threads that all wait for the job. -/
abbrev AllWait (job : Job σ α) (threads : List (Pending σ (Ending α))) : Prop :=
  ∀ thread ∈ threads, thread = .awaiting job.engine job.next

/-- The job was begun, and nobody knows its end yet. -/
structure Begun (job : Job σ α) (pool : Pool σ β α) (log : List (Call × Reply))
    (unanswered : List Call) : Prop where
  said : pool.world.Said log unanswered
  allowed : ∀ change ∈ pool.changes, job.terms.changes change.1 change.2
  restorings : pool.restorings = [(job.engine, none)]
  results : pool.results = []

/-- Where a pool is with the job: what is left of it, how many moves its next
stretch is away, and how many callers wait. -/
inductive Stage (job : Job σ α) :
    Pool σ β α → Flow σ Unit → Nat → Nat → Prop where
  /-- Nobody asked for it. -/
  | idle (start : σ) (server : β)
      (solo : job.flow.Solo job.terms job.ends
        { state := start, log := [], held := [] }) :
      job.Stage (.fresh start server) job.flow 3 0
  /-- It goes on. -/
  | busy {pool : Pool σ β α} {before after : List (Pending σ (Ending α))}
      {worker : Pending σ (Ending α)} {log : List (Call × Reply)}
      {unanswered : List Call} {rest : Flow σ Unit} {moves : Nat}
      (waits : pool.waiting = before ++ worker :: after)
      (callers : job.AllWait (before ++ after))
      (begun : job.Begun pool log unanswered)
      (works : job.Works
        { state := pool.world.state, log, held := pool.held } worker unanswered
        rest moves) :
      job.Stage pool rest moves (before ++ after).length
  /-- It is over. -/
  | done {pool : Pool σ β α} {log : List (Call × Reply)}
      {result : Except Fault Unit} (last : Flow σ Unit)
      (callers : job.AllWait pool.waiting)
      (said : pool.world.Said log [])
      (allowed : ∀ change ∈ pool.changes, job.terms.changes change.1 change.2)
      (finished : pool.restorings = [(job.engine, some result)])
      (ended : job.ends result
        { state := pool.world.state, log, held := pool.held })
      (results : ∀ seen ∈ pool.results,
        seen = job.view result pool.world.state) :
      job.Stage pool last 0 pool.waiting.length

variable {job : Job σ α}

/-- The job is done by the thread that began to wait last. -/
theorem Stage.first {pool : Pool σ β α}
    {others : List (Pending σ (Ending α))} {worker : Pending σ (Ending α)}
    {log : List (Call × Reply)} {unanswered : List Call}
    {rest : Flow σ Unit} {moves : Nat}
    (waits : pool.waiting = worker :: others) (callers : job.AllWait others)
    (begun : job.Begun pool log unanswered)
    (works : job.Works
      { state := pool.world.state, log, held := pool.held } worker unanswered
      rest moves) : job.Stage pool rest moves others.length :=
  .busy (show _ = [] ++ worker :: others from waits) callers begun works

section Perform

variable {restoring : EngineId → Flow σ Unit} {log : List (Call × Reply)}

/-- A part of the job was performed, and the job is at another part. -/
structure Performed (job : Job σ α) (rest : Flow σ Unit) (callers : Nat)
    (pool : Pool σ β α) : Prop where
  stage : ∃ later moves, Relation.ReflTransGen Flow.Next later rest ∧
    moves ≤ 1 ∧ job.Stage pool later moves callers
  results : pool.results = []

theorem Performed.sooner {rest first : Flow σ Unit} {callers : Nat}
    {pool : Pool σ β α} (sooner : Flow.Next rest first)
    (performed : job.Performed rest callers pool) :
    job.Performed first callers pool := by
  obtain ⟨later, moves, part, few, stage⟩ := performed.stage
  exact ⟨⟨later, moves, part.tail sooner, few, stage⟩, performed.results⟩

/-- The job ends. -/
theorem performed_end (pool : Pool σ β α) (rest : Flow σ Unit)
    (result : Except Fault Unit) (callers : job.AllWait pool.waiting)
    (begun : job.Begun pool log [])
    (ended : job.ends result
      { state := pool.world.state, log, held := pool.held }) :
    job.Performed rest pool.waiting.length
      (pool.perform restoring (.done (.restoring job.engine result))) := by
  rw [Pool.perform_over result begun.restorings]
  refine ⟨⟨rest, 0, .refl, by omega, ?_⟩, begun.results⟩
  exact .done rest callers ⟨begun.said.calls, begun.said.replies⟩ begun.allowed
    rfl ended (by simp [begun.results])

/-- The job goes on to its next wait, or to its end. -/
theorem performed_rest (live : job.terms.live) (rest : Flow σ Unit)
    (pool : Pool σ β α) (callers : job.AllWait pool.waiting)
    (begun : job.Begun pool log [])
    (solo : rest.Solo job.terms job.ends
      { state := pool.world.state, log, held := pool.held }) :
    job.Performed rest pool.waiting.length
      (pool.perform restoring (rest.reported (.restoring job.engine))) := by
  induction rest generalizing pool with
  | done value => exact performed_end pool _ _ callers begun solo
  | fail fault => exact performed_end pool _ _ callers begun solo
  | inspect rest ih =>
      have performed := ih _ pool callers begun solo
      exact performed.sooner (.inspect _ _)
  | update state rest ih =>
      have performed := ih
        { pool with
          world := { pool.world with state }
          changes := pool.changes ++ [(pool.world.state, state)] }
        callers
        { said := ⟨begun.said.calls, begun.said.replies⟩
          allowed := ?_
          restorings := begun.restorings
          results := begun.results } solo.2
      · rw [← Pool.perform_update] at performed
        exact performed.sooner (.update _ _)
      · intro change member
        obtain old | new := List.mem_append.mp member
        · exact begun.allowed change old
        · cases List.mem_singleton.mp new
          exact solo.1
  | send call rest ih =>
      show job.Performed _ _ (pool.perform restoring
        (.send call fun reply =>
          (rest reply).reported (.restoring job.engine)))
      rw [Pool.perform_send]
      refine ⟨⟨_, 1, .refl, Nat.le_refl 1, ?_⟩, begun.results⟩
      refine .first rfl callers { begun with said := ⟨?_, ?_⟩ }
        (.sent _ call solo)
      · simp [World.send, begun.said.calls]
      · exact begun.said.replies
  | acquire lock rest ih =>
      show job.Performed _ _ (pool.perform restoring
        (.acquire lock (rest.reported (.restoring job.engine))))
      rw [Pool.perform_acquire]
      refine ⟨⟨_, 1, .refl, Nat.le_refl 1, ?_⟩, begun.results⟩
      exact .first rfl callers { begun with }
        (.locking lock (solo.1 live) solo.2)
  | release lock rest ih =>
      have performed := ih { pool with held := pool.held.filter (· ≠ lock) }
        callers { begun with } solo
      rw [← Pool.perform_release] at performed
      exact performed.sooner (.release _ _)
  | restored other rest ih => exact absurd live solo

end Perform

section Steps

variable {scene : Scene σ β ι α} {pool later : Pool σ β α}
variable {rest : Flow σ Unit} {moves callers : Nat}

/-- What is left to be done: callers that have not asked, the rest of the job
and the moves up to its next stretch, and callers that wait. -/
abbrev Left (σ : Type) := Nat × (Flow σ Unit × Nat) × Nat

/-- Less is left. -/
def Less : Left σ → Left σ → Prop :=
  Prod.Lex (· < ·)
    (Prod.Lex (Prod.Lex (Relation.TransGen Flow.Next) (· < ·)) (· < ·))

theorem less_wf : WellFounded (Less : Left σ → Left σ → Prop) :=
  wellFounded_lt.prod_lex
    ((Flow.next_wf.transGen.prod_lex wellFounded_lt).prod_lex wellFounded_lt)

/-- The part of a list that differs from all the others is where it is. -/
theorem append_cons_inj {τ : Type} {caller worker other : τ}
    {before after before' after' : List τ}
    (same : before ++ worker :: after = before' ++ other :: after')
    (callers : ∀ thread ∈ before ++ after, thread = caller)
    (different : other ≠ caller) :
    worker = other ∧ before = before' ∧ after = after' := by
  induction before generalizing before' with
  | nil =>
      cases before' with
      | nil =>
          cases same
          exact ⟨rfl, rfl, rfl⟩
      | cons first before' =>
          cases same
          exact absurd (callers other (by simp)) different
  | cons first before ih =>
      cases before' with
      | nil =>
          cases same
          exact absurd (callers _ (by simp)) different
      | cons first' before' =>
          injection same with head tail
          obtain ⟨rfl, rfl, rfl⟩ := ih tail fun thread member =>
            callers thread (List.mem_cons_of_mem _ member)
          exact ⟨rfl, by rw [head], rfl⟩

/-- Only callers wait for an engine. -/
theorem Works.notAwaiting {course : Course σ} {unanswered : List Call}
    {worker : Pending σ (Ending α)}
    (works : job.Works course worker unanswered rest moves) :
    worker.isAwaiting = false := by
  cases works <;> rfl

theorem countP_awaiting {threads : List (Pending σ (Ending α))}
    (callers : job.AllWait threads) :
    threads.countP Pending.isAwaiting = threads.length := by
  rw [List.countP_eq_length]
  intro thread member
  rw [callers thread member]
  rfl

theorem Stage.callers_eq (stage : job.Stage pool rest moves callers) :
    pool.callers = pool.results.length + callers := by
  cases stage with
  | idle start server solo => rfl
  | @busy _ before after worker _ _ _ _ waits callers begun works =>
      have others := countP_awaiting callers
      rw [List.countP_append] at others
      rw [Pool.callers, waits, List.countP_append, List.countP_cons,
        works.notAwaiting, ← others]
      rfl
  | done last callers said allowed finished ended results =>
      rw [Pool.callers, countP_awaiting callers]

/-- What is left to be done for a number of callers. -/
def left (count : Nat) (pool : Pool σ β α) (rest : Flow σ Unit)
    (moves callers : Nat) : Left σ :=
  (count - (pool.results.length + callers), (rest, moves), callers)

/-- A stage with less to be done than before. -/
def Nears (job : Job σ α) (count : Nat) (before : Left σ)
    (pool : Pool σ β α) : Prop :=
  ∃ rest moves callers, job.Stage pool rest moves callers ∧
    Less (left count pool rest moves callers) before

variable {count : Nat}

/-- One caller more waits, and the job goes on as it did. -/
theorem Stage.nears_start (stage : job.Stage pool rest moves callers)
    (more : pool.callers < count) {later : Pool σ β α} {other : Flow σ Unit}
    {number : Nat} (results : later.results.length = pool.results.length)
    (next : job.Stage later other number (callers + 1)) :
    job.Nears count (left count pool rest moves callers) later := by
  refine ⟨other, number, callers + 1, next, .left _ _ ?_⟩
  rw [stage.callers_eq] at more
  omega

/-- One caller more asks. -/
theorem Stage.start (shared : job.Shared scene)
    (stage : job.Stage pool rest moves callers)
    (more : pool.callers < count) (task : ι) :
    job.Nears count (left count pool rest moves callers)
      (pool.perform scene.restoring (scene.thread task)) := by
  rw [shared.waits]
  cases stage with
  | idle start server solo =>
      have begun : (Pool.fresh start server : Pool σ β α).perform
          scene.restoring (.restored job.engine job.next) =
          { Pool.fresh start server with
            restorings := [(job.engine, none)]
            waiting := [.awaiting job.engine job.next,
              .ready (job.flow.reported (.restoring job.engine))] } := by
        rw [← shared.restoring]
        rfl
      rw [begun]
      exact (Stage.idle start server solo).nears_start more rfl
        (.busy (show _ = [.awaiting job.engine job.next] ++ _ :: [] from rfl)
          (fun _ => List.mem_singleton.mp)
          ⟨⟨rfl, rfl⟩, fun _ => nofun, rfl, rfl⟩ (.ready solo))
  | @busy _ before after worker _ _ _ _ waits callers begun works =>
      rw [Pool.perform_restored _ begun.restorings]
      exact Stage.nears_start (.busy waits callers begun works) more rfl
        (.busy (show _ = (.awaiting job.engine job.next :: before) ++
            worker :: after from congrArg _ waits)
          (List.forall_mem_cons.mpr ⟨rfl, callers⟩) { begun with } works)
  | done last callers said allowed finished ended results =>
      rw [Pool.perform_restored _ finished]
      exact Stage.nears_start
        (.done rest callers said allowed finished ended results) more rfl
        (.done rest (List.forall_mem_cons.mpr ⟨rfl, callers⟩) said allowed
          finished ended results)

/-- The next part of the job was performed. -/
theorem Performed.nears {first : Flow σ Unit} {few : Nat}
    (performed : job.Performed first callers later)
    (results : pool.results = [])
    (sooner : ∀ part number, Relation.ReflTransGen Flow.Next part first →
      number ≤ 1 → Prod.Lex (Relation.TransGen Flow.Next) (· < ·)
        (part, number) (rest, few)) :
    job.Nears count (left count pool rest few callers) later := by
  obtain ⟨⟨part, number, within, small, stage⟩, none⟩ := performed
  refine ⟨part, number, callers, stage, ?_⟩
  unfold left
  rw [none, results]
  exact .right _ (.left _ _ (sooner part number within small))

/-- A stage in which some thread does not wait for the engine: the job goes on,
and that thread does it. -/
theorem Stage.busy_of {before after : List (Pending σ (Ending α))}
    {worker : Pending σ (Ending α)}
    (stage : job.Stage pool rest moves callers)
    (waits : pool.waiting = before ++ worker :: after)
    (silent : worker.isAwaiting = false) :
    job.AllWait (before ++ after) ∧ callers = (before ++ after).length ∧
      ∃ log unanswered, job.Begun pool log unanswered ∧
        job.Works { state := pool.world.state, log, held := pool.held } worker
          unanswered rest moves := by
  have different : worker ≠ .awaiting job.engine job.next := by
    rintro rfl
    cases silent
  cases stage with
  | idle start server solo => simp [Pool.fresh] at waits
  | busy waits' callers begun works =>
      rw [waits'] at waits
      obtain ⟨rfl, rfl, rfl⟩ := append_cons_inj waits callers different
      exact ⟨callers, rfl, _, _, begun, works⟩
  | done last callers said allowed finished ended results =>
      exact absurd (callers worker (by simp [waits])) different

/-- The job begins. -/
theorem Stage.begin (shared : job.Shared scene)
    (stage : job.Stage pool rest moves callers)
    {before after : List (Pending σ (Ending α))} {flow : Flow σ (Ending α)}
    (waits : pool.waiting = before ++ .ready flow :: after) :
    job.Nears count (left count pool rest moves callers)
      ({ pool with waiting := before ++ after }.perform scene.restoring
        flow) := by
  obtain ⟨alike, rfl, log, _, begun, works⟩ := stage.busy_of waits rfl
  cases works with
  | ready solo =>
      apply (performed_rest shared.live rest
        { pool with waiting := before ++ after } alike { begun with }
        solo).nears begun.results
      intro part number within small
      obtain rfl | sooner := Relation.reflTransGen_iff_eq_or_transGen.mp within
      · exact .right _ (by omega)
      · exact .left _ _ sooner

/-- The job takes a lock. -/
theorem Stage.lock (shared : job.Shared scene)
    (stage : job.Stage pool rest moves callers)
    {before after : List (Pending σ (Ending α))} {lock : Lock}
    {flow : Flow σ (Ending α)}
    (waits : pool.waiting = before ++ .locking lock flow :: after) :
    job.Nears count (left count pool rest moves callers)
      ({ pool with
          held := lock :: pool.held
          waiting := before ++ after }.perform scene.restoring flow) := by
  obtain ⟨alike, rfl, log, _, begun, works⟩ := stage.busy_of waits rfl
  cases works with
  | @locking rest _ free solo =>
      apply (performed_rest shared.live rest
        { pool with
          held := lock :: pool.held
          waiting := before ++ after } alike { begun with }
        solo).nears begun.results
      intro part number within small
      exact .left _ _ (.tail' within (.acquire lock rest))

/-- The backend handles a call of the job. -/
theorem Stage.handle (stage : job.Stage pool rest moves callers)
    {before after : List (Pending σ (Ending α))} {number : Nat} {call : Call}
    {flow : Reply → Flow σ (Ending α)} {reply : Reply} {server : β}
    (waits : pool.waiting = before ++ .sent number call flow :: after) :
    job.Nears count (left count pool rest moves callers)
      { pool with
        server
        handled := pool.handled ++ [(number, reply)]
        waiting := before ++ .answered number reply flow :: after } := by
  obtain ⟨alike, rfl, log, _, begun, works⟩ := stage.busy_of waits rfl
  cases works with
  | @sent rest _ _ solo =>
      refine ⟨.send call rest, 0, (before ++ after).length, ?_,
        .right _ (.left _ _ (.right _ Nat.zero_lt_one))⟩
      exact .busy rfl alike { begun with }
        (.answered number call reply (solo reply))

/-- The reply reaches the job. -/
theorem Stage.deliver (shared : job.Shared scene)
    (stage : job.Stage pool rest moves callers)
    {before after : List (Pending σ (Ending α))} {number : Nat}
    {flow : Reply → Flow σ (Ending α)} {reply : Reply}
    (waits : pool.waiting = before ++ .answered number reply flow :: after) :
    job.Nears count (left count pool rest moves callers)
      ({ pool with
          world := pool.world.deliver number reply
          waiting := before ++ after }.perform scene.restoring
        (flow reply)) := by
  obtain ⟨alike, rfl, log, _, begun, works⟩ := stage.busy_of waits rfl
  cases works with
  | @answered rest _ call _ solo =>
      have heard : (pool.world.deliver number reply).Said
          (log ++ [(call, reply)]) [] :=
        ⟨by simp [World.deliver, begun.said.calls],
          by simp [World.deliver, begun.said.replies]⟩
      apply (performed_rest shared.live (rest reply)
        { pool with
          world := pool.world.deliver number reply
          waiting := before ++ after } alike { begun with said := heard }
        solo).nears begun.results
      intro part number within small
      exact .left _ _ (.tail' within (.send call rest reply))

/-- A caller gets to see how the job ended. -/
theorem Stage.learn (shared : job.Shared scene)
    (stage : job.Stage pool rest moves callers)
    {before after : List (Pending σ (Ending α))} {engine : EngineId}
    {next : Except Fault Unit → Flow σ (Ending α)} {result : Except Fault Unit}
    (waits : pool.waiting = before ++ .awaiting engine next :: after)
    (known : Keyed.get? engine pool.restorings = some (some result)) :
    job.Nears count (left count pool rest moves callers)
      ({ pool with waiting := before ++ after }.perform scene.restoring
        (next result)) := by
  cases stage with
  | idle start server solo => simp [Pool.fresh] at waits
  | busy waits' callers begun works =>
      rw [begun.restorings] at known
      simp only [Keyed.get?] at known
      split at known <;> cases known
  | @done _ log ended' _ callers said allowed finished ended results =>
      have same : Pending.awaiting engine next =
          .awaiting job.engine job.next := callers _ (by simp [waits])
      injection same with here looks
      subst here looks
      obtain rfl : ended' = result := by
        rw [finished] at known
        simpa [Keyed.get?] using known
      have seen : ({ pool with waiting := before ++ after } :
          Pool σ β α).perform scene.restoring (job.next ended') =
          { pool with
            waiting := before ++ after
            results := pool.results ++
              [job.view ended' pool.world.state] } := by
        simp [Pool.perform, shared.looks, Pool.callsOf, Pool.restoringsAfter,
          Pool.threadsAfter, Pool.resultsOf]
      rw [seen]
      refine ⟨rest, 0, (before ++ after).length,
        .done rest ?_ said allowed finished ended ?_, ?_⟩
      · intro thread member
        apply callers thread
        simp only [waits, List.mem_append, List.mem_cons] at member ⊢
        tauto
      · intro other member
        obtain old | new := List.mem_append.mp member
        · exact results other old
        · exact List.mem_singleton.mp new
      · have length : pool.waiting.length = (before ++ after).length + 1 := by
          simp [waits, Nat.add_assoc]
        unfold left
        rw [length, List.length_append, List.length_singleton,
          Nat.add_right_comm, Nat.add_assoc]
        exact .right _ (.right _ (Nat.lt_succ_self _))

/-- Whatever happens, the job is at some stage, and less is left to be done. -/
theorem Stage.step (shared : job.Shared scene)
    (limited : ∀ pool task, scene.admits pool task → pool.callers < count)
    (stage : job.Stage pool rest moves callers)
    (step : scene.Step pool later) :
    job.Nears count (left count pool rest moves callers) later := by
  cases step with
  | start task admitted => exact stage.start shared (limited _ _ admitted) task
  | begin before after waits => exact stage.begin shared waits
  | handle before after server waits served => exact stage.handle waits
  | deliver before after waits => exact stage.deliver shared waits
  | lock before after waits free => exact stage.lock shared waits
  | learn before after waits known => exact stage.learn shared waits known

/-- In every state that a run reaches, the job is at some stage. -/
theorem Stage.of_reach (shared : job.Shared scene)
    (limited : ∀ pool task, scene.admits pool task → pool.callers < count)
    {start : Pool σ β α} (stage : ∃ rest moves callers,
      job.Stage start rest moves callers)
    (reached : scene.Reach start pool) :
    ∃ rest moves callers, job.Stage pool rest moves callers := by
  induction reached with
  | refl => exact stage
  | step before step ih =>
      obtain ⟨rest, moves, callers, stage⟩ := ih
      obtain ⟨rest, moves, callers, stage, -⟩ := stage.step shared limited step
      exact ⟨rest, moves, callers, stage⟩

/-- Every run ends, however many callers ask. -/
theorem Stage.acc (shared : job.Shared scene)
    (limited : ∀ pool task, scene.admits pool task → pool.callers < count)
    (stage : job.Stage pool rest moves callers) :
    Acc (fun later pool => scene.Step pool later) pool := by
  generalize same : left count pool rest moves callers = size
  induction size using less_wf.induction
    generalizing pool rest moves callers with
  | _ size ih =>
      refine ⟨_, fun later step => ?_⟩
      obtain ⟨rest, moves, callers, next, less⟩ :=
        stage.step shared limited step
      exact ih _ (same ▸ less) next rfl

/-- The job keeps to its terms. -/
theorem Stage.allowed (stage : job.Stage pool rest moves callers) :
    ∀ change ∈ pool.changes, job.terms.changes change.1 change.2 := by
  cases stage with
  | idle start server solo => exact fun _ => nofun
  | busy waits callers begun works => exact begun.allowed
  | done last callers said allowed finished ended results => exact allowed

/-- As long as somebody waits, something can happen. -/
theorem Stage.goesOn (answers : ∀ server call,
      ∃ reply after, scene.serves server call reply after)
    (stage : job.Stage pool rest moves callers) (waits : pool.waiting ≠ []) :
    ∃ later, scene.Step pool later := by
  cases stage with
  | idle start server solo => exact absurd rfl waits
  | @busy _ before after worker _ _ _ _ waits callers begun works =>
      cases works with
      | ready solo => exact ⟨_, .begin before after waits⟩
      | sent number call solo =>
          obtain ⟨reply, server, served⟩ := answers pool.server call
          exact ⟨_, .handle before after server waits served⟩
      | answered number call reply solo =>
          exact ⟨_, .deliver before after waits⟩
      | locking lock free solo => exact ⟨_, .lock before after waits free⟩
  | @done _ _ result _ callers said allowed finished ended results =>
      obtain ⟨first, others, waits⟩ := List.exists_cons_of_ne_nil waits
      obtain rfl := callers first (by simp [waits])
      have known : Keyed.get? job.engine pool.restorings =
          some (some result) := by
        simp [finished, Keyed.get?]
      exact ⟨_, .learn [] others waits known⟩

end Steps

section Forecast

variable {pool : Pool σ β α} {rest : Flow σ Unit} {moves callers : Nat}

/-- An end of the job that a pool can still come to, or has come to. -/
structure Foretells (job : Job σ α) (pool : Pool σ β α)
    (result : Except Fault Unit) (last : Course σ) : Prop where
  ends : job.ends result last
  calls : pool.world.sent.map Prod.snd <+: last.log.map Prod.fst
  replies : pool.world.delivered.map Prod.snd <+: last.log.map Prod.snd
  finished : ∀ known,
    Keyed.get? job.engine pool.restorings = some (some known) →
      known = result ∧ pool.world.state = last.state ∧
        pool.world.sent.map Prod.snd = last.log.map Prod.fst ∧
        pool.world.delivered.map Prod.snd = last.log.map Prod.snd
  results : ∀ seen ∈ pool.results,
    Keyed.get? job.engine pool.restorings = some (some result) ∧
      seen = job.view result last.state

/-- The job can be run to an end that fits what was said so far. -/
theorem Works.exists_end (live : job.terms.live) {course : Course σ}
    {worker : Pending σ (Ending α)} {unanswered : List Call}
    (works : job.Works course worker unanswered rest moves) :
    ∃ result last, job.ends result last ∧
      course.log.map Prod.fst ++ unanswered <+: last.log.map Prod.fst ∧
      course.log.map Prod.snd <+: last.log.map Prod.snd := by
  have fits {call : Call} {reply : Reply} {last : Course σ}
      (grown : course.log ++ [(call, reply)] <+: last.log) :
      course.log.map Prod.fst ++ [call] <+: last.log.map Prod.fst ∧
        course.log.map Prod.snd <+: last.log.map Prod.snd := by
    have calls := grown.map Prod.fst
    have replies := grown.map Prod.snd
    rw [List.map_append] at calls replies
    exact ⟨calls, (List.prefix_append _ _).trans replies⟩
  cases works with
  | ready solo =>
      obtain ⟨result, last, ended, grown⟩ := solo.exists_end live
      refine ⟨result, last, ended, ?_, grown.map _⟩
      rw [List.append_nil]
      exact grown.map _
  | sent number call solo =>
      obtain ⟨result, last, ended, grown⟩ := (solo .timeout).exists_end live
      exact ⟨result, last, ended, fits grown⟩
  | answered number call reply solo =>
      obtain ⟨result, last, ended, grown⟩ := solo.exists_end live
      exact ⟨result, last, ended, fits grown⟩
  | locking lock free solo =>
      obtain ⟨result, last, ended, grown⟩ := solo.exists_end live
      refine ⟨result, last, ended, ?_, grown.map _⟩
      rw [List.append_nil]
      exact grown.map _

/-- At every stage, an end of the job is foretold. -/
theorem Stage.foretells (live : job.terms.live)
    (stage : job.Stage pool rest moves callers) :
    ∃ result last, job.Foretells pool result last := by
  cases stage with
  | idle start server solo =>
      obtain ⟨result, last, ended, grown⟩ := solo.exists_end live
      refine ⟨result, last, ended, List.nil_prefix, List.nil_prefix, ?_, ?_⟩
      · rintro _ ⟨⟩
      · exact List.forall_mem_nil _
  | busy waits callers begun works =>
      obtain ⟨result, last, ended, calls, replies⟩ := works.exists_end live
      refine ⟨result, last, ended, begun.said.calls ▸ calls,
        begun.said.replies ▸ replies, ?_, ?_⟩
      · intro known found
        simp [begun.restorings, Keyed.get?] at found
      · rw [begun.results]
        exact List.forall_mem_nil _
  | @done _ log result _ callers said allowed finished ended results =>
      have calls := said.calls
      rw [List.append_nil] at calls
      refine ⟨result, _, ended, calls ▸ List.prefix_rfl,
        said.replies ▸ List.prefix_rfl, ?_, ?_⟩
      · intro known found
        simp only [finished, Keyed.get?, if_true, Option.some.injEq] at found
        exact ⟨found.symm, rfl, calls, said.replies⟩
      · intro seen member
        exact ⟨by simp [finished, Keyed.get?], results seen member⟩

end Forecast

end Job
end Audience
