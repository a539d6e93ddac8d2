import Audience.Flow.Machine

/-!
# Who causes a call

A call is caused by the task whose thread sends it or, when it is sent to
restore an engine, by the task that first waited for that engine.  A ledger is a
machine that keeps account of this.  Every call carries the correlation of the
task that caused it, and a task ends in a way in which its flow can end.
-/

namespace Audience

/-- What a call carries of the identifiers that it is sent under. -/
def Trace.carried (trace : Trace) : Option String :=
  if trace.correlation = "" then Option.none else some trace.correlation

theorem Trace.carried_of_ne {trace : Trace} (named : trace.correlation ≠ "") :
    trace.carried = some trace.correlation := if_neg named

namespace Flow

variable {σ α β : Type} {result : Except Fault α}

/-- A flow can end with a result, given the right states and the right answers
at its waits. -/
def CanEnd (result : Except Fault α) (flow : Flow σ α) : Prop :=
  match flow with
  | done value => result = .ok value
  | fail fault => result = .error fault
  | inspect next => ∃ state, (next state).CanEnd result
  | update _ next => next.CanEnd result
  | send _ next => ∃ reply, (next reply).CanEnd result
  | acquire _ next => next.CanEnd result
  | release _ next => next.CanEnd result
  | restored _ next => ∃ restoring, (next restoring).CanEnd result

/-- Two flows in a row end as the second one does, or with the fault of the
first. -/
theorem CanEnd.of_bind {flow : Flow σ β} {rest : β → Flow σ α}
    (ends : (flow.bind rest).CanEnd result) :
    (∃ value, flow.CanEnd (.ok value) ∧ (rest value).CanEnd result) ∨
      ∃ fault, flow.CanEnd (.error fault) ∧ result = .error fault := by
  induction flow with
  | done value => exact .inl ⟨value, rfl, ends⟩
  | fail fault => exact .inr ⟨fault, rfl, ends⟩
  | inspect next ih =>
      obtain ⟨state, ends⟩ := ends
      exact (ih state ends).imp
        (fun ⟨value, first, second⟩ => ⟨value, ⟨state, first⟩, second⟩)
        (fun ⟨fault, first, same⟩ => ⟨fault, ⟨state, first⟩, same⟩)
  | update _ next ih => exact ih ends
  | send _ next ih =>
      obtain ⟨reply, ends⟩ := ends
      exact (ih reply ends).imp
        (fun ⟨value, first, second⟩ => ⟨value, ⟨reply, first⟩, second⟩)
        (fun ⟨fault, first, same⟩ => ⟨fault, ⟨reply, first⟩, same⟩)
  | acquire _ next ih => exact ih ends
  | release _ next ih => exact ih ends
  | restored _ next ih =>
      obtain ⟨learnt, ends⟩ := ends
      exact (ih learnt ends).imp
        (fun ⟨value, first, second⟩ => ⟨value, ⟨learnt, first⟩, second⟩)
        (fun ⟨fault, first, same⟩ => ⟨fault, ⟨learnt, first⟩, same⟩)

/-- What follows the end of a flow ends after one of its ends. -/
theorem CanEnd.of_finish {flow : Flow σ β} {rest : Except Fault β → Flow σ α}
    (ends : (flow.finish rest).CanEnd result) :
    ∃ first, (rest first).CanEnd result := by
  induction flow with
  | done value => exact ⟨_, ends⟩
  | fail fault => exact ⟨_, ends⟩
  | inspect next ih => exact ih _ ends.choose_spec
  | update _ next ih => exact ih ends
  | send _ next ih => exact ih _ ends.choose_spec
  | acquire _ next ih => exact ih ends
  | release _ next ih => exact ih ends
  | restored _ next ih => exact ih _ ends.choose_spec

end Flow

variable {σ α β : Type}

/-- How a thread that is ready can end. -/
def Resume.CanEnd (result : Except Fault β) : Resume σ β → Prop
  | .flow rest => rest.CanEnd result
  | .reply _ next => ∃ reply, (next reply).CanEnd result

/-- How a thread that waits can end. -/
def Wait.CanEnd (result : Except Fault β) : Wait σ β → Prop
  | .gate _ _ next => ∃ reply, (next reply).CanEnd result
  | .lock _ next => next.CanEnd result
  | .restored _ next => ∃ restoring, (next restoring).CanEnd result

/-- How a thread that has stopped can end. -/
def Stop.CanEnd (result : Except Fault β) : Stop σ β → Prop
  | .ended last => result = last
  | .waiting wait => wait.CanEnd result

namespace Thread

/-- The identifiers that a thread runs under. -/
def trace : Thread σ α next → Trace
  | .task _ trace _ => trace
  | .restoring _ trace _ => trace

/-- The task that a thread runs for, given who started to restore engines. -/
def owner (starters : EngineId → Nat) : Thread σ α next → Nat
  | .task number _ _ => number
  | .restoring engine _ _ => starters engine

end Thread

/-- A task as it was started: the identifiers that it runs under and its
flow. -/
abbrev Started (σ α : Type) := Trace × Flow σ α

namespace Machine

/-- The restoring of an engine has begun. -/
def Begun (machine : Machine σ α) (engine : EngineId) : Prop :=
  (Keyed.get? engine machine.restorings).isSome

instance (machine : Machine σ α) (engine : EngineId) :
    Decidable (machine.Begun engine) :=
  inferInstanceAs (Decidable (_ = true))

/-- What has begun is not forgotten. -/
theorem begun_put (machine : Machine σ α) (engine : EngineId)
    (learnt : Option (Except Fault Unit)) (other : EngineId)
    (begun : machine.Begun other) :
    { machine with
      restorings := Keyed.put engine learnt machine.restorings }.Begun other := by
  by_cases same : other = engine
  · rw [same, Begun, Keyed.get?_put_self]
    rfl
  · rwa [Begun, Keyed.get?_put_of_ne same]

/-- A thread runs for a task that was started and under its identifiers.  It
ends as the flow of the task can end, or restores an engine. -/
def Belongs (canEnd : {β : Type} → Except Fault β → next σ β → Prop)
    (tasks : List (Started σ α)) (starters : EngineId → Nat)
    (begun : EngineId → Prop) (thread : Thread σ α next) : Prop :=
  ∃ flow, tasks[thread.owner starters]? = some (thread.trace, flow) ∧
    match thread with
    | .task _ _ rest => ∀ result, canEnd result rest → flow.CanEnd result
    | .restoring engine _ _ => begun engine

/-- All threads of a machine belong to tasks, and the results are ends of their
flows. -/
structure Staffed (tasks : List (Started σ α)) (starters : EngineId → Nat)
    (machine : Machine σ α) : Prop where
  ready : ∀ thread ∈ machine.ready,
    Belongs Resume.CanEnd tasks starters machine.Begun thread
  parked : ∀ thread ∈ machine.parked,
    Belongs Wait.CanEnd tasks starters machine.Begun thread
  results : ∀ number result,
    Keyed.get? number machine.results = some result →
      ∃ trace flow, tasks[number]? = some (trace, flow) ∧ flow.CanEnd result

/-- Threads go on only towards ends that they can come to. -/
def Faithful (go : {β : Type} → Wait σ β → Option (Resume σ β)) : Prop :=
  ∀ {β : Type} {wait : Wait σ β} {resume : Resume σ β} {result},
    go wait = some resume → resume.CanEnd result → wait.CanEnd result

theorem faithful_withLock (lock : Lock) :
    Faithful (σ := σ) (withLock lock) := by
  intro β wait resume result gone ends
  cases wait with
  | gate gate call next => simp [withLock] at gone
  | restored engine next => simp [withLock] at gone
  | lock wanted next =>
      simp only [withLock, Option.ite_none_right_eq_some,
        Option.some.injEq] at gone
      obtain ⟨-, rfl⟩ := gone
      exact ends

theorem faithful_throughGate (opened : String) :
    Faithful (σ := σ) (throughGate opened) := by
  intro β wait resume result gone ends
  cases wait with
  | lock wanted next => simp [throughGate] at gone
  | restored engine next => simp [throughGate] at gone
  | gate gate call next =>
      simp only [throughGate, Option.ite_none_right_eq_some,
        Option.some.injEq] at gone
      obtain ⟨-, rfl⟩ := gone
      exact ends

theorem faithful_afterRestoring (engine : EngineId)
    (learnt : Except Fault Unit) :
    Faithful (σ := σ) (afterRestoring engine learnt) := by
  intro β wait resume result gone ends
  cases wait with
  | lock wanted next => simp [afterRestoring] at gone
  | gate gate call next => simp [afterRestoring] at gone
  | restored awaited next =>
      simp only [afterRestoring, Option.ite_none_right_eq_some,
        Option.some.injEq] at gone
      obtain ⟨-, rfl⟩ := gone
      exact ⟨learnt, ends⟩

/-- Who is woken was parked, and who stays parked was so before. -/
theorem mem_wake (onlyFirst : Bool)
    (pick : Thread σ α Wait → Option (Thread σ α Resume))
    (threads : List (Thread σ α Wait)) :
    (∀ thread ∈ (wake onlyFirst pick threads).1, thread ∈ threads) ∧
      ∀ resumed ∈ (wake onlyFirst pick threads).2,
        ∃ thread ∈ threads, pick thread = some resumed := by
  induction threads with
  | nil => simp [wake]
  | cons thread rest ih =>
      obtain ⟨stay, go⟩ := ih
      have further : ∀ resumed ∈ (wake onlyFirst pick rest).2,
          ∃ other ∈ thread :: rest, pick other = some resumed :=
        fun resumed woken =>
          let ⟨other, member, picked⟩ := go resumed woken
          ⟨other, List.mem_cons_of_mem _ member, picked⟩
      cases picked : pick thread with
      | none =>
          simp only [wake, picked]
          refine ⟨?_, further⟩
          rintro other (_ | ⟨_, member⟩)
          · exact List.mem_cons_self
          · exact List.mem_cons_of_mem _ (stay other member)
      | some resumed =>
          have first : ∃ other ∈ thread :: rest, pick other = some resumed :=
            ⟨thread, List.mem_cons_self, picked⟩
          cases onlyFirst with
          | true =>
              simp only [wake, picked, if_true, List.mem_singleton]
              exact ⟨fun _ => List.mem_cons_of_mem _, by rintro _ rfl; exact first⟩
          | false =>
              simp only [wake, picked, Bool.false_eq_true, if_false]
              refine ⟨fun other member =>
                List.mem_cons_of_mem _ (stay other member), ?_⟩
              rintro other (_ | ⟨_, member⟩)
              · exact first
              · exact further other member

variable {tasks : List (Started σ α)} {starters : EngineId → Nat}
  {machine : Machine σ α}

namespace Staffed

/-- A thread that goes on belongs to the same task. -/
theorem resume {go : {β : Type} → Wait σ β → Option (Resume σ β)}
    (faithful : Faithful go) {begun : EngineId → Prop}
    {thread : Thread σ α Wait} {resumed : Thread σ α Resume}
    (gone : Thread.resume? go thread = some resumed)
    (belongs : Belongs Wait.CanEnd tasks starters begun thread) :
    Belongs Resume.CanEnd tasks starters begun resumed := by
  cases thread with
  | task number trace wait =>
      simp only [Thread.resume?, Option.map_eq_some_iff] at gone
      obtain ⟨resume, went, rfl⟩ := gone
      obtain ⟨flow, started, ends⟩ := belongs
      exact ⟨flow, started, fun result canEnd =>
        ends result (faithful went canEnd)⟩
  | restoring engine trace wait =>
      simp only [Thread.resume?, Option.map_eq_some_iff] at gone
      obtain ⟨resume, -, rfl⟩ := gone
      exact belongs

theorem wakeThreads {onlyFirst : Bool}
    {go : {β : Type} → Wait σ β → Option (Resume σ β)}
    (faithful : Faithful go) (staffed : machine.Staffed tasks starters) :
    (machine.wakeThreads onlyFirst go).Staffed tasks starters := by
  obtain ⟨stay, woken⟩ :=
    mem_wake onlyFirst (Thread.resume? go) machine.parked
  refine ⟨?_, fun thread member => staffed.parked thread (stay thread member),
    staffed.results⟩
  intro thread member
  obtain member | member := List.mem_append.mp member
  · exact staffed.ready thread member
  · obtain ⟨parked, among, gone⟩ := woken thread member
    exact resume faithful gone (staffed.parked parked among)

theorem giveBack (lock : Lock) (staffed : machine.Staffed tasks starters) :
    (machine.giveBack lock).Staffed tasks starters := by
  unfold Machine.giveBack
  split
  · exact staffed.wakeThreads (faithful_withLock lock)
  · exact ⟨staffed.ready, staffed.parked, staffed.results⟩

/-- A thread belongs to its task also when more restorings have begun. -/
theorem belongs_mono {next : Type → Type → Type}
    {canEnd : {β : Type} → Except Fault β → next σ β → Prop}
    {before after : EngineId → Prop} (more : ∀ engine, before engine → after engine)
    {thread : Thread σ α next}
    (belongs : Belongs canEnd tasks starters before thread) :
    Belongs canEnd tasks starters after thread := by
  cases thread with
  | task number trace rest => exact belongs
  | restoring engine trace rest =>
      exact belongs.imp fun flow started => ⟨started.1, more _ started.2⟩

/-- It does so when more tasks have started, too, and whoever is said to have
started what has not begun. -/
theorem belongs_congr {next : Type → Type → Type}
    {canEnd : {β : Type} → Except Fault β → next σ β → Prop}
    {begun : EngineId → Prop} {tasks' : List (Started σ α)}
    {starters' : EngineId → Nat}
    (kept : ∀ (number : Nat) task, tasks[number]? = some task →
      tasks'[number]? = some task)
    (same : ∀ engine, begun engine → starters' engine = starters engine)
    {thread : Thread σ α next}
    (belongs : Belongs canEnd tasks starters begun thread) :
    Belongs canEnd tasks' starters' begun thread := by
  obtain ⟨flow, started, ends⟩ := belongs
  cases thread with
  | task number trace rest => exact ⟨flow, kept _ _ started, ends⟩
  | restoring engine trace rest =>
      refine ⟨flow, kept _ _ ?_, ends⟩
      rw [Thread.owner, same engine ends]
      exact started

theorem congr {tasks' : List (Started σ α)} {starters' : EngineId → Nat}
    (kept : ∀ (number : Nat) task, tasks[number]? = some task →
      tasks'[number]? = some task)
    (same : ∀ engine, machine.Begun engine →
      starters' engine = starters engine)
    (staffed : machine.Staffed tasks starters) :
    machine.Staffed tasks' starters' :=
  ⟨fun thread member => belongs_congr kept same (staffed.ready thread member),
    fun thread member => belongs_congr kept same (staffed.parked thread member),
    fun number result found =>
      let ⟨trace, flow, started, ends⟩ := staffed.results number result found
      ⟨trace, flow, kept _ _ started, ends⟩⟩

/-- A thread that has to wait for the restoring of an engine starts it for its
own task. -/
theorem begin {trace : Trace} {flow : Flow σ α} {engine : EngineId}
    (restoring : Flow σ Unit)
    (started : tasks[starters engine]? = some (trace, flow))
    (staffed : machine.Staffed tasks starters) :
    { machine with
      ready := machine.ready ++ [.restoring engine trace (.flow restoring)]
      restorings := Keyed.put engine none machine.restorings
      : Machine σ α }.Staffed tasks starters := by
  have more := begun_put machine engine none
  refine ⟨?_, fun thread member => belongs_mono more (staffed.parked thread member),
    staffed.results⟩
  intro thread member
  obtain member | member := List.mem_append.mp member
  · exact belongs_mono more (staffed.ready thread member)
  · obtain rfl := List.mem_singleton.mp member
    refine ⟨flow, started, ?_⟩
    simp only [Begun, Keyed.get?_put_self, Option.isSome_some]

end Staffed

@[simp] theorem begun_giveBack (lock : Lock) :
    (machine.giveBack lock).Begun = machine.Begun := by
  unfold giveBack
  split <;> rfl

theorem begun_run (restoring : EngineId → Flow σ Unit) (trace : Trace)
    (flow : Flow σ β) {engine : EngineId} (begun : machine.Begun engine) :
    (machine.run restoring trace flow).1.Begun engine := by
  induction flow generalizing machine with
  | done value => exact begun
  | fail fault => exact begun
  | inspect next ih => exact ih _ begun
  | update state next ih => exact @ih { machine with state } begun
  | send call next ih =>
      simp only [Machine.run]
      split
      · exact begun
      · exact ih _ begun
  | acquire lock next ih =>
      simp only [Machine.run]
      split
      · exact begun
      · exact @ih { machine with held := lock :: machine.held } begun
  | release lock next ih =>
      refine @ih (machine.giveBack lock) ?_
      rwa [begun_giveBack]
  | restored other next ih =>
      simp only [Machine.run]
      split
      · exact ih _ begun
      · exact begun
      · exact begun_put _ other none engine begun

/-- What a thread does in one go, for the task that it belongs to. -/
theorem Staffed.run {restoring : EngineId → Flow σ Unit} {trace : Trace}
    {owner : Nat} {whole : Flow σ α}
    (started : tasks[owner]? = some (trace, whole)) (flow : Flow σ β)
    (starts : ∀ engine, ¬machine.Begun engine → starters engine = owner)
    (staffed : machine.Staffed tasks starters) :
    (machine.run restoring trace flow).1.Staffed tasks starters := by
  induction flow generalizing machine with
  | done value => exact staffed
  | fail fault => exact staffed
  | inspect next ih => exact ih machine.state starts staffed
  | update state next ih =>
      exact @ih { machine with state } starts
        ⟨staffed.ready, staffed.parked, staffed.results⟩
  | send call next ih =>
      have same : ∀ memory received,
          { machine with memory, received : Machine σ α }.Staffed tasks
            starters :=
        fun _ _ => ⟨staffed.ready, staffed.parked, staffed.results⟩
      simp only [Machine.run]
      split
      · exact same _ _
      · exact ih _ starts (same _ _)
  | acquire lock next ih =>
      simp only [Machine.run]
      split
      · exact staffed
      · exact @ih { machine with held := lock :: machine.held }
          starts ⟨staffed.ready, staffed.parked, staffed.results⟩
  | release lock next ih =>
      refine @ih (machine.giveBack lock) ?_ (staffed.giveBack lock)
      simpa using starts
  | restored engine next ih =>
      simp only [Machine.run]
      split
      · exact ih _ starts staffed
      · exact staffed
      · rename_i unknown
        apply staffed.begin
        rw [starts engine (by simp [Begun, unknown])]
        exact started

/-- A thread stops where its flow can get to. -/
theorem canEnd_of_run {restoring : EngineId → Flow σ Unit} {trace : Trace}
    {flow : Flow σ β} {result : Except Fault β}
    (ends : (machine.run restoring trace flow).2.CanEnd result) :
    flow.CanEnd result := by
  induction flow generalizing machine with
  | done value => exact ends
  | fail fault => exact ends
  | inspect next ih => exact ⟨_, ih _ ends⟩
  | update state next ih => exact ih ends
  | send call next ih =>
      simp only [Machine.run] at ends
      split at ends
      · exact ends
      · exact ⟨_, ih _ ends⟩
  | acquire lock next ih =>
      simp only [Machine.run] at ends
      split at ends
      · exact ends
      · exact ih ends
  | release lock next ih => exact ih ends
  | restored engine next ih =>
      simp only [Machine.run] at ends
      split at ends
      · exact ⟨_, ih _ ends⟩
      · exact ends
      · exact ends

/-- The backend receives the calls of a thread under the correlation that the
thread runs under. -/
theorem received_run (restoring : EngineId → Flow σ Unit) (trace : Trace)
    (flow : Flow σ β) (machine : Machine σ α) :
    ∃ calls, (machine.run restoring trace flow).1.received =
        machine.received ++ calls ∧
      ∀ received ∈ calls, received.correlation = trace.carried := by
  induction flow generalizing machine with
  | done value => exact ⟨[], by simp [Machine.run], by simp⟩
  | fail fault => exact ⟨[], by simp [Machine.run], by simp⟩
  | inspect next ih => exact ih _ machine
  | update state next ih => exact ih { machine with state }
  | send call next ih =>
      simp only [Machine.run]
      split
      · exact ⟨[{ call, correlation := trace.carried }], rfl, by simp⟩
      · obtain ⟨calls, whole, carried⟩ := ih _ _
        refine ⟨{ call, correlation := trace.carried } :: calls, ?_, ?_⟩
        · rw [whole]
          simp [receive, Trace.carried]
        · simpa using carried
  | acquire lock next ih =>
      simp only [Machine.run]
      split
      · exact ⟨[], by simp, by simp⟩
      · exact ih { machine with held := lock :: machine.held }
  | release lock next ih =>
      obtain ⟨calls, whole, carried⟩ := ih (machine.giveBack lock)
      refine ⟨calls, ?_, carried⟩
      have same : (machine.giveBack lock).received = machine.received := by
        unfold giveBack
        split <;> rfl
      rw [← same]
      exact whole
  | restored engine next ih =>
      simp only [Machine.run]
      split
      · exact ih _ machine
      · exact ⟨[], by simp, by simp⟩
      · exact ⟨[], by simp, by simp⟩

/-- A thread that is ready goes on from what the backend answers, if it was
held back. -/
theorem goOn_eq_run (restoring : EngineId → Flow σ Unit) (trace : Trace)
    (resume : Resume σ β) (machine : Machine σ α) :
    ∃ memory flow, machine.goOn restoring trace resume =
        { machine with memory }.run restoring trace flow ∧
      ∀ result, flow.CanEnd result → resume.CanEnd result := by
  cases resume with
  | flow flow => exact ⟨machine.memory, flow, rfl, fun _ => id⟩
  | reply call next => exact ⟨_, _, rfl, fun _ ends => ⟨_, ends⟩⟩

section Step

variable {restoring : EngineId → Flow σ Unit} {thread : Thread σ α Resume}
  {rest : List (Thread σ α Resume)}

theorem begun_goOn (trace : Trace) (resume : Resume σ β) {engine : EngineId}
    (begun : machine.Begun engine) :
    (machine.goOn restoring trace resume).1.Begun engine := by
  obtain ⟨memory, flow, same, -⟩ :=
    goOn_eq_run restoring trace resume machine
  rw [same]
  exact begun_run restoring trace flow (show
    ({ machine with memory } : Machine σ α).Begun engine from begun)

variable (restoring) in
theorem Staffed.goOn {owner : Nat} {trace : Trace} {whole : Flow σ α}
    (started : tasks[owner]? = some (trace, whole)) (resume : Resume σ β)
    (starts : ∀ engine, ¬machine.Begun engine → starters engine = owner)
    (staffed : machine.Staffed tasks starters) :
    (machine.goOn restoring trace resume).1.Staffed tasks starters ∧
      ∀ result, (machine.goOn restoring trace resume).2.CanEnd result →
        resume.CanEnd result := by
  obtain ⟨memory, flow, same, ends⟩ :=
    goOn_eq_run restoring trace resume machine
  rw [same]
  refine ⟨?_, fun result stops => ends result (canEnd_of_run stops)⟩
  have remembered : ({ machine with memory } : Machine σ α).Staffed tasks
      starters := ⟨staffed.ready, staffed.parked, staffed.results⟩
  exact remembered.run started flow starts

/-- A task that stops has a result, or waits. -/
theorem Staffed.stopTask {number : Nat} {trace : Trace} {flow : Flow σ α}
    (started : tasks[number]? = some (trace, flow)) {stop : Stop σ α}
    (staffed : machine.Staffed tasks starters) :
    (∀ result, stop.CanEnd result → flow.CanEnd result) →
      (match stop with
        | .ended result =>
            { machine with results := Keyed.put number result machine.results }
        | .waiting wait =>
            { machine with
              parked := machine.parked ++ [.task number trace wait] }
        : Machine σ α).Staffed tasks starters := by
  intro ends
  cases stop with
  | ended result =>
      refine ⟨staffed.ready, staffed.parked, ?_⟩
      intro other value found
      by_cases same : other = number
      · rw [same, Keyed.get?_put_self, Option.some.injEq] at found
        subst same found
        exact ⟨trace, flow, started, ends _ rfl⟩
      · rw [Keyed.get?_put_of_ne same] at found
        exact staffed.results other value found
  | waiting wait =>
      refine ⟨staffed.ready, ?_, staffed.results⟩
      intro other member
      obtain member | member := List.mem_append.mp member
      · exact staffed.parked other member
      · obtain rfl := List.mem_singleton.mp member
        exact ⟨flow, started, ends⟩

/-- When the restoring of an engine stops, everybody who waits for it goes on,
or it waits itself. -/
theorem Staffed.stopRestoring {engine : EngineId} {trace : Trace}
    {flow : Flow σ α} (started : tasks[starters engine]? = some (trace, flow))
    (begun : machine.Begun engine) {stop : Stop σ Unit}
    (staffed : machine.Staffed tasks starters) :
    (match stop with
      | .ended result =>
          { machine with
            restorings :=
              Keyed.put engine (some result) machine.restorings }.wakeThreads
            false (afterRestoring engine result)
      | .waiting wait =>
          { machine with
            parked := machine.parked ++ [.restoring engine trace wait] }
      : Machine σ α).Staffed tasks starters := by
  cases stop with
  | ended result =>
      apply Staffed.wakeThreads (faithful_afterRestoring engine result)
      have more := begun_put machine engine (some result)
      exact ⟨fun thread member => belongs_mono more (staffed.ready thread member),
        fun thread member => belongs_mono more (staffed.parked thread member),
        staffed.results⟩
  | waiting wait =>
      refine ⟨staffed.ready, ?_, staffed.results⟩
      intro other member
      obtain member | member := List.mem_append.mp member
      · exact staffed.parked other member
      · obtain rfl := List.mem_singleton.mp member
        exact ⟨flow, started, begun⟩

/-- A step is made by the thread that has been ready for longest, for its
task. -/
theorem Staffed.step (first : machine.ready = thread :: rest)
    (starts : ∀ engine, ¬machine.Begun engine →
      starters engine = thread.owner starters)
    (staffed : machine.Staffed tasks starters) :
    (machine.step restoring).Staffed tasks starters := by
  obtain ⟨flow, started, ends⟩ :=
    staffed.ready thread (first ▸ List.mem_cons_self)
  have idle : ∀ engine,
      ¬({ machine with ready := rest } : Machine σ α).Begun engine →
        starters engine = thread.owner starters := starts
  have popped : Staffed tasks starters { machine with ready := rest } :=
    ⟨fun other member => staffed.ready other
      (first ▸ List.mem_cons_of_mem _ member), staffed.parked, staffed.results⟩
  cases thread with
  | task number trace resume =>
      obtain ⟨went, stops⟩ := popped.goOn restoring started resume idle
      simp only [Machine.step, first]
      exact went.stopTask started fun result stopped =>
        ends result (stops result stopped)
  | restoring engine trace resume =>
      obtain ⟨went, -⟩ := popped.goOn restoring started resume idle
      simp only [Machine.step, first]
      exact went.stopRestoring started
        (begun_goOn trace resume (show
          ({ machine with ready := rest } : Machine σ α).Begun engine from ends))

/-- All calls of a step carry the correlation of the thread that makes it. -/
theorem received_step (first : machine.ready = thread :: rest) :
    ∃ calls, (machine.step restoring).received = machine.received ++ calls ∧
      ∀ received ∈ calls, received.correlation = thread.trace.carried := by
  have went {β : Type} (resume : Resume σ β) (trace : Trace) :
      ∃ calls, ({ machine with ready := rest }.goOn restoring trace
          resume).1.received = machine.received ++ calls ∧
        ∀ received ∈ calls, received.correlation = trace.carried := by
    obtain ⟨memory, flow, same, -⟩ :=
      goOn_eq_run restoring trace resume { machine with ready := rest }
    rw [same]
    exact received_run ..
  cases thread with
  | task number trace resume =>
      simp only [Machine.step, first]
      split <;> exact went resume trace
  | restoring engine trace resume =>
      simp only [Machine.step, first]
      split <;> exact went resume trace

end Step

end Machine

/-- A machine that keeps account of its calls: for which task each was sent, and
which task first waited for an engine. -/
structure Ledger (σ α : Type) where
  machine : Machine σ α
  /-- Of no meaning for an engine whose restoring has not begun. -/
  starters : EngineId → Nat
  causes : List (Nat × Received)

namespace Ledger

variable {σ α : Type}

/-- Nothing has happened. -/
def initial (state : σ) (memory : Memory) : Ledger σ α :=
  { machine := .initial state memory, starters := fun _ => 0, causes := [] }

/-- A step of the machine.  The thread that makes it does so for a task, which
has caused the calls of the step, and which is the first to wait for an engine if
the restoring of that engine begins now. -/
def step (restoring : EngineId → Flow σ Unit) (ledger : Ledger σ α) :
    Ledger σ α :=
  match ledger.machine.ready with
  | [] => ledger
  | thread :: _ =>
      let owner := thread.owner ledger.starters
      let machine := ledger.machine.step restoring
      let calls := machine.received.drop ledger.machine.received.length
      { machine
        starters := fun engine =>
          if ledger.machine.Begun engine then ledger.starters engine else owner
        causes := ledger.causes ++ calls.map fun received => (owner, received) }

/-- What can happen to a machine: tasks are started, threads go on, and the
backend opens its gates and changes in any way. -/
inductive Reach (restoring : EngineId → Flow σ Unit) (state : σ)
    (memory : Memory) : List (Started σ α) → Ledger σ α → Prop
  | initial : Reach restoring state memory [] (.initial state memory)
  | start (trace : Trace) (flow : Flow σ α) {tasks : List (Started σ α)}
      {ledger : Ledger σ α} (reached : Reach restoring state memory tasks ledger) :
      Reach restoring state memory (tasks ++ [(trace, flow)])
        { ledger with
          machine := ledger.machine.start tasks.length trace flow }
  | step {tasks : List (Started σ α)} {ledger : Ledger σ α}
      (reached : Reach restoring state memory tasks ledger) :
      Reach restoring state memory tasks (ledger.step restoring)
  | openGate (gate : String) {tasks : List (Started σ α)} {ledger : Ledger σ α}
      (reached : Reach restoring state memory tasks ledger) :
      Reach restoring state memory tasks
        { ledger with machine := ledger.machine.openGate gate }
  | backend (changed : Memory) {tasks : List (Started σ α)}
      {ledger : Ledger σ α} (reached : Reach restoring state memory tasks ledger) :
      Reach restoring state memory tasks
        { ledger with machine := { ledger.machine with memory := changed } }

variable {restoring : EngineId → Flow σ Unit} {state : σ} {memory : Memory}
  {tasks : List (Started σ α)} {ledger : Ledger σ α}

/-- Every call that the backend received is on account of a task. -/
theorem Reach.complete (reached : Reach restoring state memory tasks ledger) :
    ledger.causes.map Prod.snd = ledger.machine.received := by
  induction reached with
  | initial => rfl
  | start trace flow reached ih => exact ih
  | openGate gate reached ih => exact ih
  | backend changed reached ih => exact ih
  | @step tasks ledger reached ih =>
      unfold Ledger.step
      split
      · exact ih
      · rename_i thread rest first
        obtain ⟨calls, whole, -⟩ :=
          Machine.received_step first
        rw [List.map_append, ih, whole, List.drop_left, List.map_map]
        exact congrArg (ledger.machine.received ++ ·) (List.map_id calls)

/-- The threads are staffed, and all calls carry the correlations of the tasks
that caused them. -/
structure Sound (tasks : List (Started σ α)) (ledger : Ledger σ α) : Prop where
  staffed : ledger.machine.Staffed tasks ledger.starters
  carried : ∀ cause ∈ ledger.causes, ∃ trace flow,
    tasks[cause.1]? = some (trace, flow) ∧ cause.2.correlation = trace.carried

namespace Sound

theorem initial (state : σ) (memory : Memory) :
    Sound (α := α) [] (.initial state memory) := by
  refine ⟨⟨?_, ?_, ?_⟩, ?_⟩ <;> simp [Ledger.initial, Machine.initial]

theorem start (trace : Trace) (flow : Flow σ α) (sound : Sound tasks ledger) :
    Sound (tasks ++ [(trace, flow)])
      { ledger with
        machine := ledger.machine.start tasks.length trace flow } := by
  have kept : ∀ (number : Nat) task, tasks[number]? = some task →
      (tasks ++ [(trace, flow)])[number]? = some task := by
    intro number task found
    have within := (List.getElem?_eq_some_iff.mp found).1
    rwa [List.getElem?_append_left within]
  have staffed := sound.staffed.congr kept fun _ _ => rfl
  refine ⟨⟨?_, staffed.parked, staffed.results⟩, ?_⟩
  · intro thread member
    obtain member | member := List.mem_append.mp member
    · exact staffed.ready thread member
    · obtain rfl := List.mem_singleton.mp member
      exact ⟨flow, by simp [Thread.owner, Thread.trace], fun _ ends => ends⟩
  · intro cause member
    obtain ⟨under, whole, started, carried⟩ := sound.carried cause member
    exact ⟨under, whole, kept _ _ started, carried⟩

theorem openGate (gate : String) (sound : Sound tasks ledger) :
    Sound tasks { ledger with machine := ledger.machine.openGate gate } := by
  refine ⟨?_, sound.carried⟩
  apply Machine.Staffed.wakeThreads (Machine.faithful_throughGate gate)
  exact ⟨sound.staffed.ready, sound.staffed.parked, sound.staffed.results⟩

theorem step (sound : Sound tasks ledger) :
    Sound tasks (ledger.step restoring) := by
  unfold Ledger.step
  split
  · exact sound
  rename_i thread rest first
  obtain ⟨flow, started, -⟩ :=
    sound.staffed.ready thread (first ▸ List.mem_cons_self)
  have owned : thread.owner (fun engine =>
      if ledger.machine.Begun engine then ledger.starters engine
      else thread.owner ledger.starters) = thread.owner ledger.starters := by
    cases thread with
    | task number trace rest => rfl
    | restoring engine trace rest => exact ite_self _
  constructor
  · apply Machine.Staffed.step first
    · intro engine idle
      rw [owned]
      exact if_neg idle
    · exact sound.staffed.congr (fun _ _ => id) fun engine begun => if_pos begun
  · intro cause member
    obtain member | member := List.mem_append.mp member
    · exact sound.carried cause member
    · obtain ⟨calls, whole, carried⟩ :=
        Machine.received_step first
      rw [whole, List.drop_left] at member
      obtain ⟨received, among, rfl⟩ := List.mem_map.mp member
      exact ⟨thread.trace, flow, started, carried received among⟩

end Sound

/-- Whatever happens, every call carries the correlation of the task that
caused it, and every task that has ended did so as its flow can end. -/
theorem Reach.sound (reached : Reach restoring state memory tasks ledger) :
    Sound tasks ledger := by
  induction reached with
  | initial => exact .initial state memory
  | start trace flow reached ih => exact ih.start trace flow
  | step reached ih => exact ih.step
  | openGate gate reached ih => exact ih.openGate gate
  | backend changed reached ih =>
      exact ⟨⟨ih.staffed.ready, ih.staffed.parked, ih.staffed.results⟩,
        ih.carried⟩

end Ledger
end Audience
