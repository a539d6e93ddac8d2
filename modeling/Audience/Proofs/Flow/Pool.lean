import Audience.Proofs.Flow.Stretch
import Mathlib.Data.List.Basic

/-!
# Pools of flows

A pool runs any number of flows against a backend, in any order.  Tasks start
at any time, the backend handles a call that is on its way at any time, and a
flow that can go on does so at any time: nothing is first come, first served.
Whatever happens under some order of starts, handled calls and delivered
replies happens in some run of a pool.
-/

namespace Audience

/-- What flows saw and did so far. -/
structure World (σ : Type) where
  state : σ
  /-- The calls sent, each with the state in which it was sent. -/
  sent : List (σ × Call)
  /-- The replies that reached their flows, each with the number of its
  call. -/
  delivered : List (Nat × Reply)

namespace World

/-- A world in which nothing was sent. -/
def fresh (state : σ) : World σ := { state, sent := [], delivered := [] }

/-- Send a call. -/
def send (call : Call) (world : World σ) : World σ :=
  { world with sent := world.sent ++ [(world.state, call)] }

/-- Deliver the reply to a call. -/
def deliver (number : Nat) (reply : Reply) (world : World σ) : World σ :=
  { world with delivered := world.delivered ++ [(number, reply)] }

/-- A call is sent under the next number. -/
theorem getElem?_send (call : Call) (world : World σ) :
    (world.send call).sent[world.sent.length]? = some (world.state, call) := by
  simp [send]

/-- Nothing that was sent or delivered is forgotten. -/
structure Extends (later earlier : World σ) : Prop where
  sent : earlier.sent <+: later.sent
  delivered : earlier.delivered <+: later.delivered

namespace Extends

theorem refl (world : World σ) : world.Extends world :=
  ⟨List.prefix_rfl, List.prefix_rfl⟩

theorem trans {first second third : World σ} (late : third.Extends second)
    (early : second.Extends first) : third.Extends first :=
  ⟨early.sent.trans late.sent, early.delivered.trans late.delivered⟩

theorem of_send (call : Call) (world : World σ) :
    (world.send call).Extends world :=
  ⟨List.prefix_append _ _, List.prefix_rfl⟩

theorem of_deliver (number : Nat) (reply : Reply) (world : World σ) :
    (world.deliver number reply).Extends world :=
  ⟨List.prefix_rfl, List.prefix_append _ _⟩

theorem of_state (world : World σ) (state : σ) :
    ({ world with state } : World σ).Extends world :=
  ⟨List.prefix_rfl, List.prefix_rfl⟩

/-- A call keeps its number. -/
theorem getElem? {later earlier : World σ} (grown : later.Extends earlier)
    {number : Nat} {entry : σ × Call}
    (found : earlier.sent[number]? = some entry) :
    later.sent[number]? = some entry := by
  obtain ⟨rest, whole⟩ := grown.sent
  have within := (List.getElem?_eq_some_iff.mp found).1
  rw [← whole, List.getElem?_append_left within, found]

end Extends
end World

/-- Whose end it is: that of a task, or of the one-time restoring of an
engine. -/
inductive Ending (α : Type) where
  | task (result : Except Fault α)
  | restoring (engine : EngineId) (result : Except Fault Unit)

/-- A thread between two stretches. -/
inductive Pending (σ ε : Type) where
  /-- It has not begun. -/
  | ready (flow : Flow σ ε)
  /-- Its call is on the way to the backend. -/
  | sent (number : Nat) (call : Call) (next : Reply → Flow σ ε)
  /-- The reply to its call is on the way back. -/
  | answered (number : Nat) (reply : Reply) (next : Reply → Flow σ ε)
  /-- It wants a lock. -/
  | locking (lock : Lock) (next : Flow σ ε)
  /-- It waits for an engine to be restored. -/
  | awaiting (engine : EngineId) (next : Except Fault Unit → Flow σ ε)

namespace Pending

/-- The number of the call whose reply a thread waits for. -/
def number? : Pending σ ε → Option Nat
  | sent number _ _ => some number
  | answered number _ _ => some number
  | _ => none

end Pending

/-- The state of a pool whose backend is in a state of type `β` and whose tasks
end with a result in `α`. -/
structure Pool (σ β α : Type) where
  world : World σ
  /-- Every change of the shared state, with what was there before. -/
  changes : List (σ × σ)
  held : List Lock
  server : β
  /-- The calls that the backend handled, in order, with its replies. -/
  handled : List (Nat × Reply)
  /-- The engines whose restoring has begun, with its end if it has ended. -/
  restorings : Keyed EngineId (Option (Except Fault Unit))
  waiting : List (Pending σ (Ending α))
  /-- The results of the tasks that have ended. -/
  results : List (Except Fault α)

namespace Pool

/-- A pool in which nothing runs. -/
def fresh (state : σ) (server : β) : Pool σ β α :=
  { world := .fresh state, changes := [], held := [], server, handled := [],
    restorings := [], waiting := [], results := [] }

/-- The calls that the end of a stretch sends. -/
def callsOf (state : σ) : Halt σ ε → List (σ × Call)
  | .calls call _ => [(state, call)]
  | _ => []

/-- The results of tasks that the end of a stretch brings. -/
def resultsOf : Halt σ (Ending α) → List (Except Fault α)
  | .ended (.ok (.task result)) => [result]
  | _ => []

/-- What is known about the restoring of engines after the end of a stretch:
the first that waits for it begins it. -/
def restoringsAfter (halt : Halt σ (Ending α)) (pool : Pool σ β α) :
    Keyed EngineId (Option (Except Fault Unit)) :=
  match halt with
  | .ended (.ok (.restoring engine result)) =>
      Keyed.put engine (some result) pool.restorings
  | .awaits engine _ =>
      match Keyed.get? engine pool.restorings with
      | some _ => pool.restorings
      | none => Keyed.put engine none pool.restorings
  | _ => pool.restorings

/-- The threads that wait where a stretch ended: its own, unless it is over,
and that of a restoring that it began. -/
def threadsAfter (restoring : EngineId → Flow σ Unit)
    (halt : Halt σ (Ending α)) (pool : Pool σ β α) :
    List (Pending σ (Ending α)) :=
  match halt with
  | .ended _ => []
  | .calls call next => [.sent pool.world.sent.length call next]
  | .locks lock next => [.locking lock next]
  | .awaits engine next =>
      .awaiting engine next ::
        match Keyed.get? engine pool.restorings with
        | some _ => []
        | none => [.ready ((restoring engine).reported (.restoring engine))]

/-- Run a flow for one stretch. -/
def perform (restoring : EngineId → Flow σ Unit) (flow : Flow σ (Ending α))
    (pool : Pool σ β α) : Pool σ β α :=
  let stretch := flow.stretch pool.world.state
  { world :=
      { state := stretch.state
        sent := pool.world.sent ++ callsOf stretch.state stretch.halt
        delivered := pool.world.delivered }
    changes := pool.changes ++ stretch.changes
    held := pool.held.filter fun lock => decide (lock ∉ stretch.freed)
    server := pool.server
    handled := pool.handled
    restorings := pool.restoringsAfter stretch.halt
    waiting := pool.threadsAfter restoring stretch.halt ++ pool.waiting
    results := pool.results ++ resultsOf stretch.halt }

/-- A thread that waits goes on waiting while another one runs. -/
theorem waits_of_perform {pool : Pool σ β α}
    {before after : List (Pending σ (Ending α))}
    {thread : Pending σ (Ending α)} (restoring : EngineId → Flow σ Unit)
    (flow : Flow σ (Ending α))
    (waits : pool.waiting = before ++ thread :: after) :
    (pool.perform restoring flow).waiting =
      (pool.threadsAfter restoring (flow.stretch pool.world.state).halt ++
        before) ++ thread :: after := by
  simp [perform, waits]

end Pool

/-- What runs in a pool: the tasks that may be started in a state of the pool,
how engines are restored, and what the backend may do with a call. -/
structure Scene (σ β ι α : Type) where
  flow : ι → Flow σ α
  restoring : EngineId → Flow σ Unit
  admits : Pool σ β α → ι → Prop
  serves : β → Call → Reply → β → Prop

namespace Scene

variable {σ β ι α : Type} (scene : Scene σ β ι α)

/-- A task as a thread. -/
def thread (task : ι) : Flow σ (Ending α) :=
  (scene.flow task).reported .task

/-- One thing happens in a pool. -/
inductive Step : Pool σ β α → Pool σ β α → Prop where
  /-- A task starts. -/
  | start {pool : Pool σ β α} (task : ι) (admitted : scene.admits pool task) :
      Step pool (pool.perform scene.restoring (scene.thread task))
  /-- A thread begins. -/
  | begin {pool : Pool σ β α} (before after : List (Pending σ (Ending α)))
      {flow : Flow σ (Ending α)}
      (waits : pool.waiting = before ++ .ready flow :: after) :
      Step pool
        ({ pool with waiting := before ++ after }.perform scene.restoring flow)
  /-- The backend handles a call. -/
  | handle {pool : Pool σ β α} (before after : List (Pending σ (Ending α)))
      {number : Nat} {call : Call} {next : Reply → Flow σ (Ending α)}
      {reply : Reply} (server : β)
      (waits : pool.waiting = before ++ .sent number call next :: after)
      (served : scene.serves pool.server call reply server) :
      Step pool
        { pool with
          server
          handled := pool.handled ++ [(number, reply)]
          waiting := before ++ .answered number reply next :: after }
  /-- A reply reaches its thread. -/
  | deliver {pool : Pool σ β α} (before after : List (Pending σ (Ending α)))
      {number : Nat} {reply : Reply} {next : Reply → Flow σ (Ending α)}
      (waits : pool.waiting = before ++ .answered number reply next :: after) :
      Step pool
        ({ pool with
            world := pool.world.deliver number reply
            waiting := before ++ after }.perform scene.restoring (next reply))
  /-- A thread takes a lock that is free. -/
  | lock {pool : Pool σ β α} (before after : List (Pending σ (Ending α)))
      {lock : Lock} {next : Flow σ (Ending α)}
      (waits : pool.waiting = before ++ .locking lock next :: after)
      (free : lock ∉ pool.held) :
      Step pool
        ({ pool with
            held := lock :: pool.held
            waiting := before ++ after }.perform scene.restoring next)
  /-- A thread learns how the restoring of an engine ended. -/
  | learn {pool : Pool σ β α} (before after : List (Pending σ (Ending α)))
      {engine : EngineId} {next : Except Fault Unit → Flow σ (Ending α)}
      {result : Except Fault Unit}
      (waits : pool.waiting = before ++ .awaiting engine next :: after)
      (known : Keyed.get? engine pool.restorings = some (some result)) :
      Step pool
        ({ pool with waiting := before ++ after }.perform scene.restoring
          (next result))

/-- The states of a pool that a run reaches. -/
inductive Reach (start : Pool σ β α) : Pool σ β α → Prop where
  | refl : Reach start start
  | step {pool next : Pool σ β α} (reached : Reach start pool)
      (step : scene.Step pool next) : Reach start next

variable {scene}

/-- A run goes on. -/
theorem Reach.trans {start middle last : Pool σ β α}
    (first : scene.Reach start middle) (further : scene.Reach middle last) :
    scene.Reach start last := by
  induction further with
  | refl => exact first
  | step before step ih => exact .step ih step

end Scene
end Audience
