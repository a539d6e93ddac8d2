import Audience.Backend.Memory
import Audience.Flow.Basic
import Audience.Trace

/-!
# Running flows

A machine holds the shared state, the backend and all threads: those that are
ready, in the order in which they became ready, and those that wait, in the
order in which they began to wait.  One thread at a time runs until it ends or
has to wait.  Locks are first come, first served: a lock that is given back
goes straight to the first thread in line.
-/

namespace Audience

/-- What a thread waits for, and how it goes on. -/
inductive Wait (σ α : Type) where
  /-- A gate of the backend holds a call back. -/
  | gate (gate : String) (call : Call) (next : Reply → Flow σ α)
  /-- Another thread has the lock. -/
  | lock (lock : Lock) (next : Flow σ α)
  /-- An engine is being restored. -/
  | restored (engine : EngineId) (next : Except Fault Unit → Flow σ α)

/-- How a thread that is ready goes on. -/
inductive Resume (σ α : Type) where
  | flow (flow : Flow σ α)
  /-- The gate is open: the backend answers now. -/
  | reply (call : Call) (next : Reply → Flow σ α)

/-- Where a thread stops. -/
inductive Stop (σ α : Type) where
  | ended (result : Except Fault α)
  | waiting (wait : Wait σ α)

/-- Whose work a thread does: a task with a result, or the one-time restoring
of an engine. -/
inductive Thread (σ α : Type) (next : (Type → Type → Type)) where
  | task (number : Nat) (trace : Trace) (rest : next σ α)
  | restoring (engine : EngineId) (trace : Trace) (rest : next σ Unit)

/-- A call as the backend received it. -/
structure Received where
  call : Call
  correlation : Option String
  deriving Repr, Inhabited

/-- The state of a machine whose tasks end with a result in `α`. -/
structure Machine (σ α : Type) where
  state : σ
  memory : Memory
  /-- The calls that the backend received, in order. -/
  received : List Received
  ready : List (Thread σ α Resume)
  parked : List (Thread σ α Wait)
  held : List Lock
  /-- The engines whose restoring has begun, with its end if it has ended. -/
  restorings : Keyed EngineId (Option (Except Fault Unit))
  /-- The results of the tasks that have ended. -/
  results : Keyed Nat (Except Fault α)

namespace Machine

/-- A machine on which nothing has happened. -/
def initial (state : σ) (memory : Memory) : Machine σ α :=
  { state, memory, received := [], ready := [], parked := [], held := [],
    restorings := [], results := [] }

/-- Move the threads that a test picks from the waiting to the ready ones, all
of them or only the first. -/
def wake (onlyFirst : Bool)
    (pick : Thread σ α Wait → Option (Thread σ α Resume)) :
    List (Thread σ α Wait) → List (Thread σ α Wait) × List (Thread σ α Resume)
  | [] => ([], [])
  | thread :: rest =>
      match pick thread with
      | some resumed =>
          if onlyFirst then (rest, [resumed])
          else
            let (parked, ready) := wake onlyFirst pick rest
            (parked, resumed :: ready)
      | none =>
          let (parked, ready) := wake onlyFirst pick rest
          (thread :: parked, ready)

/-- Change how a thread goes on, if it can go on. -/
def Thread.resume? (go : {β : Type} → Wait σ β → Option (Resume σ β)) :
    Thread σ α Wait → Option (Thread σ α Resume)
  | .task number trace wait => (go wait).map (.task number trace)
  | .restoring engine trace wait => (go wait).map (.restoring engine trace)

/-- Wake threads. -/
def wakeThreads (onlyFirst : Bool)
    (go : {β : Type} → Wait σ β → Option (Resume σ β))
    (machine : Machine σ α) : Machine σ α :=
  let (parked, ready) :=
    wake onlyFirst (Thread.resume? go) machine.parked
  { machine with parked, ready := machine.ready ++ ready }

/-- How a thread goes on that waits for a lock. -/
def withLock (wanted : Lock) {β : Type} : Wait σ β → Option (Resume σ β)
  | .lock lock next => if lock = wanted then some (.flow next) else none
  | _ => none

/-- How a thread goes on that waits at a gate. -/
def throughGate (opened : String) {β : Type} : Wait σ β → Option (Resume σ β)
  | .gate gate call next =>
      if gate = opened then some (.reply call next) else none
  | _ => none

/-- How a thread goes on that waits for an engine. -/
def afterRestoring (engine : EngineId) (result : Except Fault Unit)
    {β : Type} : Wait σ β → Option (Resume σ β)
  | .restored awaited next =>
      if awaited = engine then some (.flow (next result)) else none
  | _ => none

/-- A thread waits for a lock. -/
def wantsLock (wanted : Lock) (thread : Thread σ α Wait) : Bool :=
  (Thread.resume? (withLock wanted) thread).isSome

/-- Give a lock back: to the first thread in line, if there is one. -/
def giveBack (lock : Lock) (machine : Machine σ α) : Machine σ α :=
  if machine.parked.any (wantsLock lock) then
    machine.wakeThreads true (withLock lock)
  else { machine with held := machine.held.filter (· ≠ lock) }

/-- Let the backend receive a call. -/
def receive (trace : Trace) (call : Call) (machine : Machine σ α) :
    Machine σ α :=
  let correlation :=
    if trace.correlation = "" then none else some trace.correlation
  { machine with received := machine.received ++ [{ call, correlation }] }

/-- Run a flow until it ends or has to wait.  `restoring` is the flow that
restores an engine. -/
def run (restoring : EngineId → Flow σ Unit) (trace : Trace) (flow : Flow σ β)
    (machine : Machine σ α) : Machine σ α × Stop σ β :=
  match flow with
  | .done result => (machine, .ended (.ok result))
  | .fail fault => (machine, .ended (.error fault))
  | .inspect next => run restoring trace (next machine.state) machine
  | .update state next => run restoring trace next { machine with state }
  | .send call next =>
      let machine := machine.receive trace call
      let (gate, memory) := machine.memory.gate? call
      match gate with
      | some gate => ({ machine with memory }, .waiting (.gate gate call next))
      | none =>
          let (reply, memory) := memory.answer call
          run restoring trace (next reply) { machine with memory }
  | .acquire lock next =>
      if lock ∈ machine.held then (machine, .waiting (.lock lock next))
      else
        run restoring trace next { machine with held := lock :: machine.held }
  | .release lock next => run restoring trace next (machine.giveBack lock)
  | .restored engine next =>
      match Keyed.get? engine machine.restorings with
      | some (some result) => run restoring trace (next result) machine
      | some none => (machine, .waiting (.restored engine next))
      | none =>
          let thread : Thread σ α Resume :=
            .restoring engine trace (.flow (restoring engine))
          ({ machine with
              ready := machine.ready ++ [thread]
              restorings := Keyed.put engine none machine.restorings },
            .waiting (.restored engine next))

/-- Run a thread that is ready until it ends or has to wait. -/
def goOn (restoring : EngineId → Flow σ Unit) (trace : Trace)
    (resume : Resume σ β) (machine : Machine σ α) : Machine σ α × Stop σ β :=
  match resume with
  | .flow flow => machine.run restoring trace flow
  | .reply call next =>
      let (reply, memory) := machine.memory.answer call
      { machine with memory }.run restoring trace (next reply)

/-- Run the thread that has been ready for longest. -/
def step (restoring : EngineId → Flow σ Unit) (machine : Machine σ α) :
    Machine σ α :=
  match machine.ready with
  | [] => machine
  | .task number trace resume :: rest =>
      let (machine, stop) :=
        { machine with ready := rest }.goOn restoring trace resume
      match stop with
      | .ended result =>
          { machine with results := Keyed.put number result machine.results }
      | .waiting wait =>
          { machine with parked := machine.parked ++ [.task number trace wait] }
  | .restoring engine trace resume :: rest =>
      let (machine, stop) :=
        { machine with ready := rest }.goOn restoring trace resume
      match stop with
      | .ended result =>
          { machine with
            restorings :=
              Keyed.put engine (some result) machine.restorings }.wakeThreads
            false (afterRestoring engine result)
      | .waiting wait =>
          { machine with
            parked := machine.parked ++ [.restoring engine trace wait] }

/-- Run ready threads, at most so many times, until none is left. -/
def settle (restoring : EngineId → Flow σ Unit) :
    Nat → Machine σ α → Machine σ α
  | 0, machine => machine
  | rounds + 1, machine =>
      if machine.ready.isEmpty then machine
      else settle restoring rounds (machine.step restoring)

/-- Start a task. -/
def start (number : Nat) (trace : Trace) (flow : Flow σ α)
    (machine : Machine σ α) : Machine σ α :=
  { machine with
    ready := machine.ready ++ [.task number trace (.flow flow)] }

/-- Open a gate of the backend for good: the calls that it held back are
answered. -/
def openGate (gate : String) (machine : Machine σ α) : Machine σ α :=
  { machine with memory := machine.memory.openGate gate }.wakeThreads false
    (throughGate gate)

/-- The result of a task that has ended. -/
def result? (number : Nat) (machine : Machine σ α) : Option (Except Fault α) :=
  Keyed.get? number machine.results

end Machine
end Audience
