import Audience.Backend.Message
import Audience.Fault

/-!
# Flows

A flow is a piece of work on shared state that may have to wait: for a reply of
the backend, for its turn at a lock, or for a job that runs once.  Between two
waits it runs undisturbed, so a flow is a tree of operations with one
continuation each, and everything about a flow can be defined by recursion on
it.
-/

namespace Audience

/-- The place of an engine among all engines ever made. -/
abbrev EngineId := Nat

/-- What flows take turns at. -/
inductive Lock where
  /-- Reading the filter document of an event. -/
  | document (event : String)
  /-- Loading the saved segments of an engine. -/
  | savedSegments (engine : EngineId)
  deriving DecidableEq, Repr, Inhabited

/-- A flow on shared state `σ` with a result in `α`. -/
inductive Flow (σ α : Type) where
  /-- The result. -/
  | done (result : α)
  /-- An early end. -/
  | fail (fault : Fault)
  /-- Look at the shared state. -/
  | inspect (next : σ → Flow σ α)
  /-- Replace the shared state. -/
  | update (state : σ) (next : Flow σ α)
  /-- Call the backend and wait for the reply. -/
  | send (call : Call) (next : Reply → Flow σ α)
  /-- Wait for a lock and take it. -/
  | acquire (lock : Lock) (next : Flow σ α)
  /-- Give a lock back. -/
  | release (lock : Lock) (next : Flow σ α)
  /-- Wait for the one-time restoring of an engine, starting it if need be. -/
  | restored (engine : EngineId) (next : Except Fault Unit → Flow σ α)

/-- A result, or the problem that stands in its place. -/
abbrev Outcome (α : Type) := Except Problem α

namespace Flow

/-- Go on with the result. -/
def bind (flow : Flow σ α) (rest : α → Flow σ β) : Flow σ β :=
  match flow with
  | done result => rest result
  | fail fault => fail fault
  | inspect next => inspect fun state => (next state).bind rest
  | update state next => update state (next.bind rest)
  | send call next => send call fun reply => (next reply).bind rest
  | acquire lock next => acquire lock (next.bind rest)
  | release lock next => release lock (next.bind rest)
  | restored engine next => restored engine fun result => (next result).bind rest

instance : Monad (Flow σ) where
  pure := done
  bind := bind

/-- Run a flow to its end, whatever that is, and go on from there. -/
def finish (flow : Flow σ α) (rest : Except Fault α → Flow σ β) : Flow σ β :=
  match flow with
  | done result => rest (.ok result)
  | fail fault => rest (.error fault)
  | inspect next => inspect fun state => (next state).finish rest
  | update state next => update state (next.finish rest)
  | send call next => send call fun reply => (next reply).finish rest
  | acquire lock next => acquire lock (next.finish rest)
  | release lock next => release lock (next.finish rest)
  | restored engine next => restored engine fun result => (next result).finish rest

/-- A known end as a flow. -/
def ofResult : Except Fault α → Flow σ α
  | .ok result => done result
  | .error fault => fail fault

/-- Turn a problem into an outcome; other faults still end the flow. -/
def guard (flow : Flow σ α) : Flow σ (Outcome α) :=
  flow.finish fun
    | .ok result => done (.ok result)
    | .error (.problem problem) => done (.error problem)
    | .error fault => fail fault

/-- The value of an outcome; its problem ends the flow. -/
def unwrap : Outcome α → Flow σ α
  | .ok result => done result
  | .error problem => fail (.problem problem)

/-- Hold a lock while a flow runs, also when the flow fails. -/
def locked (lock : Lock) (flow : Flow σ α) : Flow σ α :=
  acquire lock (flow.finish fun result => release lock (ofResult result))

/-- Ask the shared state. -/
def query (question : σ → α) : Flow σ α :=
  inspect fun state => done (question state)

/-- Change the shared state. -/
def modify (change : σ → σ) : Flow σ Unit :=
  inspect fun state => update (change state) (done ())

/-- Change the shared state and give a result. -/
def transact (change : σ → α × σ) : Flow σ α :=
  inspect fun state => update (change state).2 (done (change state).1)

/-- Change the shared state, or fail and leave it as it is. -/
def attempt (change : σ → Except Fault (α × σ)) : Flow σ α :=
  inspect fun state =>
    match change state with
    | .ok (result, next) => update next (done result)
    | .error fault => fail fault

/-- A result that can only fail by misuse. -/
def ofNormal : Except Misuse α → Flow σ α
  | .ok result => done result
  | .error misuse => fail (.misuse misuse)

/-- Fail with a problem. -/
def refuse (problem : Problem) : Flow σ α :=
  fail (.problem problem)

@[simp] theorem bind_done (result : α) (rest : α → Flow σ β) :
    (done result).bind rest = rest result := rfl

@[simp] theorem bind_fail (fault : Fault) (rest : α → Flow σ β) :
    (fail fault : Flow σ α).bind rest = fail fault := rfl

/-- Ending with the result changes nothing. -/
@[simp] theorem bind_pure (flow : Flow σ α) : flow.bind done = flow := by
  induction flow with
  | done _ => rfl
  | fail _ => rfl
  | inspect next ih => simp [bind, ih]
  | update _ next ih => simp [bind, ih]
  | send _ next ih => simp [bind, ih]
  | acquire _ next ih => simp [bind, ih]
  | release _ next ih => simp [bind, ih]
  | restored _ next ih => simp [bind, ih]

/-- Three flows in a row can be grouped either way. -/
theorem bind_assoc (flow : Flow σ α) (middle : α → Flow σ β)
    (last : β → Flow σ γ) :
    (flow.bind middle).bind last =
      flow.bind fun result => (middle result).bind last := by
  induction flow with
  | done _ => rfl
  | fail _ => rfl
  | inspect next ih => simp [bind, ih]
  | update _ next ih => simp [bind, ih]
  | send _ next ih => simp [bind, ih]
  | acquire _ next ih => simp [bind, ih]
  | release _ next ih => simp [bind, ih]
  | restored _ next ih => simp [bind, ih]

@[simp] theorem finish_done (result : α) (rest : Except Fault α → Flow σ β) :
    (done result).finish rest = rest (.ok result) := rfl

@[simp] theorem finish_fail (fault : Fault)
    (rest : Except Fault α → Flow σ β) :
    (fail fault : Flow σ α).finish rest = rest (.error fault) := rfl

/-- What follows the end of two flows in a row follows the end of the second,
or the failure of the first. -/
theorem finish_bind (flow : Flow σ α) (middle : α → Flow σ β)
    (last : Except Fault β → Flow σ γ) :
    (flow.bind middle).finish last =
      flow.finish fun
        | .ok result => (middle result).finish last
        | .error fault => last (.error fault) := by
  induction flow with
  | done _ => rfl
  | fail _ => rfl
  | inspect next ih => simp [bind, finish, ih]
  | update _ next ih => simp [bind, finish, ih]
  | send _ next ih => simp [bind, finish, ih]
  | acquire _ next ih => simp [bind, finish, ih]
  | release _ next ih => simp [bind, finish, ih]
  | restored _ next ih => simp [bind, finish, ih]

/-- A result is a successful outcome. -/
@[simp] theorem guard_done (result : α) :
    (done result : Flow σ α).guard = done (.ok result) := rfl

/-- A problem is an outcome as well. -/
@[simp] theorem guard_refuse (problem : Problem) :
    (refuse problem : Flow σ α).guard = done (.error problem) := rfl

end Flow
end Audience
