import Audience.Flow.Basic

/-!
# Stretches

A flow runs undisturbed from one wait to the next.  Such a stretch is a
function of the shared state in which it begins: it changes the state, gives
locks back, and ends where the flow ends or has to wait again.
-/

namespace Audience

/-- Where a stretch ends. -/
inductive Halt (σ α : Type) where
  | ended (result : Except Fault α)
  | calls (call : Call) (next : Reply → Flow σ α)
  | locks (lock : Lock) (next : Flow σ α)
  | awaits (engine : EngineId) (next : Except Fault Unit → Flow σ α)

/-- A stretch of a flow. -/
structure Stretch (σ α : Type) where
  /-- The shared state at its end. -/
  state : σ
  /-- Every change of the shared state, with what was there before. -/
  changes : List (σ × σ)
  /-- The locks that it gives back. -/
  freed : List Lock
  halt : Halt σ α

namespace Stretch

/-- A stretch that begins with one more change. -/
def after (change : σ × σ) (stretch : Stretch σ α) : Stretch σ α :=
  { stretch with changes := change :: stretch.changes }

/-- A stretch that begins with giving a lock back. -/
def freeing (lock : Lock) (stretch : Stretch σ α) : Stretch σ α :=
  { stretch with freed := lock :: stretch.freed }

end Stretch

namespace Flow

/-- Run a flow up to its end or its next wait. -/
def stretch (flow : Flow σ α) (now : σ) : Stretch σ α :=
  match flow with
  | done result =>
      { state := now, changes := [], freed := [], halt := .ended (.ok result) }
  | fail fault =>
      { state := now, changes := [], freed := [],
        halt := .ended (.error fault) }
  | inspect next => (next now).stretch now
  | update state next => (next.stretch state).after (now, state)
  | release lock next => (next.stretch now).freeing lock
  | send call next =>
      { state := now, changes := [], freed := [], halt := .calls call next }
  | acquire lock next =>
      { state := now, changes := [], freed := [], halt := .locks lock next }
  | restored engine next =>
      { state := now, changes := [], freed := [],
        halt := .awaits engine next }

/-- A flow that never fails and ends with a report of how the given one
ended. -/
def reported (report : Except Fault α → ε) (flow : Flow σ α) : Flow σ ε :=
  flow.finish fun result => done (report result)

end Flow
end Audience
