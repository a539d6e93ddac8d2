import Audience.Proofs.Flow.Pool

/-!
# Contracts between flows

Flows that share a state rely on each other: whatever one of them does in a
stretch, the others have to put up with while they wait.  A contract says what
holds whenever no stretch is under way and what a stretch may do.  A flow
upholds it stretch by stretch, and when all flows of a pool do, the contract
holds in every state that a run reaches.
-/

namespace Audience

/-- What flows rely on and have to guarantee. -/
structure Contract (σ : Type) where
  /-- What holds whenever no stretch is under way. -/
  inv : World σ → Prop
  /-- What a stretch may do to the shared state. -/
  moves : σ → σ → Prop
  /-- What a single change may do to the shared state. -/
  change : σ → σ → Prop
  /-- What is known of the reply to a call. -/
  replies : Call → Reply → Prop
  moves_refl : ∀ state, moves state state
  moves_trans : ∀ {first second third},
    moves first second → moves second third → moves first third
  change_trans : ∀ {first second third},
    change first second → change second third → change first third
  change_of_moves : ∀ {first second}, moves first second → change first second

namespace Contract

variable {σ ε : Type} (contract : Contract σ)

/-- A stretch that began in the given state may end in the given world. -/
def Turn (start : σ) (now : World σ) : Prop :=
  contract.inv now ∧ contract.moves start now.state

/-- What a thread that waits may find when it goes on. -/
structure Later (now later : World σ) : Prop where
  inv : contract.inv later
  grown : later.Extends now
  moved : contract.moves now.state later.state

variable {contract}

theorem Later.trans {now middle later : World σ}
    (early : contract.Later now middle) (late : contract.Later middle later) :
    contract.Later now later :=
  ⟨late.inv, late.grown.trans early.grown,
    contract.moves_trans early.moved late.moved⟩

theorem Later.refl {now : World σ} (holds : contract.inv now) :
    contract.Later now now :=
  ⟨holds, .refl now, contract.moves_refl now.state⟩

end Contract

namespace Flow

variable {σ α β : Type} (contract : Contract σ)

/-- A flow upholds a contract, and its end is as the given condition says.  The
condition and every stretch see the state in which the stretch began. -/
def Upholds (flow : Flow σ α) (ends : Except Fault α → σ → World σ → Prop)
    (start : σ) (now : World σ) : Prop :=
  match flow with
  | done result => ends (.ok result) start now
  | fail fault => ends (.error fault) start now
  | inspect next => (next now.state).Upholds ends start now
  | update state next =>
      contract.change now.state state ∧
        next.Upholds ends start { now with state }
  | release _ next => next.Upholds ends start now
  | send call next =>
      contract.Turn start (now.send call) ∧
        ∀ reply later, contract.replies call reply →
          contract.Later (now.send call) later →
          (next reply).Upholds ends later.state
            (later.deliver now.sent.length reply)
  | acquire _ next =>
      contract.Turn start now ∧
        ∀ later, contract.Later now later →
          next.Upholds ends later.state later
  | restored _ next =>
      contract.Turn start now ∧
        ∀ result later, contract.Later now later →
          (next result).Upholds ends later.state later

variable {contract}

/-- A weaker condition on the end is upheld as well. -/
theorem Upholds.mono {flow : Flow σ α}
    {ends ends' : Except Fault α → σ → World σ → Prop}
    (weaker : ∀ result start now,
      ends result start now → ends' result start now)
    {start : σ} {now : World σ} (upheld : flow.Upholds contract ends start now) :
    flow.Upholds contract ends' start now := by
  induction flow generalizing start now with
  | done result => exact weaker _ _ _ upheld
  | fail fault => exact weaker _ _ _ upheld
  | inspect next ih => exact ih _ upheld
  | update state next ih => exact ⟨upheld.1, ih upheld.2⟩
  | release _ next ih => exact ih upheld
  | send call next ih =>
      exact ⟨upheld.1, fun reply later known moved =>
        ih reply (upheld.2 reply later known moved)⟩
  | acquire _ next ih =>
      exact ⟨upheld.1, fun later moved => ih (upheld.2 later moved)⟩
  | restored _ next ih =>
      exact ⟨upheld.1, fun result later moved =>
        ih result (upheld.2 result later moved)⟩

/-- Two flows in a row uphold what the first upholds up to the second. -/
theorem upholds_bind {flow : Flow σ α} {rest : α → Flow σ β}
    {ends : Except Fault β → σ → World σ → Prop} {start : σ} {now : World σ} :
    (flow.bind rest).Upholds contract ends start now ↔
      flow.Upholds contract (fun
        | .ok result => (rest result).Upholds contract ends
        | .error fault => ends (.error fault)) start now := by
  induction flow generalizing start now with
  | done result => rfl
  | fail fault => rfl
  | inspect next ih => exact ih _
  | update state next ih => simp only [bind, Upholds, ih]
  | release _ next ih => exact ih
  | send call next ih => simp only [bind, Upholds, ih]
  | acquire _ next ih => simp only [bind, Upholds, ih]
  | restored _ next ih => simp only [bind, Upholds, ih]

/-- What follows the end of a flow is upheld with it. -/
theorem upholds_finish {flow : Flow σ α} {rest : Except Fault α → Flow σ β}
    {ends : Except Fault β → σ → World σ → Prop} {start : σ} {now : World σ} :
    (flow.finish rest).Upholds contract ends start now ↔
      flow.Upholds contract
        (fun result => (rest result).Upholds contract ends) start now := by
  induction flow generalizing start now with
  | done result => rfl
  | fail fault => rfl
  | inspect next ih => exact ih _
  | update state next ih => simp only [finish, Upholds, ih]
  | release _ next ih => exact ih
  | send call next ih => simp only [finish, Upholds, ih]
  | acquire _ next ih => simp only [finish, Upholds, ih]
  | restored _ next ih => simp only [finish, Upholds, ih]

/-- A flow with a known end has that end. -/
@[simp] theorem upholds_ofResult {result : Except Fault α}
    {ends : Except Fault α → σ → World σ → Prop} {start : σ} {now : World σ} :
    (ofResult result).Upholds contract ends start now ↔
      ends result start now := by
  cases result <;> rfl

/-- How a guarded flow ends: its problem, if it has one, is an outcome. -/
def guarded : Except Fault α → Except Fault (Outcome α)
  | .ok result => .ok (.ok result)
  | .error (.problem problem) => .ok (.error problem)
  | .error fault => .error fault

/-- A guarded end is a success exactly if the end is. -/
theorem guarded_eq_ok_iff {result : Except Fault α} {value : α} :
    guarded result = .ok (.ok value) ↔ result = .ok value := by
  cases result with
  | ok found => simp [guarded]
  | error fault => cases fault <;> simp [guarded]

/-- Guarding a flow turns its end into an outcome. -/
theorem guard_eq (flow : Flow σ α) :
    flow.guard = flow.finish fun result => ofResult (guarded result) := by
  unfold guard
  congr 1
  funext result
  obtain fault | result := result
  · cases fault <;> rfl
  · rfl

/-- A guarded flow upholds what the flow upholds up to its outcome. -/
theorem upholds_guard {flow : Flow σ α}
    {ends : Except Fault (Outcome α) → σ → World σ → Prop} {start : σ}
    {now : World σ} :
    flow.guard.Upholds contract ends start now ↔
      flow.Upholds contract (fun result => ends (guarded result))
        start now := by
  have known : (fun result => (ofResult (guarded result)).Upholds contract
      ends) = fun result => ends (guarded result) := by
    funext result start now
    exact propext upholds_ofResult
  rw [guard_eq, upholds_finish, known]

/-- A flow under a lock upholds what it upholds once it has the lock. -/
theorem upholds_locked {lock : Lock} {flow : Flow σ α}
    {ends : Except Fault α → σ → World σ → Prop} {start : σ} {now : World σ}
    (turn : contract.Turn start now)
    (inside : ∀ later, contract.Later now later →
      flow.Upholds contract ends later.state later) :
    (locked lock flow).Upholds contract ends start now := by
  refine ⟨turn, fun later moved => upholds_finish.mpr ?_⟩
  apply (inside later moved).mono
  intro result began ended upheld
  exact upholds_ofResult.mpr upheld

end Flow

namespace Contract

variable {σ α ε : Type} (contract : Contract σ)

/-- What is left to uphold where a stretch ends. -/
def Halts (ends : Except Fault ε → σ → World σ → Prop) (start : σ)
    (now : World σ) : Halt σ ε → Prop
  | .ended result => ends result start now
  | .calls call next => (Flow.send call next).Upholds contract ends start now
  | .locks lock next => (Flow.acquire lock next).Upholds contract ends start now
  | .awaits engine next =>
      (Flow.restored engine next).Upholds contract ends start now

/-- What a waiting thread upholds, whatever happens meanwhile. -/
def Waits (ends : Except Fault ε → σ → World σ → Prop) (now : World σ) :
    Pending σ ε → Prop
  | .ready flow => ∀ later, contract.Later now later →
      flow.Upholds contract ends later.state later
  | .sent number call next => ∀ reply later, contract.replies call reply →
      contract.Later now later →
      (next reply).Upholds contract ends later.state
        (later.deliver number reply)
  | .answered number reply next => ∀ later, contract.Later now later →
      (next reply).Upholds contract ends later.state
        (later.deliver number reply)
  | .locking _ next => ∀ later, contract.Later now later →
      next.Upholds contract ends later.state later
  | .awaiting _ next => ∀ result later, contract.Later now later →
      (next result).Upholds contract ends later.state later

variable {contract}

/-- A thread goes on waiting. -/
theorem Waits.later {ends : Except Fault ε → σ → World σ → Prop}
    {now middle : World σ} {thread : Pending σ ε}
    (waits : contract.Waits ends now thread)
    (moved : contract.Later now middle) :
    contract.Waits ends middle thread := by
  cases thread with
  | ready flow => exact fun later more => waits later (moved.trans more)
  | sent number call next =>
      exact fun reply later known more =>
        waits reply later known (moved.trans more)
  | answered number reply next =>
      exact fun later more => waits later (moved.trans more)
  | locking lock next => exact fun later more => waits later (moved.trans more)
  | awaiting engine next =>
      exact fun result later more => waits result later (moved.trans more)

end Contract

/-- A stretch of a flow that upholds a contract makes allowed changes only, and
what is left is upheld. -/
theorem Flow.Upholds.stretch {σ ε : Type} {contract : Contract σ}
    {flow : Flow σ ε} {ends : Except Fault ε → σ → World σ → Prop} {start : σ}
    {now : World σ} (upheld : flow.Upholds contract ends start now) :
    (∀ change ∈ (flow.stretch now.state).changes,
        contract.change change.1 change.2) ∧
      contract.Halts ends start
        { now with state := (flow.stretch now.state).state }
        (flow.stretch now.state).halt := by
  induction flow generalizing now with
  | done result => exact ⟨by simp [Flow.stretch], upheld⟩
  | fail fault => exact ⟨by simp [Flow.stretch], upheld⟩
  | inspect next ih => exact ih _ upheld
  | update state next ih =>
      obtain ⟨allowed, rest⟩ := upheld
      obtain ⟨changes, halts⟩ := ih rest
      refine ⟨?_, halts⟩
      intro change member
      obtain rfl | member := List.mem_cons.mp member
      · exact allowed
      · exact changes change member
  | release lock next ih => exact ih upheld
  | send call next => exact ⟨by simp [Flow.stretch], upheld⟩
  | acquire lock next => exact ⟨by simp [Flow.stretch], upheld⟩
  | restored engine next => exact ⟨by simp [Flow.stretch], upheld⟩

end Audience
