import Audience.Proofs.Flow.Alone
import Audience.Proofs.Flow.Contract

/-!
# What a flow changes and sends

Many flows change only what nobody else depends on.  What changes a flow makes
can be read off its tree, whatever others do while it waits, and a contract that
permits these changes is upheld by it.  So can the calls that it sends.
-/

namespace Audience
namespace Flow

variable {σ α β : Type}

/-- Every change that a flow makes from the given state on is allowed, and it
ends as the given condition says.  At every wait the state may become any
other. -/
def Makes (allowed : σ → σ → Prop) (ends : Except Fault α → Prop)
    (flow : Flow σ α) (now : σ) : Prop :=
  match flow with
  | done result => ends (.ok result)
  | fail fault => ends (.error fault)
  | inspect next => (next now).Makes allowed ends now
  | update state next => allowed now state ∧ next.Makes allowed ends state
  | release _ next => next.Makes allowed ends now
  | send _ next => ∀ reply later, (next reply).Makes allowed ends later
  | acquire _ next => ∀ later, next.Makes allowed ends later
  | restored _ next => ∀ result later, (next result).Makes allowed ends later

variable {allowed : σ → σ → Prop}

theorem Makes.mono {flow : Flow σ α} {ends ends' : Except Fault α → Prop}
    (weaker : ∀ result, ends result → ends' result) {now : σ}
    (makes : flow.Makes allowed ends now) : flow.Makes allowed ends' now := by
  induction flow generalizing now with
  | done result => exact weaker _ makes
  | fail fault => exact weaker _ makes
  | inspect next ih => exact ih _ makes
  | update state next ih => exact ⟨makes.1, ih makes.2⟩
  | release _ next ih => exact ih makes
  | send call next ih => exact fun reply later => ih reply (makes reply later)
  | acquire _ next ih => exact fun later => ih (makes later)
  | restored _ next ih =>
      exact fun result later => ih result (makes result later)

/-- What is allowed may be more. -/
theorem Makes.relax {flow : Flow σ α} {allowed' : σ → σ → Prop}
    {ends : Except Fault α → Prop}
    (weaker : ∀ before after, allowed before after → allowed' before after)
    {now : σ} (makes : flow.Makes allowed ends now) :
    flow.Makes allowed' ends now := by
  induction flow generalizing now with
  | done result => exact makes
  | fail fault => exact makes
  | inspect next ih => exact ih _ makes
  | update state next ih => exact ⟨weaker _ _ makes.1, ih makes.2⟩
  | release _ next ih => exact ih makes
  | send call next ih => exact fun reply later => ih reply (makes reply later)
  | acquire _ next ih => exact fun later => ih (makes later)
  | restored _ next ih =>
      exact fun result later => ih result (makes result later)

/-- Two flows in a row make the changes of both. -/
theorem Makes.bind {flow : Flow σ α} {rest : α → Flow σ β}
    {ends : Except Fault β → Prop} {now : σ}
    (first : flow.Makes allowed (fun
      | .ok result => ∀ later, (rest result).Makes allowed ends later
      | .error fault => ends (.error fault)) now) :
    (flow.bind rest).Makes allowed ends now := by
  induction flow generalizing now with
  | done result => exact first now
  | fail fault => exact first
  | inspect next ih => exact ih _ first
  | update state next ih => exact ⟨first.1, ih first.2⟩
  | release _ next ih => exact ih first
  | send call next ih => exact fun reply later => ih reply (first reply later)
  | acquire _ next ih => exact fun later => ih (first later)
  | restored _ next ih =>
      exact fun result later => ih result (first result later)

/-- So do a flow and what follows its end. -/
theorem Makes.finish {flow : Flow σ α} {rest : Except Fault α → Flow σ β}
    {ends : Except Fault β → Prop} {now : σ}
    (first : flow.Makes allowed
      (fun result => ∀ later, (rest result).Makes allowed ends later) now) :
    (flow.finish rest).Makes allowed ends now := by
  induction flow generalizing now with
  | done result => exact first now
  | fail fault => exact first now
  | inspect next ih => exact ih _ first
  | update state next ih => exact ⟨first.1, ih first.2⟩
  | release _ next ih => exact ih first
  | send call next ih => exact fun reply later => ih reply (first reply later)
  | acquire _ next ih => exact fun later => ih (first later)
  | restored _ next ih =>
      exact fun result later => ih result (first result later)

@[simp] theorem makes_ofResult {result : Except Fault α}
    {ends : Except Fault α → Prop} {now : σ} :
    (ofResult result).Makes allowed ends now ↔ ends result := by
  cases result <;> rfl

theorem Makes.guard {flow : Flow σ α} {ends : Except Fault (Outcome α) → Prop}
    {now : σ} (makes : flow.Makes allowed (fun result => ends (guarded result))
      now) : flow.guard.Makes allowed ends now := by
  rw [guard_eq]
  apply Makes.finish
  apply makes.mono
  intro result ended later
  exact makes_ofResult.mpr ended

theorem Makes.locked {lock : Lock} {flow : Flow σ α}
    {ends : Except Fault α → Prop} {now : σ}
    (makes : ∀ later, flow.Makes allowed ends later) :
    (Flow.locked lock flow).Makes allowed ends now := by
  intro later
  apply Makes.finish
  apply (makes later).mono
  intro result ended later
  exact makes_ofResult.mpr ended

/-- Two flows that make allowed changes only do so in a row. -/
theorem Makes.andThen {flow : Flow σ α} {rest : α → Flow σ β} {now : σ}
    (first : flow.Makes allowed (fun _ => True) now)
    (second : ∀ result later,
      (rest result).Makes allowed (fun _ => True) later) :
    (flow.bind rest).Makes allowed (fun _ => True) now := by
  apply Makes.bind
  apply first.mono
  intro result _
  obtain fault | value := result
  · trivial
  · exact second value

/-- A flow that runs alone makes its changes on the way to its end. -/
theorem Alone.making {serves : β → Call → Reply → β → Prop}
    {flow : Flow σ α} {ends : Except Fault α → σ → β → Prop}
    {ends' : Except Fault α → Prop} (refl : ∀ state, allowed state state)
    (trans : ∀ {first second third}, allowed first second →
      allowed second third → allowed first third)
    {state : σ} {server : β} (alone : flow.Alone serves ends state server)
    (makes : flow.Makes allowed ends' state) :
    flow.Alone serves (fun result later after =>
      ends result later after ∧ allowed state later) state server := by
  induction flow generalizing state server with
  | done result => exact ⟨alone, refl state⟩
  | fail fault => exact ⟨alone, refl state⟩
  | inspect next ih => exact ih _ alone makes
  | update changed next ih =>
      exact (ih alone makes.2).mono fun _ _ _ ended =>
        ⟨ended.1, trans makes.1 ended.2⟩
  | send call next ih =>
      exact fun reply after served =>
        ih reply (alone reply after served) (makes reply state)
  | acquire _ next ih => exact ih alone (makes state)
  | release _ next ih => exact ih alone makes
  | restored _ next ih => exact alone

section Sends

variable {sendable : Call → Prop}

/-- Every call that a flow sends is one of those that may be sent. -/
def Sends (sendable : Call → Prop) (flow : Flow σ α) : Prop :=
  match flow with
  | done _ => True
  | fail _ => True
  | inspect next => ∀ state, (next state).Sends sendable
  | update _ next => next.Sends sendable
  | release _ next => next.Sends sendable
  | send call next => sendable call ∧ ∀ reply, (next reply).Sends sendable
  | acquire _ next => next.Sends sendable
  | restored _ next => ∀ result, (next result).Sends sendable

/-- What may be sent may be more. -/
theorem Sends.relax {flow : Flow σ α} {sendable' : Call → Prop}
    (weaker : ∀ call, sendable call → sendable' call)
    (sends : flow.Sends sendable) : flow.Sends sendable' := by
  induction flow with
  | done result => trivial
  | fail fault => trivial
  | inspect next ih => exact fun state => ih state (sends state)
  | update state next ih => exact ih sends
  | release _ next ih => exact ih sends
  | send call next ih =>
      exact ⟨weaker call sends.1, fun reply => ih reply (sends.2 reply)⟩
  | acquire _ next ih => exact ih sends
  | restored _ next ih => exact fun result => ih result (sends result)

/-- Nothing is asked of what a flow sends. -/
theorem sends_any (flow : Flow σ α) : flow.Sends fun _ => True := by
  induction flow with
  | done result => trivial
  | fail fault => trivial
  | inspect next ih => exact ih
  | update state next ih => exact ih
  | release _ next ih => exact ih
  | send call next ih => exact ⟨trivial, ih⟩
  | acquire _ next ih => exact ih
  | restored _ next ih => exact ih

/-- A flow and what follows its end send the calls of both. -/
theorem Sends.finish {flow : Flow σ α} {rest : Except Fault α → Flow σ β}
    (first : flow.Sends sendable)
    (second : ∀ result, (rest result).Sends sendable) :
    (flow.finish rest).Sends sendable := by
  induction flow with
  | done result => exact second _
  | fail fault => exact second _
  | inspect next ih => exact fun state => ih state (first state)
  | update state next ih => exact ih first
  | release _ next ih => exact ih first
  | send call next ih => exact ⟨first.1, fun reply => ih reply (first.2 reply)⟩
  | acquire _ next ih => exact ih first
  | restored _ next ih => exact fun result => ih result (first result)

/-- So do two flows in a row. -/
theorem Sends.bind {flow : Flow σ α} {rest : α → Flow σ β}
    (first : flow.Sends sendable)
    (second : ∀ result, (rest result).Sends sendable) :
    (flow.bind rest).Sends sendable := by
  induction flow with
  | done result => exact second _
  | fail fault => trivial
  | inspect next ih => exact fun state => ih state (first state)
  | update state next ih => exact ih first
  | release _ next ih => exact ih first
  | send call next ih => exact ⟨first.1, fun reply => ih reply (first.2 reply)⟩
  | acquire _ next ih => exact ih first
  | restored _ next ih => exact fun result => ih result (first result)

/-- A flow with a known end sends nothing. -/
theorem sends_ofResult (result : Except Fault α) :
    (ofResult result : Flow σ α).Sends sendable := by
  cases result <;> trivial

theorem Sends.guard {flow : Flow σ α} (sends : flow.Sends sendable) :
    flow.guard.Sends sendable := by
  rw [guard_eq]
  exact sends.finish fun result => sends_ofResult _

theorem Sends.locked {lock : Lock} {flow : Flow σ α}
    (sends : flow.Sends sendable) :
    (Flow.locked lock flow).Sends sendable := by
  apply Sends.finish sends
  intro result
  exact sends_ofResult result

end Sends

end Flow

namespace Contract

variable {σ α : Type} (contract : Contract σ) (allowed : σ → σ → Prop)

/-- A contract that does not mind certain changes, nor that certain calls are
sent. -/
structure Tolerates (sendable : Call → Prop) : Prop where
  moves : ∀ before after, allowed before after → contract.moves before after
  inv : ∀ now state, allowed now.state state → contract.inv now →
    contract.inv { now with state }
  send : ∀ now call, sendable call → contract.inv now →
    contract.inv (now.send call)
  deliver : ∀ now number reply, contract.inv now →
    contract.inv (now.deliver number reply)

/-- A contract that does not mind certain changes, nor which calls are sent. -/
structure Permits : Prop where
  moves : ∀ before after, allowed before after → contract.moves before after
  inv : ∀ now state, allowed now.state state → contract.inv now →
    contract.inv { now with state }
  send : ∀ now call, contract.inv now → contract.inv (now.send call)
  deliver : ∀ now number reply, contract.inv now →
    contract.inv (now.deliver number reply)

/-- Where a flow is that only made permitted changes. -/
structure Passed (now : World σ) (began : σ) (ended : World σ) : Prop where
  inv : contract.inv ended
  began : contract.moves began ended.state
  grown : ended.Extends now
  moved : contract.moves now.state ended.state

variable {contract allowed}

theorem Passed.turn {now ended : World σ} {began : σ}
    (passed : contract.Passed now began ended) : contract.Turn began ended :=
  ⟨passed.inv, passed.began⟩

theorem Passed.trans {now middle ended : World σ} {between began : σ}
    (early : contract.Passed now between middle)
    (late : contract.Passed middle began ended) :
    contract.Passed now began ended :=
  ⟨late.inv, late.began, late.grown.trans early.grown,
    contract.moves_trans early.moved late.moved⟩

theorem Passed.of_later {now later : World σ}
    (moved : contract.Later now later) :
    contract.Passed now later.state later :=
  ⟨moved.inv, contract.moves_refl _, moved.grown, moved.moved⟩

theorem Passed.refl {now : World σ} {began : σ}
    (turn : contract.Turn began now) : contract.Passed now began now :=
  ⟨turn.1, turn.2, .refl now, contract.moves_refl now.state⟩

variable {sendable : Call → Prop}

/-- Who does not mind any call does not mind some of them. -/
theorem Permits.tolerates (permits : contract.Permits allowed) :
    contract.Tolerates allowed sendable :=
  ⟨permits.moves, permits.inv, fun now call _ => permits.send now call,
    permits.deliver⟩

/-- A tolerated change is passed. -/
theorem Tolerates.update (tolerates : contract.Tolerates allowed sendable)
    {began state : σ} {now : World σ} (turn : contract.Turn began now)
    (change : allowed now.state state) :
    contract.Passed now began { now with state } :=
  ⟨tolerates.inv now state change turn.1,
    contract.moves_trans turn.2 (tolerates.moves _ _ change), .of_state _ _,
    tolerates.moves _ _ change⟩

/-- A flow that only makes tolerated changes and sends tolerated calls upholds
the contract. -/
theorem Tolerates.upholds (tolerates : contract.Tolerates allowed sendable)
    {flow : Flow σ α} {ends : Except Fault α → Prop} {start : σ}
    {now : World σ} (makes : flow.Makes allowed ends now.state)
    (sends : flow.Sends sendable) (turn : contract.Turn start now) :
    flow.Upholds contract (fun result began ended =>
      contract.Passed now began ended ∧ ends result) start now := by
  induction flow generalizing start now with
  | done result => exact ⟨.refl turn, makes⟩
  | fail fault => exact ⟨.refl turn, makes⟩
  | inspect next ih => exact ih _ makes (sends _) turn
  | update state next ih =>
      have passed := tolerates.update turn makes.1
      refine ⟨contract.change_of_moves passed.moved, ?_⟩
      exact (ih makes.2 sends passed.turn).mono
        fun result began ended ⟨rest, ends⟩ => ⟨passed.trans rest, ends⟩
  | release _ next ih => exact ih makes sends turn
  | send call next ih =>
      refine ⟨⟨tolerates.send _ _ sends.1 turn.1, turn.2⟩, ?_⟩
      intro reply later known moved
      have delivered : contract.Passed now later.state
          (later.deliver now.sent.length reply) :=
        ⟨tolerates.deliver _ _ _ moved.inv, contract.moves_refl _,
          (World.Extends.of_deliver _ _ _).trans
            (moved.grown.trans (.of_send _ _)), moved.moved⟩
      exact (ih reply (makes reply _) (sends.2 reply) delivered.turn).mono
        fun result began ended ⟨rest, ends⟩ => ⟨delivered.trans rest, ends⟩
  | acquire _ next ih =>
      refine ⟨turn, fun later moved => ?_⟩
      have waited := Passed.of_later moved
      exact (ih (makes _) sends waited.turn).mono
        fun result began ended ⟨rest, ends⟩ => ⟨waited.trans rest, ends⟩
  | restored _ next ih =>
      refine ⟨turn, fun result later moved => ?_⟩
      have waited := Passed.of_later moved
      exact (ih result (makes result _) (sends result) waited.turn).mono
        fun result began ended ⟨rest, ends⟩ => ⟨waited.trans rest, ends⟩

/-- A permitted change is passed. -/
theorem Permits.update (permits : contract.Permits allowed) {began state : σ}
    {now : World σ} (turn : contract.Turn began now)
    (change : allowed now.state state) :
    contract.Passed now began { now with state } :=
  Tolerates.update (permits.tolerates : contract.Tolerates allowed fun _ => True)
    turn change

/-- A flow that only makes permitted changes upholds the contract. -/
theorem Permits.upholds (permits : contract.Permits allowed)
    {flow : Flow σ α} {ends : Except Fault α → Prop} {start : σ}
    {now : World σ} (makes : flow.Makes allowed ends now.state)
    (turn : contract.Turn start now) :
    flow.Upholds contract (fun result began ended =>
      contract.Passed now began ended ∧ ends result) start now :=
  permits.tolerates.upholds makes flow.sends_any turn

end Contract
end Audience
