import Audience.Flow.Basic
import Audience.Keyed

/-!
# Flows that run alone

A flow that nothing else overlaps runs from its beginning to its end: every call
is answered before anything else happens, and every lock is free.  What holds at
the end of each such run can be read off the flow step by step.
-/

namespace Audience
namespace Flow

variable {σ β α γ : Type}

/-- A flow runs alone to its end, from one state of the shared memory and the
backend to another. -/
inductive Ran (serves : β → Call → Reply → β → Prop) :
    Flow σ α → σ → β → Except Fault α → σ → β → Prop where
  | done {result : α} {state : σ} {server : β} :
      Ran serves (.done result) state server (.ok result) state server
  | fail {fault : Fault} {state : σ} {server : β} :
      Ran serves (.fail fault) state server (.error fault) state server
  | inspect {next : σ → Flow σ α} {state later : σ} {server after : β}
      {result : Except Fault α}
      (rest : Ran serves (next state) state server result later after) :
      Ran serves (.inspect next) state server result later after
  | update {next : Flow σ α} {state changed later : σ} {server after : β}
      {result : Except Fault α}
      (rest : Ran serves next changed server result later after) :
      Ran serves (.update changed next) state server result later after
  | send {call : Call} {next : Reply → Flow σ α} {reply : Reply}
      {state later : σ} {server handled after : β} {result : Except Fault α}
      (served : serves server call reply handled)
      (rest : Ran serves (next reply) state handled result later after) :
      Ran serves (.send call next) state server result later after
  | acquire {lock : Lock} {next : Flow σ α} {state later : σ}
      {server after : β} {result : Except Fault α}
      (rest : Ran serves next state server result later after) :
      Ran serves (.acquire lock next) state server result later after
  | release {lock : Lock} {next : Flow σ α} {state later : σ}
      {server after : β} {result : Except Fault α}
      (rest : Ran serves next state server result later after) :
      Ran serves (.release lock next) state server result later after

variable (serves : β → Call → Reply → β → Prop)

/-- However the backend answers, a flow that runs alone ends as the given
condition says.  A flow that waits for another one is not alone. -/
def Alone (flow : Flow σ α) (ends : Except Fault α → σ → β → Prop)
    (state : σ) (server : β) : Prop :=
  match flow with
  | done result => ends (.ok result) state server
  | fail fault => ends (.error fault) state server
  | inspect next => (next state).Alone ends state server
  | update changed next => next.Alone ends changed server
  | send call next => ∀ reply after, serves server call reply after →
      (next reply).Alone ends state after
  | acquire _ next => next.Alone ends state server
  | release _ next => next.Alone ends state server
  | restored _ _ => False

variable {serves}

/-- Every run ends as the condition says. -/
theorem Alone.ran {flow : Flow σ α} {ends : Except Fault α → σ → β → Prop}
    {state later : σ} {server after : β} {result : Except Fault α}
    (alone : flow.Alone serves ends state server)
    (ran : flow.Ran serves state server result later after) :
    ends result later after := by
  induction ran with
  | done => exact alone
  | fail => exact alone
  | inspect rest ih => exact ih alone
  | update rest ih => exact ih alone
  | send served rest ih => exact ih (alone _ _ served)
  | acquire rest ih => exact ih alone
  | release rest ih => exact ih alone

/-- A run is one against every backend that serves in more ways. -/
theorem Ran.mono {serves' : β → Call → Reply → β → Prop}
    (more : ∀ before call reply after, serves before call reply after →
      serves' before call reply after) {flow : Flow σ α} {state later : σ}
    {server after : β} {result : Except Fault α}
    (ran : flow.Ran serves state server result later after) :
    flow.Ran serves' state server result later after := by
  induction ran with
  | done => exact .done
  | fail => exact .fail
  | inspect rest ih => exact .inspect ih
  | update rest ih => exact .update ih
  | send served rest ih => exact .send (more _ _ _ _ served) ih
  | acquire rest ih => exact .acquire ih
  | release rest ih => exact .release ih

/-- Run a flow alone against a backend that computes its answers. -/
def computed (answer : β → Call → Reply × β) (flow : Flow σ α) (state : σ)
    (server : β) : Option (Except Fault α × σ × β) :=
  match flow with
  | done result => some (.ok result, state, server)
  | fail fault => some (.error fault, state, server)
  | inspect next => (next state).computed answer state server
  | update changed next => next.computed answer changed server
  | send call next =>
      (next (answer server call).1).computed answer state
        (answer server call).2
  | acquire _ next => next.computed answer state server
  | release _ next => next.computed answer state server
  | restored _ _ => none

/-- The calls that a flow makes that is run so, each with the state of the
backend that it finds. -/
def exchanges (answer : β → Call → Reply × β) (flow : Flow σ α) (state : σ)
    (server : β) : List (β × Call) :=
  match flow with
  | done _ => []
  | fail _ => []
  | inspect next => (next state).exchanges answer state server
  | update changed next => next.exchanges answer changed server
  | send call next =>
      (server, call) ::
        (next (answer server call).1).exchanges answer state
          (answer server call).2
  | acquire _ next => next.exchanges answer state server
  | release _ next => next.exchanges answer state server
  | restored _ _ => []

/-- What is computed is a run, if its calls are answered as they may be. -/
theorem ran_of_exchanges {answer : β → Call → Reply × β} {flow : Flow σ α}
    {state later : σ} {server after : β} {result : Except Fault α}
    (served : ∀ exchange ∈ flow.exchanges answer state server,
      serves exchange.1 exchange.2 (answer exchange.1 exchange.2).1
        (answer exchange.1 exchange.2).2)
    (ended : flow.computed answer state server = some (result, later, after)) :
    flow.Ran serves state server result later after := by
  induction flow generalizing state server with
  | done value =>
      cases ended
      exact .done
  | fail fault =>
      cases ended
      exact .fail
  | inspect next ih => exact .inspect (ih _ served ended)
  | update changed next ih => exact .update (ih served ended)
  | send call next ih =>
      refine .send (served _ (List.mem_cons_self ..)) (ih _ ?_ ended)
      exact fun exchange member => served exchange (List.mem_cons_of_mem _ member)
  | acquire _ next ih => exact .acquire (ih served ended)
  | release _ next ih => exact .release (ih served ended)
  | restored _ next => cases ended

/-- What is computed is a run, if every call is answered as it may be. -/
theorem ran_of_computed {answer : β → Call → Reply × β}
    (served : ∀ server call,
      serves server call (answer server call).1 (answer server call).2)
    {flow : Flow σ α} {state later : σ} {server after : β}
    {result : Except Fault α}
    (ended : flow.computed answer state server = some (result, later, after)) :
    flow.Ran serves state server result later after :=
  ran_of_exchanges (fun _ _ => served _ _) ended

/-- What is tested to be a success is one. -/
theorem exists_ok {ε α : Type} (result : Except ε α)
    (fine : result.isOk = true) : ∃ value, result = .ok value := by
  obtain error | value := result
  · cases fine
  · exact ⟨value, rfl⟩

/-- A run whose end passes a test exists if the computed one passes it. -/
theorem exists_ran (answer : β → Call → Reply × β) (flow : Flow σ α)
    (state : σ) (server : β) (passes : Except Fault α → σ → β → Bool)
    (served : ∀ exchange ∈ flow.exchanges answer state server,
      serves exchange.1 exchange.2 (answer exchange.1 exchange.2).1
        (answer exchange.1 exchange.2).2)
    (ended : (flow.computed answer state server).any
      (fun ends => passes ends.1 ends.2.1 ends.2.2) = true) :
    ∃ result later after, flow.Ran serves state server result later after ∧
      passes result later after = true := by
  obtain ⟨⟨result, later, after⟩, computed, passed⟩ :=
    (Option.any_eq_true _ _).mp ended
  exact ⟨result, later, after, ran_of_exchanges served computed, passed⟩

/-- However a flow must end that runs alone, the computed run exists and ends
so. -/
theorem Alone.exists_computed (answer : β → Call → Reply × β)
    (served : ∀ server call,
      serves server call (answer server call).1 (answer server call).2)
    {flow : Flow σ α} {ends : Except Fault α → σ → β → Prop} {state : σ}
    {server : β} (alone : flow.Alone serves ends state server) :
    ∃ result later after,
      flow.computed answer state server = some (result, later, after) ∧
        ends result later after := by
  induction flow generalizing state server with
  | done result => exact ⟨_, _, _, rfl, alone⟩
  | fail fault => exact ⟨_, _, _, rfl, alone⟩
  | inspect next ih => exact ih _ alone
  | update changed next ih => exact ih alone
  | send call next ih => exact ih _ (alone _ _ (served server call))
  | acquire _ next ih => exact ih alone
  | release _ next ih => exact ih alone
  | restored _ next => exact alone.elim

/-- A weaker condition holds as well. -/
theorem Alone.mono {flow : Flow σ α}
    {ends ends' : Except Fault α → σ → β → Prop}
    (weaker : ∀ result state server,
      ends result state server → ends' result state server)
    {state : σ} {server : β} (alone : flow.Alone serves ends state server) :
    flow.Alone serves ends' state server := by
  induction flow generalizing state server with
  | done result => exact weaker _ _ _ alone
  | fail fault => exact weaker _ _ _ alone
  | inspect next ih => exact ih _ alone
  | update changed next ih => exact ih alone
  | send call next ih =>
      exact fun reply after served => ih reply (alone reply after served)
  | acquire _ next ih => exact ih alone
  | release _ next ih => exact ih alone
  | restored _ next ih => exact alone

/-- Two flows in a row end as the second does after the first. -/
theorem alone_bind {flow : Flow σ α} {rest : α → Flow σ γ}
    {ends : Except Fault γ → σ → β → Prop} {state : σ} {server : β} :
    (flow.bind rest).Alone serves ends state server ↔
      flow.Alone serves (fun
        | .ok result => (rest result).Alone serves ends
        | .error fault => ends (.error fault)) state server := by
  induction flow generalizing state server with
  | done result => rfl
  | fail fault => rfl
  | inspect next ih => exact ih _
  | update changed next ih => exact ih
  | send call next ih => simp only [bind, Alone, ih]
  | acquire _ next ih => exact ih
  | release _ next ih => exact ih
  | restored _ next ih => rfl

/-- What follows the end of a flow ends as it does after the flow. -/
theorem alone_finish {flow : Flow σ α} {rest : Except Fault α → Flow σ γ}
    {ends : Except Fault γ → σ → β → Prop} {state : σ} {server : β} :
    (flow.finish rest).Alone serves ends state server ↔
      flow.Alone serves (fun result => (rest result).Alone serves ends)
        state server := by
  induction flow generalizing state server with
  | done result => rfl
  | fail fault => rfl
  | inspect next ih => exact ih _
  | update changed next ih => exact ih
  | send call next ih => simp only [finish, Alone, ih]
  | acquire _ next ih => exact ih
  | release _ next ih => exact ih
  | restored _ next ih => rfl

@[simp] theorem alone_ofResult {result : Except Fault α}
    {ends : Except Fault α → σ → β → Prop} {state : σ} {server : β} :
    (ofResult result).Alone serves ends state server ↔
      ends result state server := by
  cases result <;> rfl

/-- A flow under a lock ends as it does without. -/
theorem alone_locked {lock : Lock} {flow : Flow σ α}
    {ends : Except Fault α → σ → β → Prop} {state : σ} {server : β} :
    (locked lock flow).Alone serves ends state server ↔
      flow.Alone serves ends state server := by
  have released : (fun result => (release lock (ofResult result)).Alone serves
      ends) = ends := by
    funext result state server
    exact propext alone_ofResult
  show (flow.finish _).Alone serves ends state server ↔ _
  rw [alone_finish, released]

/-- The flow with everything done in place that it waits for: the first wait for
an engine is its restoring, and a later one learns how that ended.  It begins
with the restorings that are known to have ended. -/
def serial (restoring : EngineId → Flow σ Unit) (flow : Flow σ α)
    (known : Keyed EngineId (Except Fault Unit)) : Flow σ α :=
  match flow with
  | done result => done result
  | fail fault => fail fault
  | inspect next => inspect fun state => (next state).serial restoring known
  | update state next => update state (next.serial restoring known)
  | send call next => send call fun reply => (next reply).serial restoring known
  | acquire lock next => acquire lock (next.serial restoring known)
  | release lock next => release lock (next.serial restoring known)
  | restored engine next =>
      match Keyed.get? engine known with
      | some result => (next result).serial restoring known
      | none => (restoring engine).finish fun result =>
          (next result).serial restoring (Keyed.put engine result known)

end Flow
end Audience
