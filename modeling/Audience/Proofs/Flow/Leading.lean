import Audience.Proofs.Flow.Alone
import Audience.Proofs.Flow.Changes

/-!
# Where flows lead that run alone

A flow that is run alone may wait for another one, and then has no run.  What
holds at the end of each run that it has is read off the flow as before, and what
its changes and its replies keep holds there.
-/

namespace Audience
namespace Flow

variable {σ β α γ : Type}

/-- Each run of a flow that runs alone ends as the condition says.  There is none
that waits for another flow. -/
def Leads (serves : β → Call → Reply → β → Prop) (flow : Flow σ α)
    (ends : Except Fault α → σ → β → Prop) (state : σ) (server : β) : Prop :=
  match flow with
  | done result => ends (.ok result) state server
  | fail fault => ends (.error fault) state server
  | inspect next => (next state).Leads serves ends state server
  | update changed next => next.Leads serves ends changed server
  | send call next => ∀ reply after, serves server call reply after →
      (next reply).Leads serves ends state after
  | acquire _ next => next.Leads serves ends state server
  | release _ next => next.Leads serves ends state server
  | restored _ _ => True

variable {serves : β → Call → Reply → β → Prop}
variable {ends : Except Fault α → σ → β → Prop} {state : σ} {server : β}

/-- Every run ends as the condition says. -/
theorem Leads.ran {flow : Flow σ α} {later : σ} {after : β}
    {result : Except Fault α} (leads : flow.Leads serves ends state server)
    (ran : flow.Ran serves state server result later after) :
    ends result later after := by
  induction ran with
  | done => exact leads
  | fail => exact leads
  | inspect rest ih => exact ih leads
  | update rest ih => exact ih leads
  | send served rest ih => exact ih (leads _ _ served)
  | acquire rest ih => exact ih leads
  | release rest ih => exact ih leads

/-- A run against a backend is one against what is seen of it. -/
theorem Ran.viewed {serves : γ → Call → Reply → γ → Prop} {view : β → γ}
    {flow : Flow σ α} {state later : σ} {server after : β}
    {result : Except Fault α}
    (ran : flow.Ran (fun before call reply after =>
      serves (view before) call reply (view after)) state server result later
        after) :
    flow.Ran serves state (view server) result later (view after) := by
  induction ran with
  | done => exact .done
  | fail => exact .fail
  | inspect rest ih => exact .inspect ih
  | update rest ih => exact .update ih
  | send served rest ih => exact .send served ih
  | acquire rest ih => exact .acquire ih
  | release rest ih => exact .release ih

/-- Where a flow leads against what is seen of a backend, it leads against the
backend. -/
theorem Leads.viewed {serves : γ → Call → Reply → γ → Prop}
    {serves' : β → Call → Reply → β → Prop} {view : β → γ}
    (sees : ∀ before call reply after, serves' before call reply after →
      serves (view before) call reply (view after))
    {flow : Flow σ α} {ends : Except Fault α → σ → γ → Prop} {state : σ}
    {server : β} (leads : flow.Leads serves ends state (view server)) :
    flow.Leads serves' (fun result later after => ends result later (view after))
      state server := by
  induction flow generalizing state server with
  | done result => exact leads
  | fail fault => exact leads
  | inspect next ih => exact ih _ leads
  | update changed next ih => exact ih leads
  | send call next ih =>
      intro reply after served
      exact ih reply (leads reply _ (sees _ _ _ _ served))
  | acquire _ next ih => exact ih leads
  | release _ next ih => exact ih leads
  | restored _ next ih => trivial

/-- What follows the end of a flow leads where it does after the flow. -/
theorem leads_finish {flow : Flow σ α} {rest : Except Fault α → Flow σ γ}
    {ends : Except Fault γ → σ → β → Prop} {state : σ} {server : β} :
    (flow.finish rest).Leads serves ends state server ↔
      flow.Leads serves (fun result => (rest result).Leads serves ends)
        state server := by
  induction flow generalizing state server with
  | done result => rfl
  | fail fault => rfl
  | inspect next ih => exact ih _
  | update changed next ih => exact ih
  | send call next ih => simp only [finish, Leads, ih]
  | acquire _ next ih => exact ih
  | release _ next ih => exact ih
  | restored _ next ih => rfl

/-- Two flows in a row lead where the second does after the first. -/
theorem leads_bind {flow : Flow σ α} {rest : α → Flow σ γ}
    {ends : Except Fault γ → σ → β → Prop} {state : σ} {server : β} :
    (flow.bind rest).Leads serves ends state server ↔
      flow.Leads serves (fun
        | .ok result => (rest result).Leads serves ends
        | .error fault => ends (.error fault)) state server := by
  induction flow generalizing state server with
  | done result => rfl
  | fail fault => rfl
  | inspect next ih => exact ih _
  | update changed next ih => exact ih
  | send call next ih => simp only [bind, Leads, ih]
  | acquire _ next ih => exact ih
  | release _ next ih => exact ih
  | restored _ next ih => rfl

/-- A weaker condition holds as well. -/
theorem Leads.mono {flow : Flow σ α} {ends' : Except Fault α → σ → β → Prop}
    (weaker : ∀ result later after,
      ends result later after → ends' result later after)
    (leads : flow.Leads serves ends state server) :
    flow.Leads serves ends' state server := by
  induction flow generalizing state server with
  | done result => exact weaker _ _ _ leads
  | fail fault => exact weaker _ _ _ leads
  | inspect next ih => exact ih _ leads
  | update changed next ih => exact ih leads
  | send call next ih =>
      exact fun reply after served => ih reply (leads reply after served)
  | acquire _ next ih => exact ih leads
  | release _ next ih => exact ih leads
  | restored _ next ih => trivial

/-- Two conditions that hold hold together. -/
theorem Leads.both {flow : Flow σ α} {ends' : Except Fault α → σ → β → Prop}
    (one : flow.Leads serves ends state server)
    (other : flow.Leads serves ends' state server) :
    flow.Leads serves (fun result later after =>
      ends result later after ∧ ends' result later after) state server := by
  induction flow generalizing state server with
  | done result => exact ⟨one, other⟩
  | fail fault => exact ⟨one, other⟩
  | inspect next ih => exact ih _ one other
  | update changed next ih => exact ih one other
  | send call next ih =>
      exact fun reply after served =>
        ih reply (one reply after served) (other reply after served)
  | acquire _ next ih => exact ih one other
  | release _ next ih => exact ih one other
  | restored _ next ih => trivial

@[simp] theorem leads_ofResult {result : Except Fault α} :
    (ofResult result).Leads serves ends state server ↔
      ends result state server := by
  cases result <;> rfl

/-- A flow under a lock leads where it does without. -/
theorem leads_locked {lock : Lock} {flow : Flow σ α} :
    (locked lock flow).Leads serves ends state server ↔
      flow.Leads serves ends state server := by
  have released : (fun result => (release lock (ofResult result)).Leads serves
      ends) = ends := by
    funext result state server
    exact propext leads_ofResult
  show (flow.finish _).Leads serves ends state server ↔ _
  rw [leads_finish, released]

/-- Nothing is said of where a flow leads. -/
theorem leads_any (flow : Flow σ α) (state : σ) (server : β) :
    flow.Leads serves (fun _ _ _ => True) state server := by
  induction flow generalizing state server with
  | done result => trivial
  | fail fault => trivial
  | inspect next ih => exact ih _ _ _
  | update changed next ih => exact ih _ _
  | send call next ih => exact fun reply after _ => ih reply _ _
  | acquire _ next ih => exact ih _ _
  | release _ next ih => exact ih _ _
  | restored _ next ih => trivial

/-- What two flows keep holds where they lead in a row. -/
theorem Leads.andThen {flow : Flow σ α} {rest : α → Flow σ γ}
    {inv : σ → β → Prop} (first : flow.Leads serves (fun _ => inv) state server)
    (second : ∀ result later after, inv later after →
      (rest result).Leads serves (fun _ => inv) later after) :
    (flow.bind rest).Leads serves (fun _ => inv) state server := by
  apply leads_bind.mpr
  apply first.mono
  intro result later after kept
  cases result with
  | error fault => exact kept
  | ok value => exact second value later after kept

/-- What the changes of a flow keep, and the replies to its calls, holds where it
leads, together with what is known of its end. -/
theorem Makes.leads_ends {flow : Flow σ α} {allowed : σ → σ → Prop}
    {sendable : Call → Prop} {ends : Except Fault α → Prop} {inv : σ → β → Prop}
    (changes : ∀ before after server, allowed before after →
      inv before server → inv after server)
    (replies : ∀ state before call reply after, sendable call →
      serves before call reply after → inv state before → inv state after)
    (makes : flow.Makes allowed ends state) (sends : flow.Sends sendable)
    (holds : inv state server) :
    flow.Leads serves (fun result later after => ends result ∧ inv later after)
      state server := by
  induction flow generalizing state server with
  | done result => exact ⟨makes, holds⟩
  | fail fault => exact ⟨makes, holds⟩
  | inspect next ih => exact ih _ makes (sends _) holds
  | update changed next ih =>
      exact ih makes.2 sends (changes _ _ _ makes.1 holds)
  | send call next ih =>
      intro reply after served
      exact ih reply (makes reply state) (sends.2 reply)
        (replies _ _ _ _ _ sends.1 served holds)
  | acquire _ next ih => exact ih (makes state) sends holds
  | release _ next ih => exact ih makes sends holds
  | restored _ next ih => trivial

/-- What the changes of a flow keep, and the replies to its calls, holds where it
leads. -/
theorem Makes.leads {flow : Flow σ α} {allowed : σ → σ → Prop}
    {sendable : Call → Prop} {inv : σ → β → Prop}
    (changes : ∀ before after server, allowed before after →
      inv before server → inv after server)
    (replies : ∀ state before call reply after, sendable call →
      serves before call reply after → inv state before → inv state after)
    (makes : flow.Makes allowed (fun _ => True) state)
    (sends : flow.Sends sendable) (holds : inv state server) :
    flow.Leads serves (fun _ => inv) state server :=
  (makes.leads_ends changes replies sends holds).mono fun _ _ _ => And.right

/-- What the replies to the calls of a flow keep of the backend holds where it
leads. -/
theorem Sends.leads {flow : Flow σ α} {sendable : Call → Prop}
    {inv : β → Prop}
    (replies : ∀ before call reply after, sendable call →
      serves before call reply after → inv before → inv after)
    (sends : flow.Sends sendable) (holds : inv server) :
    flow.Leads serves (fun _ _ after => inv after) state server := by
  induction flow generalizing state server with
  | done result => exact holds
  | fail fault => exact holds
  | inspect next ih => exact ih _ (sends _) holds
  | update changed next ih => exact ih sends holds
  | send call next ih =>
      intro reply after served
      exact ih reply (sends.2 reply) (replies _ _ _ _ sends.1 served holds)
  | acquire _ next ih => exact ih sends holds
  | release _ next ih => exact ih sends holds
  | restored _ next ih => trivial

/-- A flow leads only to states that its changes lead to. -/
theorem Makes.leads_along {flow : Flow σ α} {allowed : σ → σ → Prop}
    {ends : Except Fault α → Prop} (refl : ∀ state, allowed state state)
    (trans : ∀ {first second third}, allowed first second →
      allowed second third → allowed first third)
    (makes : flow.Makes allowed ends state) :
    flow.Leads serves (fun result later _ => ends result ∧ allowed state later)
      state server :=
  makes.leads_ends (fun _ _ _ change kept => trans kept change)
    (fun _ _ _ _ _ _ _ kept => kept) (sends_any flow) (refl state)

/-- A flow that is alone leads where it ends. -/
theorem Alone.leads {flow : Flow σ α}
    (alone : flow.Alone serves ends state server) :
    flow.Leads serves ends state server := by
  induction flow generalizing state server with
  | done result => exact alone
  | fail fault => exact alone
  | inspect next ih => exact ih _ alone
  | update changed next ih => exact ih alone
  | send call next ih =>
      exact fun reply after served => ih reply (alone reply after served)
  | acquire _ next ih => exact ih alone
  | release _ next ih => exact ih alone
  | restored _ next ih => trivial

/-- What holds of the state and the backend if a flow gives a value. -/
def Yields (inv : σ → β → Prop) (result : Except Fault α) (state : σ)
    (server : β) : Prop :=
  ∀ value, result = .ok value → inv state server

section Yields

variable {inv : σ → β → Prop}

theorem Leads.yields {flow : Flow σ α}
    (leads : flow.Leads serves (fun _ => inv) state server) :
    flow.Leads serves (Yields inv) state server :=
  leads.mono fun _ _ _ holds _ _ => holds

theorem yields_error {fault : Fault} :
    Yields inv (.error fault : Except Fault α) state server := nofun

/-- Two flows in a row yield what the second does after what the first yields. -/
theorem Leads.thenYields {flow : Flow σ α} {rest : α → Flow σ γ}
    {later : σ → β → Prop}
    (first : flow.Leads serves (Yields inv) state server)
    (second : ∀ value middle between, inv middle between →
      (rest value).Leads serves (Yields later) middle between) :
    (flow.bind rest).Leads serves (Yields later) state server := by
  apply leads_bind.mpr
  apply first.mono
  intro result middle between yields
  cases result with
  | error fault => exact yields_error
  | ok value => exact second value middle between (yields value rfl)

/-- What is said in the end does not matter. -/
theorem Leads.thenDone {flow : Flow σ α} {answer : α → γ}
    (first : flow.Leads serves (Yields inv) state server) :
    (flow.bind fun value => done (answer value)).Leads serves (Yields inv) state
      server := by
  apply first.thenYields
  intro value middle between holds other same
  exact holds

end Yields

end Flow
end Audience
