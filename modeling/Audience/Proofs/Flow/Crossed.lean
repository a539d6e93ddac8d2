import Audience.Proofs.Flow.Alone
import Audience.Proofs.Flow.Contract

/-!
# Flows that are crossed by others

Whenever a flow waits, others may change the shared state in any way.  What it
says to the backend and what it ends with can still be read off its tree.
-/

namespace Audience
namespace Flow

variable {σ α γ : Type}

/-- A flow runs to its end, and finds any state at the end of each wait.  Its calls
are written down with their replies. -/
inductive Crossed :
    Flow σ α → σ → List (Call × Reply) → Except Fault α → σ → Prop where
  | done {result : α} {state : σ} :
      Crossed (.done result) state [] (.ok result) state
  | fail {fault : Fault} {state : σ} :
      Crossed (.fail fault) state [] (.error fault) state
  | inspect {next : σ → Flow σ α} {state later : σ}
      {said : List (Call × Reply)} {result : Except Fault α}
      (rest : Crossed (next state) state said result later) :
      Crossed (.inspect next) state said result later
  | update {next : Flow σ α} {state changed later : σ}
      {said : List (Call × Reply)} {result : Except Fault α}
      (rest : Crossed next changed said result later) :
      Crossed (.update changed next) state said result later
  | send {call : Call} {next : Reply → Flow σ α} {reply : Reply}
      {state found later : σ} {said : List (Call × Reply)}
      {result : Except Fault α}
      (rest : Crossed (next reply) found said result later) :
      Crossed (.send call next) state ((call, reply) :: said) result later
  | acquire {lock : Lock} {next : Flow σ α} {state found later : σ}
      {said : List (Call × Reply)} {result : Except Fault α}
      (rest : Crossed next found said result later) :
      Crossed (.acquire lock next) state said result later
  | release {lock : Lock} {next : Flow σ α} {state later : σ}
      {said : List (Call × Reply)} {result : Except Fault α}
      (rest : Crossed next state said result later) :
      Crossed (.release lock next) state said result later
  | restored {engine : EngineId} {next : Except Fault Unit → Flow σ α}
      {outcome : Except Fault Unit} {state found later : σ}
      {said : List (Call × Reply)} {result : Except Fault α}
      (rest : Crossed (next outcome) found said result later) :
      Crossed (.restored engine next) state said result later

/-- However it is crossed, a flow ends as the given condition says, which sees what
was said. -/
def Crossing (ends : List (Call × Reply) → Except Fault α → σ → Prop)
    (flow : Flow σ α) (state : σ) : Prop :=
  match flow with
  | done result => ends [] (.ok result) state
  | fail fault => ends [] (.error fault) state
  | inspect next => (next state).Crossing ends state
  | update changed next => next.Crossing ends changed
  | send call next => ∀ reply found,
      (next reply).Crossing (fun said => ends ((call, reply) :: said)) found
  | acquire _ next => ∀ found, next.Crossing ends found
  | release _ next => next.Crossing ends state
  | restored _ next => ∀ outcome found, (next outcome).Crossing ends found

variable {ends : List (Call × Reply) → Except Fault α → σ → Prop} {state : σ}

/-- Every crossed run ends as the condition says. -/
theorem Crossing.crossed {flow : Flow σ α} {later : σ}
    {said : List (Call × Reply)} {result : Except Fault α}
    (crossing : flow.Crossing ends state)
    (crossed : flow.Crossed state said result later) :
    ends said result later := by
  induction crossed generalizing ends with
  | done => exact crossing
  | fail => exact crossing
  | inspect rest ih => exact ih crossing
  | update rest ih => exact ih crossing
  | send rest ih => exact ih (crossing _ _)
  | acquire rest ih => exact ih (crossing _)
  | release rest ih => exact ih crossing
  | restored rest ih => exact ih (crossing _ _)

/-- A weaker condition holds as well. -/
theorem Crossing.mono {flow : Flow σ α}
    {ends' : List (Call × Reply) → Except Fault α → σ → Prop}
    (weaker : ∀ said result later, ends said result later →
      ends' said result later)
    (crossing : flow.Crossing ends state) : flow.Crossing ends' state := by
  induction flow generalizing state ends ends' with
  | done result => exact weaker _ _ _ crossing
  | fail fault => exact weaker _ _ _ crossing
  | inspect next ih => exact ih _ weaker crossing
  | update changed next ih => exact ih weaker crossing
  | send call next ih =>
      exact fun reply found =>
        ih reply (fun said => weaker (_ :: said)) (crossing reply found)
  | acquire _ next ih => exact fun found => ih weaker (crossing found)
  | release _ next ih => exact ih weaker crossing
  | restored _ next ih =>
      exact fun outcome found => ih outcome weaker (crossing outcome found)

/-- What follows the end of a flow ends as it does after the flow. -/
theorem crossing_finish {flow : Flow σ α} {rest : Except Fault α → Flow σ γ}
    {ends : List (Call × Reply) → Except Fault γ → σ → Prop} :
    (flow.finish rest).Crossing ends state ↔
      flow.Crossing (fun said result later =>
        (rest result).Crossing (fun more => ends (said ++ more)) later)
        state := by
  induction flow generalizing state ends with
  | done result => rfl
  | fail fault => rfl
  | inspect next ih => exact ih _
  | update changed next ih => exact ih
  | send call next ih => simp only [finish, Crossing, ih, List.cons_append]
  | acquire _ next ih => simp only [finish, Crossing, ih]
  | release _ next ih => exact ih
  | restored _ next ih => simp only [finish, Crossing, ih]

/-- Two flows in a row end as the second does after the first. -/
theorem crossing_bind {flow : Flow σ α} {rest : α → Flow σ γ}
    {ends : List (Call × Reply) → Except Fault γ → σ → Prop} :
    (flow.bind rest).Crossing ends state ↔
      flow.Crossing (fun said result later =>
        match result with
        | .ok value => (rest value).Crossing (fun more => ends (said ++ more)) later
        | .error fault => ends said (.error fault) later) state := by
  induction flow generalizing state ends with
  | done result => rfl
  | fail fault => rfl
  | inspect next ih => exact ih _
  | update changed next ih => exact ih
  | send call next ih => simp only [bind, Crossing, ih, List.cons_append]
  | acquire _ next ih => simp only [bind, Crossing, ih]
  | release _ next ih => exact ih
  | restored _ next ih => simp only [bind, Crossing, ih]

@[simp] theorem crossing_ofResult {result : Except Fault α} :
    (ofResult result).Crossing ends state ↔ ends [] result state := by
  cases result <;> rfl

/-- A guarded end is a problem exactly if the end is. -/
theorem guarded_eq_problem_iff {result : Except Fault α} {problem : Problem} :
    guarded result = .ok (.error problem) ↔ result = .error (.problem problem) := by
  cases result with
  | ok found => simp [guarded]
  | error fault => cases fault <;> simp [guarded]

/-- A guarded flow ends as the flow does, up to its outcome. -/
theorem crossing_guard {flow : Flow σ α}
    {ends : List (Call × Reply) → Except Fault (Outcome α) → σ → Prop} :
    flow.guard.Crossing ends state ↔
      flow.Crossing (fun said result => ends said (guarded result)) state := by
  simp only [guard_eq, crossing_finish, crossing_ofResult, List.append_nil]

/-- A flow under a lock ends as it does without, whatever it finds then. -/
theorem crossing_locked {lock : Lock} {flow : Flow σ α} :
    (locked lock flow).Crossing ends state ↔
      ∀ found, flow.Crossing ends found := by
  show (∀ found, (flow.finish _).Crossing ends found) ↔ _
  simp only [crossing_finish, Crossing, crossing_ofResult, List.append_nil]

/-- Answer each call in one way, and write down what was said. -/
def answering (answer : Call → Reply) (said : List (Call × Reply)) (call : Call) :
    Reply × List (Call × Reply) :=
  (answer call, said ++ [(call, answer call)])

/-- What is computed is a run that nothing crosses. -/
theorem crossed_of_computed {answer : Call → Reply} {flow : Flow σ α}
    {later : σ} {before after : List (Call × Reply)} {result : Except Fault α}
    (ended : flow.computed (answering answer) state before =
      some (result, later, after)) :
    ∃ said, after = before ++ said ∧ flow.Crossed state said result later ∧
      ∀ exchange ∈ said, exchange.2 = answer exchange.1 := by
  induction flow generalizing state before with
  | done value =>
      cases ended
      exact ⟨[], (List.append_nil _).symm, .done, by simp⟩
  | fail fault =>
      cases ended
      exact ⟨[], (List.append_nil _).symm, .fail, by simp⟩
  | inspect next ih =>
      obtain ⟨said, told, crossed, answered⟩ := ih _ ended
      exact ⟨said, told, .inspect crossed, answered⟩
  | update changed next ih =>
      obtain ⟨said, told, crossed, answered⟩ := ih ended
      exact ⟨said, told, .update crossed, answered⟩
  | send call next ih =>
      obtain ⟨said, told, crossed, answered⟩ := ih _ ended
      exact ⟨(call, answer call) :: said, by simp [told, answering],
        .send crossed, List.forall_mem_cons.mpr ⟨rfl, answered⟩⟩
  | acquire _ next ih =>
      obtain ⟨said, told, crossed, answered⟩ := ih ended
      exact ⟨said, told, .acquire crossed, answered⟩
  | release _ next ih =>
      obtain ⟨said, told, crossed, answered⟩ := ih ended
      exact ⟨said, told, .release crossed, answered⟩
  | restored _ next => cases ended

/-- A run whose end passes a test exists if the computed one passes it. -/
theorem exists_crossed (answer : Call → Reply) (flow : Flow σ α) (state : σ)
    (passes : List (Call × Reply) → Except Fault α → σ → Bool)
    (ended : (flow.computed (answering answer) state []).any
      (fun ends => passes ends.2.2 ends.1 ends.2.1) = true) :
    ∃ said result later, flow.Crossed state said result later ∧
      passes said result later = true ∧
      ∀ exchange ∈ said, exchange.2 = answer exchange.1 := by
  obtain ⟨⟨result, later, after⟩, computed, passed⟩ :=
    (Option.any_eq_true _ _).mp ended
  obtain ⟨said, told, crossed, answered⟩ := crossed_of_computed computed
  rw [List.nil_append] at told
  exact ⟨said, result, later, crossed, told ▸ passed, answered⟩

end Flow
end Audience
