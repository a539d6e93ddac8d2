import Audience.Proofs.Flow.Changes

/-!
# Flows on their own

A flow on its own finds the shared state at the end of every wait as it left it.
What it may change on the way is a matter of terms; how it ends can be read off
its tree, with the calls that it sent and the replies that it got.
-/

namespace Audience

/-- Where a flow is that nothing overlaps. -/
structure Course (σ : Type) where
  state : σ
  /-- The calls that were answered, each with its reply, in order. -/
  log : List (Call × Reply)
  held : List Lock

namespace Course

/-- A call was answered. -/
def told (call : Call) (reply : Reply) (course : Course σ) : Course σ :=
  { course with log := course.log ++ [(call, reply)] }

/-- A lock was taken. -/
def hold (lock : Lock) (course : Course σ) : Course σ :=
  { course with held := lock :: course.held }

/-- A lock was given back. -/
def free (lock : Lock) (course : Course σ) : Course σ :=
  { course with held := course.held.filter (· ≠ lock) }

end Course

/-- What a flow on its own has to keep to. -/
structure Terms (σ : Type) where
  /-- The changes of the shared state that may be made. -/
  changes : σ → σ → Prop
  /-- No wait may last for ever. -/
  live : Prop

/-- Everything may happen. -/
def Terms.any : Terms σ := { changes := fun _ _ => True, live := False }

namespace Flow

variable {σ α β : Type}

/-- Whatever the replies, a flow on its own keeps to the terms, and ends as the
given condition says. -/
def Solo (terms : Terms σ) (ends : Except Fault α → Course σ → Prop)
    (flow : Flow σ α) (course : Course σ) : Prop :=
  match flow with
  | done result => ends (.ok result) course
  | fail fault => ends (.error fault) course
  | inspect next => (next course.state).Solo terms ends course
  | update state next =>
      terms.changes course.state state ∧
        next.Solo terms ends { course with state }
  | send call next =>
      ∀ reply, (next reply).Solo terms ends (course.told call reply)
  | acquire lock next =>
      (terms.live → lock ∉ course.held) ∧
        next.Solo terms ends (course.hold lock)
  | release lock next => next.Solo terms ends (course.free lock)
  | restored _ _ => ¬ terms.live

variable {terms : Terms σ} {ends : Except Fault α → Course σ → Prop}
variable {course : Course σ}

/-- A weaker condition holds as well. -/
theorem Solo.mono {flow : Flow σ α}
    {ends' : Except Fault α → Course σ → Prop}
    (weaker : ∀ result later, ends result later → ends' result later)
    (solo : flow.Solo terms ends course) : flow.Solo terms ends' course := by
  induction flow generalizing course with
  | done result => exact weaker _ _ solo
  | fail fault => exact weaker _ _ solo
  | inspect next ih => exact ih _ solo
  | update state next ih => exact ⟨solo.1, ih solo.2⟩
  | send call next ih => exact fun reply => ih reply (solo reply)
  | acquire lock next ih => exact ⟨solo.1, ih solo.2⟩
  | release lock next ih => exact ih solo
  | restored engine next ih => exact solo

/-- Two flows in a row end as the second does after the first. -/
theorem solo_bind {flow : Flow σ α} {rest : α → Flow σ β}
    {ends : Except Fault β → Course σ → Prop} :
    (flow.bind rest).Solo terms ends course ↔
      flow.Solo terms (fun
        | .ok result => (rest result).Solo terms ends
        | .error fault => ends (.error fault)) course := by
  induction flow generalizing course with
  | done result => rfl
  | fail fault => rfl
  | inspect next ih => exact ih _
  | update state next ih => exact and_congr_right' ih
  | send call next ih => simp only [bind, Solo, ih]
  | acquire lock next ih => exact and_congr_right' ih
  | release lock next ih => exact ih
  | restored engine next ih => rfl

/-- What follows the end of a flow ends as it does after the flow. -/
theorem solo_finish {flow : Flow σ α} {rest : Except Fault α → Flow σ β}
    {ends : Except Fault β → Course σ → Prop} :
    (flow.finish rest).Solo terms ends course ↔
      flow.Solo terms (fun result => (rest result).Solo terms ends)
        course := by
  induction flow generalizing course with
  | done result => rfl
  | fail fault => rfl
  | inspect next ih => exact ih _
  | update state next ih => exact and_congr_right' ih
  | send call next ih => simp only [finish, Solo, ih]
  | acquire lock next ih => exact and_congr_right' ih
  | release lock next ih => exact ih
  | restored engine next ih => rfl

@[simp] theorem solo_ofResult {result : Except Fault α} :
    (ofResult result).Solo terms ends course ↔ ends result course := by
  cases result <;> rfl

/-- A guarded flow ends with the outcome of the flow. -/
theorem solo_guard {flow : Flow σ α}
    {ends : Except Fault (Outcome α) → Course σ → Prop} :
    flow.guard.Solo terms ends course ↔
      flow.Solo terms (fun result => ends (guarded result)) course := by
  have known : (fun result => (ofResult (guarded result)).Solo terms ends) =
      fun result => ends (guarded result) := by
    funext result course
    exact propext solo_ofResult
  rw [guard_eq, solo_finish, known]

/-- The value of an outcome; its problem counts as a fault. -/
def unwrapped : Except Fault (Outcome α) → Except Fault α
  | .ok (.ok value) => .ok value
  | .ok (.error problem) => .error (.problem problem)
  | .error fault => .error fault

/-- A flow under a lock gives the lock back at its end. -/
theorem solo_locked {lock : Lock} {flow : Flow σ α} :
    (locked lock flow).Solo terms ends course ↔
      (terms.live → lock ∉ course.held) ∧
        flow.Solo terms (fun result later => ends result (later.free lock))
          (course.hold lock) := by
  have released : (fun result => (release lock (ofResult result)).Solo terms
      ends) = fun result later => ends result (later.free lock) := by
    funext result course
    exact propext solo_ofResult
  show (_ ∧ (flow.finish _).Solo terms ends _) ↔ _
  rw [solo_finish, released]

/-- Whatever a flow does, it keeps to no terms. -/
theorem solo_any (flow : Flow σ α) (course : Course σ) :
    flow.Solo .any (fun _ _ => True) course := by
  induction flow generalizing course with
  | done result => trivial
  | fail fault => trivial
  | inspect next ih => exact ih _ _
  | update state next ih => exact ⟨trivial, ih _⟩
  | send call next ih => exact fun reply => ih reply _
  | acquire lock next ih => exact ⟨False.elim, ih _⟩
  | release lock next ih => exact ih _
  | restored engine next ih => exact id

/-- A flow that goes on whatever the first part ends with, ends as its second
part does. -/
theorem solo_any_bind {flow : Flow σ α} {rest : α → Flow σ β}
    {ends : Except Fault β → Course σ → Prop}
    (stopped : ∀ fault later, ends (.error fault) later)
    (ended : ∀ result later, (rest result).Solo .any ends later) :
    (flow.bind rest).Solo .any ends course := by
  apply solo_bind.mpr
  apply (solo_any flow course).mono
  intro result later _
  cases result with
  | error fault => exact stopped fault later
  | ok result => exact ended result later

/-- Any call gets any reply, and what is said is written down. -/
def Transcribes (before : List (Call × Reply)) (call : Call) (reply : Reply)
    (after : List (Call × Reply)) : Prop :=
  after = before ++ [(call, reply)]

/-- A run that is written down ends as the flow does on its own. -/
theorem Solo.ran {flow : Flow σ α} {state later : σ}
    {log after : List (Call × Reply)} {held : List Lock} {result : Except Fault α}
    (solo : flow.Solo terms ends { state, log, held })
    (ran : flow.Ran Transcribes state log result later after) :
    ∃ held, ends result { state := later, log := after, held } := by
  induction ran generalizing held with
  | done => exact ⟨held, solo⟩
  | fail => exact ⟨held, solo⟩
  | inspect rest ih => exact ih solo
  | update rest ih => exact ih solo.2
  | send served rest ih =>
      cases served
      exact ih (solo _)
  | acquire rest ih => exact ih solo.2
  | release rest ih => exact ih solo

end Flow
end Audience
