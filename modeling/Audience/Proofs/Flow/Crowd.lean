import Audience.Proofs.Flow.Pool
import Mathlib.Logic.Function.Basic

/-!
# Crowds

Flows that share a state may run on behalf of many owners.  An act is one thing
that happens to the threads of an owner: a task starts, a call is answered, or a
thread goes on.  What happens in a crowd is a list of acts, each with its owner;
the threads of one owner alone make up a pool.
-/

namespace Audience

variable {σ β ι α : Type}

/-- One thing that happens to the threads of an owner. -/
inductive Act (ι : Type) where
  /-- A task starts. -/
  | start (task : ι)
  /-- The call of the thread at a place is answered. -/
  | answer (place : Nat) (reply : Reply)
  /-- The thread at a place goes on. -/
  | goOn (place : Nat)

namespace Scene

/-- The scene in which any task may start at any time and the backend may answer
anything. -/
def lenient (flow : ι → Flow σ α) (restoring : EngineId → Flow σ Unit) :
    Scene σ Unit ι α where
  flow := flow
  restoring := restoring
  admits _ _ := True
  serves _ _ _ _ := True

variable (scene : Scene σ β ι α)

/-- Run the thread at a place for one stretch. -/
def resume (place : Nat) (flow : Flow σ (Ending α)) (pool : Pool σ β α) :
    Pool σ β α :=
  { pool with waiting := pool.waiting.eraseIdx place }.perform
    scene.restoring flow

/-- Let a thread go on that does not wait for the backend, if it can. -/
def goOn? (place : Nat) (pool : Pool σ β α) :
    Pending σ (Ending α) → Option (Pool σ β α)
  | .ready flow => some (scene.resume place flow pool)
  | .locking lock next =>
      if lock ∈ pool.held then none
      else
        some (scene.resume place next { pool with held := lock :: pool.held })
  | .awaiting engine next =>
      match Keyed.get? engine pool.restorings with
      | some (some result) => some (scene.resume place (next result) pool)
      | _ => none
  | .sent _ _ _ => none
  | .answered _ _ _ => none

/-- Answer the call of a thread, if it has one under way. -/
def answer? (place : Nat) (reply : Reply) (pool : Pool σ β α) :
    Pending σ (Ending α) → Option (Pool σ β α)
  | .sent number _ next =>
      some (scene.resume place (next reply)
        { pool with
          world := pool.world.deliver number reply
          handled := pool.handled ++ [(number, reply)] })
  | _ => none

/-- What an act does to a pool, if it is possible. -/
def act? (act : Act ι) (pool : Pool σ β α) : Option (Pool σ β α) :=
  match act with
  | .start task => some (pool.perform scene.restoring (scene.thread task))
  | .answer place reply =>
      pool.waiting[place]?.bind (scene.answer? place reply pool)
  | .goOn place => pool.waiting[place]?.bind (scene.goOn? place pool)

variable {scene}

/-- An act is nothing but steps of a pool. -/
theorem reach_of_act {act : Act ι} {pool next : Pool σ β α}
    (admits : ∀ pool task, scene.admits pool task)
    (serves : ∀ server call reply, scene.serves server call reply server)
    (moved : scene.act? act pool = some next) : scene.Reach pool next := by
  have parts {place : Nat} {thread : Pending σ (Ending α)}
      (waits : pool.waiting[place]? = some thread) :
      ∃ before after, pool.waiting = before ++ thread :: after ∧
        pool.waiting.eraseIdx place = before ++ after := by
    obtain ⟨within, found⟩ := List.getElem?_eq_some_iff.mp waits
    refine ⟨pool.waiting.take place, pool.waiting.drop (place + 1), ?_,
      List.eraseIdx_eq_take_drop_succ _ _⟩
    rw [← found, ← List.drop_eq_getElem_cons, List.take_append_drop]
  cases act with
  | start task =>
      cases moved
      exact .step .refl (.start task (admits pool task))
  | answer place reply =>
      obtain ⟨thread, waits, went⟩ := Option.bind_eq_some_iff.mp moved
      obtain ⟨before, after, whole, rest⟩ := parts waits
      cases thread with
      | sent number call further =>
          cases went
          have handled := Step.handle before after pool.server whole
            (serves pool.server call reply)
          unfold resume
          rw [rest]
          exact .step (.step .refl handled) (.deliver before after rfl)
      | _ => cases went
  | goOn place =>
      obtain ⟨thread, waits, went⟩ := Option.bind_eq_some_iff.mp moved
      obtain ⟨before, after, whole, rest⟩ := parts waits
      cases thread with
      | ready flow =>
          cases went
          unfold resume
          rw [rest]
          exact .step .refl (.begin before after whole)
      | locking lock further =>
          simp only [goOn?] at went
          split at went
          · cases went
          · rename_i free
            cases went
            unfold resume
            rw [rest]
            exact .step .refl (.lock before after whole free)
      | awaiting engine further =>
          simp only [goOn?] at went
          split at went
          · rename_i result known
            cases went
            unfold resume
            rw [rest]
            exact .step .refl (.learn before after whole known)
          · cases went
      | sent number call further => cases went
      | answered number reply further => cases went

end Scene

/-- What the threads of one owner did and wait for. -/
structure Part (σ α : Type) where
  sent : List (σ × Call)
  delivered : List (Nat × Reply)
  handled : List (Nat × Reply)
  waiting : List (Pending σ (Ending α))
  results : List (Except Fault α)

/-- Threads of many owners on one shared state. -/
structure Crowd (σ α : Type) where
  state : σ
  changes : List (σ × σ)
  held : List Lock
  restorings : Keyed EngineId (Option (Except Fault Unit))
  part : String → Part σ α

namespace Crowd

/-- A crowd in which nothing runs. -/
def fresh (state : σ) : Crowd σ α :=
  { state, changes := [], held := [], restorings := []
    part := fun _ =>
      { sent := [], delivered := [], handled := [], waiting := [],
        results := [] } }

/-- The threads of one owner as a pool. -/
def pool (owner : String) (crowd : Crowd σ α) : Pool σ Unit α :=
  { world :=
      { state := crowd.state
        sent := (crowd.part owner).sent
        delivered := (crowd.part owner).delivered }
    changes := crowd.changes
    held := crowd.held
    server := ()
    handled := (crowd.part owner).handled
    restorings := crowd.restorings
    waiting := (crowd.part owner).waiting
    results := (crowd.part owner).results }

/-- Put the threads of one owner back. -/
def replace (owner : String) (pool : Pool σ Unit α) (crowd : Crowd σ α) :
    Crowd σ α :=
  { state := pool.world.state
    changes := pool.changes
    held := pool.held
    restorings := pool.restorings
    part := Function.update crowd.part owner
      { sent := pool.world.sent
        delivered := pool.world.delivered
        handled := pool.handled
        waiting := pool.waiting
        results := pool.results } }

@[simp] theorem pool_replace (owner : String) (pool : Pool σ Unit α)
    (crowd : Crowd σ α) : (crowd.replace owner pool).pool owner = pool := by
  simp [Crowd.pool, replace]

/-- The others see the new state, and are where they were. -/
theorem pool_replace_of_ne {owner other : String} (ne : other ≠ owner)
    (pool : Pool σ Unit α) (crowd : Crowd σ α) :
    (crowd.replace owner pool).pool other =
      { crowd.pool other with
        world := { (crowd.pool other).world with state := pool.world.state }
        changes := pool.changes
        held := pool.held
        restorings := pool.restorings } := by
  simp [Crowd.pool, replace, ne]

variable (scenes : String → Scene σ Unit ι α)

/-- What an act on behalf of an owner does to a crowd, if it is possible. -/
def act? (act : String × Act ι) (crowd : Crowd σ α) : Option (Crowd σ α) :=
  ((scenes act.1).act? act.2 (crowd.pool act.1)).map (crowd.replace act.1)

/-- What a list of acts does to a crowd, if all of them are possible. -/
def run? (crowd : Crowd σ α) (acts : List (String × Act ι)) :
    Option (Crowd σ α) :=
  acts.foldlM (fun crowd act => crowd.act? scenes act) crowd

theorem run?_cons (crowd : Crowd σ α) (act : String × Act ι)
    (rest : List (String × Act ι)) :
    crowd.run? scenes (act :: rest) =
      (crowd.act? scenes act).bind fun next => next.run? scenes rest := rfl

theorem run?_append (crowd : Crowd σ α) (early late : List (String × Act ι)) :
    crowd.run? scenes (early ++ late) =
      (crowd.run? scenes early).bind fun next => next.run? scenes late :=
  List.foldlM_append

end Crowd

/-- The acts on behalf of one owner. -/
def Act.on (owner : String) (acts : List (String × Act ι)) :
    List (String × Act ι) :=
  acts.filter fun act => act.1 = owner

namespace Act

variable {owner other : String} {acts : List (String × Act ι)}

@[simp] theorem on_cons_self (act : Act ι) :
    on owner ((owner, act) :: acts) = (owner, act) :: on owner acts := by
  simp [on]

theorem on_cons_of_ne (ne : owner ≠ other) (act : Act ι) :
    on owner ((other, act) :: acts) = on owner acts := by
  simp [on, Ne.symm ne]

/-- Acts on behalf of one owner are all its own. -/
theorem on_on (owner : String) (acts : List (String × Act ι)) :
    on owner (on owner acts) = on owner acts := by
  simp [on]

theorem on_on_of_ne (ne : other ≠ owner) (acts : List (String × Act ι)) :
    on other (on owner acts) = [] := by
  unfold on
  rw [List.filter_filter, List.filter_eq_nil_iff]
  intro act _
  by_cases same : act.1 = other
  · simp [same, ne]
  · simp [same]

/-- Leaving out what is done on behalf of others leaves the acts of an owner. -/
theorem on_filter {kept : String → Bool} (keeps : kept owner = true)
    (acts : List (String × Act ι)) :
    on owner (acts.filter fun act => kept act.1) = on owner acts := by
  unfold on
  rw [List.filter_filter]
  apply List.filter_congr
  intro act _
  by_cases same : act.1 = owner
  · simp [same, keeps]
  · simp [same]

/-- Acts that are left out are not there. -/
theorem on_filter_of_not {kept : String → Bool} (drops : kept owner = false)
    (acts : List (String × Act ι)) :
    on owner (acts.filter fun act => kept act.1) = [] := by
  unfold on
  rw [List.filter_filter, List.filter_eq_nil_iff]
  intro act _
  by_cases same : act.1 = owner
  · simp [same, drops]
  · simp [same]

end Act

end Audience
