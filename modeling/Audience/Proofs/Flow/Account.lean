import Audience.Proofs.Flow.Pool

/-!
# Accounting for calls

No call is lost in a pool: its reply was delivered, or a thread still waits for
it.  Once no thread waits, every reply was delivered.  And no reply arrives that
the backend did not give.
-/

namespace Audience

/-- The reply to a call was delivered. -/
def World.Answered (number : Nat) (world : World σ) : Prop :=
  ∃ reply, (number, reply) ∈ world.delivered

namespace Pool

/-- Every call is accounted for, and every number names the call that it was
given to. -/
structure Accounted (pool : Pool σ β α) : Prop where
  asked : ∀ number call next, .sent number call next ∈ pool.waiting →
    ∃ state, pool.world.sent[number]? = some (state, call)
  open_ : ∀ number < pool.world.sent.length, pool.world.Answered number ∨
    ∃ thread ∈ pool.waiting, thread.number? = some number

variable {σ β ι α : Type} {pool : Pool σ β α}

/-- A pool in which nothing happened has nothing to account for. -/
theorem Accounted.fresh (state : σ) (server : β) :
    (Pool.fresh state server : Pool σ β α).Accounted :=
  ⟨by simp [Pool.fresh], by simp [Pool.fresh, World.fresh]⟩

/-- A thread that waits for no reply may leave. -/
theorem Accounted.leave {before after : List (Pending σ (Ending α))}
    {thread : Pending σ (Ending α)} (accounted : pool.Accounted)
    (waits : pool.waiting = before ++ thread :: after)
    (silent : thread.number? = none) (held : List Lock) :
    ({ pool with held, waiting := before ++ after } :
      Pool σ β α).Accounted := by
  constructor
  · intro number call next member
    apply accounted.asked number call next
    simp only [waits, List.mem_append, List.mem_cons] at member ⊢
    tauto
  · intro number within
    obtain answered | ⟨other, member, named⟩ := accounted.open_ number within
    · exact .inl answered
    · refine .inr ⟨other, ?_, named⟩
      simp only [waits, List.mem_append, List.mem_cons] at member ⊢
      obtain early | rfl | late := member
      · exact .inl early
      · rw [silent] at named
        cases named
      · exact .inr late

/-- A thread that waits for a reply may leave with it. -/
theorem Accounted.deliver {before after : List (Pending σ (Ending α))}
    {number : Nat} {reply : Reply} {next : Reply → Flow σ (Ending α)}
    (accounted : pool.Accounted)
    (waits : pool.waiting = before ++ .answered number reply next :: after) :
    ({ pool with
        world := pool.world.deliver number reply
        waiting := before ++ after } : Pool σ β α).Accounted := by
  constructor
  · intro other call rest member
    apply accounted.asked other call rest
    simp only [waits, List.mem_append, List.mem_cons] at member ⊢
    tauto
  · intro other within
    obtain ⟨found, member⟩ | ⟨thread, member, named⟩ :=
      accounted.open_ other within
    · exact .inl ⟨found, List.mem_append_left _ member⟩
    · simp only [waits, List.mem_append, List.mem_cons] at member
      obtain early | rfl | late := member
      · exact .inr ⟨thread, List.mem_append_left _ early, named⟩
      · cases named
        exact .inl ⟨reply, List.mem_append_right _ (List.mem_singleton_self _)⟩
      · exact .inr ⟨thread, List.mem_append_right _ late, named⟩

/-- A call stays accounted for when the backend handles it. -/
theorem Accounted.handle {before after : List (Pending σ (Ending α))}
    {number : Nat} {call : Call} {reply : Reply}
    {next : Reply → Flow σ (Ending α)} {server : β} (accounted : pool.Accounted)
    (waits : pool.waiting = before ++ .sent number call next :: after) :
    ({ pool with
        server
        handled := pool.handled ++ [(number, reply)]
        waiting := before ++ .answered number reply next :: after } :
      Pool σ β α).Accounted := by
  constructor
  · intro other call rest member
    apply accounted.asked other call rest
    simp only [waits, List.mem_append, List.mem_cons] at member ⊢
    obtain early | same | late := member
    · exact .inl early
    · cases same
    · exact .inr (.inr late)
  · intro other within
    obtain answered | ⟨thread, member, named⟩ := accounted.open_ other within
    · exact .inl answered
    · simp only [waits, List.mem_append, List.mem_cons] at member
      obtain early | rfl | late := member
      · exact .inr ⟨thread, List.mem_append_left _ early, named⟩
      · exact .inr ⟨.answered number reply next, by simp, named⟩
      · exact .inr ⟨thread, by simp [late], named⟩

/-- Only the call of a stretch waits to be handled after it, under the next
number. -/
theorem calls_of_threadsAfter {restoring : EngineId → Flow σ Unit}
    {halt : Halt σ (Ending α)} {number : Nat} {call : Call}
    {next : Reply → Flow σ (Ending α)}
    (member : Pending.sent number call next ∈
      pool.threadsAfter restoring halt) :
    halt = .calls call next ∧ number = pool.world.sent.length := by
  cases halt with
  | ended result => simp [threadsAfter] at member
  | calls sent rest =>
      simp only [threadsAfter, List.mem_singleton] at member
      cases member
      exact ⟨rfl, rfl⟩
  | locks lock rest => simp [threadsAfter] at member
  | awaits engine rest =>
      simp only [threadsAfter, List.mem_cons] at member
      obtain same | begun := member
      · cases same
      · cases known : Keyed.get? engine pool.restorings with
        | some value => simp [known] at begun
        | none => simp [known] at begun

/-- A stretch sends its call under the next number and waits for the reply. -/
theorem Accounted.perform (accounted : pool.Accounted)
    (restoring : EngineId → Flow σ Unit) (flow : Flow σ (Ending α)) :
    (pool.perform restoring flow).Accounted := by
  constructor
  · intro number call next member
    obtain fresh | old := List.mem_append.mp member
    · obtain ⟨halted, rfl⟩ := calls_of_threadsAfter fresh
      exact ⟨_, by simp [Pool.perform, halted, callsOf]; rfl⟩
    · obtain ⟨state, found⟩ := accounted.asked number call next old
      have within := (List.getElem?_eq_some_iff.mp found).1
      refine ⟨state, ?_⟩
      simp only [Pool.perform]
      rw [List.getElem?_append_left within, found]
  · intro number within
    by_cases old : number < pool.world.sent.length
    · obtain answered | ⟨thread, member, named⟩ := accounted.open_ number old
      · exact .inl answered
      · exact .inr ⟨thread, List.mem_append_right _ member, named⟩
    · cases halted : (flow.stretch pool.world.state).halt with
      | calls call rest =>
          refine .inr ⟨.sent pool.world.sent.length call rest, ?_, ?_⟩
          · simp [Pool.perform, halted, threadsAfter]
          · simp only [Pool.perform, halted, callsOf, List.length_append,
              List.length_singleton] at within
            simp only [Pending.number?, Option.some.injEq]
            omega
      | ended result => simp [Pool.perform, halted, callsOf, old] at within
      | locks lock rest => simp [Pool.perform, halted, callsOf, old] at within
      | awaits engine rest =>
          simp [Pool.perform, halted, callsOf, old] at within

/-- Whatever happens in a pool, its calls stay accounted for. -/
theorem Accounted.step {scene : Scene σ β ι α} {next : Pool σ β α}
    (accounted : pool.Accounted) (step : scene.Step pool next) :
    next.Accounted := by
  cases step with
  | start task admitted => exact accounted.perform _ _
  | begin before after waits => exact (accounted.leave waits rfl _).perform _ _
  | handle before after server waits served => exact accounted.handle waits
  | deliver before after waits => exact (accounted.deliver waits).perform _ _
  | lock before after waits free =>
      exact (accounted.leave waits rfl _).perform _ _
  | learn before after waits known =>
      exact (accounted.leave waits rfl _).perform _ _

/-- In every state that a run reaches, all calls are accounted for. -/
theorem Accounted.of_reach {scene : Scene σ β ι α} {start : Pool σ β α}
    (accounted : start.Accounted) (reached : scene.Reach start pool) :
    pool.Accounted := by
  induction reached with
  | refl => exact accounted
  | step reached step ih => exact ih.step step

/-- Every reply that arrived, or is on its way, was given by the backend to a
call that was sent. -/
structure Given (pool : Pool σ β α) : Prop where
  within : ∀ entry ∈ pool.handled, entry.1 < pool.world.sent.length
  delivered : ∀ entry ∈ pool.world.delivered, entry ∈ pool.handled
  arriving : ∀ number reply next,
    .answered number reply next ∈ pool.waiting →
    (number, reply) ∈ pool.handled

theorem Given.fresh (state : σ) (server : β) :
    (Pool.fresh state server : Pool σ β α).Given :=
  ⟨by simp [Pool.fresh], by simp [Pool.fresh, World.fresh],
    by simp [Pool.fresh]⟩

/-- A stretch leaves the replies alone that are on their way. -/
theorem Given.perform (given : pool.Given) (restoring : EngineId → Flow σ Unit)
    (flow : Flow σ (Ending α)) : (pool.perform restoring flow).Given := by
  refine ⟨fun entry member => ?_, given.delivered, ?_⟩
  · have before := given.within entry member
    simp only [Pool.perform, List.length_append]
    omega
  intro number reply next member
  obtain fresh | old := List.mem_append.mp member
  · cases halted : (flow.stretch pool.world.state).halt with
    | ended result => simp [halted, threadsAfter] at fresh
    | calls call rest => simp [halted, threadsAfter] at fresh
    | locks lock rest => simp [halted, threadsAfter] at fresh
    | awaits engine rest =>
        simp only [halted, threadsAfter, List.mem_cons] at fresh
        obtain same | begun := fresh
        · cases same
        · cases known : Keyed.get? engine pool.restorings with
          | some value => simp [known] at begun
          | none => simp [known] at begun
  · exact given.arriving number reply next old

/-- It does not matter who stops waiting. -/
theorem Given.leave {before after : List (Pending σ (Ending α))}
    {thread : Pending σ (Ending α)} (given : pool.Given)
    (waits : pool.waiting = before ++ thread :: after) (held : List Lock) :
    ({ pool with held, waiting := before ++ after } : Pool σ β α).Given := by
  refine ⟨given.within, given.delivered, fun number reply next member => ?_⟩
  apply given.arriving number reply next
  simp only [waits, List.mem_append, List.mem_cons] at member ⊢
  tauto

/-- Whatever happens in a pool, only given replies arrive. -/
theorem Given.step {scene : Scene σ β ι α} {next : Pool σ β α}
    (given : pool.Given) (accounted : pool.Accounted)
    (step : scene.Step pool next) : next.Given := by
  cases step with
  | start task admitted => exact given.perform _ _
  | begin before after waits => exact (given.leave waits _).perform _ _
  | @handle before after number call rest reply server waits served =>
      obtain ⟨state, found⟩ :=
        accounted.asked number call rest (by simp [waits])
      refine ⟨?_, fun entry member =>
        List.mem_append_left _ (given.delivered entry member), ?_⟩
      · intro entry member
        obtain old | new := List.mem_append.mp member
        · exact given.within entry old
        · cases List.mem_singleton.mp new
          exact (List.getElem?_eq_some_iff.mp found).1
      · intro other answer next member
        simp only [List.mem_append, List.mem_cons] at member
        obtain early | same | late := member
        · exact List.mem_append_left _
            (given.arriving other answer next (by simp [waits, early]))
        · cases same
          exact List.mem_append_right _ (List.mem_singleton_self _)
        · exact List.mem_append_left _
            (given.arriving other answer next (by simp [waits, late]))
  | @deliver before after number reply rest waits =>
      have here := given.arriving number reply rest (by simp [waits])
      have left := given.leave waits pool.held
      have arrived : ({ pool with
          world := pool.world.deliver number reply
          waiting := before ++ after } : Pool σ β α).Given := by
        refine ⟨left.within, fun entry member => ?_, left.arriving⟩
        obtain old | new := List.mem_append.mp member
        · exact given.delivered entry old
        · cases List.mem_singleton.mp new
          exact here
      exact arrived.perform _ _
  | lock before after waits free => exact (given.leave waits _).perform _ _
  | learn before after waits known => exact (given.leave waits _).perform _ _

/-- In every state that a run reaches, only given replies have arrived. -/
theorem Given.of_reach {scene : Scene σ β ι α} {start : Pool σ β α}
    (given : start.Given) (accounted : start.Accounted)
    (reached : scene.Reach start pool) : pool.Given := by
  induction reached with
  | refl => exact given
  | step reached step ih => exact ih.step (accounted.of_reach reached) step

/-- Once no thread waits, every reply was delivered. -/
theorem Accounted.answered (accounted : pool.Accounted)
    (quiet : pool.waiting = []) {number : Nat}
    (within : number < pool.world.sent.length) :
    pool.world.Answered number := by
  obtain answered | ⟨thread, member, named⟩ := accounted.open_ number within
  · exact answered
  · rw [quiet] at member
    cases member

end Pool
end Audience
