import Audience.Proofs.Flow.Account
import Audience.Proofs.Flow.Contract

/-!
# Contracts hold in pools

When every task and every restoring upholds a contract, and the backend replies
as the contract says, the contract holds in every state that a run of the pool
reaches.  It only has to hold as long as all tasks end well, whatever that
means.
-/

namespace Audience
namespace Contract

variable {σ β ι α : Type} (contract : Contract σ)
variable (good : Except Fault α → Prop) (serving : β → Prop)

/-- A thread ends in an allowed way, at least if its task ends well. -/
def closes (result : Except Fault (Ending α)) (start : σ) (now : World σ) :
    Prop :=
  (∀ ended, result = .ok (.task ended) → good ended) →
    contract.Turn start now

/-- The contract holds in a state of a pool, and all threads that wait will
uphold it. -/
structure Kept (pool : Pool σ β α) : Prop where
  inv : contract.inv pool.world
  serving : serving pool.server
  waiting : ∀ thread ∈ pool.waiting,
    contract.Waits (contract.closes good) pool.world thread
  changes : ∀ change ∈ pool.changes, contract.change change.1 change.2

/-- All that runs in a pool honours a contract. -/
structure Honoured (scene : Scene σ β ι α) : Prop where
  tasks : ∀ pool task, pool.Accounted → contract.inv pool.world →
    scene.admits pool task →
    (scene.flow task).Upholds contract
      (fun result start now => good result → contract.Turn start now)
      pool.world.state pool.world
  restorings : ∀ engine world, contract.inv world →
    (scene.restoring engine).Upholds contract (fun _ => contract.Turn)
      world.state world
  replies : ∀ world call reply before after, contract.inv world →
    call ∈ world.sent.map Prod.snd → serving before →
    scene.serves before call reply after →
    contract.replies call reply ∧ serving after

variable {contract good serving} {scene : Scene σ β ι α} {pool : Pool σ β α}

/-- A task upholds the contract as a thread. -/
theorem Honoured.thread (honoured : contract.Honoured good serving scene)
    {task : ι} (accounted : pool.Accounted) (holds : contract.inv pool.world)
    (admitted : scene.admits pool task) :
    (scene.thread task).Upholds contract (contract.closes good)
      pool.world.state pool.world := by
  rw [Scene.thread, Flow.reported, Flow.upholds_finish]
  apply (honoured.tasks pool task accounted holds admitted).mono
  intro result start now turn fine
  exact turn (fine result rfl)

/-- The restoring of an engine upholds the contract as a thread. -/
theorem Honoured.restoring (honoured : contract.Honoured good serving scene)
    (engine : EngineId) {world : World σ} (holds : contract.inv world) :
    ((scene.restoring engine).reported (Ending.restoring engine)).Upholds
      contract (contract.closes good) world.state world := by
  rw [Flow.reported, Flow.upholds_finish]
  apply (honoured.restorings engine world holds).mono
  intro result start now turn _
  exact turn

/-- The threads that wait after a stretch uphold the contract. -/
theorem Honoured.threadsAfter
    (honoured : contract.Honoured good serving scene) (pool : Pool σ β α)
    {halt : Halt σ (Ending α)} {start : σ} {now : World σ}
    (halts : contract.Halts (contract.closes good) start now halt)
    (fine : ∀ result ∈ Pool.resultsOf halt, good result)
    (sameSent : now.sent = pool.world.sent) :
    let reached : World σ :=
      { now with sent := now.sent ++ Pool.callsOf now.state halt }
    contract.Turn start reached ∧
      ∀ thread ∈ pool.threadsAfter scene.restoring halt,
        contract.Waits (contract.closes good) reached thread := by
  cases halt with
  | ended result =>
      refine ⟨?_, by simp [Pool.threadsAfter]⟩
      have turn : contract.Turn start now := by
        apply halts
        rintro ended rfl
        exact fine ended (by simp [Pool.resultsOf])
      simpa [Pool.callsOf] using turn
  | calls call next =>
      obtain ⟨turn, rest⟩ := halts
      refine ⟨turn, ?_⟩
      intro thread member
      obtain rfl := List.mem_singleton.mp member
      rw [← sameSent]
      exact rest
  | locks lock next =>
      obtain ⟨turn, rest⟩ := halts
      simp only [Pool.callsOf, List.append_nil]
      refine ⟨turn, ?_⟩
      intro thread member
      obtain rfl := List.mem_singleton.mp member
      exact rest
  | awaits engine next =>
      obtain ⟨turn, rest⟩ := halts
      simp only [Pool.callsOf, List.append_nil]
      refine ⟨turn, ?_⟩
      intro thread member
      obtain rfl | begun := List.mem_cons.mp member
      · exact rest
      · cases known : Keyed.get? engine pool.restorings with
        | some value => simp [known] at begun
        | none =>
            simp only [known, List.mem_singleton] at begun
            subst begun
            exact fun later moved => honoured.restoring engine moved.inv

/-- After a stretch of a flow that upholds the contract, the contract holds and
all threads uphold it, those included that waited before.  The stretch moved the
state as it may. -/
theorem Honoured.perform (honoured : contract.Honoured good serving scene)
    {flow : Flow σ (Ending α)} (before : World σ)
    (upheld : flow.Upholds contract (contract.closes good)
      pool.world.state pool.world)
    (sameState : pool.world.state = before.state)
    (grown : pool.world.Extends before)
    (served : serving pool.server)
    (waiting : ∀ thread ∈ pool.waiting,
      contract.Waits (contract.closes good) before thread)
    (changes : ∀ change ∈ pool.changes, contract.change change.1 change.2)
    (fine : ∀ result ∈ (pool.perform scene.restoring flow).results,
      good result) :
    contract.Kept good serving (pool.perform scene.restoring flow) ∧
      contract.moves before.state
        (pool.perform scene.restoring flow).world.state := by
  obtain ⟨allowed, halts⟩ := upheld.stretch
  obtain ⟨⟨holds, moved⟩, parked⟩ :=
    honoured.threadsAfter pool halts
      (fun result member => fine result (List.mem_append_right _ member)) rfl
  have steps : contract.moves before.state
      (pool.perform scene.restoring flow).world.state := sameState ▸ moved
  refine ⟨⟨holds, served, ?_, ?_⟩, steps⟩
  · intro thread member
    obtain new | old := List.mem_append.mp member
    · exact parked thread new
    · apply (waiting thread old).later
      refine ⟨holds, ?_, steps⟩
      exact World.Extends.trans ⟨List.prefix_append _ _, List.prefix_rfl⟩ grown
  · intro change member
    obtain old | new := List.mem_append.mp member
    · exact changes change old
    · exact allowed change new

/-- Results are only added. -/
theorem mem_results_of_step {next : Pool σ β α} (step : scene.Step pool next)
    {result : Except Fault α} (member : result ∈ pool.results) :
    result ∈ next.results := by
  cases step with
  | start task admitted => exact List.mem_append_left _ member
  | begin before after waits => exact List.mem_append_left _ member
  | handle before after server waits served => exact member
  | deliver before after waits => exact List.mem_append_left _ member
  | lock before after waits free => exact List.mem_append_left _ member
  | learn before after waits known => exact List.mem_append_left _ member

section Waiting

variable {before after : List (Pending σ (Ending α))}
variable {thread : Pending σ (Ending α)}

/-- A thread that waits upholds the contract. -/
theorem Kept.waits (kept : contract.Kept good serving pool)
    (waits : pool.waiting = before ++ thread :: after) :
    contract.Waits (contract.closes good) pool.world thread :=
  kept.waiting thread (by simp [waits])

/-- So do the others. -/
theorem Kept.others (kept : contract.Kept good serving pool)
    (waits : pool.waiting = before ++ thread :: after) :
    ∀ other ∈ before ++ after,
      contract.Waits (contract.closes good) pool.world other := by
  intro other member
  apply kept.waiting
  simp only [waits, List.mem_append, List.mem_cons] at member ⊢
  tauto

end Waiting

/-- Whatever happens in a pool, its contract stays kept, and the state moves as
it may. -/
theorem Honoured.step (honoured : contract.Honoured good serving scene)
    {next : Pool σ β α} (accounted : pool.Accounted)
    (kept : contract.Kept good serving pool) (step : scene.Step pool next)
    (fine : ∀ result ∈ next.results, good result) :
    contract.Kept good serving next ∧
      contract.moves pool.world.state next.world.state := by
  have same : contract.Later pool.world pool.world := .refl kept.inv
  cases step with
  | start task admitted =>
      exact honoured.perform pool.world
        (honoured.thread accounted kept.inv admitted) rfl (.refl _)
        kept.serving kept.waiting kept.changes fine
  | begin before after waits =>
      exact honoured.perform pool.world (kept.waits waits _ same) rfl (.refl _)
        kept.serving (kept.others waits) kept.changes fine
  | @handle before after number call rest reply server waits served =>
      obtain ⟨state, found⟩ :=
        accounted.asked number call rest (by simp [waits])
      have sent : call ∈ pool.world.sent.map Prod.snd :=
        List.mem_map.mpr ⟨(state, call), List.mem_of_getElem? found, rfl⟩
      obtain ⟨known, serves⟩ :=
        honoured.replies _ _ _ _ _ kept.inv sent kept.serving served
      refine ⟨⟨kept.inv, serves, ?_, kept.changes⟩, contract.moves_refl _⟩
      intro thread member
      simp only [List.mem_append, List.mem_cons] at member
      obtain early | rfl | late := member
      · exact kept.others waits thread (List.mem_append_left _ early)
      · exact fun later moved => kept.waits waits reply later known moved
      · exact kept.others waits thread (List.mem_append_right _ late)
  | deliver before after waits =>
      exact honoured.perform pool.world (kept.waits waits _ same)
        rfl (.of_deliver _ _ _) kept.serving (kept.others waits) kept.changes
        fine
  | lock before after waits free =>
      exact honoured.perform pool.world (kept.waits waits _ same) rfl (.refl _)
        kept.serving (kept.others waits) kept.changes fine
  | learn before after waits known =>
      exact honoured.perform pool.world (kept.waits waits _ _ same) rfl (.refl _)
        kept.serving (kept.others waits) kept.changes fine

/-- A contract that holds at first is kept in every state that a run reaches
with good results. -/
theorem Honoured.kept (honoured : contract.Honoured good serving scene)
    {state : σ} {server : β} (holds : contract.inv (.fresh state))
    (served : serving server) (reached : scene.Reach (.fresh state server) pool)
    (fine : ∀ result ∈ pool.results, good result) :
    contract.Kept good serving pool := by
  induction reached with
  | refl =>
      exact ⟨holds, served, by simp [Pool.fresh], by simp [Pool.fresh]⟩
  | step before step ih =>
      have kept := ih fun result member =>
        fine result (mem_results_of_step step member)
      exact (honoured.step
        ((Pool.Accounted.fresh state server).of_reach before) kept step fine).1

/-- From one state that a run reaches to a later one, the state moves as it
may. -/
theorem Honoured.moves (honoured : contract.Honoured good serving scene)
    {state : σ} {server : β} (holds : contract.inv (.fresh state))
    (served : serving server) (reached : scene.Reach (.fresh state server) pool)
    {last : Pool σ β α} (further : scene.Reach pool last)
    (fine : ∀ result ∈ last.results, good result) :
    contract.moves pool.world.state last.world.state := by
  induction further with
  | refl => exact contract.moves_refl _
  | @step middle next between step ih =>
      have fineBetween : ∀ result ∈ middle.results, good result :=
        fun result member => fine result (mem_results_of_step step member)
      have upTo := reached.trans between
      have kept := honoured.kept holds served upTo fineBetween
      exact contract.moves_trans (ih fineBetween)
        (honoured.step ((Pool.Accounted.fresh state server).of_reach upTo)
          kept step fine).2

end Contract
end Audience
