import Audience.Proofs.Flow.Changes
import Audience.Proofs.Flow.Soundness

/-!
# What leaves through calls

Whether a flow sends only certain calls can depend on what it finds in the
shared state.  So a flow trades fairly if it keeps a property of the state and,
given that everybody else keeps it during the waits, sends only such calls.
When all flows of a pool do, so does every run.
-/

namespace Audience

/-- The shared state has a property, and so has every call that was sent. -/
def Contract.ofTrade {σ : Type} (inv : σ → Prop) (fair : Call → Prop) :
    Contract σ where
  inv world := inv world.state ∧ ∀ entry ∈ world.sent, fair entry.2
  moves _ _ := True
  change _ _ := True
  replies _ _ := True
  moves_refl _ := trivial
  moves_trans _ _ := trivial
  change_trans _ _ := trivial
  change_of_moves _ := trivial

namespace Flow

variable {σ α β : Type} {inv : σ → Prop} {fair : Call → Prop}

/-- A flow keeps a property of the shared state, sends fair calls, and ends as
the given condition says. -/
def Trades (inv : σ → Prop) (fair : Call → Prop)
    (ends : Except Fault α → Prop) (flow : Flow σ α) : Prop :=
  ∀ start now, (Contract.ofTrade inv fair).inv now →
    flow.Upholds (.ofTrade inv fair) (fun result _ ended =>
      (Contract.ofTrade inv fair).inv ended ∧ ends result) start now

variable {flow : Flow σ α} {ends : Except Fault α → Prop}

theorem trades_done {value : α} (ended : ends (.ok value)) :
    (done value : Flow σ α).Trades inv fair ends :=
  fun _ _ holds => ⟨holds, ended⟩

theorem trades_fail {fault : Fault} (ended : ends (.error fault)) :
    (fail fault : Flow σ α).Trades inv fair ends :=
  fun _ _ holds => ⟨holds, ended⟩

theorem trades_ofResult (result : Except Fault α) :
    (ofResult result : Flow σ α).Trades inv fair fun _ => True :=
  fun _ _ holds => upholds_ofResult.mpr ⟨holds, trivial⟩

/-- What follows a look at the state only has to trade fairly if the state has
the property. -/
theorem trades_inspect {next : σ → Flow σ α}
    (rest : ∀ state, inv state → (next state).Trades inv fair ends) :
    (inspect next).Trades inv fair ends :=
  fun start now holds => rest now.state holds.1 start now holds

theorem trades_update {state : σ} {next : Flow σ α} (there : inv state)
    (rest : next.Trades inv fair ends) :
    (update state next).Trades inv fair ends :=
  fun start now holds =>
    ⟨trivial, rest start { now with state } ⟨there, holds.2⟩⟩

theorem trades_restored {id : EngineId} {next : Except Fault Unit → Flow σ α}
    (rest : ∀ result, (next result).Trades inv fair ends) :
    (restored id next).Trades inv fair ends :=
  fun _ _ holds => ⟨⟨holds, trivial⟩, fun result later moved =>
    rest result later.state later moved.inv⟩

theorem trades_modify {change : σ → σ}
    (kept : ∀ state, inv state → inv (change state)) :
    (modify change).Trades inv fair fun _ => True :=
  trades_inspect fun state holds =>
    trades_update (kept state holds) (trades_done trivial)

theorem trades_query {question : σ → α}
    (ended : ∀ state, inv state → ends (.ok (question state))) :
    (query question).Trades inv fair ends :=
  trades_inspect fun state holds => trades_done (ended state holds)

/-- Two flows in a row trade fairly if both do. -/
theorem Trades.bind {rest : α → Flow σ β} {last : Except Fault β → Prop}
    (first : flow.Trades inv fair ends)
    (failed : ∀ fault, ends (.error fault) → last (.error fault))
    (second : ∀ value, ends (.ok value) → (rest value).Trades inv fair last) :
    (flow.bind rest).Trades inv fair last := by
  intro start now holds
  apply upholds_bind.mpr
  apply (first start now holds).mono
  intro result began ended there
  obtain fault | value := result
  · exact ⟨there.1, failed fault there.2⟩
  · exact second value there.2 began ended there.1

/-- So they do when nobody asks how they end. -/
theorem Trades.andThen {rest : α → Flow σ β} (first : flow.Trades inv fair ends)
    (second : ∀ value, ends (.ok value) →
      (rest value).Trades inv fair fun _ => True) :
    (flow.bind rest).Trades inv fair fun _ => True :=
  first.bind (fun _ _ => trivial) second

theorem Trades.finish {rest : Except Fault α → Flow σ β}
    {last : Except Fault β → Prop} (first : flow.Trades inv fair ends)
    (second : ∀ result, ends result → (rest result).Trades inv fair last) :
    (flow.finish rest).Trades inv fair last := by
  intro start now holds
  apply upholds_finish.mpr
  apply (first start now holds).mono
  intro result began ended there
  exact second result there.2 began ended there.1

/-- A flow whose changes keep the property and whose calls are fair whatever it
finds trades fairly. -/
theorem Makes.trades {allowed : σ → σ → Prop}
    (makes : ∀ now, flow.Makes allowed ends now) (sends : flow.Sends fair)
    (kept : ∀ before after, allowed before after → inv before → inv after) :
    flow.Trades inv fair ends := by
  have tolerates : (Contract.ofTrade inv fair).Tolerates allowed fair :=
    { moves := fun _ _ _ => trivial
      inv := fun now state change holds =>
        ⟨kept now.state state change holds.1, holds.2⟩
      send := fun now call fit holds => by
        refine ⟨holds.1, fun entry member => ?_⟩
        obtain before | new := List.mem_append.mp member
        · exact holds.2 entry before
        · obtain rfl := List.mem_singleton.mp new
          exact fit
      deliver := fun _ _ _ holds => holds }
  intro start now holds
  exact (tolerates.upholds (makes now.state) sends ⟨holds, trivial⟩).mono
    fun _ _ _ ended => ⟨ended.1.inv, ended.2⟩

end Flow

/-- When all tasks and restorings trade fairly, the state has the property and
all calls that were sent are fair, whatever happens in a run. -/
theorem Scene.trades {σ β ι α : Type} {scene : Scene σ β ι α} {inv : σ → Prop}
    {fair : Call → Prop}
    (tasks : ∀ task, (scene.flow task).Trades inv fair fun _ => True)
    (restorings : ∀ engine,
      (scene.restoring engine).Trades inv fair fun _ => True)
    {state : σ} {server : β} {pool : Pool σ β α} (holds : inv state)
    (reached : scene.Reach (.fresh state server) pool) :
    inv pool.world.state ∧ ∀ entry ∈ pool.world.sent, fair entry.2 := by
  have honoured : (Contract.ofTrade inv fair).Honoured (fun _ => True)
      (fun _ => True) scene :=
    { tasks := fun pool task _ holds _ =>
        (tasks task pool.world.state pool.world holds).mono
          fun _ _ _ ended _ => ⟨ended.1, trivial⟩
      restorings := fun engine world holds =>
        (restorings engine world.state world holds).mono
          fun _ _ _ ended => ⟨ended.1, trivial⟩
      replies := fun _ _ _ _ _ _ _ _ _ => ⟨trivial, trivial⟩ }
  have fresh : (Contract.ofTrade inv fair).inv (.fresh state) :=
    ⟨holds, by simp [World.fresh]⟩
  exact (honoured.kept fresh trivial reached fun _ _ => trivial).inv

end Audience
