import Audience.Proofs.Flow.Changes
import Audience.Proofs.Flow.Soundness

/-!
# Properties of the shared state

Some properties of the shared state hold whatever overlaps.  A flow keeps one if
each of its changes does, given that everybody else keeps it during the waits.
When all flows of a pool keep a property, it holds in every state that a run
reaches.
-/

namespace Audience

/-- Nothing is asked but that the shared state has a property. -/
def Contract.ofState {σ : Type} (inv : σ → Prop) : Contract σ where
  inv world := inv world.state
  moves _ _ := True
  change _ _ := True
  replies _ _ := True
  moves_refl _ := trivial
  moves_trans _ _ := trivial
  change_trans _ _ := trivial
  change_of_moves _ := trivial

namespace Flow

variable {σ α β : Type} {inv : σ → Prop}

/-- A flow keeps a property of the shared state, and ends as the given condition
says. -/
def Keeps (inv : σ → Prop) (ends : Except Fault α → Prop) (flow : Flow σ α) :
    Prop :=
  ∀ start now, inv now.state → flow.Upholds (.ofState inv)
    (fun result _ ended => inv ended.state ∧ ends result) start now

variable {flow : Flow σ α} {ends : Except Fault α → Prop}

@[simp] theorem keeps_ofResult {result : Except Fault α} (ended : ends result) :
    (ofResult result : Flow σ α).Keeps inv ends :=
  fun _ _ holds => upholds_ofResult.mpr ⟨holds, ended⟩

theorem keeps_done {value : α} (ended : ends (.ok value)) :
    (done value : Flow σ α).Keeps inv ends :=
  fun _ _ holds => ⟨holds, ended⟩

theorem keeps_fail {fault : Fault} (ended : ends (.error fault)) :
    (fail fault : Flow σ α).Keeps inv ends :=
  fun _ _ holds => ⟨holds, ended⟩

/-- What follows a look at the state only has to keep the property if the state
has it. -/
theorem keeps_inspect {next : σ → Flow σ α}
    (rest : ∀ state, inv state → (next state).Keeps inv ends) :
    (inspect next).Keeps inv ends :=
  fun start now holds => rest now.state holds start now holds

theorem keeps_update {state : σ} {next : Flow σ α} (there : inv state)
    (rest : next.Keeps inv ends) : (update state next).Keeps inv ends :=
  fun start now _ => ⟨trivial, rest start { now with state } there⟩

theorem keeps_restored {id : EngineId} {next : Except Fault Unit → Flow σ α}
    (rest : ∀ result, (next result).Keeps inv ends) :
    (restored id next).Keeps inv ends :=
  fun _ _ holds => ⟨⟨holds, trivial⟩, fun result later moved =>
    rest result later.state later moved.inv⟩

/-- A change of the state keeps what it does not break. -/
theorem keeps_modify {change : σ → σ}
    (kept : ∀ state, inv state → inv (change state)) :
    (modify change).Keeps inv fun _ => True :=
  keeps_inspect fun state holds =>
    keeps_update (kept state holds) (keeps_done trivial)

/-- Looking at the state changes nothing. -/
theorem keeps_query {question : σ → α}
    (ended : ∀ state, inv state → ends (.ok (question state))) :
    (query question).Keeps inv ends :=
  keeps_inspect fun state holds => keeps_done (ended state holds)

/-- Two flows in a row keep what both keep. -/
theorem Keeps.bind {rest : α → Flow σ β} {last : Except Fault β → Prop}
    (first : flow.Keeps inv ends)
    (failed : ∀ fault, ends (.error fault) → last (.error fault))
    (second : ∀ value, ends (.ok value) → (rest value).Keeps inv last) :
    (flow.bind rest).Keeps inv last := by
  intro start now holds
  apply upholds_bind.mpr
  apply (first start now holds).mono
  intro result began ended there
  obtain fault | value := result
  · exact ⟨there.1, failed fault there.2⟩
  · exact second value there.2 began ended there.1

/-- So they do when nobody asks how they end. -/
theorem Keeps.andThen {rest : α → Flow σ β} (first : flow.Keeps inv ends)
    (second : ∀ value, ends (.ok value) →
      (rest value).Keeps inv fun _ => True) :
    (flow.bind rest).Keeps inv fun _ => True :=
  first.bind (fun _ _ => trivial) second

theorem Keeps.finish {rest : Except Fault α → Flow σ β}
    {last : Except Fault β → Prop} (first : flow.Keeps inv ends)
    (second : ∀ result, ends result → (rest result).Keeps inv last) :
    (flow.finish rest).Keeps inv last := by
  intro start now holds
  apply upholds_finish.mpr
  apply (first start now holds).mono
  intro result began ended there
  exact second result there.2 began ended there.1

theorem Keeps.locked {lock : Lock} (keeps : flow.Keeps inv ends) :
    (Flow.locked lock flow).Keeps inv ends :=
  fun _ _ holds => upholds_locked ⟨holds, trivial⟩ fun later moved =>
    keeps later.state later moved.inv

/-- A flow keeps what its changes keep, whoever makes them. -/
theorem Makes.keeps {allowed : σ → σ → Prop}
    (makes : ∀ now, flow.Makes allowed ends now)
    (kept : ∀ before after, allowed before after → inv before → inv after) :
    flow.Keeps inv ends := by
  have permits : (Contract.ofState inv).Permits allowed :=
    { moves := fun _ _ _ => trivial
      inv := fun now state change holds => kept now.state state change holds
      send := fun _ _ holds => holds
      deliver := fun _ _ _ holds => holds }
  intro start now holds
  exact (permits.upholds (makes now.state) ⟨holds, trivial⟩).mono
    fun _ _ _ ended => ⟨ended.1.inv, ended.2⟩

/-- A flow that runs alone ends as it does among others that do nothing. -/
theorem Upholds.ran {β : Type} {serves : β → Call → Reply → β → Prop}
    {start later : σ} {now : World σ} {server after : β}
    {result : Except Fault α}
    (upheld : flow.Upholds (.ofState inv)
      (fun result _ ended => inv ended.state ∧ ends result) start now)
    (ran : flow.Ran serves now.state server result later after) :
    inv later ∧ ends result := by
  -- Nobody moves between two stretches of a flow that runs alone, so the state in
  -- which it goes on is the one in which it stopped.
  induction flow generalizing start now server with
  | done value =>
      cases ran
      exact upheld
  | fail fault =>
      cases ran
      exact upheld
  | inspect next ih =>
      cases ran with
      | inspect rest => exact ih _ upheld rest
  | update state next ih =>
      cases ran with
      | update rest => exact ih upheld.2 rest
  | send call next ih =>
      cases ran with
      | send served rest =>
          exact ih _ (upheld.2 _ _ trivial (.refl upheld.1.1)) rest
  | acquire lock next ih =>
      cases ran with
      | acquire rest => exact ih (upheld.2 now (.refl upheld.1.1)) rest
  | release lock next ih =>
      cases ran with
      | release rest => exact ih upheld rest
  | restored id next ih => cases ran

/-- So a property that it keeps holds at its end. -/
theorem Keeps.ran {β : Type} {serves : β → Call → Reply → β → Prop}
    (keeps : flow.Keeps inv ends) {state later : σ} {server after : β}
    {result : Except Fault α} (holds : inv state)
    (ran : flow.Ran serves state server result later after) : inv later :=
  (Upholds.ran (keeps state (.fresh state) holds) ran).1

end Flow

/-- A property that all tasks and restorings keep holds in every state that a run
reaches. -/
theorem Scene.keeps {σ β ι α : Type} {scene : Scene σ β ι α} {inv : σ → Prop}
    (tasks : ∀ task, (scene.flow task).Keeps inv fun _ => True)
    (restorings : ∀ engine, (scene.restoring engine).Keeps inv fun _ => True)
    {state : σ} {server : β} {pool : Pool σ β α} (holds : inv state)
    (reached : scene.Reach (.fresh state server) pool) :
    inv pool.world.state := by
  have honoured : (Contract.ofState inv).Honoured (fun _ => True)
      (fun _ => True) scene :=
    { tasks := fun pool task _ holds _ =>
        (tasks task pool.world.state pool.world holds).mono
          fun _ _ _ ended _ => ⟨ended.1, trivial⟩
      restorings := fun engine world holds =>
        (restorings engine world.state world holds).mono
          fun _ _ _ ended => ⟨ended.1, trivial⟩
      replies := fun _ _ _ _ _ _ _ _ _ => ⟨trivial, trivial⟩ }
  exact (honoured.kept holds trivial reached fun _ _ => trivial).inv

end Audience
