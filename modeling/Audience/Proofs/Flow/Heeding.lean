import Audience.Proofs.Flow.Diary

/-!
# What replies do to a view

Often only a part of the shared state matters, a view.  A flow heeds its replies
if it changes the view only when it goes on after a reply, and then as its habit
is for the call that the reply answers.  When all flows of a pool do, the view is
what the replies made of it in the order in which they arrived.
-/

namespace Audience

/-- A view of the shared state, and the states in which it makes sense. -/
structure Outlook (σ γ : Type) where
  view : σ → γ
  proper : σ → Prop

/-- Which calls a thread sends, and what the reply to a call makes of the view
when it reaches the thread. -/
structure Habit (γ : Type) where
  sends : Call → Prop
  heard : Call → Reply → γ → γ

namespace Outlook

variable {σ γ : Type}

/-- The view is what it has to be where a stretch ends. -/
def Due (outlook : Outlook σ γ) (state : σ) (due : γ) : Prop :=
  outlook.view state = due ∧ outlook.proper state

/-- A change leaves the view alone. -/
def Spares (outlook : Outlook σ γ) (before after : σ) : Prop :=
  outlook.proper before →
    outlook.view after = outlook.view before ∧ outlook.proper after

theorem Spares.refl {outlook : Outlook σ γ} (state : σ) :
    outlook.Spares state state := fun proper => ⟨rfl, proper⟩

theorem Spares.trans {outlook : Outlook σ γ} {first second third : σ}
    (early : outlook.Spares first second)
    (late : outlook.Spares second third) : outlook.Spares first third := by
  intro proper
  obtain ⟨same, there⟩ := early proper
  obtain ⟨still, proper⟩ := late there
  exact ⟨still.trans same, proper⟩

theorem Due.spared {outlook : Outlook σ γ} {before after : σ} {due : γ}
    (settled : outlook.Due before due) (spares : outlook.Spares before after) :
    outlook.Due after due := by
  obtain ⟨same, proper⟩ := spares settled.2
  exact ⟨same.trans settled.1, proper⟩

end Outlook

namespace Flow

variable {σ α β γ : Type} (outlook : Outlook σ γ) (habit : Habit γ)

/-- A flow sends what it is its habit to send.  Every stretch leaves the view
alone, unless it begins with a reply: then the view becomes what the reply makes
of it.  The end of the flow is as the given condition says, which sees what the
view has to be. -/
def Heeds (ends : Except Fault α → σ → γ → Prop) (flow : Flow σ α) (now : σ)
    (due : γ) : Prop :=
  match flow with
  | done result => ends (.ok result) now due
  | fail fault => ends (.error fault) now due
  | inspect next => (next now).Heeds ends now due
  | update state next => next.Heeds ends state due
  | release _ next => next.Heeds ends now due
  | send call next => outlook.Due now due ∧ habit.sends call ∧
      ∀ reply later, outlook.proper later →
        (next reply).Heeds ends later
          (habit.heard call reply (outlook.view later))
  | acquire _ next => outlook.Due now due ∧
      ∀ later, outlook.proper later →
        next.Heeds ends later (outlook.view later)
  | restored _ next => outlook.Due now due ∧
      ∀ result later, outlook.proper later →
        (next result).Heeds ends later (outlook.view later)

variable {outlook habit}

theorem Heeds.mono {flow : Flow σ α} {ends ends' : Except Fault α → σ → γ → Prop}
    (weaker : ∀ result now due, ends result now due → ends' result now due)
    {now : σ} {due : γ} (heeds : flow.Heeds outlook habit ends now due) :
    flow.Heeds outlook habit ends' now due := by
  induction flow generalizing now due with
  | done result => exact weaker _ _ _ heeds
  | fail fault => exact weaker _ _ _ heeds
  | inspect next ih => exact ih _ heeds
  | update state next ih => exact ih heeds
  | release _ next ih => exact ih heeds
  | send call next ih =>
      exact ⟨heeds.1, heeds.2.1, fun reply later proper =>
        ih reply (heeds.2.2 reply later proper)⟩
  | acquire _ next ih =>
      exact ⟨heeds.1, fun later proper => ih (heeds.2 later proper)⟩
  | restored _ next ih =>
      exact ⟨heeds.1, fun result later proper =>
        ih result (heeds.2 result later proper)⟩

/-- Two flows in a row heed what the first heeds up to the second. -/
theorem heeds_bind {flow : Flow σ α} {rest : α → Flow σ β}
    {ends : Except Fault β → σ → γ → Prop} {now : σ} {due : γ} :
    (flow.bind rest).Heeds outlook habit ends now due ↔
      flow.Heeds outlook habit (fun
        | .ok result => (rest result).Heeds outlook habit ends
        | .error fault => ends (.error fault)) now due := by
  induction flow generalizing now due with
  | done result => rfl
  | fail fault => rfl
  | inspect next ih => exact ih _
  | update state next ih => exact ih
  | release _ next ih => exact ih
  | send call next ih => simp only [bind, Heeds, ih]
  | acquire _ next ih => simp only [bind, Heeds, ih]
  | restored _ next ih => simp only [bind, Heeds, ih]

/-- So do a flow and what follows its end. -/
theorem heeds_finish {flow : Flow σ α} {rest : Except Fault α → Flow σ β}
    {ends : Except Fault β → σ → γ → Prop} {now : σ} {due : γ} :
    (flow.finish rest).Heeds outlook habit ends now due ↔
      flow.Heeds outlook habit
        (fun result => (rest result).Heeds outlook habit ends) now due := by
  induction flow generalizing now due with
  | done result => rfl
  | fail fault => rfl
  | inspect next ih => exact ih _
  | update state next ih => exact ih
  | release _ next ih => exact ih
  | send call next ih => simp only [finish, Heeds, ih]
  | acquire _ next ih => simp only [finish, Heeds, ih]
  | restored _ next ih => simp only [finish, Heeds, ih]

@[simp] theorem heeds_ofResult {result : Except Fault α}
    {ends : Except Fault α → σ → γ → Prop} {now : σ} {due : γ} :
    (ofResult result).Heeds outlook habit ends now due ↔
      ends result now due := by
  cases result <;> rfl

/-- A guarded flow heeds what the flow heeds up to its outcome. -/
theorem heeds_guard {flow : Flow σ α}
    {ends : Except Fault (Outcome α) → σ → γ → Prop} {now : σ} {due : γ} :
    flow.guard.Heeds outlook habit ends now due ↔
      flow.Heeds outlook habit (fun result => ends (guarded result))
        now due := by
  have known : (fun result => (ofResult (guarded result)).Heeds outlook habit
      ends) = fun result => ends (guarded result) := by
    funext result now due
    exact propext heeds_ofResult
  rw [guard_eq, heeds_finish, known]

/-- A flow under a lock heeds what it heeds once it has the lock. -/
theorem heeds_locked {lock : Lock} {flow : Flow σ α}
    {ends : Except Fault α → σ → γ → Prop} {now : σ} {due : γ}
    (settled : outlook.Due now due)
    (inside : ∀ later, outlook.proper later →
      flow.Heeds outlook habit ends later (outlook.view later)) :
    (locked lock flow).Heeds outlook habit ends now due := by
  refine ⟨settled, fun later proper => heeds_finish.mpr ?_⟩
  apply (inside later proper).mono
  intro result now due ended
  exact heeds_ofResult.mpr ended

/-- A flow that leaves the view alone, and sends only calls whose replies do,
heeds them. -/
theorem Makes.heeds {flow : Flow σ α} {ends : Except Fault α → σ → γ → Prop}
    (done : ∀ result later due, outlook.Due later due → ends result later due)
    {now : σ} {due : γ}
    (makes : flow.Makes outlook.Spares (fun _ => True) now)
    (sends : flow.Sends fun call => habit.sends call ∧
      ∀ reply seen, habit.heard call reply seen = seen)
    (settled : outlook.Due now due) :
    flow.Heeds outlook habit ends now due := by
  induction flow generalizing now due with
  | done result => exact done _ _ _ settled
  | fail fault => exact done _ _ _ settled
  | inspect next ih => exact ih now makes (sends now) settled
  | update state next ih => exact ih makes.2 sends (settled.spared makes.1)
  | release _ next ih => exact ih makes sends settled
  | send call next ih =>
      refine ⟨settled, sends.1.1, fun reply later proper => ?_⟩
      rw [sends.1.2]
      exact ih reply (makes reply later) (sends.2 reply) ⟨rfl, proper⟩
  | acquire _ next ih =>
      exact ⟨settled, fun later proper =>
        ih (makes later) sends ⟨rfl, proper⟩⟩
  | restored _ next ih =>
      exact ⟨settled, fun result later proper =>
        ih result (makes result later) (sends result) ⟨rfl, proper⟩⟩

end Flow

section Replaying

variable {σ γ : Type} (step : σ → Call → Reply → γ → γ) (start : γ)

/-- What replies make of a value one after the other, each as the answer to the
call with its number. -/
def replay (sent : List (σ × Call)) (replies : List (Nat × Reply)) : γ :=
  replies.foldl (fun seen entry =>
    match sent[entry.1]? with
    | some (asked, call) => step asked call entry.2 seen
    | none => seen) start

variable {step start} {sent : List (σ × Call)} {replies : List (Nat × Reply)}

/-- Later calls do not change what replies made of it. -/
theorem replay_append (more : List (σ × Call))
    (within : ∀ entry ∈ replies, entry.1 < sent.length) :
    replay step start (sent ++ more) replies =
      replay step start sent replies := by
  unfold replay
  apply List.foldl_ext
  intro seen entry member
  rw [List.getElem?_append_left (within entry member)]

/-- One more reply is taken into account. -/
theorem replay_concat {number : Nat} {asked : σ} {call : Call}
    (found : sent[number]? = some (asked, call)) (reply : Reply) :
    replay step start sent (replies ++ [(number, reply)]) =
      step asked call reply (replay step start sent replies) := by
  simp [replay, found]

end Replaying

namespace Diary

variable {σ ι γ : Type}

/-- Whose call was sent last. -/
def caller? (diary : Diary σ ι) : Option (Work ι) :=
  diary.entries.getLast?.bind fun entry =>
    diary.entries[entry.author]?.bind fun first =>
      match first.deed with
      | .began work => some work
      | _ => none

/-- After a call was written down, its author is known. -/
theorem caller?_write {diary : Diary σ ι} {author : Nat} {work : Work ι}
    {origin : σ} (began : diary.Began author work origin) (call : Call) :
    (diary.write author (.called call)).caller? = some work := by
  have kept := began.mono (diary.entries_write author (.called call))
  unfold Began at kept
  simp only [caller?, write, List.getLast?_append, List.getLast?_singleton,
    Option.some_or, Option.bind_some]
  simp only [write] at kept
  rw [kept]
  rfl

variable (outlook : Outlook σ γ) (habits : Work ι → Habit γ)

/-- What the reply to a call makes of the view, for whoever sent the call. -/
def heard (asked : Diary σ ι) (call : Call) (reply : Reply) (seen : γ) : γ :=
  match asked.caller? with
  | some work => (habits work).heard call reply seen
  | none => seen

/-- What replies made of the view. -/
def retold (start : γ) (sent : List (Diary σ ι × Call))
    (replies : List (Nat × Reply)) : γ :=
  replay (heard habits) start sent replies

variable {outlook habits} {start : γ}

variable (outlook habits start)

/-- The view is what the replies made of it, and everybody sends what it is their
habit to send. -/
structure Retells (world : World (Diary σ ι)) : Prop where
  within : ∀ entry ∈ world.delivered, entry.1 < world.sent.length
  callers : ∀ entry ∈ world.sent, ∃ work, entry.1.caller? = some work ∧
    (habits work).sends entry.2
  due : outlook.Due world.state.state
    (retold habits start world.sent world.delivered)

/-- What flows rely on that heed their replies. -/
def retelling : Contract (Diary σ ι) where
  inv := Retells outlook habits start
  moves earlier later := earlier.entries <+: later.entries
  change earlier later := earlier.entries <+: later.entries
  replies _ _ := True
  moves_refl := grown_refl
  moves_trans := grown_trans
  change_trans := grown_trans
  change_of_moves moves := moves

variable {outlook habits start}

theorem Retells.send {world : World (Diary σ ι)} {diary : Diary σ ι}
    {work : Work ι} {call : Call}
    (within : ∀ entry ∈ world.delivered, entry.1 < world.sent.length)
    (callers : ∀ entry ∈ world.sent, ∃ work, entry.1.caller? = some work ∧
      (habits work).sends entry.2)
    (due : outlook.Due diary.state
      (retold habits start world.sent world.delivered))
    (caller : diary.caller? = some work) (sends : (habits work).sends call) :
    Retells outlook habits start
      (({ world with state := diary } : World (Diary σ ι)).send call) where
  within entry member := by
    have before := within entry member
    simp only [World.send, List.length_append, List.length_singleton]
    omega
  callers entry member := by
    obtain old | new := List.mem_append.mp member
    · exact callers entry old
    · cases List.mem_singleton.mp new
      exact ⟨work, caller, sends⟩
  due := by
    simp only [World.send, retold, replay_append _ within]
    exact due

end Diary

namespace Flow

variable {σ ι α γ : Type} {outlook : Outlook σ γ} {start : γ}
variable {habits : Work ι → Habit γ}

/-- A flow that heeds its replies retells them when it signs. -/
theorem upholds_signed_of_heeds {author : Nat} {work : Work ι} {origin : σ}
    {flow : Flow σ α} {first : Diary σ ι} {now : World (Diary σ ι)} {due : γ}
    (began : now.state.Began author work origin)
    (grown : first.entries <+: now.state.entries)
    (within : ∀ entry ∈ now.delivered, entry.1 < now.sent.length)
    (callers : ∀ entry ∈ now.sent, ∃ work, entry.1.caller? = some work ∧
      (habits work).sends entry.2)
    (told : Diary.retold habits start now.sent now.delivered = due)
    (heeds : flow.Heeds outlook (habits work) (fun _ => outlook.Due)
      now.state.state due) :
    (flow.signed author).Upholds (Diary.retelling outlook habits start)
      (fun _ => (Diary.retelling outlook habits start).Turn) first now := by
  induction flow generalizing first now due with
  | done result => exact ⟨⟨within, callers, told ▸ heeds⟩, grown⟩
  | fail fault => exact ⟨⟨within, callers, told ▸ heeds⟩, grown⟩
  | inspect next ih =>
      exact ih now.state.state began grown within callers told heeds
  | update state next ih =>
      have more := now.state.entries_write author (.changed state)
      exact ⟨more, ih (began.mono more) (grown.trans more) within callers told
        heeds⟩
  | release lock next ih => exact ih began grown within callers told heeds
  | acquire lock next ih =>
      refine ⟨⟨⟨within, callers, told ▸ heeds.1⟩, grown⟩, fun later moved => ?_⟩
      exact ih (began.mono moved.moved) List.prefix_rfl moved.inv.within
        moved.inv.callers moved.inv.due.1.symm (heeds.2 _ moved.inv.due.2)
  | restored engine next ih =>
      refine ⟨⟨⟨within, callers, told ▸ heeds.1⟩, grown⟩,
        fun result later moved => ?_⟩
      exact ih result (began.mono moved.moved) List.prefix_rfl moved.inv.within
        moved.inv.callers moved.inv.due.1.symm (heeds.2 result _ moved.inv.due.2)
  | send call next ih =>
      have more := now.state.entries_write author (.called call)
      have caller := Diary.caller?_write began call
      have due : outlook.Due (now.state.write author (.called call)).state
          (Diary.retold habits start now.sent now.delivered) := told ▸ heeds.1
      have retells := Diary.Retells.send within callers due caller heeds.2.1
      refine ⟨more, ⟨retells, grown.trans more⟩, ?_⟩
      -- The diary at the call says whose it is, so the reply is taken into
      -- account as the flow does it.
      intro reply later _ moved
      have found := moved.grown.getElem? (World.getElem?_send call
        { now with state := now.state.write author (.called call) })
      refine ih reply (began.mono (more.trans moved.moved)) List.prefix_rfl
        ?_ moved.inv.callers ?_ (heeds.2.2 reply _ moved.inv.due.2)
      · intro entry member
        obtain old | new := List.mem_append.mp member
        · exact moved.inv.within entry old
        · cases List.mem_singleton.mp new
          exact (List.getElem?_eq_some_iff.mp found).1
      · show Diary.retold habits start later.sent (later.delivered ++ _) = _
        rw [Diary.retold, replay_concat found, Diary.heard, caller]
        exact congrArg ((habits work).heard call reply) moved.inv.due.1.symm

/-- So does one that signs its beginning first. -/
theorem upholds_recorded_of_heeds {work : Work ι} {flow : Flow σ α}
    {now : World (Diary σ ι)}
    (retells : Diary.Retells outlook habits start now)
    (heeds : flow.Heeds outlook (habits work) (fun _ => outlook.Due)
      now.state.state (outlook.view now.state.state)) :
    (flow.recorded work).Upholds (Diary.retelling outlook habits start)
      (fun _ => (Diary.retelling outlook habits start).Turn) now.state now := by
  have grown :=
    now.state.entries_write now.state.entries.length (.began work)
  have began : (now.state.write now.state.entries.length
      (.began work)).Began now.state.entries.length work now.state.state := by
    simp [Diary.Began, Diary.write]
  exact ⟨grown, upholds_signed_of_heeds began grown retells.within
    retells.callers retells.due.1.symm heeds⟩

end Flow

namespace Scene

variable {σ β ι α γ : Type} {scene : Scene σ β ι α} {outlook : Outlook σ γ}
variable {habits : Work ι → Habit γ}

/-- All that runs heeds its replies. -/
structure Heedful (scene : Scene σ β ι α) (outlook : Outlook σ γ)
    (habits : Work ι → Habit γ) : Prop where
  tasks : ∀ task now, outlook.proper now →
    (scene.flow task).Heeds outlook (habits (.task task))
      (fun _ => outlook.Due) now (outlook.view now)
  restorings : ∀ engine now, outlook.proper now →
    (scene.restoring engine).Heeds outlook (habits (.restoring engine))
      (fun _ => outlook.Due) now (outlook.view now)

theorem Heedful.honoured (heedful : scene.Heedful outlook habits) (start : γ) :
    (Diary.retelling outlook habits start).Honoured (fun _ => True)
      (fun _ => True) scene.recorded where
  tasks _ task _ retells _ :=
    (Flow.upholds_recorded_of_heeds retells
      (heedful.tasks task _ retells.due.2)).mono fun _ _ _ turn _ => turn
  restorings engine _ retells :=
    Flow.upholds_recorded_of_heeds retells
      (heedful.restorings engine _ retells.due.2)
  replies _ _ _ _ _ _ _ _ _ := ⟨trivial, trivial⟩

/-- In every run, the view is what the replies made of it in the order in which
they arrived. -/
theorem Heedful.retells (heedful : scene.Heedful outlook habits) {state : σ}
    {server : β} {pool : Pool (Diary σ ι) β α} (proper : outlook.proper state)
    (reached : scene.recorded.Reach (.fresh (.blank state) server) pool) :
    Diary.Retells outlook habits (outlook.view state) pool.world := by
  have fresh : Diary.Retells outlook habits (outlook.view state)
      (.fresh (.blank state)) := 
    ⟨by simp [World.fresh], by simp [World.fresh], rfl, proper⟩
  exact ((heedful.honoured (outlook.view state)).kept fresh trivial reached
    fun _ _ => trivial).inv

end Scene
end Audience
