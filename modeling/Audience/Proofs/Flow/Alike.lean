import Audience.Proofs.Flow.Contract
import Mathlib.Data.List.Forall2
import Mathlib.Order.Basic

/-!
# Flows that do the same

Two runs can differ in much that a flow never looks at, and in the identifiers
of the engines that it uses.  A likeness says when two shared states look the
same to the flows of one event.  Two flows are alike if, stretch by stretch, they
make corresponding changes, send the same calls and wait for corresponding
things, and if the states still look the same afterwards, whatever others do
during the waits.
-/

namespace Audience

/-- Two shared states, and which engines in them correspond. -/
structure Pair (σ : Type) where
  ids : EngineId → EngineId → Prop
  left : σ
  right : σ

/-- When two states look the same to the flows of an event, and what these may
do to the first of them. -/
structure Likeness (σ : Type) where
  event : String
  holds : Pair σ → Prop
  /-- An engine was made. -/
  has : EngineId → σ → Prop
  /-- What one change may do, given the engines that are used. -/
  change : (EngineId → EngineId → Prop) → σ → σ → Prop
  has_of_ids : ∀ {pair id other}, holds pair → pair.ids id other →
    has id pair.left ∧ has other pair.right
  eq_iff : ∀ {pair id other first second}, holds pair → pair.ids id other →
    pair.ids first second → (id = first ↔ other = second)

/-- Locks that stand for the same thing. -/
inductive Lock.Alike (event : String) (ids : EngineId → EngineId → Prop) :
    Lock → Lock → Prop where
  | document : Alike event ids (.document event) (.document event)
  | savedSegments {id other : EngineId} (same : ids id other) :
      Alike event ids (.savedSegments id) (.savedSegments other)

theorem Lock.Alike.mono {event : String} {ids more : EngineId → EngineId → Prop}
    {lock other : Lock} (within : ids ≤ more)
    (alike : Lock.Alike event ids lock other) :
    Lock.Alike event more lock other := by
  cases alike with
  | document => exact .document
  | savedSegments same => exact .savedSegments (within _ _ same)

namespace Likeness

variable {σ : Type} (like : Likeness σ)

/-- What may be found after a wait. -/
structure Later (pair later : Pair σ) : Prop where
  ids : pair.ids ≤ later.ids
  holds : like.holds later

/-- What a change does to both states.  Engines only come to correspond when they
are made. -/
structure Steps (pair next : Pair σ) : Prop extends Later like pair next where
  change : like.change pair.ids pair.left next.left
  left : ∀ id, like.has id pair.left → like.has id next.left
  right : ∀ id, like.has id pair.right → like.has id next.right
  new : ∀ id other, next.ids id other →
    pair.ids id other ∨ (¬ like.has id pair.left ∧ ¬ like.has other pair.right)

/-- What the changes of a stretch do. -/
inductive Trail : Pair σ → Pair σ → List (σ × σ) → Prop where
  | refl (pair : Pair σ) : Trail pair pair []
  | step {pair next last : Pair σ} {changes : List (σ × σ)}
      (steps : like.Steps pair next) (rest : Trail next last changes) :
      Trail pair last ((pair.left, next.left) :: changes)

variable {like}

theorem Later.refl {pair : Pair σ} (holds : like.holds pair) :
    like.Later pair pair :=
  ⟨le_refl pair.ids, holds⟩

theorem Later.trans {first second third : Pair σ}
    (early : like.Later first second) (late : like.Later second third) :
    like.Later first third :=
  ⟨le_trans early.ids late.ids, late.holds⟩

namespace Trail

variable {pair last : Pair σ} {changes : List (σ × σ)}

theorem ids (trail : like.Trail pair last changes) : pair.ids ≤ last.ids := by
  induction trail with
  | refl pair => exact le_refl pair.ids
  | step steps _ ih => exact le_trans steps.ids ih

theorem left (trail : like.Trail pair last changes) :
    ∀ id, like.has id pair.left → like.has id last.left := by
  induction trail with
  | refl pair => exact fun _ has => has
  | step steps _ ih => exact fun id has => ih id (steps.left id has)

theorem right (trail : like.Trail pair last changes) :
    ∀ id, like.has id pair.right → like.has id last.right := by
  induction trail with
  | refl pair => exact fun _ has => has
  | step steps _ ih => exact fun id has => ih id (steps.right id has)

/-- Engines that came to correspond in a stretch were made in it. -/
theorem new (trail : like.Trail pair last changes) :
    ∀ id other, last.ids id other → pair.ids id other ∨
      (¬ like.has id pair.left ∧ ¬ like.has other pair.right) := by
  induction trail with
  | refl pair => exact fun _ _ same => .inl same
  | step steps _ ih =>
      intro id other same
      obtain before | ⟨first, second⟩ := ih id other same
      · exact steps.new id other before
      · exact .inr ⟨fun has => first (steps.left id has),
          fun has => second (steps.right other has)⟩

end Trail
end Likeness

namespace Flow

variable {σ α β : Type} (like : Likeness σ)

/-- What is asked of the ends of two flows, given the locks that the first still
holds. -/
abbrev Ends (σ α β : Type) :=
  List Lock → Pair σ → Except Fault α → Except Fault β → Prop

/-- Two flows do the same, and end as the given condition says.  The first holds
the given locks. -/
def Alike (ends : Ends σ α β) :
    Flow σ α → Flow σ β → List Lock → Pair σ → Prop
  | done value, done other, mine, pair =>
      ends mine pair (.ok value) (.ok other)
  | fail fault, fail other, mine, pair =>
      ends mine pair (.error fault) (.error other)
  | inspect next, inspect other, mine, pair =>
      Alike ends (next pair.left) (other pair.right) mine pair
  | update left next, update right other, mine, pair =>
      ∃ ids, like.Steps pair ⟨ids, left, right⟩ ∧
        Alike ends next other mine ⟨ids, left, right⟩
  | send call next, send second other, mine, pair =>
      call = second ∧ ∀ reply later, like.Later pair later →
        Alike ends (next reply) (other reply) mine later
  | acquire lock next, acquire second other, mine, pair =>
      Lock.Alike like.event pair.ids lock second ∧
        ∀ later, like.Later pair later →
          Alike ends next other (lock :: mine) later
  | release lock next, release second other, mine, pair =>
      Lock.Alike like.event pair.ids lock second ∧
        Alike ends next other (mine.erase lock) pair
  | restored id next, restored second other, mine, pair =>
      pair.ids id second ∧ ∀ result later, like.Later pair later →
        Alike ends (next result) (other result) mine later
  | _, _, _, _ => False

variable {like}

/-- What follows the ends of two flows may be told from how they end: both with
a result, or both with a fault. -/
theorem Alike.finish {γ δ : Type} {flow : Flow σ α} {other : Flow σ β}
    {rest : Except Fault α → Flow σ γ} {after : Except Fault β → Flow σ δ}
    {ends : Ends σ α β} {last : Ends σ γ δ} {mine : List Lock} {pair : Pair σ}
    (alike : flow.Alike like ends other mine pair)
    (values : ∀ held later value second,
      ends held later (.ok value) (.ok second) →
        (rest (.ok value)).Alike like last (after (.ok second)) held later)
    (faults : ∀ held later fault second,
      ends held later (.error fault) (.error second) →
        (rest (.error fault)).Alike like last (after (.error second))
          held later) :
    (flow.finish rest).Alike like last (other.finish after) mine pair := by
  induction flow generalizing other mine pair with
  | done value =>
      cases other with
      | done second => exact values _ _ _ _ alike
      | _ => exact alike.elim
  | fail fault =>
      cases other with
      | fail second => exact faults _ _ _ _ alike
      | _ => exact alike.elim
  | inspect next ih =>
      cases other with
      | inspect second => exact ih _ alike
      | _ => exact alike.elim
  | update state next ih =>
      cases other with
      | update right second =>
          obtain ⟨ids, steps, rest⟩ := alike
          exact ⟨ids, steps, ih rest⟩
      | _ => exact alike.elim
  | send call next ih =>
      cases other with
      | send second answer =>
          exact ⟨alike.1, fun reply later moved =>
            ih reply (alike.2 reply later moved)⟩
      | _ => exact alike.elim
  | acquire lock next ih =>
      cases other with
      | acquire second answer =>
          exact ⟨alike.1, fun later moved => ih (alike.2 later moved)⟩
      | _ => exact alike.elim
  | release lock next ih =>
      cases other with
      | release second answer => exact ⟨alike.1, ih alike.2⟩
      | _ => exact alike.elim
  | restored id next ih =>
      cases other with
      | restored second answer =>
          exact ⟨alike.1, fun result later moved =>
            ih result (alike.2 result later moved)⟩
      | _ => exact alike.elim

/-- Nothing follows a known end. -/
theorem finish_ofResult (flow : Flow σ α) : flow.finish ofResult = flow := by
  induction flow with
  | done _ => rfl
  | fail _ => rfl
  | inspect next ih => simp [finish, ih]
  | update _ next ih => simp [finish, ih]
  | send _ next ih => simp [finish, ih]
  | acquire _ next ih => simp [finish, ih]
  | release _ next ih => simp [finish, ih]
  | restored _ next ih => simp [finish, ih]

/-- A flow goes on with its result, or fails as before. -/
theorem bind_eq_finish (flow : Flow σ α) (rest : α → Flow σ β) :
    flow.bind rest = flow.finish fun
      | .ok value => rest value
      | .error fault => fail fault := by
  induction flow with
  | done _ => rfl
  | fail _ => rfl
  | inspect next ih => simp [bind, finish, ih]
  | update _ next ih => simp [bind, finish, ih]
  | send _ next ih => simp [bind, finish, ih]
  | acquire _ next ih => simp [bind, finish, ih]
  | release _ next ih => simp [bind, finish, ih]
  | restored _ next ih => simp [bind, finish, ih]

/-- A weaker condition on the ends holds as well. -/
theorem Alike.mono {flow : Flow σ α} {other : Flow σ β}
    {ends weaker : Ends σ α β} {mine : List Lock} {pair : Pair σ}
    (alike : flow.Alike like ends other mine pair)
    (implied : ∀ held later result second, ends held later result second →
      weaker held later result second) :
    flow.Alike like weaker other mine pair := by
  rw [← finish_ofResult flow, ← finish_ofResult other]
  exact alike.finish (fun held later _ _ => implied held later _ _)
    fun held later _ _ => implied held later _ _

variable (like) in
/-- Two flows do the same from a pair of states on, and end in the same way with
all their locks given back. -/
def Matches (flow other : Flow σ α) (pair : Pair σ) : Prop :=
  ∀ mine, flow.Alike like (fun held later result second =>
    held = mine ∧ like.Later pair later ∧ result = second) other mine pair

section Matches

variable {flow other : Flow σ α} {pair : Pair σ}

theorem matches_ofResult (holds : like.holds pair) (result : Except Fault α) :
    (ofResult result).Matches like (ofResult result) pair := by
  cases result <;> exact fun mine => ⟨rfl, .refl holds, rfl⟩

theorem matches_done (holds : like.holds pair) (value : α) :
    (done value : Flow σ α).Matches like (done value) pair :=
  matches_ofResult holds (.ok value)

theorem matches_fail (holds : like.holds pair) (fault : Fault) :
    (fail fault : Flow σ α).Matches like (fail fault) pair :=
  matches_ofResult holds (.error fault)

/-- Flows that do the same later did nothing else before. -/
theorem Matches.sooner {later : Pair σ}
    (same : flow.Matches like other later) (moved : like.Later pair later)
    (mine : List Lock) :
    flow.Alike like (fun held last result second =>
      held = mine ∧ like.Later pair last ∧ result = second) other mine later :=
  (same mine).mono fun _ _ _ _ ⟨held, further, ended⟩ =>
    ⟨held, moved.trans further, ended⟩

theorem matches_inspect {next second : σ → Flow σ α}
    (rest : (next pair.left).Matches like (second pair.right) pair) :
    (inspect next).Matches like (inspect second) pair :=
  fun mine => rest mine

/-- A change of both states, and what follows. -/
theorem matches_update {ids : EngineId → EngineId → Prop} {left right : σ}
    (steps : like.Steps pair ⟨ids, left, right⟩)
    (rest : flow.Matches like other ⟨ids, left, right⟩) :
    (update left flow).Matches like (update right other) pair :=
  fun mine => ⟨ids, steps, rest.sooner steps.toLater mine⟩

theorem matches_send {call : Call} {next second : Reply → Flow σ α}
    (rest : ∀ reply later, like.Later pair later →
      (next reply).Matches like (second reply) later) :
    (send call next).Matches like (send call second) pair :=
  fun mine => ⟨rfl, fun reply later moved =>
    (rest reply later moved).sooner moved mine⟩

theorem matches_restored {id twin : EngineId}
    {next second : Except Fault Unit → Flow σ α} (same : pair.ids id twin)
    (rest : ∀ result later, like.Later pair later →
      (next result).Matches like (second result) later) :
    (restored id next).Matches like (restored twin second) pair :=
  fun mine => ⟨same, fun result later moved =>
    (rest result later moved).sooner moved mine⟩

/-- Looking at what is the same in both states. -/
theorem matches_query {question asked : σ → α} (holds : like.holds pair)
    (same : question pair.left = asked pair.right) :
    (query question).Matches like (query asked) pair := by
  apply matches_inspect
  rw [same]
  exact matches_done holds _

/-- Changing both states in the same way. -/
theorem matches_modify {change alter : σ → σ}
    {ids : EngineId → EngineId → Prop}
    (steps : like.Steps pair ⟨ids, change pair.left, alter pair.right⟩) :
    (modify change).Matches like (modify alter) pair :=
  matches_inspect (matches_update steps (matches_done steps.holds ()))

/-- What follows the end of flows that do the same only has to do the same from
later states on. -/
theorem Matches.finish {rest after : Except Fault α → Flow σ β}
    (first : flow.Matches like other pair)
    (second : ∀ later, like.Later pair later → ∀ result,
      (rest result).Matches like (after result) later) :
    (flow.finish rest).Matches like (other.finish after) pair := by
  intro mine
  apply (first mine).finish
  · rintro _ later value _ ⟨rfl, moved, ⟨⟩⟩
    exact (second later moved (.ok value)).sooner moved _
  · rintro _ later fault _ ⟨rfl, moved, ⟨⟩⟩
    exact (second later moved (.error fault)).sooner moved _

theorem Matches.bind {rest after : α → Flow σ β}
    (first : flow.Matches like other pair)
    (second : ∀ later, like.Later pair later → ∀ value,
      (rest value).Matches like (after value) later) :
    (flow.bind rest).Matches like (other.bind after) pair := by
  rw [bind_eq_finish, bind_eq_finish]
  apply first.finish
  intro later moved result
  obtain fault | value := result
  · exact matches_fail moved.holds fault
  · exact second later moved value

theorem Matches.guard (same : flow.Matches like other pair) :
    flow.guard.Matches like other.guard pair := by
  rw [guard_eq, guard_eq]
  exact same.finish fun later moved result => matches_ofResult moved.holds _

/-- Flows that do the same once they have a lock give it back. -/
theorem matches_locked {lock twin : Lock}
    (same : Lock.Alike like.event pair.ids lock twin)
    (inside : ∀ later, like.Later pair later →
      flow.Matches like other later) :
    (locked lock flow).Matches like (locked twin other) pair := by
  intro mine
  refine ⟨same, fun later moved => ?_⟩
  have given (result : Except Fault α) {last : Pair σ}
      (further : like.Later later last) :
      (release lock (ofResult result)).Alike like (fun held last result second =>
        held = mine ∧ like.Later pair last ∧ result = second)
        (release twin (ofResult result)) (lock :: mine) last := by
    refine ⟨same.mono (le_trans moved.ids further.ids), ?_⟩
    rw [List.erase_cons_head]
    exact (matches_ofResult further.holds result).sooner
      (moved.trans further) mine
  apply (inside later moved (lock :: mine)).finish
  · rintro _ last value _ ⟨rfl, further, ⟨⟩⟩
    exact given (.ok value) further
  · rintro _ last fault _ ⟨rfl, further, ⟨⟩⟩
    exact given (.error fault) further

end Matches

section Stretches

variable (like) in
/-- Two stretches end where the flows go on in the same way. -/
def HaltsAlike (ends : Ends σ α β) (held : List Lock) (pair : Pair σ) :
    Halt σ α → Halt σ β → Prop
  | .ended result, .ended second => ends held pair result second
  | .calls call next, .calls second other =>
      (send call next).Alike like ends (send second other) held pair
  | .locks lock next, .locks second other =>
      (acquire lock next).Alike like ends (acquire second other) held pair
  | .awaits id next, .awaits second other =>
      (restored id next).Alike like ends (restored second other) held pair
  | _, _ => False

variable (like) in
/-- What two stretches did from a pair of states on. -/
structure StretchesAlike (ends : Ends σ α β) (mine : List Lock)
    (pair : Pair σ) (first : Stretch σ α) (second : Stretch σ β)
    (ids : EngineId → EngineId → Prop) : Prop where
  trail : like.Trail pair ⟨ids, first.state, second.state⟩ first.changes
  holds : like.holds ⟨ids, first.state, second.state⟩
  freed : List.Forall₂ (Lock.Alike like.event ids) first.freed second.freed
  halts : HaltsAlike like ends (first.freed.foldl List.erase mine)
    ⟨ids, first.state, second.state⟩ first.halt second.halt

/-- Flows that do the same do so in their first stretches. -/
theorem Alike.stretch {ends : Ends σ α β} {flow : Flow σ α} {other : Flow σ β}
    {mine : List Lock} {pair : Pair σ} (holds : like.holds pair)
    (alike : flow.Alike like ends other mine pair) :
    ∃ ids, StretchesAlike like ends mine pair (flow.stretch pair.left)
      (other.stretch pair.right) ids := by
  induction flow generalizing other mine pair with
  | done value =>
      cases other with
      | done second => exact ⟨pair.ids, .refl pair, holds, .nil, alike⟩
      | _ => exact alike.elim
  | fail fault =>
      cases other with
      | fail second => exact ⟨pair.ids, .refl pair, holds, .nil, alike⟩
      | _ => exact alike.elim
  | inspect next ih =>
      cases other with
      | inspect second =>
          have rest : (next pair.left).Alike like ends (second pair.right)
              mine pair := alike
          obtain ⟨ids, done⟩ := ih _ holds rest
          exact ⟨ids, done⟩
      | _ => exact alike.elim
  | update state next ih =>
      cases other with
      | update right second =>
          obtain ⟨middle, steps, rest⟩ := alike
          obtain ⟨ids, done⟩ := ih steps.holds rest
          exact ⟨ids, .step steps done.trail, done.holds, done.freed,
            done.halts⟩
      | _ => exact alike.elim
  | send call next ih =>
      cases other with
      | send second answer => exact ⟨pair.ids, .refl pair, holds, .nil, alike⟩
      | _ => exact alike.elim
  | acquire lock next ih =>
      cases other with
      | acquire second answer =>
          exact ⟨pair.ids, .refl pair, holds, .nil, alike⟩
      | _ => exact alike.elim
  | release lock next ih =>
      cases other with
      | release second answer =>
          obtain ⟨ids, done⟩ := ih holds alike.2
          exact ⟨ids, done.trail, done.holds,
            .cons (alike.1.mono done.trail.ids) done.freed, done.halts⟩
      | _ => exact alike.elim
  | restored id next ih =>
      cases other with
      | restored second answer =>
          exact ⟨pair.ids, .refl pair, holds, .nil, alike⟩
      | _ => exact alike.elim

end Stretches

end Flow
end Audience
