import Audience.Proofs.Flow.Alike
import Audience.Proofs.Flow.Crowd
import Mathlib.Data.List.InsertIdx

/-!
# Pools in lockstep

Two pools agree if their threads pairwise do the same and their shared states
look the same.  Then an act is possible in both or in neither, and afterwards
they agree again.  The first pool may hold locks and restore engines that the
second one knows nothing of: only what corresponds has to be equal.
-/

namespace Audience

variable {σ β ι α : Type}

/-- Ends of threads that stand for the same thing. -/
inductive Ending.Alike (ids : EngineId → EngineId → Prop) :
    Ending α → Ending α → Prop where
  | task (result : Except Fault α) : Alike ids (.task result) (.task result)
  | restoring {id twin : EngineId} (same : ids id twin)
      (result : Except Fault Unit) :
      Alike ids (.restoring id result) (.restoring twin result)

/-- Threads give all their locks back, never fail, and end alike. -/
def Ending.closes (held : List Lock) (last : Pair σ)
    (result second : Except Fault (Ending α)) : Prop :=
  held = [] ∧ ∃ ending other, result = .ok ending ∧ second = .ok other ∧
    ending.Alike last.ids other

namespace Pending

/-- Two threads wait for corresponding things and then do the same.  The first
holds the given locks. -/
inductive Alike (like : Likeness σ) (pair : Pair σ) :
    Pending σ (Ending α) → Pending σ (Ending α) → List Lock → Prop where
  | ready {flow other : Flow σ (Ending α)} {mine : List Lock}
      (alike : ∀ later, like.Later pair later →
        flow.Alike like Ending.closes other mine later) :
      Alike like pair (.ready flow) (.ready other) mine
  | sent {number place : Nat} {call second : Call}
      {next other : Reply → Flow σ (Ending α)} {mine : List Lock}
      (alike : (Flow.send call next).Alike like Ending.closes
        (.send second other) mine pair) :
      Alike like pair (.sent number call next) (.sent place second other) mine
  | locking {lock twin : Lock} {next other : Flow σ (Ending α)}
      {mine : List Lock}
      (alike : (Flow.acquire lock next).Alike like Ending.closes
        (.acquire twin other) mine pair) :
      Alike like pair (.locking lock next) (.locking twin other) mine
  | awaiting {id twin : EngineId}
      {next other : Except Fault Unit → Flow σ (Ending α)} {mine : List Lock}
      (alike : (Flow.restored id next).Alike like Ending.closes
        (.restored twin other) mine pair) :
      Alike like pair (.awaiting id next) (.awaiting twin other) mine

/-- Threads that wait put up with whatever others do. -/
theorem Alike.later {like : Likeness σ} {pair last : Pair σ}
    {first second : Pending σ (Ending α)} {mine : List Lock}
    (alike : first.Alike like pair second mine)
    (moved : like.Later pair last) : first.Alike like last second mine := by
  cases alike with
  | ready alike =>
      exact .ready fun later further => alike later (moved.trans further)
  | sent alike =>
      exact .sent ⟨alike.1, fun reply later further =>
        alike.2 reply later (moved.trans further)⟩
  | locking alike =>
      exact .locking ⟨alike.1.mono moved.ids, fun later further =>
        alike.2 later (moved.trans further)⟩
  | awaiting alike =>
      exact .awaiting ⟨moved.ids _ _ alike.1, fun result later further =>
        alike.2 result later (moved.trans further)⟩

end Pending

/-- Two threads that wait, and the locks that the first holds. -/
structure Seat (σ α : Type) where
  first : Pending σ (Ending α)
  second : Pending σ (Ending α)
  mine : List Lock

/-- What a pool did before. -/
structure Past (α : Type) where
  calls : List Call
  results : List (Except Fault α)

namespace Pool

/-- Locks and restorings are of engines that were made. -/
structure Made (like : Likeness σ) (pool : Pool σ β α) : Prop where
  held : ∀ id, .savedSegments id ∈ pool.held → like.has id pool.world.state
  restorings : ∀ id, Keyed.get? id pool.restorings ≠ none →
    like.has id pool.world.state

/-- The threads of two pools sit pairwise.  Locks that matter are held by one of
them, or by the thread that runs. -/
structure Seated (like : Likeness σ) (ids : EngineId → EngineId → Prop)
    (mine : List Lock) (first second : Pool σ β α)
    (seats : List (Seat σ α)) : Prop where
  left : first.waiting = seats.map Seat.first
  right : second.waiting = seats.map Seat.second
  alike : ∀ seat ∈ seats, seat.first.Alike like
    ⟨ids, first.world.state, second.world.state⟩ seat.second seat.mine
  owned : ∀ lock ∈ first.held, ∀ twin, Lock.Alike like.event ids lock twin →
    lock ∈ mine ∨ ∃ seat ∈ seats, lock ∈ seat.mine

/-- Two pools agree, where the first did something before and the thread that
runs in it holds the given locks. -/
structure Agree (like : Likeness σ) (past : Past α)
    (ids : EngineId → EngineId → Prop) (mine : List Lock)
    (first second : Pool σ β α) : Prop where
  holds : like.holds ⟨ids, first.world.state, second.world.state⟩
  locks : ∀ lock twin, Lock.Alike like.event ids lock twin →
    (lock ∈ first.held ↔ twin ∈ second.held)
  restorings : ∀ id twin, ids id twin →
    Keyed.get? id first.restorings = Keyed.get? twin second.restorings
  made : first.Made like ∧ second.Made like
  seats : ∃ seats, Seated like ids mine first second seats
  sent : first.world.sent.map Prod.snd =
    past.calls ++ second.world.sent.map Prod.snd
  results : first.results = past.results ++ second.results

/-- What an act does to the rest of the first pool: nothing that does not
correspond to something in the second one is touched. -/
structure Footprint (like : Likeness σ)
    (ids more : EngineId → EngineId → Prop) (before after : Pool σ β α) :
    Prop where
  trail : ∃ changes right last, after.changes = before.changes ++ changes ∧
    like.holds ⟨ids, before.world.state, right⟩ ∧
      like.Trail ⟨ids, before.world.state, right⟩
        ⟨more, after.world.state, last⟩ changes
  held : ∀ lock, (∀ twin, ¬ Lock.Alike like.event more lock twin) →
    (lock ∈ after.held ↔ lock ∈ before.held)
  restorings : ∀ id, (∀ twin, ¬ more id twin) →
    Keyed.get? id after.restorings = Keyed.get? id before.restorings

end Pool

section Locks

variable {like : Likeness σ} {pair : Pair σ} {lock twin other another : Lock}

/-- Corresponding locks are one to one. -/
theorem Lock.Alike.eq_iff (holds : like.holds pair)
    (first : Lock.Alike like.event pair.ids lock twin)
    (second : Lock.Alike like.event pair.ids other another) :
    lock = other ↔ twin = another := by
  cases first with
  | document => cases second <;> simp
  | savedSegments same =>
      cases second with
      | document => simp
      | savedSegments further => simpa using like.eq_iff holds same further

theorem Lock.Alike.mem_iff (holds : like.holds pair)
    {freed others : List Lock}
    (all : List.Forall₂ (Lock.Alike like.event pair.ids) freed others)
    (alike : Lock.Alike like.event pair.ids lock twin) :
    lock ∈ freed ↔ twin ∈ others := by
  induction all with
  | nil => simp
  | cons first _ ih =>
      rw [List.mem_cons, List.mem_cons, ih, alike.eq_iff holds first]

/-- Whatever is given back corresponds to something. -/
theorem exists_alike_of_mem {ids : EngineId → EngineId → Prop} {event : String}
    {freed others : List Lock}
    (all : List.Forall₂ (Lock.Alike event ids) freed others)
    (member : lock ∈ freed) : ∃ twin, Lock.Alike event ids lock twin := by
  induction all with
  | nil => cases member
  | cons first _ ih =>
      obtain rfl | rest := List.mem_cons.mp member
      · exact ⟨_, first⟩
      · exact ih rest

/-- A lock that is not given back is kept. -/
theorem mem_foldl_erase {freed mine : List Lock} (kept : lock ∉ freed)
    (member : lock ∈ mine) : lock ∈ freed.foldl List.erase mine := by
  induction freed generalizing mine with
  | nil => exact member
  | cons first rest ih =>
      rw [List.mem_cons, not_or] at kept
      exact ih kept.2 ((List.mem_erase_of_ne kept.1).mpr member)

end Locks

/-- A thread does the same as another if its flow does. -/
theorem Flow.Matches.reported {γ : Type} {like : Likeness σ} {pair : Pair σ}
    {flow other : Flow σ γ} {report told : Except Fault γ → Ending α}
    (same : flow.Matches like other pair)
    (alike : ∀ later, like.Later pair later → ∀ result,
      (report result).Alike later.ids (told result)) :
    (flow.reported report).Alike like Ending.closes (other.reported told) []
      pair := by
  apply (same []).finish
  · rintro _ later value _ ⟨rfl, moved, ⟨⟩⟩
    exact ⟨rfl, _, _, rfl, rfl, alike later moved (.ok value)⟩
  · rintro _ later fault _ ⟨rfl, moved, ⟨⟩⟩
    exact ⟨rfl, _, _, rfl, rfl, alike later moved (.error fault)⟩

section Halts

/-- The engine whose restoring may begin or end where a stretch ends. -/
def Halt.engine? : Halt σ (Ending α) → Option EngineId
  | .ended (.ok (.restoring id _)) => some id
  | .awaits id _ => some id
  | _ => none

theorem Pool.restoringsAfter_of_ne {pool : Pool σ β α}
    {halt : Halt σ (Ending α)} {id : EngineId} (ne : halt.engine? ≠ some id) :
    Keyed.get? id (pool.restoringsAfter halt) =
      Keyed.get? id pool.restorings := by
  unfold Pool.restoringsAfter
  split
  · exact Keyed.get?_put_of_ne (fun same => ne (congrArg some same.symm)) _ _
  · split
    · rfl
    · exact Keyed.get?_put_of_ne (fun same => ne (congrArg some same.symm)) _ _
  · rfl

/-- Where two threads stop together. -/
inductive Halted (like : Likeness σ) (held : List Lock) (pair : Pair σ) :
    Halt σ (Ending α) → Halt σ (Ending α) → Prop where
  | task (given : held = []) (result : Except Fault α) :
      Halted like held pair (.ended (.ok (.task result)))
        (.ended (.ok (.task result)))
  | restored (given : held = []) {id twin : EngineId} (same : pair.ids id twin)
      (result : Except Fault Unit) :
      Halted like held pair (.ended (.ok (.restoring id result)))
        (.ended (.ok (.restoring twin result)))
  | calls {call : Call} {next other : Reply → Flow σ (Ending α)}
      (alike : (Flow.send call next).Alike like Ending.closes
        (.send call other) held pair) :
      Halted like held pair (.calls call next) (.calls call other)
  | locks {lock twin : Lock} {next other : Flow σ (Ending α)}
      (alike : (Flow.acquire lock next).Alike like Ending.closes
        (.acquire twin other) held pair) :
      Halted like held pair (.locks lock next) (.locks twin other)
  | awaits {id twin : EngineId}
      {next other : Except Fault Unit → Flow σ (Ending α)}
      (alike : (Flow.restored id next).Alike like Ending.closes
        (.restored twin other) held pair) :
      Halted like held pair (.awaits id next) (.awaits twin other)

variable {like : Likeness σ} {held : List Lock} {pair : Pair σ}
variable {halt other : Halt σ (Ending α)}

theorem Halted.of_haltsAlike
    (alike : Flow.HaltsAlike like Ending.closes held pair halt other) :
    Halted like held pair halt other := by
  cases halt with
  | ended result =>
      cases other with
      | ended second =>
          obtain ⟨given, ending, another, rfl, rfl, alike⟩ := alike
          cases alike with
          | task result => exact .task given result
          | restoring same result => exact .restored given same result
      | _ => exact alike.elim
  | calls call next =>
      cases other with
      | calls second further =>
          obtain ⟨rfl, rest⟩ := alike
          exact .calls ⟨rfl, rest⟩
      | _ => exact alike.elim
  | locks lock next =>
      cases other with
      | locks second further => exact .locks alike
      | _ => exact alike.elim
  | awaits id next =>
      cases other with
      | awaits second further => exact .awaits alike
      | _ => exact alike.elim

variable (halted : Halted like held pair halt other)
include halted

theorem Halted.sent (first second : σ) :
    (Pool.callsOf first halt).map Prod.snd =
      (Pool.callsOf second other).map Prod.snd := by
  cases halted <;> rfl

theorem Halted.results : Pool.resultsOf halt = Pool.resultsOf other := by
  cases halted <;> rfl

variable {first second : Pool σ β α}

/-- What is known of the restoring of corresponding engines stays the same. -/
theorem Halted.restorings (holds : like.holds pair)
    (known : ∀ id twin, pair.ids id twin →
      Keyed.get? id first.restorings = Keyed.get? twin second.restorings) :
    ∀ id twin, pair.ids id twin →
      Keyed.get? id (first.restoringsAfter halt) =
        Keyed.get? twin (second.restoringsAfter other) := by
  have puts {id twin : EngineId} (same : pair.ids id twin)
      (entry : Option (Except Fault Unit)) : ∀ name partner,
      pair.ids name partner →
        Keyed.get? name (Keyed.put id entry first.restorings) =
          Keyed.get? partner (Keyed.put twin entry second.restorings) := by
    intro name partner both
    have alike := like.eq_iff holds both same
    by_cases here : name = id
    · rw [here, alike.mp here, Keyed.get?_put_self, Keyed.get?_put_self]
    · rw [Keyed.get?_put_of_ne here,
        Keyed.get?_put_of_ne fun there => here (alike.mpr there)]
      exact known name partner both
  cases halted with
  | task _ _ => exact known
  | restored _ same result => exact puts same (some result)
  | calls _ => exact known
  | locks _ => exact known
  | @awaits id twin _ _ alike =>
      unfold Pool.restoringsAfter
      dsimp only
      rw [known id twin alike.1]
      split
      · exact known
      · exact puts alike.1 none

/-- The engines whose restoring may have begun or ended correspond. -/
theorem Halted.engines :
    Option.Rel pair.ids halt.engine? other.engine? := by
  cases halted with
  | restored _ same _ => exact .some same
  | awaits alike => exact .some alike.1
  | _ => exact .none

theorem Halted.left {id : EngineId} (concerned : halt.engine? = some id) :
    ∃ twin, pair.ids id twin := by
  have engines := halted.engines
  rw [concerned] at engines
  generalize other.engine? = second at engines
  cases engines with
  | some same => exact ⟨_, same⟩

theorem Halted.right {twin : EngineId}
    (concerned : other.engine? = some twin) : ∃ id, pair.ids id twin := by
  have engines := halted.engines
  rw [concerned] at engines
  generalize halt.engine? = first at engines
  cases engines with
  | some same => exact ⟨_, same⟩

/-- The threads that wait where two threads stopped. -/
theorem Halted.seats {restoring : EngineId → Flow σ Unit}
    (restores : ∀ pair id twin, like.holds pair → pair.ids id twin →
      (restoring id).Matches like (restoring twin) pair)
    (known : ∀ id twin, pair.ids id twin →
      Keyed.get? id first.restorings = Keyed.get? twin second.restorings) :
    ∃ seats : List (Seat σ α),
      first.threadsAfter restoring halt = seats.map Seat.first ∧
      second.threadsAfter restoring other = seats.map Seat.second ∧
      (∀ seat ∈ seats, seat.first.Alike like pair seat.second seat.mine) ∧
      ∀ lock ∈ held, ∃ seat ∈ seats, lock ∈ seat.mine := by
  have alone {thread partner : Pending σ (Ending α)}
      (alike : thread.Alike like pair partner held) :
      (∀ seat ∈ [Seat.mk thread partner held],
        seat.first.Alike like pair seat.second seat.mine) ∧
      ∀ lock ∈ held, ∃ seat ∈ [Seat.mk thread partner held],
        lock ∈ seat.mine := by
    simp only [List.mem_singleton, forall_eq, exists_eq_left]
    exact ⟨alike, fun _ member => member⟩
  cases halted with
  | task given _ =>
      subst given
      exact ⟨[], rfl, rfl, by simp, by simp⟩
  | restored given _ _ =>
      subst given
      exact ⟨[], rfl, rfl, by simp, by simp⟩
  | calls alike => exact ⟨[⟨_, _, held⟩], rfl, rfl, alone (.sent alike)⟩
  | locks alike => exact ⟨[⟨_, _, held⟩], rfl, rfl, alone (.locking alike)⟩
  | @awaits id twin _ _ alike =>
      obtain ⟨sits, kept⟩ := alone (.awaiting alike)
      unfold Pool.threadsAfter
      dsimp only
      rw [known id twin alike.1]
      cases Keyed.get? twin second.restorings with
      | some _ => exact ⟨[⟨_, _, held⟩], rfl, rfl, sits, kept⟩
      | none =>
          -- The first that waits begins the restoring.
          refine ⟨[⟨_, _, held⟩, ⟨_, _, []⟩], rfl, rfl, ?_, ?_⟩
          · intro seat member
            obtain rfl | rfl := by simpa using member
            · exact .awaiting alike
            · exact .ready fun later moved =>
                (restores later id twin moved.holds (moved.ids _ _ alike.1)
                  ).reported fun last further result =>
                    .restoring (further.ids _ _ (moved.ids _ _ alike.1)) result
          · exact fun lock member => ⟨_, List.mem_cons_self, member⟩

end Halts

namespace Pool

variable {like : Likeness σ} {past : Past α}
variable {ids more : EngineId → EngineId → Prop} {mine : List Lock}
variable {first second : Pool σ β α}

/-- A lock that comes to matter was not held before. -/
theorem Agree.locks_more (agree : Agree like past ids mine first second)
    {left right : σ} {changes : List (σ × σ)}
    (trail : like.Trail ⟨ids, first.world.state, second.world.state⟩
      ⟨more, left, right⟩ changes) {lock twin : Lock}
    (alike : Lock.Alike like.event more lock twin) :
    Lock.Alike like.event ids lock twin ∨
      lock ∉ first.held ∧ twin ∉ second.held := by
  cases alike with
  | document => exact .inl .document
  | savedSegments same =>
      obtain before | ⟨unmade, missing⟩ := trail.new _ _ same
      · exact .inl (.savedSegments before)
      · exact .inr ⟨fun held => unmade (agree.made.1.held _ held),
          fun held => missing (agree.made.2.held _ held)⟩

/-- An engine that comes to matter was not restored before. -/
theorem Agree.restorings_more (agree : Agree like past ids mine first second)
    {left right : σ} {changes : List (σ × σ)}
    (trail : like.Trail ⟨ids, first.world.state, second.world.state⟩
      ⟨more, left, right⟩ changes) (id twin : EngineId)
    (same : more id twin) :
    Keyed.get? id first.restorings = Keyed.get? twin second.restorings := by
  obtain before | ⟨unmade, missing⟩ := trail.new _ _ same
  · exact agree.restorings id twin before
  · have one : Keyed.get? id first.restorings = none := by
      by_contra known
      exact unmade (agree.made.1.restorings id known)
    have two : Keyed.get? twin second.restorings = none := by
      by_contra known
      exact missing (agree.made.2.restorings twin known)
    rw [one, two]

/-- What was made stays made, and so is what a stretch is about. -/
theorem Made.perform {pool : Pool σ β α} (made : pool.Made like)
    {restoring : EngineId → Flow σ Unit} {flow : Flow σ (Ending α)}
    (grows : ∀ id, like.has id pool.world.state →
      like.has id (flow.stretch pool.world.state).state)
    (concerns : ∀ id, (flow.stretch pool.world.state).halt.engine? = some id →
      like.has id (flow.stretch pool.world.state).state) :
    (pool.perform restoring flow).Made like where
  held id member := grows id (made.held id (List.mem_of_mem_filter member))
  restorings id begun := by
    by_cases concerned : (flow.stretch pool.world.state).halt.engine? = some id
    · exact concerns id concerned
    · exact grows id
        (made.restorings id (restoringsAfter_of_ne concerned ▸ begun))

section Stretches

variable {restoring : EngineId → Flow σ Unit} {flow other : Flow σ (Ending α)}
variable (agree : Agree like past ids mine first second)
variable (went : Flow.StretchesAlike like Ending.closes mine
  ⟨ids, first.world.state, second.world.state⟩
  (flow.stretch first.world.state) (other.stretch second.world.state) more)
include agree went

/-- Corresponding locks are given back together. -/
theorem Agree.locks_perform (lock twin : Lock)
    (alike : Lock.Alike like.event more lock twin) :
    lock ∈ (first.perform restoring flow).held ↔
      twin ∈ (second.perform restoring other).held := by
  have given := alike.mem_iff went.holds went.freed
  simp only [Pool.perform, List.mem_filter, decide_eq_true_eq]
  obtain before | ⟨free, unheld⟩ := agree.locks_more went.trail alike
  · rw [agree.locks lock twin before, given]
  · simp [free, unheld]

/-- Whoever waits after a stretch waits in both pools, and holds what the thread
that ran has kept. -/
theorem Agree.seated_perform
    (restores : ∀ pair id twin, like.holds pair → pair.ids id twin →
      (restoring id).Matches like (restoring twin) pair) :
    ∃ seats, Seated like more [] (first.perform restoring flow)
      (second.perform restoring other) seats := by
  have moved : like.Later ⟨ids, first.world.state, second.world.state⟩
      ⟨more, (flow.stretch first.world.state).state,
        (other.stretch second.world.state).state⟩ :=
    ⟨went.trail.ids, went.holds⟩
  obtain ⟨seats, left, right, sits, owned⟩ := agree.seats
  obtain ⟨added, leftAdded, rightAdded, alikeAdded, kept⟩ :=
    (Halted.of_haltsAlike went.halts).seats restores
      (agree.restorings_more went.trail)
  refine ⟨added ++ seats, ?_, ?_, ?_, ?_⟩
  · rw [List.map_append, ← leftAdded, ← left]
    rfl
  · rw [List.map_append, ← rightAdded, ← right]
    rfl
  · intro seat member
    obtain new | before := List.mem_append.mp member
    · exact alikeAdded seat new
    · exact (sits seat before).later moved
  · intro lock member twin alike
    obtain ⟨held, unfreed⟩ := List.mem_filter.mp member
    have unfreed := of_decide_eq_true unfreed
    obtain before | ⟨free, -⟩ := agree.locks_more went.trail alike
    · right
      obtain own | ⟨seat, sitting, others⟩ := owned lock held twin before
      · obtain ⟨seat, sitting, has⟩ := kept lock (mem_foldl_erase unfreed own)
        exact ⟨seat, List.mem_append_left _ sitting, has⟩
      · exact ⟨seat, List.mem_append_right _ sitting, others⟩
    · exact absurd held free

/-- A stretch gives back locks that matter, and restores engines that do. -/
theorem Agree.footprint :
    Footprint like ids more first (first.perform restoring flow) where
  trail := ⟨_, _, _, rfl, agree.holds, went.trail⟩
  held lock apart := by
    simp only [Pool.perform, List.mem_filter, decide_eq_true_eq,
      and_iff_left_iff_imp]
    intro _ given
    obtain ⟨twin, alike⟩ := exists_alike_of_mem went.freed given
    exact apart twin alike
  restorings id apart := by
    apply restoringsAfter_of_ne
    intro concerned
    obtain ⟨twin, same⟩ := (Halted.of_haltsAlike went.halts).left concerned
    exact apart twin same

end Stretches

/-- Threads that do the same keep two pools in agreement for a stretch, and
touch nothing else. -/
theorem Agree.perform (agree : Agree like past ids mine first second)
    {restoring : EngineId → Flow σ Unit}
    (restores : ∀ pair id twin, like.holds pair → pair.ids id twin →
      (restoring id).Matches like (restoring twin) pair)
    {flow other : Flow σ (Ending α)}
    (alike : flow.Alike like Ending.closes other mine
      ⟨ids, first.world.state, second.world.state⟩) :
    ∃ more, ids ≤ more ∧
      Agree like past more [] (first.perform restoring flow)
        (second.perform restoring other) ∧
      Footprint like ids more first (first.perform restoring flow) := by
  obtain ⟨more, went⟩ := alike.stretch agree.holds
  have halted := Halted.of_haltsAlike went.halts
  have known := agree.restorings_more went.trail
  refine ⟨more, went.trail.ids, ⟨went.holds, agree.locks_perform went,
    halted.restorings went.holds known, ⟨?_, ?_⟩,
    agree.seated_perform went restores, ?_, ?_⟩, agree.footprint went⟩
  · exact agree.made.1.perform went.trail.left fun id concerned =>
      (halted.left concerned).elim fun _ same =>
        (like.has_of_ids went.holds same).1
  · exact agree.made.2.perform went.trail.right fun id concerned =>
      (halted.right concerned).elim fun _ same =>
        (like.has_of_ids went.holds same).2
  · simp only [Pool.perform, List.map_append, agree.sent, List.append_assoc]
    rw [halted.sent]
  · simp only [Pool.perform, agree.results, List.append_assoc]
    rw [halted.results]

/-- A thread that waits leaves its place, and so does its partner. -/
theorem Agree.leave (agree : Agree like past ids [] first second)
    {place : Nat} {thread : Pending σ (Ending α)}
    (waits : first.waiting[place]? = some thread) :
    ∃ partner mine, second.waiting[place]? = some partner ∧
      thread.Alike like ⟨ids, first.world.state, second.world.state⟩ partner
        mine ∧
      Agree like past ids mine
        { first with waiting := first.waiting.eraseIdx place }
        { second with waiting := second.waiting.eraseIdx place } := by
  obtain ⟨seats, left, right, sits, owned⟩ := agree.seats
  rw [left, List.getElem?_map] at waits
  obtain ⟨seat, found, rfl⟩ := Option.map_eq_some_iff.mp waits
  refine ⟨seat.second, seat.mine, ?_, sits seat (List.mem_of_getElem? found),
    agree.holds, agree.locks, agree.restorings,
    ⟨⟨agree.made.1.held, agree.made.1.restorings⟩,
      ⟨agree.made.2.held, agree.made.2.restorings⟩⟩,
    ⟨seats.eraseIdx place, ?_, ?_, ?_, ?_⟩, agree.sent, agree.results⟩
  · rw [right, List.getElem?_map, found]
    rfl
  · rw [left, List.eraseIdx_map]
  · rw [right, List.eraseIdx_map]
  · exact fun seat member => sits seat (List.mem_of_mem_eraseIdx member)
  · intro lock held twin alike
    obtain none | ⟨other, sitting, has⟩ := owned lock held twin alike
    · cases none
    · obtain ⟨index, at_⟩ := List.mem_iff_getElem?.mp sitting
      by_cases here : index = place
      · subst here
        rw [found] at at_
        obtain rfl := Option.some.inj at_
        exact .inl has
      · exact .inr ⟨other, List.mem_eraseIdx_iff_getElem?.mpr
          ⟨index, here, at_⟩, has⟩

/-- A place is taken in both pools or in neither. -/
theorem Agree.vacant (agree : Agree like past ids mine first second)
    {place : Nat} (vacant : first.waiting[place]? = none) :
    second.waiting[place]? = none := by
  obtain ⟨seats, left, right, -, -⟩ := agree.seats
  rw [left, List.getElem?_map, Option.map_eq_none_iff] at vacant
  rw [right, List.getElem?_map, vacant]
  rfl

/-- A free lock is taken in both pools. -/
theorem Agree.take (agree : Agree like past ids mine first second)
    {lock twin : Lock} (alike : Lock.Alike like.event ids lock twin) :
    Agree like past ids (lock :: mine)
      { first with held := lock :: first.held }
      { second with held := twin :: second.held } := by
  obtain ⟨seats, left, right, sits, owned⟩ := agree.seats
  refine ⟨agree.holds, ?_, agree.restorings, ⟨⟨?_, agree.made.1.restorings⟩,
    ⟨?_, agree.made.2.restorings⟩⟩, ⟨seats, left, right, sits, ?_⟩, agree.sent,
    agree.results⟩
  · intro other another both
    rw [List.mem_cons, List.mem_cons, agree.locks other another both,
      both.eq_iff agree.holds alike]
  · intro id member
    obtain rfl | before := List.mem_cons.mp member
    · cases alike with
      | savedSegments same => exact (like.has_of_ids agree.holds same).1
    · exact agree.made.1.held id before
  · intro id member
    obtain rfl | before := List.mem_cons.mp member
    · cases alike with
      | savedSegments same => exact (like.has_of_ids agree.holds same).2
    · exact agree.made.2.held id before
  · intro other member another both
    obtain rfl | before := List.mem_cons.mp member
    · exact .inl List.mem_cons_self
    · obtain own | others := owned other before another both
      · exact .inl (List.mem_cons_of_mem lock own)
      · exact .inr others

/-- What is handled and delivered does not matter. -/
theorem Agree.told (agree : Agree like past ids mine first second)
    (number place : Nat) (reply : Reply) :
    Agree like past ids mine
      { first with
        world := first.world.deliver number reply
        handled := first.handled ++ [(number, reply)] }
      { second with
        world := second.world.deliver place reply
        handled := second.handled ++ [(place, reply)] } := by
  obtain ⟨seats, left, right, sits, owned⟩ := agree.seats
  exact ⟨agree.holds, agree.locks, agree.restorings,
    ⟨⟨agree.made.1.held, agree.made.1.restorings⟩,
      ⟨agree.made.2.held, agree.made.2.restorings⟩⟩,
    ⟨seats, left, right, sits, owned⟩, agree.sent, agree.results⟩

end Pool

/-- Tasks and restorings do the same wherever states look the same. -/
structure Scene.Steady (like : Likeness σ) (scene : Scene σ β ι α) : Prop where
  task : ∀ pair task, like.holds pair →
    (scene.flow task).Matches like (scene.flow task) pair
  restoring : ∀ pair id twin, like.holds pair → pair.ids id twin →
    (scene.restoring id).Matches like (scene.restoring twin) pair

namespace Pool

variable {like : Likeness σ} {past : Past α} {scene : Scene σ β ι α}
variable {ids : EngineId → EngineId → Prop} {first second : Pool σ β α}

/-- Both pools stay where they are, or both go on and agree again. -/
def Moved (like : Likeness σ) (past : Past α) (ids : EngineId → EngineId → Prop)
    (first : Pool σ β α) : Option (Pool σ β α) → Option (Pool σ β α) → Prop :=
  Option.Rel fun next other => ∃ more, ids ≤ more ∧
    Agree like past more [] next other ∧ Footprint like ids more first next

/-- Partners that are resumed keep two pools in agreement. -/
theorem Agree.resume (steady : scene.Steady like) {place : Nat}
    {mine : List Lock}
    (left : Agree like past ids mine
      { first with waiting := first.waiting.eraseIdx place }
      { second with waiting := second.waiting.eraseIdx place })
    {flow other : Flow σ (Ending α)}
    (alike : flow.Alike like Ending.closes other mine
      ⟨ids, first.world.state, second.world.state⟩) :
    Moved like past ids first (some (scene.resume place flow first))
      (some (scene.resume place other second)) := by
  obtain ⟨more, grown, rest, footprint⟩ := left.perform steady.restoring alike
  exact .some ⟨more, grown, rest,
    ⟨footprint.trail, footprint.held, footprint.restorings⟩⟩

/-- The call of a thread and that of its partner are answered in both pools. -/
theorem Agree.answer (steady : scene.Steady like) {place : Nat}
    {mine : List Lock} {thread partner : Pending σ (Ending α)}
    (agree : Agree like past ids [] first second)
    (left : Agree like past ids mine
      { first with waiting := first.waiting.eraseIdx place }
      { second with waiting := second.waiting.eraseIdx place })
    (alike : thread.Alike like ⟨ids, first.world.state, second.world.state⟩
      partner mine) (reply : Reply) :
    Moved like past ids first (scene.answer? place reply first thread)
      (scene.answer? place reply second partner) := by
  cases alike with
  | @sent number other _ _ _ _ _ alike =>
      obtain ⟨more, grown, rest, footprint⟩ :=
        (left.told number other reply).perform steady.restoring
          (alike.2 reply _ (.refl agree.holds))
      exact .some ⟨more, grown, rest,
        ⟨footprint.trail, footprint.held, footprint.restorings⟩⟩
  | _ => exact .none

/-- A lock that is taken matters, so taking it leaves no trace of its own. -/
theorem Footprint.of_take {more : EngineId → EngineId → Prop} {lock twin : Lock}
    {after : Pool σ β α} (alike : Lock.Alike like.event more lock twin)
    (footprint : Footprint like ids more
      { first with held := lock :: first.held } after) :
    Footprint like ids more first after where
  trail := footprint.trail
  held other apart := by
    have ne : other ≠ lock := by
      rintro rfl
      exact apart twin alike
    have touched := footprint.held other apart
    rwa [List.mem_cons, or_iff_right ne] at touched
  restorings := footprint.restorings

/-- A thread and its partner go on together, or neither can. -/
theorem Agree.goOn (steady : scene.Steady like) {place : Nat}
    {mine : List Lock} {thread partner : Pending σ (Ending α)}
    (agree : Agree like past ids [] first second)
    (left : Agree like past ids mine
      { first with waiting := first.waiting.eraseIdx place }
      { second with waiting := second.waiting.eraseIdx place })
    (alike : thread.Alike like ⟨ids, first.world.state, second.world.state⟩
      partner mine) :
    Moved like past ids first (scene.goOn? place first thread)
      (scene.goOn? place second partner) := by
  cases alike with
  | ready alike => exact left.resume steady (alike _ (.refl agree.holds))
  | sent _ => exact .none
  | @locking lock twin next other _ alike =>
      obtain ⟨same, goes⟩ := alike
      unfold Scene.goOn?
      dsimp only
      by_cases held : lock ∈ first.held
      · rw [if_pos held, if_pos ((agree.locks lock twin same).mp held)]
        exact .none
      · rw [if_neg held, if_neg fun there =>
          held ((agree.locks lock twin same).mpr there)]
        obtain ⟨more, grown, rest, footprint⟩ :=
          (left.take same).perform steady.restoring
            (goes _ (.refl agree.holds))
        exact .some ⟨more, grown, rest, .of_take (same.mono grown)
          ⟨footprint.trail, footprint.held, footprint.restorings⟩⟩
  | @awaiting id twin next other _ alike =>
      unfold Scene.goOn?
      dsimp only
      rw [agree.restorings id twin alike.1]
      split
      · exact left.resume steady (alike.2 _ _ (.refl agree.holds))
      · exact .none

/-- What partners do together, whoever waits at a place does. -/
theorem Agree.atPlace (agree : Agree like past ids [] first second)
    (place : Nat)
    {next? : Pool σ β α → Pending σ (Ending α) → Option (Pool σ β α)}
    (moves : ∀ thread partner mine,
      thread.Alike like ⟨ids, first.world.state, second.world.state⟩
        partner mine →
      Agree like past ids mine
        { first with waiting := first.waiting.eraseIdx place }
        { second with waiting := second.waiting.eraseIdx place } →
      Moved like past ids first (next? first thread) (next? second partner)) :
    Moved like past ids first (first.waiting[place]?.bind (next? first))
      (second.waiting[place]?.bind (next? second)) := by
  cases waits : first.waiting[place]? with
  | none =>
      rw [agree.vacant waits]
      exact .none
  | some thread =>
      obtain ⟨partner, mine, sits, alike, left⟩ := agree.leave waits
      rw [sits]
      exact moves thread partner mine alike left

/-- An act is possible in both pools or in neither, and keeps them in
agreement. -/
theorem Agree.act (steady : scene.Steady like)
    (agree : Agree like past ids [] first second) (act : Act ι) :
    Moved like past ids first (scene.act? act first)
      (scene.act? act second) := by
  cases act with
  | start task =>
      have alike : (scene.thread task).Alike like Ending.closes
          (scene.thread task) []
          ⟨ids, first.world.state, second.world.state⟩ :=
        (steady.task _ task agree.holds).reported
          fun _ _ result => .task result
      exact .some (agree.perform steady.restoring alike)
  | answer place reply =>
      exact agree.atPlace place fun _ _ _ alike left =>
        agree.answer steady left alike reply
  | goOn place =>
      exact agree.atPlace place fun _ _ _ alike left =>
        agree.goOn steady left alike

/-- While others act, two pools stay in agreement if nothing that corresponds is
touched. -/
theorem Agree.beside (agree : Agree like past ids [] first second)
    {next : Pool σ β α}
    (holds : like.holds ⟨ids, next.world.state, second.world.state⟩)
    (held : ∀ lock twin, Lock.Alike like.event ids lock twin →
      (lock ∈ next.held ↔ lock ∈ first.held))
    (restorings : ∀ id twin, ids id twin →
      Keyed.get? id next.restorings = Keyed.get? id first.restorings)
    (made : next.Made like) (waiting : next.waiting = first.waiting)
    (sent : next.world.sent = first.world.sent)
    (results : next.results = first.results) :
    Agree like past ids [] next second := by
  have moved : like.Later ⟨ids, first.world.state, second.world.state⟩
      ⟨ids, next.world.state, second.world.state⟩ :=
    ⟨le_refl ids, holds⟩
  obtain ⟨seats, left, right, sits, owned⟩ := agree.seats
  refine ⟨holds, ?_, ?_, ⟨made, agree.made.2⟩,
    ⟨seats, waiting.trans left, right, ?_, ?_⟩, ?_, ?_⟩
  · exact fun lock twin alike =>
      (held lock twin alike).trans (agree.locks lock twin alike)
  · exact fun id twin same =>
      (restorings id twin same).trans (agree.restorings id twin same)
  · exact fun seat member => (sits seat member).later moved
  · exact fun lock member twin alike =>
      owned lock ((held lock twin alike).mp member) twin alike
  · rw [sent, agree.sent]
  · rw [results, agree.results]

/-- When nothing waits, no lock that matters is held. -/
theorem Agree.free (agree : Agree like past ids [] first second)
    (idle : first.waiting = []) {lock twin : Lock}
    (alike : Lock.Alike like.event ids lock twin) : lock ∉ first.held := by
  obtain ⟨seats, left, -, -, owned⟩ := agree.seats
  have nobody : seats = [] := by
    rw [idle] at left
    exact List.map_eq_nil_iff.mp left.symm
  intro held
  obtain none | ⟨seat, sitting, -⟩ := owned lock held twin alike
  · cases none
  · rw [nobody] at sitting
    cases sitting

end Pool
end Audience
