import Audience.Proofs.Event.Mirroring
import Audience.Proofs.Flow.Lockstep

/-!
# Events are isolated

A crowd works on the events of one registry, each event on its own account.  All
of them share the client, the cache and its subscribers.  Still, what can be
seen of an event is what it would be if nobody had done anything about the
others.
-/

namespace Audience
namespace Isolation

/-- What may be done about an event. -/
def scene (event : String) : Scene Registry Unit Action Learned :=
  .lenient (Action.flow event) Engine.restoring

/-- A crowd at work on the events of a registry. -/
abbrev Company := Crowd Registry Learned

/-- What a list of acts does to a crowd, if all of them are possible. -/
abbrev after? (crowd : Company) (acts : List (String × Act Action)) :
    Option Company :=
  crowd.run? scene acts

theorem after?_cons (crowd : Company) (act : String × Act Action)
    (rest : List (String × Act Action)) :
    after? crowd (act :: rest) =
      (crowd.act? scene act).bind fun next => after? next rest := rfl

/-- All that can be seen of an event: its engine, if there is one in use, with
its state, its table, its counters and its saved segments, and how far that is
restored; what the store knows; what was heard, sent and learned; and how many
threads wait. -/
structure View where
  engine : Option Engine
  restoring : Option (Option (Except Fault Unit))
  document : Option Document
  manual : Option ManualState
  told : List Notice
  calls : List Call
  results : List (Except Fault Learned)
  waiting : Nat

/-- What can be seen of an event. -/
def view (event : String) (crowd : Company) : View where
  engine := (Keyed.get? event crowd.state.current).map fun id =>
    crowd.state.engine id
  restoring := (Keyed.get? event crowd.state.current).bind fun id =>
    Keyed.get? id crowd.restorings
  document := Keyed.get? event crowd.state.cache.documents
  manual := Keyed.get? event crowd.state.cache.lastManual
  told := crowd.state.told event
  calls := (crowd.part event).sent.map Prod.snd
  results := (crowd.part event).results
  waiting := (crowd.part event).waiting.length

/-- What is seen after something was seen already. -/
def View.after (earlier later : View) : View :=
  { later with
    told := earlier.told ++ later.told
    calls := earlier.calls ++ later.calls
    results := earlier.results ++ later.results }

/-- What is done about an event is the same wherever the registry looks the same
to it. -/
theorem steady (event : String) (old : List Notice) :
    (scene event).Steady (likeness event old) where
  task _ action looks := mirrors_action looks action
  restoring _ _ _ looks same := mirrors_restoring looks same

section Frames

variable {event name : String} {old : List Notice}
variable {ids more : EngineId → EngineId → Prop}

theorem Frame.mono {before after : Registry} (within : ids ≤ more)
    (frame : Frame event ids before after) : Frame event more before after :=
  { frame with
    engine := fun id has unused => frame.engine id has fun other same =>
      unused other (within _ _ same) }

/-- The changes of a stretch leave all else alone. -/
theorem frame_of_trail {pair last : Pair Registry}
    {changes : List (Registry × Registry)}
    (trail : (likeness event old).Trail pair last changes) :
    Frame event last.ids pair.left last.left := by
  induction trail with
  | refl pair => exact .refl pair.left
  | step steps rest ih =>
      have first : Frame event _ _ _ := steps.change.toFrame
      exact (first.mono (le_trans steps.ids rest.ids)).trans ih

/-- No engine belongs to two events. -/
theorem Looks.apart {left right other another : Registry}
    {oldOther : List Notice} (looks : Looks event old ⟨ids, left, right⟩)
    (others : Looks name oldOther ⟨more, other, another⟩)
    (ne : name ≠ event) {id first second : EngineId}
    (about : (other.engine id).event = (left.engine id).event)
    (same : ids id first) : ¬ more id second := by
  intro there
  apply ne
  rw [← others.about id second there, ← looks.about id first same]
  exact about

/-- Whatever is done about another event, the registry looks the same. -/
theorem Looks.beside {left right next : Registry}
    (looks : Looks event old ⟨ids, left, right⟩)
    (frame : Frame name more left next) (ne : event ≠ name)
    (wired : next.Wired)
    (apart : ∀ id first second, ids id first → ¬ more id second) :
    Looks event old ⟨ids, next, right⟩ where
  settings := frame.settings.trans looks.settings
  now := frame.now.trans looks.now
  freshId := frame.freshId.trans looks.freshId
  client := frame.client.trans looks.client
  wired := ⟨wired, looks.wired.2⟩
  has id other same :=
    ⟨frame.has id (looks.has id other same).1, (looks.has id other same).2⟩
  eq_iff := looks.eq_iff
  engine id other same :=
    (frame.engine id (looks.has id other same).1
      fun second => apart id other second same).trans
        (looks.engine id other same)
  about id other same :=
    (frame.about id (looks.has id other same).1).trans
      (looks.about id other same)
  current := by
    show Option.Rel ids (Keyed.get? event next.current) _
    rw [frame.current event ne]
    exact looks.current
  document := (frame.document event ne).trans looks.document
  manual := (frame.manual event ne).trans looks.manual
  told := (frame.told event ne).trans looks.told

end Frames

/-- A crowd and, for each event, a crowd that agrees with it on that event. -/
def Together (olds : String → List Notice) (pasts : String → Past Learned)
    (ids : String → EngineId → EngineId → Prop) (crowd : Company)
    (alone : String → Company) : Prop :=
  ∀ event, Pool.Agree (likeness event (olds event)) (pasts event) (ids event)
    [] (crowd.pool event) ((alone event).pool event)

variable {olds : String → List Notice} {pasts : String → Past Learned}
variable {ids : String → EngineId → EngineId → Prop}
variable {crowd : Company} {alone : String → Company}

/-- What is done about an event leaves the agreement on another one alone. -/
theorem Together.beside (together : Together olds pasts ids crowd alone)
    {event name : String} (ne : name ≠ event)
    {more : EngineId → EngineId → Prop} {pool twin : Pool Registry Unit Learned}
    (agree : Pool.Agree (likeness event (olds event)) (pasts event) more []
      pool twin)
    (footprint : Pool.Footprint (likeness event (olds event)) (ids event) more
      (crowd.pool event) pool) :
    Pool.Agree (likeness name (olds name)) (pasts name) (ids name) []
      ((crowd.replace event pool).pool name) ((alone name).pool name) := by
  rw [Crowd.pool_replace_of_ne ne]
  obtain ⟨changes, right, last, -, -, trail⟩ := footprint.trail
  have frame : Frame event more crowd.state pool.world.state :=
    frame_of_trail trail
  have looks : Looks name (olds name) ⟨ids name, crowd.state, _⟩ :=
    (together name).holds
  have others : Looks event (olds event) ⟨more, pool.world.state, _⟩ :=
    agree.holds
  have apart : ∀ id first second, ids name id first → ¬ more id second :=
    fun id first second here => looks.apart others (Ne.symm ne)
      (frame.about id (looks.has id first here).1) here
  apply (together name).beside
  · exact looks.beside frame ne others.wired.1 apart
  · -- A lock of the other event is no lock of this one.
    intro lock twin alike
    apply footprint.held
    intro other there
    cases alike with
    | document => cases there; exact ne rfl
    | savedSegments here =>
        cases there with
        | savedSegments there => exact apart _ _ _ here there
  · exact fun id twin here =>
      footprint.restorings id fun other => apart id twin other here
  · exact ⟨agree.made.1.held, agree.made.1.restorings⟩
  · rfl
  · rfl
  · rfl

/-- An act is possible in the crowd if it is possible alone, and then the crowd
still agrees with all. -/
theorem Together.act (together : Together olds pasts ids crowd alone)
    (event : String) (act : Act Action) :
    (crowd.act? scene (event, act) = none ∧
        (alone event).act? scene (event, act) = none) ∨
      ∃ next other more, crowd.act? scene (event, act) = some next ∧
        (alone event).act? scene (event, act) = some other ∧
        Together olds pasts (Function.update ids event more) next
          (Function.update alone event other) ∧
        Pool.Footprint (likeness event (olds event)) (ids event) more
          (crowd.pool event) (next.pool event) := by
  have moved := (together event).act (steady event (olds event)) act
  unfold Crowd.act?
  dsimp only
  generalize (scene event).act? act (crowd.pool event) = first,
    (scene event).act? act ((alone event).pool event) = second at moved ⊢
  cases moved with
  | none => exact .inl ⟨rfl, rfl⟩
  | @some pool twin moved =>
  obtain ⟨more, grown, agree, footprint⟩ := moved
  refine .inr ⟨crowd.replace event pool, (alone event).replace event twin, more,
    rfl, rfl, ?_, ?_⟩
  · intro name
    by_cases same : name = event
    · subst same
      simpa using agree
    · rw [Function.update_of_ne same, Function.update_of_ne same]
      exact together.beside same agree footprint
  · simpa using footprint

/-- A crowd goes on, act by act.  What corresponds grows along the way. -/
inductive Progress (olds : String → List Notice) :
    (String → EngineId → EngineId → Prop) → Company →
      (String → EngineId → EngineId → Prop) → Company → Prop where
  | refl (ids : String → EngineId → EngineId → Prop) (crowd : Company) :
      Progress olds ids crowd ids crowd
  | step {ids final : String → EngineId → EngineId → Prop}
      {crowd next last : Company} {event : String}
      {more : EngineId → EngineId → Prop}
      (footprint : Pool.Footprint (likeness event (olds event)) (ids event)
        more (crowd.pool event) (next.pool event))
      (rest : Progress olds (Function.update ids event more) next final last) :
      Progress olds ids crowd final last

/-- A list of acts is possible in the crowd if the acts on each event are
possible alone, and then the crowd still agrees with all. -/
theorem Together.run (together : Together olds pasts ids crowd alone)
    (acts : List (String × Act Action)) :
    (after? crowd acts = none ∧
        ∃ event, after? (alone event) (Act.on event acts) = none) ∨
      ∃ next others more, after? crowd acts = some next ∧
        (∀ event,
          after? (alone event) (Act.on event acts) = some (others event)) ∧
        Together olds pasts more next others ∧
        Progress olds ids crowd more next := by
  induction acts generalizing ids crowd alone with
  | nil =>
      exact .inr ⟨crowd, alone, ids, rfl, fun _ => rfl, together,
        .refl ids crowd⟩
  | cons entry rest ih =>
      obtain ⟨event, act⟩ := entry
      obtain ⟨first, second⟩ | ⟨next, other, more, first, second, further,
          footprint⟩ := together.act event act
      · refine .inl ⟨?_, event, ?_⟩
        · rw [after?_cons, first]
          rfl
        · rw [Act.on_cons_self, after?_cons, second]
          rfl
      have goes (name : String) :
          after? (alone name) (Act.on name ((event, act) :: rest)) =
            after? (Function.update alone event other name)
              (Act.on name rest) := by
        by_cases same : name = event
        · subst same
          rw [Act.on_cons_self, after?_cons, second, Function.update_self]
          rfl
        · rw [Act.on_cons_of_ne same, Function.update_of_ne same]
      obtain ⟨stuck, name, stops⟩ | ⟨last, others, final, whole, each, agrees,
          progress⟩ := ih further
      · refine .inl ⟨?_, name, (goes name).trans stops⟩
        rw [after?_cons, first]
        exact stuck
      · refine .inr ⟨last, others, final, ?_,
          fun name => (goes name).trans (each name), agrees,
          .step footprint progress⟩
        rw [after?_cons, first]
        exact whole

/-- What is known of a crowd that a list of acts leads to. -/
theorem Together.ran (together : Together olds pasts ids crowd alone)
    {acts : List (String × Act Action)} {next : Company}
    (went : after? crowd acts = some next) :
    ∃ others more,
      (∀ event,
        after? (alone event) (Act.on event acts) = some (others event)) ∧
      Together olds pasts more next others ∧
      Progress olds ids crowd more next := by
  obtain ⟨stuck, -⟩ | ⟨last, others, more, whole, rest⟩ := together.run acts
  · rw [went] at stuck
    cases stuck
  · rw [went] at whole
    obtain rfl := Option.some.inj whole
    exact ⟨others, more, rest⟩

section Progress

/-- Two registries call the same backend, at the same time and with the same
settings. -/
structure Akin (before after : Registry) : Prop where
  settings : after.settings = before.settings
  now : after.now = before.now
  freshId : after.freshId = before.freshId
  client : after.opened.client = before.opened.client

/-- Nothing that is done about events changes that. -/
theorem Progress.akin {final : String → EngineId → EngineId → Prop}
    {last : Company} (progress : Progress olds ids crowd final last) :
    Akin crowd.state last.state := by
  induction progress with
  | refl => exact ⟨rfl, rfl, rfl, rfl⟩
  | @step _ _ crowd next _ event more footprint _ ih =>
      obtain ⟨changes, right, other, -, -, trail⟩ := footprint.trail
      have frame : Frame event more crowd.state next.state :=
        frame_of_trail trail
      exact ⟨ih.settings.trans frame.settings, ih.now.trans frame.now,
        ih.freshId.trans frame.freshId, ih.client.trans frame.client⟩

/-- An engine that was made but is nobody's any more. -/
structure Outside (ids : String → EngineId → EngineId → Prop) (crowd : Company)
    (id : EngineId) : Prop where
  has : crowd.state.Has id
  unused : ∀ event twin, ¬ ids event id twin

/-- Whoever is nobody's stays as it is. -/
theorem Progress.outside {final : String → EngineId → EngineId → Prop}
    {last : Company} (progress : Progress olds ids crowd final last)
    {id : EngineId} (outside : Outside ids crowd id) :
    last.state.engine id = crowd.state.engine id := by
  induction progress with
  | refl => rfl
  | @step ids _ crowd next _ event more footprint _ ih =>
      obtain ⟨changes, right, other, -, -, trail⟩ := footprint.trail
      have frame : Frame event more crowd.state next.state :=
        frame_of_trail trail
      have unused (twin : EngineId) : ¬ more id twin := by
        intro there
        obtain before | ⟨unmade, -⟩ := trail.new id twin there
        · exact outside.unused event twin before
        · exact unmade outside.has
      refine (ih ⟨frame.has id outside.has, fun name twin => ?_⟩).trans
        (frame.engine id outside.has unused)
      by_cases same : name = event
      · subst same
        rw [Function.update_self]
        exact unused twin
      · rw [Function.update_of_ne same]
        exact outside.unused name twin

end Progress

section Starts

/-- Nothing was done yet. -/
def nothing (α : Type) : Past α := { calls := [], results := [] }

/-- Two registries without engines that know nothing of an event look the same to
it, if they call the same backend. -/
theorem looks_blank {event : String} {left right : Registry}
    (settings : left.settings = right.settings)
    (now : left.now = right.now) (freshId : left.freshId = right.freshId)
    (client : left.opened.client = right.opened.client)
    (wired : left.Wired ∧ right.Wired)
    (current : Keyed.get? event left.current = none ∧
      Keyed.get? event right.current = none)
    (document : Keyed.get? event left.cache.documents =
      Keyed.get? event right.cache.documents)
    (manual : Keyed.get? event left.cache.lastManual =
      Keyed.get? event right.cache.lastManual)
    (told : right.told event = []) :
    Looks event (left.told event) ⟨fun _ _ => False, left, right⟩ where
  settings := settings
  now := now
  freshId := freshId
  client := client
  wired := wired
  has _ _ same := same.elim
  eq_iff _ _ _ _ same := same.elim
  engine _ _ same := same.elim
  about _ _ same := same.elim
  current := by
    show Option.Rel _ (Keyed.get? event left.current)
      (Keyed.get? event right.current)
    rw [current.1, current.2]
    exact .none
  document := document
  manual := manual
  told := by
    show left.told event = left.told event ++ right.told event
    rw [told, List.append_nil]

/-- Two crowds agree on an event for which nothing runs in either of them. -/
theorem agree_blank {event : String} {old : List Notice} {past : Past Learned}
    {crowd other : Company}
    (looks : Looks event old ⟨fun _ _ => False, crowd.state, other.state⟩)
    (free : Lock.document event ∉ crowd.held ∧
      Lock.document event ∉ other.held)
    (made : (crowd.pool event).Made (likeness event old) ∧
      (other.pool event).Made (likeness event old))
    (idle : (crowd.part event).waiting = [] ∧
      (other.part event).waiting = [])
    (sent : (crowd.part event).sent.map Prod.snd =
      past.calls ++ (other.part event).sent.map Prod.snd)
    (results : (crowd.part event).results =
      past.results ++ (other.part event).results) :
    Pool.Agree (likeness event old) past (fun _ _ => False) []
      (crowd.pool event) (other.pool event) where
  holds := looks
  locks lock twin alike := by
    cases alike with
    | document => exact iff_of_false free.1 free.2
    | savedSegments same => exact same.elim
  restorings _ _ same := same.elim
  made := made
  seats := by
    refine ⟨[], idle.1, idle.2, fun seat member => ?_,
      fun lock held twin alike => ?_⟩
    · cases member
    · cases alike with
      | document => exact absurd held free.1
      | savedSegments same => exact same.elim
  sent := sent
  results := results

/-- In a crowd in which nothing was done, no engine was made. -/
theorem made_fresh {event : String} {old : List Notice} (registry : Registry) :
    ((Crowd.fresh registry : Company).pool event).Made
      (likeness event old) :=
  ⟨fun _ held => (List.not_mem_nil held).elim, fun _ known => absurd rfl known⟩

variable (settings : Settings) (now : Timestamp) (freshId : String)
variable (client : Client)

/-- A registry without engines is wired well. -/
theorem wired_initial :
    (Registry.initial settings now freshId client).Wired where
  current _ _ found := by cases found
  listens _ member := (List.not_mem_nil member).elim
  count _ made := absurd made (Nat.not_lt_zero _)

/-- A crowd in which nothing was done agrees with itself. -/
theorem together_fresh :
    Together (fun _ => []) (fun _ => nothing Learned) (fun _ _ _ => False)
      (.fresh (.initial settings now freshId client))
      fun _ => .fresh (.initial settings now freshId client) := by
  intro event
  have wired := wired_initial settings now freshId client
  apply agree_blank
  · exact looks_blank rfl rfl rfl rfl ⟨wired, wired⟩ ⟨rfl, rfl⟩ rfl rfl rfl
  · exact ⟨List.not_mem_nil, List.not_mem_nil⟩
  · exact ⟨made_fresh _, made_fresh _⟩
  · exact ⟨rfl, rfl⟩
  · rfl
  · rfl

end Starts

/-- Crowds that agree on an event show the same of it. -/
theorem view_of_agree {event : String} {old : List Notice}
    {past : Past Learned} {ids : EngineId → EngineId → Prop}
    {crowd other : Company}
    (agree : Pool.Agree (likeness event old) past ids [] (crowd.pool event)
      (other.pool event)) :
    (view event crowd).told = old ++ (view event other).told ∧
      (view event crowd).calls = past.calls ++ (view event other).calls ∧
      (view event crowd).results = past.results ++ (view event other).results ∧
      view event crowd =
        { view event other with
          told := (view event crowd).told
          calls := (view event crowd).calls
          results := (view event crowd).results } := by
  have looks : Looks event old ⟨ids, crowd.state, other.state⟩ := agree.holds
  refine ⟨looks.told, agree.sent, agree.results, ?_⟩
  obtain ⟨seats, left, right, -, -⟩ := agree.seats
  have waiting : (crowd.part event).waiting.length =
      (other.part event).waiting.length := by
    show (crowd.pool event).waiting.length = (other.pool event).waiting.length
    rw [left, right, List.length_map, List.length_map]
  unfold view
  rw [waiting, looks.document, looks.manual]
  obtain ⟨id, twin, first, second, same⟩ | ⟨first, second⟩ :=
    looks.current_cases
  · have restoring : Keyed.get? id crowd.restorings =
        Keyed.get? twin other.restorings := agree.restorings id twin same
    rw [first, second]
    simp only [Option.map_some, Option.bind_some, restoring]
    rw [looks.engine id twin same]
  · rw [first, second]
    rfl

/-- A crowd that begins with a registry without engines. -/
abbrev start (settings : Settings) (now : Timestamp) (freshId : String)
    (client : Client) : Company :=
  .fresh (.initial settings now freshId client)

section Isolated

variable {settings : Settings} {now : Timestamp} {freshId : String}
variable {client : Client} {acts : List (String × Act Action)}
variable {crowd : Company}

/-- A crowd shows of each event what the acts on that event alone show. -/
theorem exists_alone
    (ran : after? (start settings now freshId client) acts = some crowd)
    (event : String) :
    ∃ alone, after? (start settings now freshId client) (Act.on event acts) =
        some alone ∧ view event crowd = view event alone := by
  obtain ⟨others, more, each, agrees, -⟩ :=
    (together_fresh settings now freshId client).ran ran
  obtain ⟨told, calls, results, same⟩ := view_of_agree (agrees event)
  refine ⟨others event, each event, ?_⟩
  rw [same, told, calls, results]
  rfl

/-- Acts that are possible in a crowd are possible without those on any
events. -/
theorem exists_without
    (ran : after? (start settings now freshId client) acts = some crowd)
    (kept : String → Bool) :
    ∃ without, after? (start settings now freshId client)
      (acts.filter fun act => kept act.1) = some without := by
  have begun := together_fresh settings now freshId client
  obtain ⟨-, event, stops⟩ | ⟨next, -, -, whole, -⟩ :=
    begun.run (acts.filter fun act => kept act.1)
  · cases keeps : kept event with
    | true =>
        rw [Act.on_filter keeps] at stops
        obtain ⟨alone, goes, -⟩ := exists_alone ran event
        rw [goes] at stops
        cases stops
    | false =>
        rw [Act.on_filter_of_not keeps] at stops
        cases stops
  · exact ⟨next, whole⟩

/-- Two crowds in which the same is done about an event show the same of it. -/
theorem view_eq_of_on_eq {others : List (String × Act Action)}
    {second : Company}
    (ran : after? (start settings now freshId client) acts = some crowd)
    (runs : after? (start settings now freshId client) others = some second)
    {event : String} (same : Act.on event others = Act.on event acts) :
    view event second = view event crowd := by
  obtain ⟨alone, goes, shows⟩ := exists_alone ran event
  obtain ⟨other, went, showed⟩ := exists_alone runs event
  rw [same, goes] at went
  obtain rfl := Option.some.inj went
  rw [showed, shows]

/-- Whatever is done about other events, and however it overlaps: without it, all
that is done about an event is possible as well and shows the same of it; what
is shown of an event depends on the acts on it only; and no act on another event
changes it or is told on its behalf. -/
theorem events_are_isolated
    (ran : after? (start settings now freshId client) acts = some crowd) :
    (∀ kept : String → Bool, ∃ without,
      after? (start settings now freshId client)
          (acts.filter fun act => kept act.1) = some without ∧
        ∀ event, kept event = true →
          view event without = view event crowd) ∧
    (∀ others second,
      after? (start settings now freshId client) others = some second →
        ∀ event, Act.on event others = Act.on event acts →
          view event second = view event crowd) ∧
    ∀ event act next, crowd.act? scene (event, act) = some next →
      ∀ name, name ≠ event → view name next = view name crowd := by
  refine ⟨fun kept => ?_, fun others second runs event same =>
    view_eq_of_on_eq ran runs same, fun event act next went name ne => ?_⟩
  · obtain ⟨without, goes⟩ := exists_without ran kept
    exact ⟨without, goes, fun event keeps =>
      view_eq_of_on_eq ran goes (Act.on_filter keeps acts)⟩
  · have further : after? (start settings now freshId client)
        (acts ++ [(event, act)]) = some next := by
      unfold after? at ran ⊢
      rw [Crowd.run?_append, ran, Option.bind_some, Crowd.run?_cons, went]
      rfl
    apply view_eq_of_on_eq ran further
    unfold Act.on
    rw [List.filter_append]
    simp [Ne.symm ne]

/-- A client of a backend that is somewhere. -/
def nearby : Client :=
  { service := .ofService "http" "crm" "", token := none, instanceId := none,
    opened := false }

/-- The document of one event is read while the engine of another is
restored. -/
def overlapping : List (String × Act Action) :=
  [ ("one", .start (.read false)), ("two", .start (.engine .hydrate)),
    ("one", .goOn 0), ("two", .goOn 1),
    ("one", .answer 0 (.response 404 .empty)), ("two", .goOn 0),
    ("two", .answer 0 (.response 404 .empty)), ("two", .goOn 0) ]

/-- The engine is restored with and without the other event. -/
theorem events_are_isolated_while_overlapping :
    ∃ crowd, after? (start .standard default "" nearby) overlapping =
        some crowd ∧
      (view "two" crowd).engine.map Engine.phase = some .hydrated ∧
      ∃ without, after? (start .standard default "" nearby)
          (overlapping.filter fun act => act.1 == "two") = some without ∧
        view "two" without = view "two" crowd := by
  have ends : ((after? (start .standard default "" nearby) overlapping).map
      fun crowd => (view "two" crowd).engine.map Engine.phase) =
        some (some .hydrated) := by
    decide +kernel
  obtain ⟨crowd, ran, phase⟩ := Option.map_eq_some_iff.mp ends
  obtain ⟨without, goes, same⟩ := (events_are_isolated ran).1 (· == "two")
  exact ⟨crowd, ran, phase, without, goes, same "two" rfl⟩

end Isolated

end Isolation
end Audience
