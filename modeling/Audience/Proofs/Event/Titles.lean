import Audience.Proofs.Event.Isolation
import Audience.Proofs.Flow.History
import Mathlib.Data.List.Induction

/-!
# The title in the stored document

An engine follows the title of the document of its event: it hears of every
document that is put into the cache.  Nobody tells it of a document that is
cached before it is made, and reading that again tells nobody either.  So its
title is the cached one unless it was made too late.
-/

namespace Audience
namespace Isolation

/-- The title of the document of an event that is cached, empty when none
is. -/
def cachedTitle (event : String) (registry : Registry) : String :=
  ((Keyed.get? event registry.cache.documents).map fun document =>
    document.ai.title).getD ""

/-- The engine in use for an event has that title. -/
def Follows (event : String) (registry : Registry) : Prop :=
  ∀ id, Keyed.get? event registry.current = some id →
    (registry.engine id).state.persistedTitle = cachedTitle event registry

/-- The engine of an event was made while a titled document was cached, and since
then no document was put into the cache and no other engine was made. -/
def Missed (event : String) (changes : List (Registry × Registry)) : Prop :=
  ∃ before making after, changes = before ++ making :: after ∧
    Makes event making.1 making.2 ∧ cachedTitle event making.1 ≠ "" ∧
      ∀ change ∈ after, ¬ Sets event change.1 change.2 ∧
        ¬ Makes event change.1 change.2

/-- A change leaves the title alone, in the cache and on screen. -/
structure Still (event : String) (before after : Registry) : Prop where
  current : Keyed.get? event after.current = Keyed.get? event before.current
  cached : cachedTitle event after = cachedTitle event before
  shown : ∀ id, Keyed.get? event before.current = some id →
    (after.engine id).state.persistedTitle =
      (before.engine id).state.persistedTitle

/-- What a change does about the title of an event. -/
inductive Effect (event : String) (before after : Registry) : Prop where
  | still (still : Still event before after)
  | sets (sets : Sets event before after)
  | makes (makes : Makes event before after)
  | resets (resets : after = before.reset event)

section Changes

variable {event name : String} {old : List Notice}
variable {ids : EngineId → EngineId → Prop} {before after : Registry}

/-- The engine in use hears of a document that is put into the cache. -/
theorem follows_setDocument (wired : before.Wired) (document : Document) :
    Keyed.get? event (before.setDocument event document).current =
        Keyed.get? event before.current ∧
      Follows event (before.setDocument event document) := by
  have echo : (before.setDocument event document).Echo
      ((before.putDocument event document).hearCurrent event document) :=
    Registry.echo_setDocument wired
  have current : (before.setDocument event document).current =
      before.current := by
    have kept := Registry.hearCurrent_current event document
      (before.putDocument event document)
    rw [← echo.same] at kept
    exact kept
  refine ⟨by rw [current], fun id used => ?_⟩
  rw [current] at used
  obtain ⟨has, about⟩ := wired.current event id used
  have title := Registry.title_hearCurrent
    (show Keyed.get? event (before.putDocument event document).current =
      some id from used) has about document
  rw [← echo.engine, title]
  simp [cachedTitle]

theorem follows_of_sets (wired : before.Wired)
    (sets : Sets event before after) :
    Keyed.get? event after.current = Keyed.get? event before.current ∧
      Follows event after := by
  obtain ⟨document, rfl | ⟨manual, rfl⟩⟩ := sets
  · exact follows_setDocument wired document
  · have noted : (before.modifyCache
        (Cache.rememberManual event manual)).Wired :=
      wired.of_same (fun _ => Iff.rfl) (fun _ => rfl) rfl rfl
    exact follows_setDocument noted document

/-- A new engine has no title. -/
theorem follows_of_makes (makes : Makes event before after) :
    Follows event after ↔ cachedTitle event before = "" := by
  obtain ⟨unused, rfl⟩ := makes
  unfold Registry.engineFor Follows
  rw [unused]
  dsimp only
  rw [Registry.addEngine_current]
  have put : Keyed.get? event (Keyed.put (Engine.initial event
      before.settings.firstPage none).event before.engines.length
        before.current) = some before.engines.length :=
    Keyed.get?_put_self event _ _
  rw [put]
  constructor
  · intro follows
    have title := follows _ rfl
    rw [Registry.addEngine_engine_new] at title
    exact title.symm
  · rintro empty _ ⟨⟩
    rw [Registry.addEngine_engine_new]
    exact empty.symm

/-- Whoever does something about an event does one of these about any. -/
theorem effect_of_deed (deed : Deed name ids before after)
    (wired : before.Wired)
    (about : ∀ id other, ids id other → (before.engine id).event = name)
    (event : String) : Effect event before after := by
  by_cases same : event = name
  · subst same
    obtain keeps | sets | makes | resets := deed.kind
    · exact .still ⟨keeps.current,
        by unfold cachedTitle; rw [keeps.document], fun id _ => keeps.title id⟩
    · exact .sets sets
    · exact .makes makes
    · exact .resets resets
  · refine .still ⟨deed.current event same,
      by unfold cachedTitle; rw [deed.document event same], fun id used => ?_⟩
    obtain ⟨has, concerns⟩ := wired.current event id used
    rw [deed.engine id has fun other there =>
      same (concerns.symm.trans (about id other there))]

/-- Every change is made where engines are wired well, and has an effect. -/
abbrev Told (event : String) (changes : List (Registry × Registry)) : Prop :=
  ∀ change ∈ changes, change.1.Wired ∧ Effect event change.1 change.2

theorem told_of_trail {pair last : Pair Registry}
    {changes : List (Registry × Registry)} (holds : Looks name old pair)
    (trail : (likeness name old).Trail pair last changes) (event : String) :
    Chained pair.left changes last.left ∧ Told event changes := by
  induction trail with
  | refl pair => exact ⟨rfl, fun _ member => (List.not_mem_nil member).elim⟩
  | step steps _ ih =>
      obtain ⟨chained, told⟩ := ih steps.holds
      refine ⟨⟨rfl, chained⟩, fun change member => ?_⟩
      obtain rfl | later := List.mem_cons.mp member
      · exact ⟨holds.wired.1, effect_of_deed steps.change holds.wired.1
          (fun id other => holds.about id other) event⟩
      · exact told change later

/-- The changes of a crowd lead from where it began to where it is. -/
theorem Progress.told {olds : String → List Notice}
    {ids final : String → EngineId → EngineId → Prop} {crowd last : Company}
    (progress : Progress olds ids crowd final last) {start : Registry}
    (event : String) (chained : Chained start crowd.changes crowd.state)
    (told : Told event crowd.changes) :
    Chained start last.changes last.state ∧ Told event last.changes := by
  induction progress with
  | refl => exact ⟨chained, told⟩
  | step footprint _ ih =>
      obtain ⟨changes, right, other, more, holds, trail⟩ := footprint.trail
      obtain ⟨further, tells⟩ := told_of_trail holds trail event
      dsimp only [Crowd.pool] at more
      apply ih
      · rw [more]
        exact chained.append further
      · intro change member
        rw [more] at member
        obtain before | after := List.mem_append.mp member
        · exact told change before
        · exact tells change after

end Changes

section Histories

variable {event : String} {changes : List (Registry × Registry)}

/-- An engine was made too late just now, or was before and nothing happened
since. -/
theorem missed_concat (change : Registry × Registry) :
    Missed event (changes ++ [change]) ↔
      (Makes event change.1 change.2 ∧ cachedTitle event change.1 ≠ "") ∨
        (Missed event changes ∧ ¬ Sets event change.1 change.2 ∧
          ¬ Makes event change.1 change.2) := by
  constructor
  · rintro ⟨before, making, after, split, makes, titled, since⟩
    obtain rfl | ⟨rest, last, rfl⟩ := List.eq_nil_or_concat after
    · obtain ⟨-, same⟩ := List.append_inj' split rfl
      obtain rfl := List.singleton_inj.mp same
      exact .inl ⟨makes, titled⟩
    · rw [List.concat_eq_append, ← List.cons_append, ← List.append_assoc]
        at split
      obtain ⟨rfl, same⟩ := List.append_inj' split rfl
      obtain rfl := List.singleton_inj.mp same
      exact .inr ⟨⟨before, making, rest, rfl, makes, titled,
        fun other member => since other (by simp [member])⟩,
          since change (by simp)⟩
  · rintro (⟨makes, titled⟩ |
      ⟨⟨before, making, after, rfl, makes, titled, since⟩, neither⟩)
    · exact ⟨changes, change, [], rfl, makes, titled,
        fun _ member => (List.not_mem_nil member).elim⟩
    · refine ⟨before, making, after ++ [change], by simp, makes, titled,
        fun other member => ?_⟩
      obtain earlier | here := List.mem_append.mp member
      · exact since other earlier
      · obtain rfl := List.mem_singleton.mp here
        exact neither

/-- An engine in use has the cached title unless it was made too late. -/
theorem follows_iff_not_missed {start last : Registry}
    (unused : Keyed.get? event start.current = none)
    (chained : Chained start changes last) (told : Told event changes)
    (used : Keyed.get? event last.current ≠ none) :
    Follows event last ↔ ¬ Missed event changes := by
  induction changes using List.reverseRecOn generalizing last with
  | nil =>
      cases chained
      exact absurd unused used
  | append_singleton earlier change ih =>
      obtain ⟨before, now⟩ := chained.of_append
      obtain rfl : change.2 = last := now
      obtain ⟨wired, effect⟩ := told change (by simp)
      have previous := ih before
        fun other member => told other (List.mem_append_left _ member)
      rw [missed_concat]
      by_cases sets : Sets event change.1 change.2
      · -- The engine heard of it just now, and was not made just now.
        obtain ⟨current, follows⟩ := follows_of_sets wired sets
        have old : ¬ Makes event change.1 change.2 := by
          rintro ⟨missing, -⟩
          exact used (current.trans missing)
        simp [sets, old, follows]
      by_cases makes : Makes event change.1 change.2
      · simp [sets, makes, follows_of_makes makes]
      · -- Neither title changes.
        obtain still | there | there | resets := effect
        · have same : Follows event change.2 ↔ Follows event change.1 := by
            unfold Follows
            rw [still.current, still.cached]
            constructor
            · exact fun follows id used =>
                (still.shown id used).symm.trans (follows id used)
            · exact fun follows id used =>
                (still.shown id used).trans (follows id used)
          rw [still.current] at used
          simp [sets, makes, same, previous used]
        · exact absurd there sets
        · exact absurd there makes
        · rw [resets] at used
          exact absurd (Registry.reset_blank change.1 event).1 used

variable {settings : Settings} {now : Timestamp} {freshId : String}
variable {client : Client} {acts : List (String × Act Action)}
variable {crowd : Company}

/-- Whatever was done about events, in any order: the engine in use for an event
has the title of the document that is cached, or none if no document is, unless
it was made while a titled document was cached and no document was put into the
cache since then. -/
theorem persisted_title_is_cached_iff_not_missed
    (ran : after? (start settings now freshId client) acts = some crowd)
    {id : EngineId}
    (used : Keyed.get? event crowd.state.current = some id) :
    (crowd.state.engine id).state.persistedTitle =
        cachedTitle event crowd.state ↔
      ¬ Missed event crowd.changes := by
  obtain ⟨others, ids, -, -, progress⟩ :=
    (together_fresh settings now freshId client).ran ran
  have begun : Chained (.initial settings now freshId client)
      (start settings now freshId client).changes
      (start settings now freshId client).state := rfl
  obtain ⟨chained, told⟩ := progress.told event begun
    fun _ member => (List.not_mem_nil member).elim
  rw [← follows_iff_not_missed rfl chained told (by rw [used]; simp)]
  constructor
  · intro same other there
    rw [used] at there
    obtain rfl := Option.some.inj there
    exact same
  · exact fun follows => follows id used

/-- The document of an event is read; it has a title. -/
def reading : List (String × Act Action) :=
  [ ("one", .start (.read false)), ("one", .goOn 0),
    ("one", .answer 0 (.response 200 (.json (.obj
      [("ai", .obj [("title", .str "Buyers")])])))) ]

/-- The engine of the event is made. -/
def touching : List (String × Act Action) :=
  [("one", .start (.engine .touch))]

/-- An engine that is made first does not miss the title. -/
theorem persisted_title_is_cached_if_touched_first :
    ∃ crowd id,
      after? (start .standard default "" nearby) (touching ++ reading) =
        some crowd ∧
      Keyed.get? "one" crowd.state.current = some id ∧
      (crowd.state.engine id).state.persistedTitle = "Buyers" ∧
      ¬ Missed "one" crowd.changes := by
  have ends : ((after? (start .standard default "" nearby)
      (touching ++ reading)).map fun crowd =>
        (Keyed.get? "one" crowd.state.current,
          (crowd.state.engine 0).state.persistedTitle,
          cachedTitle "one" crowd.state)) =
        some (some 0, "Buyers", "Buyers") := by
    decide +kernel
  obtain ⟨crowd, ran, shown⟩ := Option.map_eq_some_iff.mp ends
  obtain ⟨used, shown⟩ := Prod.mk.inj shown
  obtain ⟨title, cached⟩ := Prod.mk.inj shown
  exact ⟨crowd, 0, ran, used, title,
    (persisted_title_is_cached_iff_not_missed ran used).mp
      (title.trans cached.symm)⟩

/-- An engine that is made after its document was read has no title, although
the document that is cached has one. -/
theorem cached_title_is_missed_if_read_first :
    ∃ crowd id,
      after? (start .standard default "" nearby) (reading ++ touching) =
        some crowd ∧
      Keyed.get? "one" crowd.state.current = some id ∧
      (crowd.state.engine id).state.persistedTitle = "" ∧
      cachedTitle "one" crowd.state = "Buyers" := by
  have ends : ((after? (start .standard default "" nearby)
      (reading ++ touching)).map fun crowd =>
        (Keyed.get? "one" crowd.state.current,
          (crowd.state.engine 0).state.persistedTitle,
          cachedTitle "one" crowd.state)) =
        some (some 0, "", "Buyers") := by
    decide +kernel
  obtain ⟨crowd, ran, shown⟩ := Option.map_eq_some_iff.mp ends
  obtain ⟨used, shown⟩ := Prod.mk.inj shown
  obtain ⟨title, cached⟩ := Prod.mk.inj shown
  exact ⟨crowd, 0, ran, used, title, cached⟩

end Histories

end Isolation
end Audience
