import Audience.Proofs.Event.Wiring
import Audience.Proofs.Flow.Alike

/-!
# What an event looks like

To those who deal with an event, two registries look the same if they agree on
its engines, up to their identifiers, on its document, and on what was heard of
its engines.  Whatever is done about the event leaves that so, and all that it
touches is the event's own.
-/

namespace Audience
namespace Isolation

/-- Two registries look the same to an event.  Observers of its engines in the
first one heard some more notices, but all before. -/
structure Looks (event : String) (old : List Notice) (pair : Pair Registry) :
    Prop where
  settings : pair.left.settings = pair.right.settings
  now : pair.left.now = pair.right.now
  freshId : pair.left.freshId = pair.right.freshId
  client : pair.left.opened.client = pair.right.opened.client
  wired : pair.left.Wired ∧ pair.right.Wired
  has : ∀ id other, pair.ids id other →
    pair.left.Has id ∧ pair.right.Has other
  eq_iff : ∀ id other first second, pair.ids id other →
    pair.ids first second → (id = first ↔ other = second)
  engine : ∀ id other, pair.ids id other →
    pair.left.engine id = pair.right.engine other
  about : ∀ id other, pair.ids id other → (pair.left.engine id).event = event
  current : Option.Rel pair.ids (Keyed.get? event pair.left.current)
    (Keyed.get? event pair.right.current)
  document : Keyed.get? event pair.left.cache.documents =
    Keyed.get? event pair.right.cache.documents
  manual : Keyed.get? event pair.left.cache.lastManual =
    Keyed.get? event pair.right.cache.lastManual
  told : pair.left.told event = old ++ pair.right.told event

/-- A change on behalf of an event, with the given engines in use, leaves all
else alone. -/
structure Frame (event : String) (ids : EngineId → EngineId → Prop)
    (before after : Registry) : Prop where
  settings : after.settings = before.settings
  now : after.now = before.now
  freshId : after.freshId = before.freshId
  client : after.opened.client = before.opened.client
  has : ∀ id, before.Has id → after.Has id
  about : ∀ id, before.Has id →
    (after.engine id).event = (before.engine id).event
  engine : ∀ id, before.Has id → (∀ other, ¬ ids id other) →
    after.engine id = before.engine id
  current : ∀ other, other ≠ event →
    Keyed.get? other after.current = Keyed.get? other before.current
  document : ∀ other, other ≠ event →
    Keyed.get? other after.cache.documents =
      Keyed.get? other before.cache.documents
  manual : ∀ other, other ≠ event →
    Keyed.get? other after.cache.lastManual =
      Keyed.get? other before.cache.lastManual
  told : ∀ other, other ≠ event → after.told other = before.told other

/-- The title of the document stays what it is, in the cache and on screen. -/
structure Keeps (event : String) (before after : Registry) : Prop where
  current : Keyed.get? event after.current = Keyed.get? event before.current
  document : Keyed.get? event after.cache.documents =
    Keyed.get? event before.cache.documents
  title : ∀ id, (after.engine id).state.persistedTitle =
    (before.engine id).state.persistedTitle

/-- A document is put into the cache for an event, with its manual filters or
without, and told to its engine. -/
def Sets (event : String) (before after : Registry) : Prop :=
  ∃ document, after = before.setDocument event document ∨
    ∃ manual, after = (before.modifyCache
      (Cache.rememberManual event manual)).setDocument event document

/-- An engine is made for an event that has none. -/
def Makes (event : String) (before after : Registry) : Prop :=
  Keyed.get? event before.current = none ∧
    after = (before.engineFor event).2

/-- What a change does with the title of the document. -/
inductive Kind (event : String) (before after : Registry) : Prop where
  | keeps (keeps : Keeps event before after)
  | sets (sets : Sets event before after)
  | makes (makes : Makes event before after)
  | resets (resets : after = before.reset event)

/-- One change on behalf of an event. -/
structure Deed (event : String) (ids : EngineId → EngineId → Prop)
    (before after : Registry) : Prop extends Frame event ids before after where
  kind : Kind event before after

/-- The likeness of registries to an event. -/
def likeness (event : String) (old : List Notice) : Likeness Registry where
  event := event
  holds := Looks event old
  has id registry := registry.Has id
  change := Deed event
  has_of_ids looks same := looks.has _ _ same
  eq_iff looks first second := looks.eq_iff _ _ _ _ first second

variable {event : String} {old : List Notice}
variable {ids : EngineId → EngineId → Prop}

namespace Frame

variable {registry before middle after : Registry} {id twin : EngineId}

theorem refl (registry : Registry) : Frame event ids registry registry :=
  ⟨rfl, rfl, rfl, rfl, fun _ has => has, fun _ _ => rfl, fun _ _ _ => rfl,
    fun _ _ => rfl, fun _ _ => rfl, fun _ _ => rfl, fun _ _ => rfl⟩

theorem trans (early : Frame event ids before middle)
    (late : Frame event ids middle after) : Frame event ids before after where
  settings := late.settings.trans early.settings
  now := late.now.trans early.now
  freshId := late.freshId.trans early.freshId
  client := late.client.trans early.client
  has id has := late.has id (early.has id has)
  about id has := (late.about id (early.has id has)).trans (early.about id has)
  engine id has unused :=
    (late.engine id (early.has id has) unused).trans (early.engine id has unused)
  current other ne := (late.current other ne).trans (early.current other ne)
  document other ne := (late.document other ne).trans (early.document other ne)
  manual other ne := (late.manual other ne).trans (early.manual other ne)
  told other ne := (late.told other ne).trans (early.told other ne)

/-- Changing an engine that is used, without moving it to another event. -/
theorem of_modifyEngine (used : ids id twin) {change : Engine → Engine}
    (about : ∀ engine, (change engine).event = engine.event) :
    Frame event ids registry (registry.modifyEngine id change) where
  settings := rfl
  now := rfl
  freshId := rfl
  client := rfl
  has other has := (Registry.has_modifyEngine change).mpr has
  about other _ := Registry.event_modifyEngine about
  engine other _ unused := by
    rw [Registry.engine_modifyEngine, if_neg]
    rintro ⟨rfl, _⟩
    exact unused twin used
  current _ _ := rfl
  document _ _ := rfl
  manual _ _ := rfl
  told _ _ := rfl

/-- Telling the observer of an engine of the event. -/
theorem of_announce (about : (registry.engine id).event = event) :
    Frame event ids registry (registry.announce id) := by
  obtain ⟨heard, same⟩ := Registry.announce_same id registry
  refine ⟨?_, ?_, ?_, ?_, ?_, ?_, ?_, ?_, ?_, ?_, ?_⟩
  · rw [same]
  · rw [same]
  · rw [same]
  · rw [same]; rfl
  · exact fun other has => Registry.has_announce.mpr has
  · exact fun other _ => by rw [Registry.announce_engine]
  · exact fun other _ _ => Registry.announce_engine id other registry
  · exact fun other _ => by rw [same]
  · exact fun other _ => by rw [same]
  · exact fun other _ => by rw [same]
  · intro other ne
    rw [Registry.told_announce, about, if_neg fun both => ne both.2.symm,
      List.append_nil]

theorem of_transition (used : ids id twin)
    (about : (registry.engine id).event = event)
    (change : AiState → AiState) :
    Frame event ids registry (registry.transition id change) := by
  have changed : Frame event ids registry (registry.modifyEngine id
      fun engine => { engine with state := change engine.state }) :=
    of_modifyEngine used fun _ => rfl
  rw [Registry.transition_eq]
  refine changed.trans (of_announce ?_)
  rw [Registry.event_modifyEngine (by exact fun _ => rfl), about]

/-- Changing what is cached of the event only. -/
theorem of_modifyCache {change : Cache → Cache}
    (document : ∀ other, other ≠ event →
      Keyed.get? other (change registry.cache).documents =
        Keyed.get? other registry.cache.documents)
    (manual : ∀ other, other ≠ event →
      Keyed.get? other (change registry.cache).lastManual =
        Keyed.get? other registry.cache.lastManual) :
    Frame event ids registry (registry.modifyCache change) :=
  { refl registry with document, manual }

theorem of_remember (manual : ManualState) :
    Frame event ids registry
      (registry.modifyCache (Cache.rememberManual event manual)) :=
  of_modifyCache (fun _ _ => rfl) fun _ ne => Keyed.get?_put_of_ne ne _ _

theorem of_opened : Frame event ids registry registry.opened :=
  { refl registry with client := rfl }

/-- Notices about documents are nobody's. -/
theorem of_echo (frame : Frame event ids before after)
    (echo : middle.Echo after) : Frame event ids before middle := by
  have told := echo.told
  have engine := echo.engine
  obtain ⟨same, _⟩ := echo
  refine ⟨?_, ?_, ?_, ?_, ?_, ?_, ?_, ?_, ?_, ?_, ?_⟩
  · rw [← frame.settings, ← same]
  · rw [← frame.now, ← same]
  · rw [← frame.freshId, ← same]
  · rw [← frame.client, ← same]; rfl
  · intro other has
    have kept := frame.has other has
    rw [← same] at kept
    exact kept
  · intro other has
    rw [← engine]
    exact frame.about other has
  · intro other has unused
    rw [← engine]
    exact frame.engine other has unused
  · intro other ne
    rw [← frame.current other ne, ← same]
  · intro other ne
    rw [← frame.document other ne, ← same]
  · intro other ne
    rw [← frame.manual other ne, ← same]
  · intro other ne
    rw [← told]
    exact frame.told other ne

/-- Putting a document into the cache concerns the engine in use for its event
only. -/
theorem of_setDocument (wired : registry.Wired)
    (used : ∀ id, Keyed.get? event registry.current = some id →
      ∃ other, ids id other) (document : Document) :
    Frame event ids registry (registry.setDocument event document) := by
  refine of_echo ?_ (Registry.echo_setDocument wired)
  have put : Frame event ids registry
      (registry.putDocument event document) :=
    of_modifyCache (fun _ ne => Keyed.get?_put_of_ne ne _ _) fun _ _ => rfl
  apply put.trans
  unfold Registry.hearCurrent
  split
  · rename_i id found
    obtain ⟨twin, same⟩ := used id found
    have about : ((registry.putDocument event document).engine id).event =
        event := (wired.current event id found).2
    unfold Registry.hearDocument
    dsimp only
    split
    · exact of_transition same about _
    · exact refl _
  · exact refl _

/-- A new engine is no other one. -/
theorem of_addEngine {engine : Engine} (about : engine.event = event) :
    Frame event ids registry (registry.addEngine engine).2 :=
  { (refl registry : Frame event ids registry registry) with
    has := fun id has => Registry.has_addEngine.mpr (.inl has)
    about := fun id has => by rw [Registry.addEngine_engine_of_has has]
    engine := fun id has _ => Registry.addEngine_engine_of_has has
    current := fun other ne => by
      rw [Registry.addEngine_current, about, Keyed.get?_put_of_ne ne]
    document := fun _ _ => rfl
    manual := fun _ _ => rfl }

theorem of_engineFor :
    Frame event ids registry (registry.engineFor event).2 := by
  unfold Registry.engineFor
  split
  · exact refl registry
  · exact of_addEngine rfl

theorem of_reset : Frame event ids registry (registry.reset event) := by
  have forgets (registry : Registry) : Frame event ids registry
      (registry.modifyCache (Cache.forget event)) :=
    of_modifyCache (fun _ ne => Keyed.get?_erase_of_ne ne _)
      fun _ ne => Keyed.get?_erase_of_ne ne _
  unfold Registry.reset
  dsimp only
  split
  · rename_i id found
    have detaches : Frame event ids registry
        { registry.unsubscribe (.engine id) with
          current := Keyed.erase event registry.current } :=
      { refl registry with
        current := fun _ ne => Keyed.get?_erase_of_ne ne _ }
    exact detaches.trans (forgets _)
  · exact forgets registry

end Frame

namespace Looks

variable {left right : Registry} {id twin : EngineId}

/-- Changing corresponding engines in the same way. -/
theorem modifyEngine (looks : Looks event old ⟨ids, left, right⟩)
    (same : ids id twin) {change : Engine → Engine}
    (about : ∀ engine, (change engine).event = engine.event) :
    Looks event old
      ⟨ids, left.modifyEngine id change, right.modifyEngine twin change⟩ where
  settings := looks.settings
  now := looks.now
  freshId := looks.freshId
  client := looks.client
  wired :=
    ⟨looks.wired.1.of_same (fun _ => Registry.has_modifyEngine change)
      (fun _ => Registry.event_modifyEngine about) rfl rfl,
    looks.wired.2.of_same (fun _ => Registry.has_modifyEngine change)
      (fun _ => Registry.event_modifyEngine about) rfl rfl⟩
  has first second both := by
    simpa using looks.has first second both
  eq_iff := looks.eq_iff
  engine first second both := by
    show (left.modifyEngine id change).engine first =
      (right.modifyEngine twin change).engine second
    have alike := looks.eq_iff first second id twin both same
    obtain ⟨hasLeft, hasRight⟩ := looks.has id twin same
    have engine := looks.engine first second both
    rw [Registry.engine_modifyEngine, Registry.engine_modifyEngine]
    by_cases here : first = id
    · rw [if_pos ⟨here, hasLeft⟩, if_pos ⟨alike.mp here, hasRight⟩, engine]
    · rw [if_neg fun both => here both.1,
        if_neg fun both => here (alike.mpr both.1), engine]
  about first second both :=
    (Registry.event_modifyEngine about).trans (looks.about first second both)
  current := looks.current
  document := looks.document
  manual := looks.manual
  told := looks.told

/-- What observers hear of documents does not count. -/
theorem of_echo {first second : Registry}
    (looks : Looks event old ⟨ids, left, right⟩) (echo : first.Echo left)
    (other : second.Echo right) : Looks event old ⟨ids, first, second⟩ := by
  have told := looks.told
  rw [echo.told, other.told] at told
  obtain ⟨sameLeft, -⟩ := echo
  obtain ⟨sameRight, -⟩ := other
  have wired : first.Wired ∧ second.Wired := by
    obtain ⟨one, two⟩ := looks.wired
    rw [← sameLeft] at one
    rw [← sameRight] at two
    exact ⟨⟨one.current, one.listens, one.count⟩,
      ⟨two.current, two.listens, two.count⟩⟩
  rw [← sameLeft, ← sameRight] at looks
  exact ⟨looks.settings, looks.now, looks.freshId, looks.client, wired,
    looks.has, looks.eq_iff, looks.engine, looks.about, looks.current,
    looks.document, looks.manual, told⟩

/-- Telling the observers of corresponding engines. -/
theorem announce (looks : Looks event old ⟨ids, left, right⟩)
    (same : ids id twin) :
    Looks event old ⟨ids, left.announce id, right.announce twin⟩ := by
  have told : (left.announce id).told event =
      old ++ (right.announce twin).told event := by
    rw [Registry.told_announce, Registry.told_announce,
      looks.engine id twin same, looks.told, List.append_assoc]
  obtain ⟨heard, sameLeft⟩ := Registry.announce_same id left
  obtain ⟨others, sameRight⟩ := Registry.announce_same twin right
  rw [sameLeft, sameRight] at told ⊢
  obtain ⟨one, two⟩ := looks.wired
  exact
    { looks with
      wired := ⟨⟨one.current, one.listens, one.count⟩,
        ⟨two.current, two.listens, two.count⟩⟩
      told }

theorem transition (looks : Looks event old ⟨ids, left, right⟩)
    (same : ids id twin) (change : AiState → AiState) :
    Looks event old
      ⟨ids, left.transition id change, right.transition twin change⟩ := by
  rw [Registry.transition_eq, Registry.transition_eq]
  have changed := looks.modifyEngine same (fun engine => rfl :
    ∀ engine : Engine, { engine with state := change engine.state }.event =
      engine.event)
  exact changed.announce same

/-- Changing what is cached of the event in the same way. -/
theorem modifyCache (looks : Looks event old ⟨ids, left, right⟩)
    {change : Cache → Cache}
    (subscribers : ∀ cache, (change cache).subscribers = cache.subscribers)
    (document : Keyed.get? event (change left.cache).documents =
      Keyed.get? event (change right.cache).documents)
    (manual : Keyed.get? event (change left.cache).lastManual =
      Keyed.get? event (change right.cache).lastManual) :
    Looks event old
      ⟨ids, left.modifyCache change, right.modifyCache change⟩ :=
  { looks with
    wired :=
      ⟨looks.wired.1.of_same (fun _ => Iff.rfl) (fun _ => rfl) rfl
        (subscribers _),
      looks.wired.2.of_same (fun _ => Iff.rfl) (fun _ => rfl) rfl
        (subscribers _)⟩
    document, manual }

theorem remember (looks : Looks event old ⟨ids, left, right⟩)
    (manual : ManualState) :
    Looks event old
      ⟨ids, left.modifyCache (Cache.rememberManual event manual),
        right.modifyCache (Cache.rememberManual event manual)⟩ :=
  looks.modifyCache (fun _ => rfl) looks.document
    (by simp [Cache.rememberManual])

theorem forget (looks : Looks event old ⟨ids, left, right⟩) :
    Looks event old
      ⟨ids, left.modifyCache (Cache.forget event),
        right.modifyCache (Cache.forget event)⟩ :=
  looks.modifyCache (fun _ => rfl) (by simp [Cache.forget])
    (by simp [Cache.forget])

theorem hearDocument (looks : Looks event old ⟨ids, left, right⟩)
    (same : ids id twin) (document : Document) :
    Looks event old
      ⟨ids, left.hearDocument id event document,
        right.hearDocument twin event document⟩ := by
  unfold Registry.hearDocument
  dsimp only
  rw [looks.engine id twin same]
  split
  · exact looks.transition same _
  · exact looks

/-- An event has an engine on both sides, or on none. -/
theorem current_cases (looks : Looks event old ⟨ids, left, right⟩) :
    (∃ id other, Keyed.get? event left.current = some id ∧
      Keyed.get? event right.current = some other ∧ ids id other) ∨
    (Keyed.get? event left.current = none ∧
      Keyed.get? event right.current = none) := by
  have used := looks.current
  dsimp only at used
  cases first : Keyed.get? event left.current with
  | some id =>
      cases second : Keyed.get? event right.current with
      | some other =>
          rw [first, second] at used
          exact .inl ⟨id, other, rfl, rfl, Option.rel_some_some.mp used⟩
      | none => rw [first, second] at used; cases used
  | none =>
      cases second : Keyed.get? event right.current with
      | some other => rw [first, second] at used; cases used
      | none => exact .inr ⟨rfl, rfl⟩

/-- Putting the same document into both caches. -/
theorem setDocument (looks : Looks event old ⟨ids, left, right⟩)
    (document : Document) :
    Looks event old
      ⟨ids, left.setDocument event document,
        right.setDocument event document⟩ := by
  have put : Looks event old ⟨ids, left.putDocument event document,
      right.putDocument event document⟩ :=
    looks.modifyCache (fun _ => rfl) (by simp) looks.manual
  refine of_echo ?_ (Registry.echo_setDocument looks.wired.1)
    (Registry.echo_setDocument looks.wired.2)
  unfold Registry.hearCurrent
  obtain ⟨id, twin, first, second, same⟩ | ⟨first, second⟩ :=
    put.current_cases
  · rw [first, second]
    exact put.hearDocument same document
  · rw [first, second]
    exact put

theorem opened (looks : Looks event old ⟨ids, left, right⟩) :
    Looks event old ⟨ids, left.opened, right.opened⟩ :=
  { looks with
    client := looks.client
    wired :=
      ⟨looks.wired.1.of_same (fun _ => Iff.rfl) (fun _ => rfl) rfl rfl,
      looks.wired.2.of_same (fun _ => Iff.rfl) (fun _ => rfl) rfl rfl⟩ }

/-- What corresponds after two engines were made. -/
def paired (ids : EngineId → EngineId → Prop) (left right : Registry) :
    EngineId → EngineId → Prop :=
  fun id other => ids id other ∨
    id = left.engines.length ∧ other = right.engines.length

/-- Making the same engine on both sides. -/
theorem addEngine (looks : Looks event old ⟨ids, left, right⟩)
    {engine : Engine} (about : engine.event = event)
    (first : Keyed.get? event left.current = none)
    (second : Keyed.get? event right.current = none) :
    Looks event old ⟨paired ids left right, (left.addEngine engine).2,
      (right.addEngine engine).2⟩ where
  settings := looks.settings
  now := looks.now
  freshId := looks.freshId
  client := looks.client
  wired := ⟨looks.wired.1.addEngine (about ▸ first),
    looks.wired.2.addEngine (about ▸ second)⟩
  has id other both := by
    obtain before | ⟨rfl, rfl⟩ := both
    · obtain ⟨one, two⟩ := looks.has id other before
      exact ⟨Registry.has_addEngine.mpr (.inl one),
        Registry.has_addEngine.mpr (.inl two)⟩
    · exact ⟨Registry.has_addEngine.mpr (.inr rfl),
        Registry.has_addEngine.mpr (.inr rfl)⟩
  eq_iff id other id' other' both further := by
    obtain before | ⟨rfl, rfl⟩ := both
    · obtain ⟨one, two⟩ := looks.has id other before
      obtain again | ⟨rfl, rfl⟩ := further
      · exact looks.eq_iff id other id' other' before again
      · exact ⟨fun same => absurd one (same ▸ Nat.lt_irrefl _),
          fun same => absurd two (same ▸ Nat.lt_irrefl _)⟩
    · obtain again | ⟨rfl, rfl⟩ := further
      · obtain ⟨one, two⟩ := looks.has id' other' again
        exact ⟨fun same => absurd one (same ▸ Nat.lt_irrefl _),
          fun same => absurd two (same ▸ Nat.lt_irrefl _)⟩
      · exact ⟨fun _ => rfl, fun _ => rfl⟩
  engine id other both := by
    obtain before | ⟨rfl, rfl⟩ := both
    · obtain ⟨one, two⟩ := looks.has id other before
      show (left.addEngine engine).2.engine id =
        (right.addEngine engine).2.engine other
      rw [Registry.addEngine_engine_of_has one,
        Registry.addEngine_engine_of_has two]
      exact looks.engine id other before
    · show (left.addEngine engine).2.engine _ =
        (right.addEngine engine).2.engine _
      rw [Registry.addEngine_engine_new, Registry.addEngine_engine_new]
  about id other both := by
    obtain before | ⟨rfl, rfl⟩ := both
    · show ((left.addEngine engine).2.engine id).event = event
      rw [Registry.addEngine_engine_of_has (looks.has id other before).1]
      exact looks.about id other before
    · show ((left.addEngine engine).2.engine _).event = event
      rw [Registry.addEngine_engine_new, about]
  current := by
    show Option.Rel _ (Keyed.get? event (left.addEngine engine).2.current)
      (Keyed.get? event (right.addEngine engine).2.current)
    rw [Registry.addEngine_current, Registry.addEngine_current, about,
      Keyed.get?_put_self, Keyed.get?_put_self]
    exact .some (.inr ⟨rfl, rfl⟩)
  document := looks.document
  manual := looks.manual
  told := looks.told

/-- Forgetting the event on both sides. -/
theorem reset (looks : Looks event old ⟨ids, left, right⟩) :
    Looks event old ⟨ids, left.reset event, right.reset event⟩ := by
  have wired : (left.reset event).Wired ∧ (right.reset event).Wired :=
    ⟨looks.wired.1.reset event, looks.wired.2.reset event⟩
  unfold Registry.reset at wired ⊢
  dsimp only at wired ⊢
  obtain ⟨id, other, first, second, same⟩ | ⟨first, second⟩ :=
    looks.current_cases
  · rw [first, second] at wired ⊢
    exact
      { looks with
        wired
        current := by
          show Option.Rel _ (Keyed.get? event (Keyed.erase event left.current))
            (Keyed.get? event (Keyed.erase event right.current))
          rw [Keyed.get?_erase_self, Keyed.get?_erase_self]
          exact .none
        document := by
          show Keyed.get? event (Keyed.erase event _) =
            Keyed.get? event (Keyed.erase event _)
          rw [Keyed.get?_erase_self, Keyed.get?_erase_self]
        manual := by
          show Keyed.get? event (Keyed.erase event _) =
            Keyed.get? event (Keyed.erase event _)
          rw [Keyed.get?_erase_self, Keyed.get?_erase_self] }
  · rw [first, second]
    exact looks.forget

end Looks
end Isolation
end Audience
