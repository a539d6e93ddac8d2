import Audience.Proofs.Store
import Mathlib.Data.List.Count

/-!
# Who listens to whom

All engines listen to one cache of documents, and every document that is put
into it is told to all of them.  In a registry that is wired well, an engine
listens exactly while it is in use, so a document concerns the engine in use for
its event and nobody else.
-/

namespace Audience

/-- A notice is about an engine of an event. -/
def Notice.isAbout (event : String) : Notice → Bool
  | .engine name _ => name == event
  | .document _ _ => false

namespace Registry

/-- What observers heard of the engines of an event. -/
def told (event : String) (registry : Registry) : List Notice :=
  registry.heard.filter (Notice.isAbout event)

/-- An engine in use was made, for its event.  Exactly the engines in use
listen to documents, and each of them once. -/
structure Wired (registry : Registry) : Prop where
  current : ∀ event id, Keyed.get? event registry.current = some id →
    registry.Has id ∧ (registry.engine id).event = event
  listens : ∀ id, .engine id ∈ registry.cache.subscribers → registry.Has id
  count : ∀ id, registry.Has id →
    registry.cache.subscribers.count (.engine id) =
      if Keyed.get? (registry.engine id).event registry.current = some id
        then 1 else 0

/-- Two registries differ at most in what observers heard of documents. -/
structure Echo (before after : Registry) : Prop where
  same : { before with heard := after.heard } = after
  told : ∀ event, after.told event = before.told event

section Telling

variable {registry : Registry} {event : String}

@[simp] theorem told_document (name : String) (document : Document) :
    (registry.tell (.document name document)).told event =
      registry.told event := by
  simp [told, tell, Notice.isAbout]

/-- A notice about an engine is about its event. -/
theorem told_engine (name : String) (state : AiState) :
    (registry.tell (.engine name state)).told event =
      registry.told event ++
        if name = event then [.engine name state] else [] := by
  by_cases same : name = event <;> simp [told, tell, Notice.isAbout, same]

/-- Tell the observer of an engine what is on screen. -/
def announce (id : EngineId) (registry : Registry) : Registry :=
  if (registry.engine id).observed then
    registry.tell
      (.engine (registry.engine id).event (registry.engine id).state)
  else registry

/-- A transition changes the state of an engine and announces it. -/
theorem transition_eq (id : EngineId) (change : AiState → AiState)
    (registry : Registry) :
    registry.transition id change =
      (registry.modifyEngine id fun engine =>
        { engine with state := change engine.state }).announce id :=
  rfl

@[simp] theorem announce_engine (id other : EngineId) (registry : Registry) :
    (registry.announce id).engine other = registry.engine other := by
  unfold announce
  split <;> rfl

@[simp] theorem has_announce {id other : EngineId} :
    (registry.announce id).Has other ↔ registry.Has other := by
  unfold announce
  split <;> rfl

/-- Nothing but what was heard changes. -/
theorem announce_same (id : EngineId) (registry : Registry) :
    ∃ heard, registry.announce id = { registry with heard } := by
  unfold announce
  split
  · exact ⟨_, rfl⟩
  · exact ⟨registry.heard, rfl⟩

@[simp] theorem transition_current (id : EngineId)
    (change : AiState → AiState) (registry : Registry) :
    (registry.transition id change).current = registry.current := by
  rw [transition_eq]
  obtain ⟨heard, same⟩ := announce_same id (registry.modifyEngine id
    fun engine => { engine with state := change engine.state })
  rw [same]
  rfl

/-- What is announced depends on the engine only. -/
theorem told_announce (id : EngineId) (registry : Registry) :
    (registry.announce id).told event = registry.told event ++
      if (registry.engine id).observed ∧ (registry.engine id).event = event
        then [.engine event (registry.engine id).state] else [] := by
  unfold announce
  by_cases observed : (registry.engine id).observed
  · rw [if_pos observed, told_engine]
    by_cases same : (registry.engine id).event = event <;>
      simp [observed, same]
  · simp [observed]

end Telling

namespace Wired

variable {before after registry : Registry}

/-- What leaves engines where they are does not rewire them. -/
theorem of_same (wired : before.Wired)
    (has : ∀ id, after.Has id ↔ before.Has id)
    (event : ∀ id, (after.engine id).event = (before.engine id).event)
    (current : after.current = before.current)
    (subscribers : after.cache.subscribers = before.cache.subscribers) :
    after.Wired where
  current name id found := by
    rw [current] at found
    rw [has, event]
    exact wired.current name id found
  listens id member := by
    rw [subscribers] at member
    exact (has id).mpr (wired.listens id member)
  count id made := by
    rw [subscribers, event, current]
    exact wired.count id ((has id).mp made)

/-- An engine that is in use listens. -/
theorem listens_of_current (wired : registry.Wired) {event : String}
    {id : EngineId} (current : Keyed.get? event registry.current = some id) :
    registry.cache.subscribers.count (.engine id) = 1 := by
  obtain ⟨has, same⟩ := wired.current event id current
  rw [wired.count id has, same, if_pos current]

/-- An engine that listens is in use for its event. -/
theorem current_of_listens (wired : registry.Wired) {id : EngineId}
    (member : .engine id ∈ registry.cache.subscribers) :
    Keyed.get? (registry.engine id).event registry.current = some id := by
  have positive := List.count_pos_iff.mpr member
  rw [wired.count id (wired.listens id member)] at positive
  by_contra unused
  rw [if_neg unused] at positive
  exact absurd positive (by decide)

/-- Whoever was never made does not listen. -/
theorem deaf_of_not_has (wired : registry.Wired) {id : EngineId}
    (missing : ¬ registry.Has id) :
    registry.cache.subscribers.count (.engine id) = 0 :=
  List.count_eq_zero.mpr fun member => missing (wired.listens id member)

end Wired

section Engines

variable {registry : Registry} {engine : Engine}

theorem addEngine_engine_of_has {id : EngineId} (has : registry.Has id) :
    (registry.addEngine engine).2.engine id = registry.engine id := by
  show ((registry.engines ++ [engine])[id]?).getD default = _
  rw [List.getElem?_append_left has]
  rfl

@[simp] theorem addEngine_engine_new :
    (registry.addEngine engine).2.engine registry.engines.length = engine := by
  show ((registry.engines ++ [engine])[registry.engines.length]?).getD
    default = _
  simp

theorem has_addEngine {id : EngineId} :
    (registry.addEngine engine).2.Has id ↔
      registry.Has id ∨ id = registry.engines.length := by
  show id < (registry.engines ++ [engine]).length ↔
    id < registry.engines.length ∨ id = registry.engines.length
  rw [List.length_append, List.length_singleton]
  exact Nat.lt_succ_iff_lt_or_eq

/-- A new engine is in use for its event from now on. -/
theorem addEngine_current :
    (registry.addEngine engine).2.current =
      Keyed.put engine.event registry.engines.length registry.current := rfl

theorem addEngine_subscribers :
    (registry.addEngine engine).2.cache.subscribers =
      registry.cache.subscribers ++ [.engine registry.engines.length] := rfl

/-- Making an engine for an event that has none wires it well. -/
theorem Wired.addEngine (wired : registry.Wired)
    (unused : Keyed.get? engine.event registry.current = none) :
    (registry.addEngine engine).2.Wired where
  current name id found := by
    rw [addEngine_current] at found
    by_cases same : name = engine.event
    · subst same
      rw [Keyed.get?_put_self] at found
      obtain rfl := Option.some.inj found
      exact ⟨has_addEngine.mpr (.inr rfl), by rw [addEngine_engine_new]⟩
    · rw [Keyed.get?_put_of_ne same] at found
      obtain ⟨has, about⟩ := wired.current name id found
      exact ⟨has_addEngine.mpr (.inl has),
        by rw [addEngine_engine_of_has has, about]⟩
  listens id member := by
    rw [addEngine_subscribers, List.mem_append, List.mem_singleton] at member
    obtain before | same := member
    · exact has_addEngine.mpr (.inl (wired.listens id before))
    · exact has_addEngine.mpr (.inr (Subscriber.engine.inj same))
  count id made := by
    rw [addEngine_subscribers, addEngine_current, List.count_append,
      List.count_singleton]
    obtain has | rfl := has_addEngine.mp made
    · have ne : id ≠ registry.engines.length := Nat.ne_of_lt has
      rw [addEngine_engine_of_has has, wired.count id has]
      by_cases same : (registry.engine id).event = engine.event
      · simp [same, unused, Ne.symm ne]
      · simp [Keyed.get?_put_of_ne same, Ne.symm ne]
    · rw [addEngine_engine_new, wired.deaf_of_not_has (Nat.lt_irrefl _)]
      simp

/-- Resetting an event leaves the others wired as they are. -/
theorem Wired.reset (wired : registry.Wired) (event : String) :
    (registry.reset event).Wired := by
  have forgets {registry : Registry} (wired : registry.Wired) :
      (registry.modifyCache (Cache.forget event)).Wired :=
    wired.of_same (fun _ => Iff.rfl) (fun _ => rfl) rfl rfl
  unfold Registry.reset
  dsimp only
  split
  · rename_i used found
    obtain ⟨has, about⟩ := wired.current event used found
    refine forgets ⟨?_, ?_, ?_⟩
    · intro name id current
      by_cases same : name = event
      · subst same
        rw [Keyed.get?_erase_self] at current
        cases current
      · rw [Keyed.get?_erase_of_ne same] at current
        exact wired.current name id current
    · exact fun id member => wired.listens id (List.mem_of_mem_erase member)
    · intro id made
      show (registry.cache.subscribers.erase (.engine used)).count
        (.engine id) = if Keyed.get? (registry.engine id).event
          (Keyed.erase event registry.current) = some id then 1 else 0
      by_cases same : id = used
      · subst same
        rw [List.count_erase_self, wired.listens_of_current found, about,
          Keyed.get?_erase_self]
        rfl
      · rw [List.count_erase_of_ne (by simpa using same), wired.count id made]
        by_cases here : (registry.engine id).event = event
        · simp [here, found, Ne.symm same]
        · rw [Keyed.get?_erase_of_ne here]
  · exact forgets wired

variable (registry)

theorem reset_engine (event : String) (id : EngineId) :
    (registry.reset event).engine id = registry.engine id := by
  unfold Registry.reset
  dsimp only
  split <;> rfl

/-- Nothing is known of an event that was reset. -/
theorem reset_blank (event : String) :
    Keyed.get? event (registry.reset event).current = none ∧
      Keyed.get? event (registry.reset event).cache.documents = none ∧
      Keyed.get? event (registry.reset event).cache.lastManual = none := by
  unfold Registry.reset
  dsimp only
  split
  · exact ⟨Keyed.get?_erase_self _ _, Keyed.get?_erase_self _ _,
      Keyed.get?_erase_self _ _⟩
  · rename_i unused
    exact ⟨unused, Keyed.get?_erase_self _ _, Keyed.get?_erase_self _ _⟩

end Engines

namespace Echo

variable {before after last : Registry}

theorem refl (registry : Registry) : registry.Echo registry :=
  ⟨rfl, fun _ => rfl⟩

theorem trans (early : before.Echo after) (late : after.Echo last) :
    before.Echo last := by
  obtain ⟨first, heardFirst⟩ := early
  obtain ⟨second, heardSecond⟩ := late
  refine ⟨?_, fun event => (heardSecond event).trans (heardFirst event)⟩
  rw [← second, ← first]

/-- A notice about a document is an echo. -/
theorem of_document (registry : Registry) (event : String)
    (document : Document) :
    (registry.tell (.document event document)).Echo registry :=
  ⟨rfl, fun _ => (told_document _ _).symm⟩

theorem engine (echo : before.Echo after) (id : EngineId) :
    after.engine id = before.engine id := by
  rw [← echo.same]
  rfl

theorem modifyEngine (echo : before.Echo after) (id : EngineId)
    (change : Engine → Engine) :
    (before.modifyEngine id change).Echo (after.modifyEngine id change) := by
  refine ⟨?_, echo.told⟩
  rw [← echo.same]
  rfl

theorem tell (echo : before.Echo after) (notice : Notice) :
    (before.tell notice).Echo (after.tell notice) := by
  constructor
  · rw [← echo.same]
    rfl
  · intro event
    have heard := echo.told event
    unfold Registry.told at heard ⊢
    simp only [Registry.tell, List.filter_append, heard]

theorem announce (echo : before.Echo after) (id : EngineId) :
    (before.announce id).Echo (after.announce id) := by
  unfold Registry.announce
  rw [echo.engine]
  split
  · exact echo.tell _
  · exact echo

/-- Engines hear of documents in the same way. -/
theorem hearDocument (echo : before.Echo after) (id : EngineId)
    (event : String) (document : Document) :
    (before.hearDocument id event document).Echo
      (after.hearDocument id event document) := by
  unfold Registry.hearDocument
  dsimp only
  rw [echo.engine]
  split
  · rw [transition_eq, transition_eq]
    exact (echo.modifyEngine id _).announce id
  · exact echo

end Echo

section Documents

variable {event : String} {document : Document}

/-- Put a document into the cache, and tell nobody. -/
def putDocument (event : String) (document : Document) (registry : Registry) :
    Registry :=
  registry.modifyCache fun cache =>
    { cache with documents := Keyed.put event document cache.documents }

/-- The engine in use for an event hears of its document. -/
def hearCurrent (event : String) (document : Document) (registry : Registry) :
    Registry :=
  match Keyed.get? event registry.current with
  | some id => registry.hearDocument id event document
  | none => registry

/-- Hearing of a document changes the title of the engine in use at most. -/
theorem hearCurrent_cases (event : String) (document : Document)
    (registry : Registry) :
    registry.hearCurrent event document = registry ∨
      ∃ id, Keyed.get? event registry.current = some id ∧
        registry.hearCurrent event document =
          registry.transition id fun state =>
            { state with persistedTitle := document.ai.title } := by
  unfold hearCurrent
  split
  · rename_i id used
    unfold Registry.hearDocument
    dsimp only
    split
    · exact .inr ⟨id, used, rfl⟩
    · exact .inl rfl
  · exact .inl rfl

theorem hearCurrent_current (event : String) (document : Document)
    (registry : Registry) :
    (registry.hearCurrent event document).current = registry.current := by
  obtain same | ⟨id, -, same⟩ := hearCurrent_cases event document registry
  · rw [same]
  · rw [same, transition_current]

/-- The engine in use takes over the title. -/
theorem title_hearCurrent {registry : Registry} {id : EngineId}
    (used : Keyed.get? event registry.current = some id)
    (has : registry.Has id) (about : (registry.engine id).event = event)
    (document : Document) :
    ((registry.hearCurrent event document).engine id).state.persistedTitle =
      document.ai.title := by
  unfold hearCurrent Registry.hearDocument
  rw [used]
  dsimp only
  split
  · rw [engine_transition, engine_modifyEngine_self has]
  · rename_i heard
    rw [not_and, not_not] at heard
    exact (heard about).symm

/-- Telling any subscribers of a document is telling the engine in use for its
event, if it is among them. -/
theorem echo_tellAll (event : String) (document : Document) {cur : EngineId}
    (subscribers : List Subscriber) (registry : Registry)
    (alone : ∀ id, .engine id ∈ subscribers →
      (registry.engine id).event = event → id = cur)
    (once : subscribers.count (.engine cur) ≤ 1) :
    (subscribers.foldl (tellSubscriber event document) registry).Echo
      (if .engine cur ∈ subscribers then
        registry.hearDocument cur event document else registry) := by
  induction subscribers generalizing registry with
  | nil => exact .refl registry
  | cons subscriber rest ih =>
      rw [List.foldl_cons]
      cases subscriber with
      | observer =>
          have others := ih (registry.tellSubscriber event document .observer)
            (fun id member => alone id (List.mem_cons_of_mem _ member))
            (by simpa using once)
          refine others.trans ?_
          have echo := Echo.of_document registry event document
          simp only [List.mem_cons, reduceCtorEq, false_or]
          split
          · exact echo.hearDocument cur event document
          · exact echo
      | engine id =>
          by_cases same : id = cur
          · subst same
            have absent : .engine id ∉ rest := by
              rw [List.count_cons_self] at once
              exact List.count_eq_zero.mp (by omega)
            rw [if_pos List.mem_cons_self]
            have others := ih (registry.hearDocument id event document)
              (fun other member concerned => alone other
                (List.mem_cons_of_mem _ member) (by
                  rw [← concerned]
                  unfold Registry.hearDocument
                  dsimp only
                  split
                  · rw [event_transition]
                  · rfl))
              (by rw [List.count_eq_zero.mpr absent]; exact Nat.zero_le 1)
            rwa [if_neg absent] at others
          · -- Some other engine listens as well, but not to this event.
            have deaf : registry.tellSubscriber event document (.engine id) =
                registry := by
              show registry.hearDocument id event document = registry
              unfold Registry.hearDocument
              dsimp only
              rw [if_neg]
              exact fun concerned =>
                same (alone id List.mem_cons_self concerned.1)
            rw [deaf]
            have others := ih registry
              (fun other member => alone other (List.mem_cons_of_mem _ member))
              (by
                rw [List.count_cons_of_ne (by simpa using same)] at once
                exact once)
            have members : (.engine cur ∈ Subscriber.engine id :: rest) ↔
                .engine cur ∈ rest := by
              simp [Ne.symm same]
            simpa only [members] using others

/-- Putting a document into the cache is told to the engine in use for its
event, and to no other. -/
theorem echo_setDocument {registry : Registry} (wired : registry.Wired) :
    (registry.setDocument event document).Echo
      ((registry.putDocument event document).hearCurrent event document) := by
  have concerned (id : EngineId)
      (member : .engine id ∈ registry.cache.subscribers)
      (about : (registry.engine id).event = event) :
      Keyed.get? event registry.current = some id := by
    rw [← about]
    exact wired.current_of_listens member
  show (registry.cache.subscribers.foldl (tellSubscriber event document)
    (registry.putDocument event document)).Echo _
  unfold hearCurrent
  show Echo _ (match Keyed.get? event registry.current with
    | some id => _
    | none => _)
  cases used : Keyed.get? event registry.current with
  | some cur =>
      have once := wired.listens_of_current used
      have member : .engine cur ∈ registry.cache.subscribers :=
        List.count_pos_iff.mp (by omega)
      have echo := echo_tellAll event document registry.cache.subscribers
        (registry.putDocument event document) (fun id listens about => by
          have found := concerned id listens about
          rw [used] at found
          exact (Option.some.inj found).symm) (Nat.le_of_eq once)
      rwa [if_pos member] at echo
  | none =>
      -- Nobody listens to this event, so an engine that was never made may stand
      -- for the one in use.
      have absent : Subscriber.engine registry.engines.length ∉
          registry.cache.subscribers :=
        fun listens => absurd (wired.listens _ listens) (Nat.lt_irrefl _)
      have echo := echo_tellAll event document registry.cache.subscribers
        (registry.putDocument event document) (fun id listens about => by
          have found := concerned id listens about
          rw [used] at found
          cases found)
        (by rw [List.count_eq_zero.mpr absent]; exact Nat.zero_le 1)
      rwa [if_neg absent] at echo

end Documents

end Registry
end Audience
