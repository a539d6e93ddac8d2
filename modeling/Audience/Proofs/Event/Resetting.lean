import Audience.Proofs.Event.Isolation

/-!
# A reset gives a fresh context

Resetting an event drops its engine and all that the store knows of it.  What
is left in the registry concerns other events, or the engine that was dropped,
and nobody who deals with the event afterwards can tell.
-/

namespace Audience

namespace Isolation

/-- A crowd that just reset an event. -/
structure Forgets (event : String) (crowd forgotten : Company) : Prop where
  state : forgotten.state = crowd.state.reset event
  held : ∀ lock, lock ∈ forgotten.held ↔ lock ∈ crowd.held
  waiting : (forgotten.part event).waiting = (crowd.part event).waiting

/-- An event can be reset at any time. -/
theorem exists_forgets (event : String) (crowd : Company) :
    ∃ forgotten, crowd.act? scene (event, .start .reset) = some forgotten ∧
      Forgets event crowd forgotten := by
  refine ⟨_, rfl, rfl, fun lock => ?_, ?_⟩
  · exact ⟨fun member => List.mem_of_mem_filter member, fun member =>
      List.mem_filter.mpr ⟨member, decide_eq_true List.not_mem_nil⟩⟩
  · simp only [Crowd.replace, Function.update_self]
    rfl

variable {olds : String → List Notice} {pasts : String → Past Learned}
variable {ids : String → EngineId → EngineId → Prop}
variable {crowd forgotten : Company} {alone : String → Company}
variable {event : String}

/-- The past of an event that is seen in a crowd. -/
def pastOf (event : String) (crowd : Company) : Past Learned where
  calls := (view event crowd).calls
  results := (view event crowd).results

/-- After a reset, the crowd agrees on the event with one in which nothing was
done. -/
theorem Together.forget (together : Together olds pasts ids crowd alone)
    (idle : (crowd.part event).waiting = [])
    (reset : crowd.act? scene (event, .start .reset) = some forgotten)
    (forgets : Forgets event crowd forgotten) {registry : Registry}
    (akin : Akin registry forgotten.state) (wired : registry.Wired)
    (unused : Keyed.get? event registry.current = none)
    (unknown : Keyed.get? event registry.cache.documents = none ∧
      Keyed.get? event registry.cache.lastManual = none)
    (untold : registry.told event = []) :
    Together (Function.update olds event (forgotten.state.told event))
      (Function.update pasts event (pastOf event forgotten))
      (Function.update ids event fun _ _ => False) forgotten
      (Function.update alone event (.fresh registry)) := by
  obtain ⟨stuck, -⟩ | ⟨next, other, more, went, -, agrees, -⟩ :=
    together.act event (.start .reset)
  · rw [reset] at stuck
    cases stuck
  rw [reset] at went
  obtain rfl := Option.some.inj went
  intro name
  by_cases same : name = event
  · subst same
    simp only [Function.update_self]
    obtain ⟨current, document, manual⟩ :=
      Registry.reset_blank crowd.state name
    rw [← forgets.state] at current document manual
    have held : Lock.document name ∉ crowd.held :=
      (together name).free idle .document
    apply agree_blank
    · exact looks_blank akin.settings akin.now akin.freshId akin.client
        ⟨(agrees name).holds.wired.1, wired⟩ ⟨current, unused⟩
        (document.trans unknown.1.symm) (manual.trans unknown.2.symm) untold
    · exact ⟨fun member => held ((forgets.held _).mp member),
        List.not_mem_nil⟩
    · exact ⟨⟨(agrees name).made.1.held, (agrees name).made.1.restorings⟩,
        made_fresh registry⟩
    · exact ⟨forgets.waiting.trans idle, rfl⟩
    · exact (List.append_nil _).symm
    · exact (List.append_nil _).symm
  · have rest := agrees name
    simpa only [Function.update_of_ne same] using rest

/-- The engine that was dropped is nobody's. -/
theorem Together.drop (together : Together olds pasts ids crowd alone)
    (forgets : Forgets event crowd forgotten) {id : EngineId}
    (used : Keyed.get? event crowd.state.current = some id) :
    Outside (Function.update ids event fun _ _ => False) forgotten id := by
  have looks (name : String) : Looks name (olds name)
      ⟨ids name, crowd.state, (alone name).state⟩ := (together name).holds
  obtain ⟨has, about⟩ := (looks event).wired.1.current event id used
  refine ⟨by rw [forgets.state]; exact has_reset has, fun name twin => ?_⟩
  by_cases same : name = event
  · subst same
    simp
  · rw [Function.update_of_ne same]
    intro there
    exact same (((looks name).about id twin there).symm.trans about)

section Reset

variable {settings : Settings} {now : Timestamp} {freshId : String}
variable {client : Client} {history : List (String × Act Action)}

/-- After any history at whose end nothing is under way for an event, resetting
it is as good as a new registry with the same client.  The acts on the event that
are possible afterwards, whatever else is done, are those that are possible there,
and they show the same: the same engine, documents and answers, the same calls and
notices, in the same order.  The engine that was dropped never changes again. -/
theorem reset_gives_a_fresh_context
    (ran : after? (start settings now freshId client) history = some crowd)
    (idle : (crowd.part event).waiting = []) :
    ∃ forgotten, crowd.act? scene (event, .start .reset) = some forgotten ∧
      (∀ acts later, after? forgotten acts = some later →
        ∃ fresh, after? (start settings now freshId crowd.state.client)
            (Act.on event acts) = some fresh ∧
          view event later =
            (view event forgotten).after (view event fresh)) ∧
      (∀ acts fresh, after? (start settings now freshId crowd.state.client)
          (Act.on event acts) = some fresh →
        ∃ later, after? forgotten (Act.on event acts) = some later) ∧
      ∀ id, Keyed.get? event crowd.state.current = some id →
        ∀ acts later, after? forgotten acts = some later →
          later.state.engine id = crowd.state.engine id := by
  obtain ⟨others, ids, -, together, progress⟩ :=
    (together_fresh settings now freshId client).ran ran
  have akin := progress.akin
  obtain ⟨forgotten, reset, forgets⟩ := exists_forgets event crowd
  have frame : Frame event (fun _ _ => False) crowd.state forgotten.state :=
    forgets.state ▸ Frame.of_reset
  have same : Akin (.initial settings now freshId crowd.state.client)
      forgotten.state :=
    ⟨frame.settings.trans akin.settings, frame.now.trans akin.now,
      frame.freshId.trans akin.freshId, frame.client⟩
  have begun := together.forget idle reset forgets same
    (wired_initial settings now freshId crowd.state.client) rfl ⟨rfl, rfl⟩ rfl
  refine ⟨forgotten, reset, fun acts later went => ?_,
    fun acts fresh went => ?_, fun id used acts later went => ?_⟩
  · obtain ⟨others, more, each, agrees, -⟩ := begun.ran went
    have alone := each event
    have agree := agrees event
    simp only [Function.update_self] at alone agree
    obtain ⟨told, calls, results, same⟩ := view_of_agree agree
    refine ⟨others event, alone, ?_⟩
    rw [same, told, calls, results]
    rfl
  · obtain ⟨-, name, stops⟩ | ⟨later, -, -, whole, -⟩ :=
      begun.run (Act.on event acts)
    · by_cases same : name = event
      · subst same
        rw [Act.on_on, Function.update_self] at stops
        rw [went] at stops
        cases stops
      · rw [Act.on_on_of_ne same] at stops
        cases stops
    · exact ⟨later, whole⟩
  · obtain ⟨_, _, -, -, progress⟩ := begun.ran went
    rw [progress.outside (together.drop forgets used), forgets.state,
      Registry.reset_engine]

/-- An observed engine hears of a title. -/
def titled : List (String × Act Action) :=
  [ ("one", .start (.engine .observe)), ("one", .start (.read false)),
    ("one", .goOn 0),
    ("one", .answer 0 (.response 200 (.json (.obj
      [("ai", .obj [("title", .str "Buyers")])])))) ]

/-- A title is heard of again after a reset. -/
theorem reset_gives_a_fresh_context_after_title :
    ∃ crowd forgotten later fresh,
      after? (start .standard default "" nearby) titled = some crowd ∧
      crowd.act? scene ("one", .start .reset) = some forgotten ∧
      after? forgotten (Act.on "one" titled) = some later ∧
      after? (start .standard default "" crowd.state.client)
        (Act.on "one" titled) = some fresh ∧
      (view "one" fresh).told.length = 1 ∧
      view "one" later = (view "one" forgotten).after (view "one" fresh) := by
  have ends : ((after? (start .standard default "" nearby) titled).bind
      fun crowd => (after? (start .standard default "" crowd.state.client)
        (Act.on "one" titled)).map fun fresh =>
          ((crowd.part "one").waiting.isEmpty,
            (view "one" fresh).told.length)) = some (true, 1) := by
    decide +kernel
  obtain ⟨crowd, ran, rest⟩ := Option.bind_eq_some_iff.mp ends
  obtain ⟨fresh, went, shown⟩ := Option.map_eq_some_iff.mp rest
  obtain ⟨idle, told⟩ := Prod.mk.inj shown
  obtain ⟨forgotten, reset, shows, possible, -⟩ :=
    reset_gives_a_fresh_context ran (List.isEmpty_iff.mp idle)
  obtain ⟨later, goes⟩ := possible titled fresh went
  obtain ⟨other, again, same⟩ := shows _ later goes
  rw [Act.on_on, went] at again
  obtain rfl := Option.some.inj again
  exact ⟨crowd, forgotten, later, fresh, ran, reset, goes, went, told, same⟩

end Reset

end Isolation
end Audience
