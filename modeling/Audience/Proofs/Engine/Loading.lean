import Audience.Engine.Saved
import Audience.Proofs.Client.Solo

/-!
# Loading saved segments on one's own

An engine that looks for a saved segment, and that nothing overlaps, loads the
list unless it has one, and loads it once more if the segment is not in it.  A
list that was loaded is kept, and may fill in the prompt of the segment on
screen.
-/

namespace Audience
namespace Engine

open Client (Listed)

/-- The loaded list is kept, and may fill in the prompt on screen. -/
def listed (id : EngineId) (segments : List SavedSegment)
    (course : Course Registry) : Course Registry :=
  { course with
    state :=
      (course.state.modifyEngine id fun engine =>
        { engine with saved := some segments }).backfillPrompt id }

/-- The changes that loading makes are allowed. -/
structure Lenient (terms : Terms Registry) (id : EngineId) : Prop where
  opened : ∀ registry : Registry, terms.changes registry registry.opened
  kept : ∀ (registry : Registry) segments, terms.changes registry
    (registry.modifyEngine id fun engine =>
      { engine with saved := some segments })
  filled : ∀ registry : Registry,
    terms.changes registry (registry.backfillPrompt id)

theorem lenient_any (id : EngineId) : Lenient Terms.any id :=
  ⟨fun _ => trivial, fun _ _ => trivial, fun _ => trivial⟩

variable {terms : Terms Registry} {id : EngineId}

/-- How loading the list ends. -/
inductive Loaded (id : EngineId) (refresh : Bool) (course : Course Registry) :
    Except Fault (Outcome (List SavedSegment)) → Course Registry → Prop where
  /-- It was loaded before. -/
  | known {segments : List SavedSegment}
      (saved : (course.state.engine id).saved = some segments)
      (kept : refresh = false) :
      Loaded id refresh course (.ok (.ok segments))
        (course.free (.savedSegments id))
  /-- It could not be loaded. -/
  | failed {problem : Problem} {later : Course Registry}
      (needed : (course.state.engine id).saved = none ∨ refresh = true)
      (asked : Listed (some (course.state.engine id).event)
        (course.hold (.savedSegments id)) (.ok (.error problem)) later) :
      Loaded id refresh course (.ok (.error problem))
        (later.free (.savedSegments id))
  /-- Loading stopped. -/
  | stopped {fault : Fault} {later : Course Registry}
      (needed : (course.state.engine id).saved = none ∨ refresh = true)
      (asked : Listed (some (course.state.engine id).event)
        (course.hold (.savedSegments id)) (.error fault) later) :
      Loaded id refresh course (.error fault)
        (later.free (.savedSegments id))
  /-- It is loaded now. -/
  | listed {segments : List SavedSegment} {later : Course Registry}
      (needed : (course.state.engine id).saved = none ∨ refresh = true)
      (asked : Listed (some (course.state.engine id).event)
        (course.hold (.savedSegments id)) (.ok (.ok segments)) later) :
      Loaded id refresh course (.ok (.ok segments))
        (listed id segments (later.free (.savedSegments id)))

theorem loadList_eq (id : EngineId) (refresh : Bool) :
    loadList id refresh =
      Flow.locked (.savedSegments id) (.inspect fun registry =>
        match (registry.engine id).saved, refresh with
        | some segments, false => .done (false, .ok segments)
        | _, _ => (loadListOf id (registry.engine id).event).bind
            fun result => .done (true, result)) :=
  rfl

/-- Asking for the list ends as listing the saved segments does. -/
theorem solo_loadListOf {event : String} (course : Course Registry)
    {ends : Except Fault (Outcome (List SavedSegment)) →
      Course Registry → Prop}
    (lenient : Lenient terms id)
    (failed : ∀ problem later,
      Listed (some event) course (.ok (.error problem)) later →
        ends (.ok (.error problem)) later)
    (stopped : ∀ fault later,
      Listed (some event) course (.error fault) later →
        ends (.error fault) later)
    (found : ∀ segments later,
      Listed (some event) course (.ok (.ok segments)) later →
        ends (.ok (.ok segments)) { later with
          state := later.state.modifyEngine id fun engine =>
            { engine with saved := some segments } }) :
    (loadListOf id event).Solo terms ends course := by
  show ((Client.listSaved (some event)).bind _).Solo terms ends course
  rw [Flow.solo_bind]
  apply Client.solo_listSaved (lenient.opened _)
  intro result later asked
  obtain fault | problem | segments := result
  · exact stopped fault later asked
  · exact failed problem later asked
  · exact ⟨lenient.kept _ _, found segments later asked⟩

/-- A list that was just loaded may fill in the prompt on screen. -/
def filling (id : EngineId) (loaded : Bool × Outcome (List SavedSegment)) :
    Flow Registry (Outcome (List SavedSegment)) :=
  if loaded.1 && loaded.2.isOk then
    .inspect fun registry =>
      .update (registry.backfillPrompt id) (.done loaded.2)
  else .done loaded.2

theorem loadSaved_eq (id : EngineId) (refresh : Bool) :
    loadSaved id refresh = (loadList id refresh).bind (filling id) :=
  rfl

/-- Loading the list ends in one of these ways. -/
theorem solo_loadSaved {refresh : Bool} {course : Course Registry}
    {ends : Except Fault (Outcome (List SavedSegment)) →
      Course Registry → Prop}
    (lenient : Lenient terms id)
    (free : terms.live → Lock.savedSegments id ∉ course.held)
    (ended : ∀ result later, Loaded id refresh course result later →
      ends result later) :
    (loadSaved id refresh).Solo terms ends course := by
  rw [loadSaved_eq, Flow.solo_bind, loadList_eq, Flow.solo_locked]
  refine ⟨free, ?_⟩
  have asking (needed : (course.state.engine id).saved = none ∨
      refresh = true) :
      ((loadListOf id (course.state.engine id).event).bind fun result =>
        .done (true, result)).Solo terms (fun result later =>
          (match result with
            | .ok loaded => (filling id loaded).Solo terms ends
            | .error fault => ends (.error fault))
          (later.free (.savedSegments id)))
        (course.hold (.savedSegments id)) := by
    rw [Flow.solo_bind]
    refine solo_loadListOf (course.hold (.savedSegments id)) lenient ?_ ?_ ?_
    · exact fun problem later asked => ended _ _ (.failed needed asked)
    · exact fun fault later asked => ended _ _ (.stopped needed asked)
    · exact fun segments later asked =>
        ⟨lenient.filled _, ended _ _ (.listed needed asked)⟩
  have same : (course.hold (.savedSegments id)).free (.savedSegments id) =
      course.free (.savedSegments id) := by
    simp [Course.hold, Course.free]
  show Flow.Solo terms _ (match (course.state.engine id).saved, refresh with
    | some segments, false => Flow.done (false, Except.ok segments)
    | _, _ => (loadListOf id (course.state.engine id).event).bind fun result =>
        .done (true, result)) _
  cases saved : (course.state.engine id).saved with
  | none =>
      apply (asking (.inl saved)).mono
      rintro (_ | _) later ended <;> exact ended
  | some segments =>
      cases refresh with
      | true =>
          apply (asking (.inr rfl)).mono
          rintro (_ | _) later ended <;> exact ended
      | false =>
          show ends (.ok (.ok segments)) _
          rw [same]
          exact ended _ _ (.known saved rfl)

/-- Loading the list gives its lock back. -/
theorem Loaded.held {refresh : Bool} {course later : Course Registry}
    {result : Except Fault (Outcome (List SavedSegment))}
    (loaded : Loaded id refresh course result later) :
    later.held = course.held.filter (· ≠ .savedSegments id) := by
  have released {asking : Course Registry}
      (same : asking.held = (course.hold (.savedSegments id)).held) :
      (asking.free (.savedSegments id)).held =
        course.held.filter (· ≠ .savedSegments id) := by
    simp [Course.free, same, Course.hold]
  cases loaded with
  | known saved kept => rfl
  | failed needed asked => exact released asked.held
  | stopped needed asked => exact released asked.held
  | listed needed asked => exact released asked.held

/-- What looking for a segment ends with, once the list is settled. -/
def found (id : EngineId) (segment : String)
    (loaded : Except Fault (Outcome (List SavedSegment)))
    (registry : Registry) : Except Fault (Outcome SavedSegment) :=
  match loaded with
  | .error fault => .error fault
  | .ok (.error problem) => .ok (.error problem)
  | .ok (.ok _) =>
      match (registry.engine id).findSaved? segment with
      | some saved => .ok (.ok saved)
      | none =>
          .ok (.error (.notFound Client.savedResource segment none))

/-- How looking for a saved segment ends. -/
inductive Sought (id : EngineId) (segment : String)
    (course : Course Registry) :
    Except Fault (Outcome SavedSegment) → Course Registry → Prop where
  /-- One look at the list is enough. -/
  | once {loaded : Except Fault (Outcome (List SavedSegment))}
      {later : Course Registry}
      (first : Loaded id false course loaded later)
      (settled : loaded.toOption.bind Except.toOption = none ∨
        ((later.state.engine id).findSaved? segment).isSome) :
      Sought id segment course (found id segment loaded later.state)
        later
  /-- The list is loaded once more. -/
  | again {segments : List SavedSegment} {middle later : Course Registry}
      {loaded : Except Fault (Outcome (List SavedSegment))}
      (first : Loaded id false course (.ok (.ok segments)) middle)
      (missing : (middle.state.engine id).findSaved? segment = none)
      (second : Loaded id true middle loaded later) :
      Sought id segment course (found id segment loaded later.state)
        later

/-- Looking for a saved segment ends in one of these ways. -/
theorem solo_requireSaved {segment : String} {course : Course Registry}
    {ends : Except Fault (Outcome SavedSegment) → Course Registry → Prop}
    (lenient : Lenient terms id)
    (free : terms.live → Lock.savedSegments id ∉ course.held)
    (ended : ∀ result later, Sought id segment course result later →
      ends result later) :
    (requireSaved id segment).Solo terms ends course := by
  show ((loadSaved id false).bind _).Solo terms ends course
  rw [Flow.solo_bind]
  apply solo_loadSaved lenient free
  intro loaded middle first
  obtain fault | problem | segments := loaded
  · exact ended _ _ (.once first (.inl rfl))
  · exact ended _ _ (.once first (.inl rfl))
  show Flow.Solo terms ends (match (middle.state.engine id).findSaved? segment
    with | some saved => _ | none => _) middle
  cases missing : (middle.state.engine id).findSaved? segment with
  | some saved =>
      have told := ended _ _ (.once first (.inr (by simp [missing])))
      simp only [found, missing] at told
      exact told
  | none =>
      show ((loadSaved id true).bind _).Solo terms ends middle
      rw [Flow.solo_bind]
      refine solo_loadSaved lenient ?_ ?_
      · rw [first.held]
        simp
      · intro loaded later second
        have told := ended _ _ (.again first missing second)
        obtain fault | problem | again := loaded
        · exact told
        · exact told
        show Flow.Solo terms ends (match (later.state.engine id).findSaved?
          segment with | some saved => _ | none => _) later
        unfold found at told
        cases known : (later.state.engine id).findSaved? segment with
        | some saved =>
            simp only [known] at told
            exact told
        | none =>
            simp only [known] at told
            exact told

section Talk

/-- What is said when the saved segments are loaded, unless they are known or to
be refreshed. -/
inductive Lists (client : Client) (event : String)
    (known : Option (List SavedSegment)) (refresh : Bool) :
    List (Call × Reply) → Except Fault (Outcome (List SavedSegment)) →
      Prop where
  | known {segments : List SavedSegment} (loaded : known = some segments)
      (kept : refresh = false) :
      Lists client event known refresh [] (.ok (.ok segments))
  | listing {said : List (Call × Reply)}
      {result : Except Fault (Outcome (List SavedSegment))}
      (needed : known = none ∨ refresh = true)
      (listing : Client.Listing client (some event) said result) :
      Lists client event known refresh said result

/-- At most one call is sent, and it lists the saved segments. -/
theorem Lists.calls {client : Client} {event : String}
    {known : Option (List SavedSegment)} {refresh : Bool}
    {said : List (Call × Reply)}
    {result : Except Fault (Outcome (List SavedSegment))}
    (lists : Lists client event known refresh said result) :
    said.length ≤ 1 ∧ ∀ exchange ∈ said,
      client.call "GET" (Client.pathOf event "saved-segments") none =
        .ok exchange.1 := by
  cases lists with
  | known loaded kept => exact ⟨by simp, fun _ => nofun⟩
  | listing needed listing =>
      refine ⟨listing.calls.1, fun exchange member => ?_⟩
      obtain ⟨_, ⟨⟩, made⟩ := listing.calls.2 exchange member
      exact made

/-- The saved segment with an identifier in a list. -/
def pick (segment : String) (segments : List SavedSegment) :
    Option SavedSegment :=
  segments.find? fun saved => saved.id == segment

/-- What comes of looking for a saved segment in the list. -/
def picked (segment : String)
    (listed : Except Fault (Outcome (List SavedSegment))) :
    Except Fault SavedSegment :=
  match Flow.unwrapped listed with
  | .error fault => .error fault
  | .ok segments =>
      match pick segment segments with
      | some saved => .ok saved
      | none => .error (.problem (.notFound Client.savedResource segment none))

/-- What is said when a saved segment is looked for, and what comes of it. -/
inductive Finds (client : Client) (event : String)
    (known : Option (List SavedSegment)) (segment : String) :
    List (Call × Reply) → Except Fault SavedSegment → Prop where
  /-- One list is enough: it cannot be loaded, or has the segment. -/
  | once {said : List (Call × Reply)}
      {result : Except Fault (Outcome (List SavedSegment))}
      (lists : Lists client event known false said result)
      (enough : ∀ segments, result = .ok (.ok segments) →
        (pick segment segments).isSome) :
      Finds client event known segment said (picked segment result)
  /-- The list does not have the segment, and is loaded once more. -/
  | again {early late : List (Call × Reply)} {segments : List SavedSegment}
      {result : Except Fault (Outcome (List SavedSegment))}
      (first : Lists client event known false early (.ok (.ok segments)))
      (missing : pick segment segments = none)
      (second : Lists client event (some segments) true late result) :
      Finds client event known segment (early ++ late) (picked segment result)

/-- At most two calls are sent, and both list the saved segments. -/
theorem Finds.calls {client : Client} {event segment : String}
    {known : Option (List SavedSegment)} {said : List (Call × Reply)}
    {result : Except Fault SavedSegment}
    (finds : Finds client event known segment said result) :
    said.length ≤ 2 ∧ ∀ exchange ∈ said,
      client.call "GET" (Client.pathOf event "saved-segments") none =
        .ok exchange.1 := by
  cases finds with
  | once lists enough =>
      exact ⟨Nat.le_succ_of_le lists.calls.1, lists.calls.2⟩
  | again first missing second =>
      refine ⟨?_, fun exchange member => ?_⟩
      · rw [List.length_append]
        exact Nat.add_le_add first.calls.1 second.calls.1
      · obtain early | late := List.mem_append.mp member
        · exact first.calls.2 exchange early
        · exact second.calls.2 exchange late

/-- Saved segments cannot be listed: the call cannot be sent, or the reply is no
list. -/
inductive Unlisted (client : Client) (event : String)
    (said : List (Call × Reply)) : Prop where
  | unsendable (unsendable :
      ¬ client.Sendable (Client.pathOf event "saved-segments") none)
  | illegible {exchange : Call × Reply} (member : exchange ∈ said)
      (listing : client.call "GET" (Client.pathOf event "saved-segments") none =
        .ok exchange.1)
      (illegible : exchange.2.ensureSendable ≠ .ok () ∨
        ¬ Client.Legible none Client.HasPlainRows exchange.2)

theorem Unlisted.mono {client : Client} {event : String}
    {said more : List (Call × Reply)} (unlisted : Unlisted client event said)
    (within : said ⊆ more) : Unlisted client event more := by
  cases unlisted with
  | unsendable unsendable => exact .unsendable unsendable
  | illegible member listing illegible =>
      exact .illegible (within member) listing illegible

theorem Lists.stopped {client : Client} {event : String}
    {known : Option (List SavedSegment)} {refresh : Bool}
    {said : List (Call × Reply)} {fault : Fault}
    (lists : Lists client event known refresh said (.error fault)) :
    Unlisted client event said := by
  have calls := lists.calls.2
  cases lists with
  | listing needed listing =>
      obtain ⟨_, ⟨⟩, unsendable⟩ | ⟨exchange, member, illegible⟩ :=
        listing.stopped Client.settledIff_readSavedRows
      · exact .unsendable unsendable
      · exact .illegible member (calls exchange member) illegible

/-- More than a problem comes of looking for a saved segment only if the saved
segments cannot be listed. -/
theorem Finds.stopped {client : Client} {event segment : String}
    {known : Option (List SavedSegment)} {said : List (Call × Reply)}
    {fault : Fault}
    (finds : Finds client event known segment said (.error fault)) :
    (∃ problem, fault = .problem problem) ∨ Unlisted client event said := by
  have last {known : Option (List SavedSegment)} {refresh : Bool}
      {said : List (Call × Reply)}
      {listed : Except Fault (Outcome (List SavedSegment))}
      (lists : Lists client event known refresh said listed)
      (same : Except.error fault = picked segment listed) :
      (∃ problem, fault = .problem problem) ∨ Unlisted client event said := by
    obtain other | problem | segments := listed
    · exact .inr lists.stopped
    · exact .inl ⟨problem, Except.error.inj same⟩
    · left
      unfold picked at same
      dsimp only [Flow.unwrapped] at same
      split at same
      · cases same
      · exact ⟨_, Except.error.inj same⟩
  generalize same : Except.error fault = result at finds
  cases finds with
  | once lists enough => exact last lists same
  | again first missing second =>
      exact (last second same).imp_right fun unlisted =>
        unlisted.mono fun _ => List.mem_append_right _

/-- Only a segment with the identifier is found. -/
theorem id_of_pick {segment : String} {segments : List SavedSegment}
    {saved : SavedSegment} (found : pick segment segments = some saved) :
    saved.id = segment := by
  have same := List.find?_some found
  exact beq_iff_eq.mp same

/-- A missing prompt is that of the saved segment on screen, and a blank one is
shown. -/
theorem of_missingPrompt? {engine : Engine} {prompt : String}
    (missing : engine.missingPrompt? = some prompt) :
    Text.isBlankText engine.state.prompt = true ∧
      ∃ identifier saved, engine.state.savedId = some identifier ∧
        engine.findSaved? identifier = some saved ∧ saved.prompt = prompt := by
  unfold Engine.missingPrompt? at missing
  split at missing
  · cases missing
  · next identifier shown =>
      split at missing
      · next blank =>
          split at missing
          · next saved listed =>
              split at missing
              · cases missing
              · exact ⟨blank, identifier, saved, shown, listed,
                  Option.some.inj missing⟩
          · cases missing
      · cases missing

/-- A prompt is filled in where one is missing. -/
def filledIn (engine : Engine) : Engine :=
  { engine with state := { engine.state with
      prompt := engine.missingPrompt?.getD engine.state.prompt } }

theorem engine_backfillPrompt (registry : Registry) (id : EngineId) :
    (registry.backfillPrompt id).engine id =
      filledIn (registry.engine id) := by
  unfold Registry.backfillPrompt filledIn
  cases missing : (registry.engine id).missingPrompt? with
  | none => rfl
  | some prompt =>
      have has : registry.Has id := by
        by_contra lacks
        rw [Registry.engine_of_not_has lacks] at missing
        cases missing
      rw [Registry.engine_transition, Registry.engine_modifyEngine_self has]
      rfl

/-- Loading the list is all that happens to an engine: nothing is filled in, for
there is no saved segment on screen. -/
structure Loads (id : EngineId) (before after : Registry) : Prop where
  has : after.Has id ↔ before.Has id
  client : ∃ opened, after.client = { before.client with opened }
  engine : ∃ saved, after.engine id = { before.engine id with saved }

theorem Loads.refl (id : EngineId) (before : Registry) :
    Loads id before before :=
  ⟨Iff.rfl, ⟨_, rfl⟩, _, rfl⟩

theorem Loads.trans {before middle after : Registry}
    (first : Loads id before middle) (second : Loads id middle after) :
    Loads id before after := by
  obtain ⟨opened, client⟩ := first.client
  obtain ⟨opened', client'⟩ := second.client
  obtain ⟨saved, engine⟩ := first.engine
  obtain ⟨saved', engine'⟩ := second.engine
  exact ⟨second.has.trans first.has, ⟨opened', by rw [client', client]⟩,
    saved', by rw [engine', engine]⟩

theorem loads_opened (id : EngineId) (before : Registry) :
    Loads id before before.opened :=
  ⟨Iff.rfl, ⟨true, rfl⟩, _, rfl⟩

variable {course later : Course Registry} {refresh : Bool}

/-- Keeping the list keeps it. -/
theorem engine_listed (course : Course Registry) (segments : List SavedSegment)
    (has : course.state.Has id)
    (unsaved : (course.state.engine id).state.savedId = none) :
    (listed id segments course).state.engine id =
        { course.state.engine id with saved := some segments } ∧
      Loads id course.state (listed id segments course).state := by
  have missing : ({ course.state.engine id with
      saved := some segments } : Engine).missingPrompt? = none := by
    simp [Engine.missingPrompt?, unsaved]
  have kept : (listed id segments course).state.engine id =
      { course.state.engine id with saved := some segments } := by
    show ((Registry.modifyEngine _ _ _).backfillPrompt id).engine id = _
    rw [engine_backfillPrompt, Registry.engine_modifyEngine_self has,
      filledIn, missing]
    rfl
  refine ⟨kept, ?_, ?_, _, kept⟩
  · show ((Registry.modifyEngine _ _ _).backfillPrompt id).Has id ↔ _
    unfold Registry.backfillPrompt
    split
    · rw [Registry.has_transition, Registry.has_modifyEngine]
    · rw [Registry.has_modifyEngine]
  · refine ⟨course.state.client.opened, ?_⟩
    show ((Registry.modifyEngine _ _ _).backfillPrompt id).client = _
    unfold Registry.backfillPrompt
    split
    · rw [Registry.transition_client]
      rfl
    · rfl

/-- Asking for the list is a part of loading it. -/
theorem loads_of_asked
    {result : Except Fault (Outcome (List SavedSegment))}
    (asked : Listed (some (course.state.engine id).event)
      (course.hold (.savedSegments id)) result later) :
    Loads id course.state later.state := by
  obtain same | opened := asked.state
  · rw [same]
    exact .refl id _
  · rw [opened]
    exact loads_opened id _

/-- What is said while the list is loaded. -/
theorem Loaded.lists
    {result : Except Fault (Outcome (List SavedSegment))}
    (loaded : Loaded id refresh course result later) :
    ∃ said, later.log = course.log ++ said ∧
      Lists course.state.client (course.state.engine id).event
        (course.state.engine id).saved refresh said result := by
  have talk {middle : Course Registry}
      {result : Except Fault (Outcome (List SavedSegment))}
      (needed : (course.state.engine id).saved = none ∨ refresh = true)
      (asked : Listed (some (course.state.engine id).event)
        (course.hold (.savedSegments id)) result middle) :
      ∃ said, middle.log = course.log ++ said ∧
        Lists course.state.client (course.state.engine id).event
          (course.state.engine id).saved refresh said result := by
    obtain ⟨said, logged, listing⟩ := asked.said
    exact ⟨said, logged, .listing needed listing⟩
  cases loaded with
  | known saved kept =>
      exact ⟨[], (List.append_nil _).symm, .known saved kept⟩
  | failed needed asked =>
      have told := talk needed asked
      exact told
  | stopped needed asked =>
      have told := talk needed asked
      exact told
  | listed needed asked =>
      have told := talk needed asked
      exact told

/-- What loading the list comes to. -/
structure Loaded.Gives (id : EngineId) (refresh : Bool)
    (course : Course Registry)
    (result : Except Fault (Outcome (List SavedSegment)))
    (later : Course Registry) : Prop where
  loads : Loads id course.state later.state
  list : ∀ segments, result = .ok (.ok segments) →
    (later.state.engine id).saved = some segments
  said : ∃ said, later.log = course.log ++ said ∧
    Lists course.state.client (course.state.engine id).event
      (course.state.engine id).saved refresh said result

theorem Loaded.gives
    {result : Except Fault (Outcome (List SavedSegment))}
    (has : course.state.Has id)
    (unsaved : (course.state.engine id).state.savedId = none)
    (loaded : Loaded id refresh course result later) :
    Gives id refresh course result later := by
  have said := loaded.lists
  cases loaded with
  | known saved kept =>
      refine ⟨.refl id _, ?_, said⟩
      rintro _ ⟨⟩
      exact saved
  | failed needed asked =>
      have loads := loads_of_asked asked
      exact ⟨loads, fun _ => nofun, said⟩
  | stopped needed asked =>
      have loads := loads_of_asked asked
      exact ⟨loads, fun _ => nofun, said⟩
  | @listed segments middle needed asked =>
      have loads := loads_of_asked asked
      obtain ⟨saved, engine⟩ := loads.engine
      obtain ⟨kept, listing⟩ :=
        engine_listed (middle.free (.savedSegments id)) segments
          (loads.has.mpr has) (by
            show (middle.state.engine id).state.savedId = none
            rw [engine]
            exact unsaved)
      refine ⟨loads.trans listing, ?_, said⟩
      rintro _ ⟨⟩
      rw [kept]

theorem id_of_findSaved? {engine : Engine} {segment : String}
    {saved : SavedSegment} (found : engine.findSaved? segment = some saved) :
    saved.id = segment := by
  unfold Engine.findSaved? at found
  split at found
  · cases found
  · exact id_of_pick found

/-- The engine finds in its list what the list has. -/
theorem findSaved?_eq_pick {engine : Engine} {segments : List SavedSegment}
    {segment : String} (listed : engine.saved = some segments)
    (named : segment ≠ "") :
    engine.findSaved? segment = pick segment segments := by
  simp [Engine.findSaved?, Engine.savedSegments, listed, named, pick]

/-- What is said does not depend on whether the client was opened. -/
theorem Lists.unopened {client : Client} {opened : Bool} {event : String}
    {known : Option (List SavedSegment)} {said : List (Call × Reply)}
    {result : Except Fault (Outcome (List SavedSegment))}
    (lists : Lists { client with opened } event known refresh said result) :
    Lists client event known refresh said result := by
  cases lists with
  | known loaded kept => exact .known loaded kept
  | listing needed listing => exact .listing needed listing.unopened

theorem Finds.unopened {client : Client} {opened : Bool}
    {event segment : String} {known : Option (List SavedSegment)}
    {said : List (Call × Reply)} {result : Except Fault SavedSegment}
    (finds : Finds { client with opened } event known segment said result) :
    Finds client event known segment said result := by
  cases finds with
  | once lists enough => exact .once lists.unopened enough
  | again first missing second =>
      exact .again first.unopened missing second.unopened

/-- What is found in the list that was loaded. -/
theorem unwrapped_found {segment : String} {registry : Registry}
    {loaded : Except Fault (Outcome (List SavedSegment))}
    (list : ∀ segments, loaded = .ok (.ok segments) →
      (registry.engine id).saved = some segments)
    (named : segment ≠ "") :
    Flow.unwrapped (found id segment loaded registry) =
      picked segment loaded := by
  obtain fault | problem | segments := loaded
  · rfl
  · rfl
  · unfold found picked
    dsimp only [Flow.unwrapped]
    rw [findSaved?_eq_pick (list segments rfl) named]
    cases pick segment segments <;> rfl

theorem findSaved?_of_found {segment : String} {registry : Registry}
    {loaded : Except Fault (Outcome (List SavedSegment))}
    {saved : SavedSegment}
    (ended : found id segment loaded registry = .ok (.ok saved)) :
    (registry.engine id).findSaved? segment = some saved := by
  unfold found at ended
  split at ended
  · cases ended
  · cases ended
  · split at ended
    · next known =>
        cases ended
        exact known
    · cases ended

/-- What looking for a saved segment comes to. -/
theorem Sought.finds {segment : String}
    {result : Except Fault (Outcome SavedSegment)}
    (has : course.state.Has id)
    (unsaved : (course.state.engine id).state.savedId = none)
    (named : segment ≠ "") (sought : Sought id segment course result later) :
    Loads id course.state later.state ∧
      (∀ saved, result = .ok (.ok saved) →
        (later.state.engine id).findSaved? segment = some saved) ∧
      ∃ said, later.log = course.log ++ said ∧
        Finds course.state.client (course.state.engine id).event
          (course.state.engine id).saved segment said
          (Flow.unwrapped result) := by
  cases sought with
  | once first settled =>
      have gives := first.gives has unsaved
      obtain ⟨said, logged, lists⟩ := gives.said
      refine ⟨gives.loads, fun _ => findSaved?_of_found, said, logged, ?_⟩
      rw [unwrapped_found gives.list named]
      refine .once lists ?_
      rintro segments rfl
      rw [← findSaved?_eq_pick (gives.list segments rfl) named]
      exact settled.resolve_left (by simp [Except.toOption])
  | @again segments middle _ loaded first missing second =>
      have gives := first.gives has unsaved
      obtain ⟨early, logged, lists⟩ := gives.said
      obtain ⟨opened, client⟩ := gives.loads.client
      obtain ⟨saved, engine⟩ := gives.loads.engine
      have more := second.gives (gives.loads.has.mpr has) (by
        rw [engine]
        exact unsaved)
      obtain ⟨late, logged', lists'⟩ := more.said
      refine ⟨gives.loads.trans more.loads, fun _ => findSaved?_of_found,
        early ++ late, by rw [logged', logged, List.append_assoc], ?_⟩
      rw [unwrapped_found more.list named]
      refine .again lists ?_ ?_
      · rw [← findSaved?_eq_pick (gives.list segments rfl) named]
        exact missing
      · rw [gives.list segments rfl, client, engine] at lists'
        exact lists'.unopened

end Talk

end Engine
end Audience
