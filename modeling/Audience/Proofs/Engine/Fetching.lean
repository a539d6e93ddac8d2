import Audience.Proofs.Engine.Listing
import Audience.Proofs.Engine.Reloading

/-!
# Lists that are under way

Any number of calls on one engine load the list of saved segments, change a
segment, generate one or run one again.  Only a loader takes the lock: a list
that is on its way back is stored when it arrives, whatever the engine learned
meanwhile.  So the loaded list is what the replies told in the order in which
they arrived, and the rows of the backend are what they told in the order in
which it gave them.
-/

namespace Audience
namespace Fetching

open Engine
open Listing

/-- A call on an engine. -/
inductive Task where
  | load (refresh : Bool)
  | update (segment : String) (patch : SavedSegment.Patch)
  | generate (prompt title : String) (debug : Bool)
  | run (segment : SavedSegment)

/-- What a call does. -/
def Task.flow (id : EngineId) : Task → Flow Registry (Outcome Unit)
  | load refresh =>
      (loadSaved id refresh).bind fun result => .done (result.map fun _ => ())
  | update segment patch =>
      (updateSaved id segment patch).bind fun result =>
        .done (result.map fun _ => ())
  | generate prompt title debug => Engine.generate id prompt title debug
  | run segment => runSaved id segment

/-- The loaded list after the reply to one of the calls that a task sends. -/
def Task.habit (event : String) : Task → Habit (Option (List SavedSegment))
  | load _ =>
      { sends := Lists event
        heard := fun _ reply seen => (listed? reply).or seen }
  | update _ _ =>
      { sends := fun call => changes call = true
        heard := fun _ reply seen =>
          match row? reply with
          | some row => seen.map (replaced row)
          | none => seen }
  | generate _ _ _ =>
      { sends := fun _ => True
        heard := fun call reply seen =>
          if creates call && (row? reply).isSome then none else seen }
  | run _ =>
      { sends := fun call => creates call = false
        heard := fun call reply seen =>
          if changes call && (row? reply).isSome then none else seen }

/-- Restoring is not among the calls. -/
def habits (event : String) : Work Task → Habit (Option (List SavedSegment))
  | .task task => task.habit event
  | .restoring _ => { sends := fun _ => False, heard := fun _ _ seen => seen }

section Heeding

variable {id : EngineId} {event : String} {now : Registry}
variable {habit : Habit (Option (List SavedSegment))}
variable {due : Option (List SavedSegment)}

/-- What is asked of an event heeds the reply if what follows does. -/
theorem heeds_asking {α : Type} {method suffix : String} {body : Option Json}
    {missing : Option (String × String)} (read : Json → Except Fault α)
    {ends : Except Fault (Outcome α) → Registry →
      Option (List SavedSegment) → Prop}
    (settled : (outlook id event).Due now due)
    (sends : ∀ client : Client, ∀ call,
      client.call method (Client.pathOf event suffix) body = .ok call →
        habit.sends call)
    (stopped : ∀ result later due, (outlook id event).Due later due →
      (∀ value, result ≠ .ok (.ok value)) → ends result later due)
    (unsaid : ∀ call reply seen, call.method = Text.upper method →
      Client.said? read reply = none → habit.heard call reply seen = seen)
    (said : ∀ call reply value later, call.method = Text.upper method →
      call.body = body → Client.said? read reply = some value →
      (outlook id event).proper later →
      ends (.ok (.ok value)) later
        (habit.heard call reply ((outlook id event).view later))) :
    (Flow.guard ((Client.eventPath (some event) suffix).bind fun path =>
      (Client.request method path body missing).bind fun json =>
        .ofResult (read json))).Heeds (outlook id event) habit ends now due := by
  rw [Flow.heeds_guard]
  unfold Client.eventPath
  cases named : Registry.nonempty? (some event) with
  | none => exact stopped _ _ _ settled fun value => by simp [Flow.guarded]
  | some name =>
      obtain rfl := Registry.eq_of_nonempty? named
      show Flow.Heeds _ _ _ (Flow.bind (Client.request method _ body missing) _)
        _ _
      rw [Flow.heeds_bind, Client.request_eq]
      obtain unfit | fit := Client.ensureOpen_cases now.client
      · simp only [Flow.Heeds, unfit]
        exact stopped _ _ _ settled fun value => by simp [Flow.guarded]
      simp only [Flow.Heeds, fit, Client.call_opened]
      have opened := settled.spared (spares_opened now)
      cases made : now.client.call method (Client.pathOf name suffix) body with
      | error misuse =>
          exact stopped _ _ _ opened fun value => by simp [Flow.guarded]
      | ok call =>
          obtain ⟨sameMethod, sameBody, -⟩ := Client.parts_of_call made
          refine ⟨opened, sends _ call made, fun reply later proper => ?_⟩
          rw [Flow.heeds_ofResult]
          have ended : ∀ result, Client.outcome missing read reply = result →
              ends result later
                (habit.heard call reply ((outlook id name).view later)) := by
            intro result same
            by_cases well : ∃ value, result = .ok (.ok value)
            · obtain ⟨value, rfl⟩ := well
              exact said call reply value later sameMethod sameBody
                (Client.outcome_eq_ok_iff.mp same) proper
            · have silent : Client.said? read reply = none := by
                rw [Option.eq_none_iff_forall_ne_some]
                exact fun value also => well
                  ⟨value, same.symm.trans (Client.outcome_eq_ok_iff.mpr also)⟩
              rw [unsaid call reply _ sameMethod silent]
              exact stopped _ _ _ ⟨rfl, proper⟩ fun value also =>
                well ⟨value, also⟩
          have outcome := ended _ rfl
          unfold Client.outcome at outcome
          cases answered : Client.ended missing reply with
          | error fault => rwa [answered] at outcome
          | ok json =>
              rw [answered] at outcome
              exact Flow.heeds_ofResult.mpr outcome

/-- A flow that spares the list and sends only calls that its habit passes over
heeds them. -/
theorem heeds_sparing {α : Type} {flow : Flow Registry α}
    {passed : Call → Prop}
    {ends : Except Fault α → Registry → Option (List SavedSegment) → Prop}
    (settled : (outlook id event).Due now due)
    (makes : flow.Makes (outlook id event).Spares (fun _ => True) now)
    (sends : flow.Sends passed)
    (passes : ∀ call, passed call → habit.sends call ∧
      ∀ reply seen, habit.heard call reply seen = seen)
    (done : ∀ result later due, (outlook id event).Due later due →
      ends result later due) :
    flow.Heeds (outlook id event) habit ends now due :=
  makes.heeds done (sends.relax passes) settled

/-- Asking for the list heeds the reply. -/
theorem heeds_loadListOf (refresh : Bool)
    (settled : (outlook id event).Due now due) :
    (loadListOf id event).Heeds (outlook id event)
      ((Task.load refresh).habit event) (fun _ => (outlook id event).Due)
      now due := by
  show Flow.Heeds _ _ _ ((Client.listSaved (some event)).bind _) _ _
  rw [Flow.heeds_bind, Client.listSaved_eq]
  apply heeds_asking _ settled
  · exact fun client call made => ⟨client, made⟩
  · intro result later due settled silent
    obtain fault | problem | segments := result
    · exact settled
    · exact settled
    · exact absurd rfl (silent segments)
  · intro call reply seen _ silent
    show (listed? reply).or seen = seen
    rw [listed?, silent, Option.none_or]
  · intro call reply segments later _ _ said proper
    show (outlook id event).Due _ ((listed? reply).or _)
    rw [listed?, said, Option.some_or]
    obtain ⟨has, named⟩ := proper
    refine ⟨?_, by simpa using has, ?_⟩
    · show (Registry.engine id _).saved = _
      rw [Registry.engine_modifyEngine_self has]
    · rw [Registry.engine_modifyEngine_self has]
      exact named

theorem heeds_load (refresh : Bool) (proper : (outlook id event).proper now) :
    ((Task.load refresh).flow id).Heeds (outlook id event)
      ((Task.load refresh).habit event) (fun _ => (outlook id event).Due) now
      ((outlook id event).view now) := by
  have filled (loaded : Bool × Outcome (List SavedSegment)) (later : Registry)
      (due : Option (List SavedSegment))
      (settled : (outlook id event).Due later due) :
      (filling id loaded).Heeds (outlook id event)
        ((Task.load refresh).habit event) (fun _ => (outlook id event).Due)
        later due := by
    unfold filling
    split
    · exact settled.spared (spares_backfillPrompt later id)
    · exact settled
  have fetches (later : Registry) (proper : (outlook id event).proper later) :
      ((loadListOf id (later.engine id).event).bind fun result =>
        .done (true, result)).Heeds (outlook id event)
          ((Task.load refresh).habit event) (fun _ => (outlook id event).Due)
          later ((outlook id event).view later) := by
    rw [proper.2, Flow.heeds_bind]
    apply (heeds_loadListOf refresh ⟨rfl, proper⟩).mono
    intro result ended due settled
    cases result <;> exact settled
  have lists : (loadList id refresh).Heeds (outlook id event)
      ((Task.load refresh).habit event) (fun _ => (outlook id event).Due) now
      ((outlook id event).view now) := by
    rw [loadList_eq]
    apply Flow.heeds_locked ⟨rfl, proper⟩
    intro later proper
    simp only [Flow.Heeds]
    cases known : (later.engine id).saved with
    | none => exact fetches later proper
    | some segments =>
        cases refresh with
        | true => exact fetches later proper
        | false => exact ⟨rfl, proper⟩
  show Flow.Heeds _ _ _ ((loadSaved id refresh).bind _) _ _
  rw [Flow.heeds_bind, loadSaved_eq, Flow.heeds_bind]
  apply lists.mono
  intro result later due settled
  obtain fault | loaded := result
  · exact settled
  · apply (filled loaded later due settled).mono
    intro result later due settled
    cases result <;> exact settled

/-- Changing a segment heeds the reply. -/
theorem heeds_update (segment : String) (patch : SavedSegment.Patch)
    (proper : (outlook id event).proper now) :
    ((Task.update segment patch).flow id).Heeds (outlook id event)
      ((Task.update segment patch).habit event)
      (fun _ => (outlook id event).Due) now ((outlook id event).view now) := by
  show Flow.Heeds _ _ _ ((updateSaved id segment patch).bind _) _ _
  rw [Flow.heeds_bind]
  show Flow.Heeds _ _ _ ((Client.updateSaved (some (now.engine id).event)
    segment patch).bind _) _ _
  rw [proper.2, Flow.heeds_bind]
  unfold Client.updateSaved Client.sendPatch
  simp only [Client.savedRow_eq]
  apply heeds_asking Client.readSavedRow ⟨rfl, proper⟩
  · exact fun client call made =>
      changes_of_patch (Client.parts_of_call made).1
  · intro result later due settled silent
    obtain fault | problem | saved := result
    · exact settled
    · exact settled
    · exact absurd rfl (silent saved)
  · intro call reply seen _ silent
    show (match row? reply with | some row => _ | none => _) = seen
    rw [row?, silent]
  · intro call reply saved later _ _ said proper
    show (outlook id event).Due _ (match row? reply with
      | some row => ((outlook id event).view later).map (replaced row)
      | none => _)
    rw [row?, said]
    have after : (outlook id event).Due
        (later.modifyEngine id (Engine.replaceSaved saved))
        (((outlook id event).view later).map (replaced saved)) := by
      obtain ⟨has, named⟩ := proper
      refine ⟨?_, by simpa using has, ?_⟩
      · show (Registry.engine id _).saved = _
        rw [Registry.engine_modifyEngine_self has]
        rfl
      · rw [Registry.engine_modifyEngine_self has]
        exact named
    show (outlook id event).Due (if _ then _ else _) _
    split
    · exact after.spared (spares_transition _ _ _)
    · exact after

/-- Dropping the list leaves none. -/
theorem Due.dropped {later : Registry}
    (proper : (outlook id event).proper later) :
    (outlook id event).Due
      (later.modifyEngine id fun engine => { engine with saved := none })
      none := by
  obtain ⟨has, named⟩ := proper
  refine ⟨?_, by simpa using has, ?_⟩
  · show (Registry.engine id _).saved = _
    rw [Registry.engine_modifyEngine_self has]
  · rw [Registry.engine_modifyEngine_self has]
    exact named

/-- Running a segment again heeds the replies: it drops the list once the
segment was marked as used. -/
theorem heeds_run (segment : SavedSegment)
    (proper : (outlook id event).proper now) :
    ((Task.run segment).flow id).Heeds (outlook id event)
      ((Task.run segment).habit event) (fun _ => (outlook id event).Due) now
      ((outlook id event).view now) := by
  have passes (call : Call) (silent : Silent call) :
      ((Task.run segment).habit event).sends call ∧ ∀ reply seen,
        ((Task.run segment).habit event).heard call reply seen = seen :=
    ⟨silent.2, fun reply seen => by simp [Task.habit, silent.1]⟩
  have shows (page : Page) (change : Engine.Change) (later : Registry)
      (due : Option (List SavedSegment))
      (settled : (outlook id event).Due later due) :
      (Flow.bind (Flow.modify fun registry : Registry =>
        registry.modifyEngine id (Engine.moveTo page)) fun _ =>
          (apply id change).bind fun _ =>
            (Flow.done (.ok ()) : Flow Registry (Outcome Unit))).Heeds
              (outlook id event) ((Task.run segment).habit event)
              (fun _ => (outlook id event).Due) later due :=
    heeds_sparing settled (makes_moveAndApply id page change later)
      (sends_moveAndApply id page change) passes fun _ _ _ settled => settled
  show Flow.Heeds _ _ _ (Flow.bind (Client.runSegment
    (some (now.engine id).event) (some segment.ast.filter) false _) _) _ _
  rw [Flow.heeds_bind]
  apply heeds_sparing ⟨rfl, proper⟩
    (makes_opening (Client.opens_runSegment _ _ false _ now))
    (sends_runSegment _ _ false _) passes
  intro result later due settled
  obtain fault | problem | results := result
  · exact settled
  · exact settled
  show Flow.Heeds _ _ _ (Flow.bind (Client.updateSaved
    (some (now.engine id).event) segment.id (.ofLastUsed later.now)) _) _ _
  rw [proper.2, Flow.heeds_bind]
  unfold Client.updateSaved Client.sendPatch
  simp only [Client.savedRow_eq]
  apply heeds_asking Client.readSavedRow settled
  · exact fun client call made =>
      creates_of_changes (changes_of_patch (Client.parts_of_call made).1)
  · intro used later due settled silent
    obtain fault | problem | saved := used
    · exact settled
    · exact shows _ _ later due settled
    · exact absurd rfl (silent saved)
  · intro call reply seen _ silent
    simp [Task.habit, row?, silent]
  · intro call reply saved later patch _ said proper
    have dropped : ((Task.run segment).habit event).heard call reply
        ((outlook id event).view later) = none := by
      simp [Task.habit, row?, said, changes_of_patch patch]
    rw [dropped]
    exact shows _ _ _ _ (Due.dropped proper)

/-- Saving a generated segment heeds the replies: it drops the list once there is
one more row, and does not look at a title that the backend stores. -/
theorem heeds_saveGenerated (prompt title : String) (debug : Bool)
    (text : String) (root : Filter.Root)
    (settled : (outlook id event).Due now due) :
    (saveGenerated id prompt text root).Heeds (outlook id event)
      ((Task.generate prompt title debug).habit event)
      (fun _ => (outlook id event).Due) now due := by
  have passes (call : Call) (other : creates call = false) :
      ((Task.generate prompt title debug).habit event).sends call ∧
        ∀ reply seen, ((Task.generate prompt title debug).habit event).heard
          call reply seen = seen :=
    ⟨trivial, fun reply seen => by simp [Task.habit, other]⟩
  have titles (segment : String) (later : Registry)
      (due : Option (List SavedSegment))
      (settled : (outlook id event).Due later due) :
      (titleSaved id segment prompt root).Heeds (outlook id event)
        ((Task.generate prompt title debug).habit event)
        (fun _ => (outlook id event).Due) later due := by
    refine heeds_sparing settled (makes_opening
      (Provenance.opens_titleSaved id segment prompt root later)) ?_ passes
      fun _ _ _ settled => settled
    intro registry
    apply ((sends_suggestTitle _ prompt root).relax
      fun call silent => silent.2).bind
    intro outcome
    obtain problem | title := outcome
    · trivial
    apply ((Client.sends_updateSaved _ segment (.ofTitle title)).relax
      fun call patch => creates_of_changes (changes_of_patch patch)).bind
    intro outcome
    cases outcome <;> trivial
  show Flow.Heeds _ _ _ (Flow.bind (Client.createSaved
    (some (now.engine id).event) prompt root text false) _) _ _
  rw [settled.2.2, Flow.heeds_bind]
  unfold Client.createSaved
  simp only [Client.savedRow_eq]
  apply heeds_asking Client.readSavedRow settled
  · exact fun _ _ _ => trivial
  · intro created later due settled silent
    obtain fault | problem | saved := created
    · exact settled
    · exact settled
    · exact absurd rfl (silent saved)
  · intro call reply seen _ silent
    simp [Task.habit, row?, silent]
  · intro call reply saved later post carries said proper
    have creating : creates call = true := creates_of_post post carries rfl
    have dropped : ((Task.generate prompt title debug).habit event).heard call
        reply ((outlook id event).view later) = none := by
      simp [Task.habit, row?, said, creating]
    rw [dropped]
    show Flow.Heeds _ _ _ (if text = "" then _ else _) _ _
    split
    · show Flow.Heeds _ _ _ ((titleSaved id saved.id prompt root).bind _) _ _
      rw [Flow.heeds_bind]
      apply (titles saved.id _ _ (Due.dropped proper)).mono
      intro result later due settled
      cases result <;> exact settled
    · exact Due.dropped proper

/-- Generating a segment heeds the replies. -/
theorem heeds_generate (prompt title : String) (debug : Bool)
    (proper : (outlook id event).proper now) :
    ((Task.generate prompt title debug).flow id).Heeds (outlook id event)
      ((Task.generate prompt title debug).habit event)
      (fun _ => (outlook id event).Due) now ((outlook id event).view now) := by
  have passes (call : Call) (silent : Silent call) :
      ((Task.generate prompt title debug).habit event).sends call ∧
        ∀ reply seen, ((Task.generate prompt title debug).habit event).heard
          call reply seen = seen :=
    ⟨trivial, fun reply seen => by simp [Task.habit, silent.2]⟩
  show Flow.Heeds _ _ _ (Flow.bind (Client.generate _ prompt _) _) _ _
  rw [Flow.heeds_bind]
  apply heeds_sparing ⟨rfl, proper⟩
    (makes_opening (Client.opens_generate _ prompt _ now))
    (sends_generate _ prompt _) passes
  intro result later due settled
  obtain fault | problem | generated := result
  · exact settled
  · exact settled
  show Flow.Heeds _ _ _ (Flow.bind (saveGenerated id prompt _ _) _) _ _
  rw [Flow.heeds_bind]
  apply (heeds_saveGenerated prompt title debug _ _ settled).mono
  intro result later due settled
  obtain fault | saved := result
  · exact settled
  show Flow.Heeds _ _ _ (Flow.bind (apply id _) _) _ _
  rw [Flow.heeds_bind]
  apply heeds_sparing settled (makes_apply id _ later) (sends_apply id _) passes
  intro result later due settled
  cases result <;> exact settled

end Heeding

/-! ## Runs -/

section Runs

variable {id : EngineId} {event : String}
variable {start : Option (List SavedSegment)} {first : List SavedSegment}
variable {sent : List (Diary Registry Task × Call)}
variable {handled : List (Nat × Reply)} {server : List SavedSegment}

/-- Any number of calls on the engine of an event.  A list is answered with the
rows of the backend in any order. -/
def scene (id : EngineId) (event : String) :
    Scene Registry (List SavedSegment) Task (Outcome Unit) where
  flow := Task.flow id
  restoring _ := .done ()
  admits _ _ := True
  serves := Serves event fun rows listed => listed.Perm rows

/-- All calls heed their replies. -/
theorem heedful (id : EngineId) (event : String) :
    (scene id event).Heedful (outlook id event) (habits event) where
  tasks task now proper := by
    cases task with
    | load refresh => exact heeds_load refresh proper
    | update segment patch => exact heeds_update segment patch proper
    | generate prompt title debug =>
        exact heeds_generate prompt title debug proper
    | run segment => exact heeds_run segment proper
  restorings _ _ proper := ⟨rfl, proper⟩

/-- The list that replies tell, one after the other. -/
def told (event : String) (start : Option (List SavedSegment))
    (sent : List (Diary Registry Task × Call)) (replies : List (Nat × Reply)) :
    Option (List SavedSegment) :=
  Diary.retold (habits event) start sent replies

/-- The rows that replies tell, one after the other. -/
def rowsAfter (first : List SavedSegment)
    (sent : List (Diary Registry Task × Call)) (replies : List (Nat × Reply)) :
    List SavedSegment :=
  replay (fun _ => stored) first sent replies

/-- The loaded list has every row of the backend. -/
def Current (id : EngineId)
    (pool : Pool Registry (List SavedSegment) (Outcome Unit)) : Prop :=
  ∀ rows, (pool.world.state.engine id).saved = some rows →
    ∀ row ∈ pool.server, row ∈ rows

/-- Whenever the backend stored a title that it had suggested, the replies that
it had given told no list. -/
def TitledUnlisted (event : String) (start : Option (List SavedSegment))
    (sent : List (Diary Registry Task × Call))
    (handled : List (Nat × Reply)) : Prop :=
  ∀ earlier number reply, earlier ++ [(number, reply)] <+: handled →
    ∀ asked call prompt title debug, sent[number]? = some (asked, call) →
      changes call = true →
      asked.caller? = some (.task (.generate prompt title debug)) →
      told event start sent earlier = none

/-- What a reply makes of a list with the rows of the backend has its rows
again, unless it stores a suggested title. -/
theorem perm_heard {work : Work Task} {call : Call} {reply : Reply}
    {before after : List SavedSegment} {seen : Option (List SavedSegment)}
    (sends : (habits event work).sends call)
    (served : Serves event (fun rows listed => listed.Perm rows) before call
      reply after)
    (perm : ∀ rows, seen = some rows → rows.Perm before)
    (unlisted : ∀ prompt title debug,
      work = .task (.generate prompt title debug) → changes call = true →
        seen = none) :
    ∀ rows, (habits event work).heard call reply seen = some rows →
      rows.Perm after := by
  intro rows heard
  have kept (silent : Silent call) : after = before :=
    served.after.trans (stored_of_silent silent reply before)
  cases work with
  | restoring engine => exact sends.elim
  | task task =>
  cases task with
  | load refresh =>
      obtain ⟨listed, said, allowed⟩ := served.lists sends
      obtain ⟨client, made⟩ := sends
      rw [kept (silent_of_get (Client.parts_of_call made).1)]
      obtain rfl : listed = rows := by
        simpa [habits, Task.habit, said] using heard
      exact allowed
  | update segment patch =>
      have changing : changes call = true := sends
      obtain ⟨row, said⟩ := served.tells (by rw [changing]; rfl)
      rw [served.after, stored, said, changing]
      simp only [habits, Task.habit, said] at heard
      obtain ⟨listed, same, rfl⟩ := Option.map_eq_some_iff.mp heard
      exact replaced_perm (perm listed same)
  | generate prompt title debug =>
      cases creating : creates call with
      | true =>
          obtain ⟨row, said⟩ := served.tells (by rw [creating, Bool.or_true])
          simp [habits, Task.habit, said, creating] at heard
      | false =>
          have same : seen = some rows := by
            simpa [habits, Task.habit, creating] using heard
          cases changing : changes call with
          | true =>
              rw [unlisted prompt title debug rfl changing] at same
              cases same
          | false =>
              rw [kept ⟨changing, creating⟩]
              exact perm rows same
  | run segment =>
      have other : creates call = false := sends
      cases changing : changes call with
      | true =>
          obtain ⟨row, said⟩ := served.tells (by rw [changing]; rfl)
          simp [habits, Task.habit, said, changing] at heard
      | false =>
          rw [kept ⟨changing, other⟩]
          apply perm rows
          simpa [habits, Task.habit, changing] using heard

/-- The replies of the backend tell its rows, and a list that they tell has the
same ones as long as no title is stored behind its back. -/
structure Tells (event : String) (start : Option (List SavedSegment))
    (first : List SavedSegment) (sent : List (Diary Registry Task × Call))
    (handled : List (Nat × Reply)) (server : List SavedSegment) : Prop where
  within : ∀ entry ∈ handled, entry.1 < sent.length
  rows : server = rowsAfter first sent handled
  list : TitledUnlisted event start sent handled →
    ∀ rows, told event start sent handled = some rows → rows.Perm server

/-- They still do after more calls. -/
theorem Tells.more (tells : Tells event start first sent handled server)
    (calls : List (Diary Registry Task × Call)) :
    Tells event start first (sent ++ calls) handled server where
  within entry member := by
    have before := tells.within entry member
    rw [List.length_append]
    omega
  rows := by
    rw [rowsAfter, replay_append calls tells.within]
    exact tells.rows
  list titled rows := by
    have same (earlier : List (Nat × Reply))
        (among : ∀ entry ∈ earlier, entry ∈ handled) :
        told event start (sent ++ calls) earlier =
          told event start sent earlier :=
      replay_append calls fun entry member =>
        tells.within entry (among entry member)
    rw [same handled fun _ => id]
    apply tells.list
    intro earlier number reply before asked call prompt title debug found
    have among : ∀ entry ∈ earlier ++ [(number, reply)], entry ∈ handled :=
      fun entry member => before.subset member
    rw [← same earlier fun entry member =>
      among entry (List.mem_append_left _ member)]
    apply titled earlier number reply before asked call prompt title debug
    rw [List.getElem?_append_left (tells.within _ (among (number, reply)
      (by simp)))]
    exact found

/-- They still do after the backend handled one more call. -/
theorem Tells.handle {number : Nat} {asked : Diary Registry Task}
    {call : Call} {reply : Reply} {work : Work Task}
    {after : List SavedSegment}
    (tells : Tells event start first sent handled server)
    (found : sent[number]? = some (asked, call))
    (caller : asked.caller? = some work)
    (sends : (habits event work).sends call)
    (served : Serves event (fun rows listed => listed.Perm rows) server call
      reply after) :
    Tells event start first sent (handled ++ [(number, reply)]) after where
  within entry member := by
    obtain old | new := List.mem_append.mp member
    · exact tells.within entry old
    · cases List.mem_singleton.mp new
      exact (List.getElem?_eq_some_iff.mp found).1
  rows := by
    rw [rowsAfter, replay_concat found, served.after]
    exact congrArg (stored call reply) tells.rows
  list titled := by
    have earlier : TitledUnlisted event start sent handled :=
      fun one number reply before => titled one number reply
        (before.trans (List.prefix_append _ _))
    rw [told, Diary.retold, replay_concat found, Diary.heard, caller]
    apply perm_heard sends served (tells.list earlier)
    rintro prompt title debug rfl changing
    exact titled handled number reply List.prefix_rfl asked call prompt title
      debug found changing caller

variable {registry : Registry}
variable {recorded : Pool (Diary Registry Task) (List SavedSegment)
  (Outcome Unit)}

/-- In every run, the replies of the backend tell its rows. -/
theorem tells_of_reach (proper : (outlook id event).proper registry)
    (known : ∀ rows, (registry.engine id).saved = some rows →
      rows.Perm server)
    (reached : (scene id event).recorded.Reach
      (.fresh (.blank registry) server) recorded) :
    Tells event (registry.engine id).saved server recorded.world.sent
      recorded.handled recorded.server := by
  induction reached with
  | refl => exact ⟨by simp [Pool.fresh], rfl, fun _ => known⟩
  | step before step ih =>
      have retells := (heedful id event).retells proper before
      have accounted :=
        (Pool.Accounted.fresh (Diary.blank registry) server).of_reach before
      cases step with
      | start task admitted => exact ih.more _
      | begin before after waits => exact ih.more _
      | deliver before after waits => exact ih.more _
      | lock before after waits free => exact ih.more _
      | learn before after waits known => exact ih.more _
      | @handle before after number call next reply server waits served =>
          obtain ⟨asked, found⟩ :=
            accounted.asked number call next (by simp [waits])
          obtain ⟨work, caller, sends⟩ :=
            retells.callers _ (List.mem_of_getElem? found)
          exact ih.handle found caller sends served

/-- Calls on an engine overlap in any way and every request succeeds.  Every run
has a diary, which says whose call each reply answers.  The loaded list has
every row of the backend if and only if the replies, in the order in which they
arrived, tell no list or one with every row that they tell in the order in which
the backend gave them.  In particular it has exactly these rows if the replies
arrived in that order and no suggested title was stored while a list was
known. -/
theorem current_iff_arrived_as_given
    (proper : (outlook id event).proper registry)
    (known : ∀ rows, (registry.engine id).saved = some rows →
      rows.Perm server) :
    (∀ pool, (scene id event).Reach (.fresh registry server) pool →
      ∃ recorded, (scene id event).recorded.Reach
          (.fresh (.blank registry) server) recorded ∧
        recorded.Records pool) ∧
    ∀ pool recorded, (scene id event).recorded.Reach
        (.fresh (.blank registry) server) recorded →
      recorded.Records pool →
      (Current id pool ↔
        ∀ rows, told event (registry.engine id).saved recorded.world.sent
            pool.world.delivered = some rows →
          ∀ row ∈ rowsAfter server recorded.world.sent pool.handled,
            row ∈ rows) ∧
      (pool.world.delivered = pool.handled →
        TitledUnlisted event (registry.engine id).saved recorded.world.sent
          pool.handled →
        ∀ rows, (pool.world.state.engine id).saved = some rows →
          rows.Perm pool.server) := by
  refine ⟨fun pool => Scene.recorded_of_reach, ?_⟩
  intro pool recorded reached records
  have seen : (pool.world.state.engine id).saved =
      told event (registry.engine id).saved recorded.world.sent
        pool.world.delivered := by
    rw [← records.state, ← records.delivered]
    exact ((heedful id event).retells proper reached).due.1
  have tells := tells_of_reach proper known reached
  rw [records.handled, records.server] at tells
  constructor
  · unfold Current
    rw [seen, ← tells.rows]
  · intro inOrder titled
    rw [seen, inOrder]
    exact tells.list titled

end Runs

section LateList

open Reloading (withEngine everyone)

/-- A saved segment as the backend sends it. -/
def sentRow (title : String) : Json :=
  .obj
    [ ("id", .str "seg_1"), ("title", .str title), ("prompt", .str "Everyone"),
      ("ast", everyone.toJson), ("favorite", .bool false) ]

/-- The list before the segment is renamed. -/
def oldList : Reply :=
  .response 200 (.json (.obj [("savedSegments", .arr [sentRow "Old"])]))

/-- The reply to the new name. -/
def newName : Reply :=
  .response 200 (.json (.obj [("savedSegment", sentRow "New")]))

/-- The rows before the segment is renamed. -/
def oldRows : List SavedSegment := (listed? oldList).getD []

/-- The rows after that. -/
def newRows : List SavedSegment :=
  replaced ((row? newName).getD default) oldRows

theorem listed?_oldList : listed? oldList = some oldRows := by
  have there : (listed? oldList).isSome = true := by decide +kernel
  obtain ⟨rows, said⟩ := Option.isSome_iff_exists.mp there
  rw [oldRows, said, Option.getD_some]

theorem row?_newName : ∃ row, row? newName = some row ∧
    newRows = replaced row oldRows := by
  have there : (row? newName).isSome = true := by decide +kernel
  obtain ⟨row, said⟩ := Option.isSome_iff_exists.mp there
  exact ⟨row, said, by rw [newRows, said, Option.getD_some]⟩

/-- The backend lists the old rows. -/
theorem serves_oldList {call : Call} (silent : Silent call) :
    Serves "event" (fun rows listed => listed.Perm rows) oldRows call oldList
      oldRows where
  succeeds := ⟨_, rfl⟩
  lists _ := ⟨oldRows, listed?_oldList, List.Perm.refl _⟩
  tells speaks := by
    rw [silent.1, silent.2] at speaks
    cases speaks
  after := (stored_of_silent silent _ _).symm

/-- The backend renames the segment. -/
theorem serves_newName {call : Call} (changing : changes call = true) :
    Serves "event" (fun rows listed => listed.Perm rows) oldRows call newName
      newRows where
  succeeds := ⟨_, rfl⟩
  lists lists := by
    obtain ⟨client, made⟩ := lists
    rw [(silent_of_get (Client.parts_of_call made).1).1] at changing
    cases changing
  tells _ := by
    obtain ⟨row, said, -⟩ := row?_newName
    exact ⟨row, said⟩
  after := by
    obtain ⟨row, said, same⟩ := row?_newName
    rw [stored, said, changing, same]
    rfl

/-- The titles in the loaded list. -/
def titlesHere (pool : Pool Registry (List SavedSegment) (Outcome Unit)) :
    Option (List String) :=
  (pool.world.state.engine 0).saved.map fun rows =>
    rows.map SavedSegment.title

/-- A list is loaded while the segment is renamed, and arrives last. -/
theorem exists_late :
    ∃ pool, (scene 0 "event").Reach (.fresh withEngine oldRows) pool ∧
      pool.waiting = [] ∧ (pool.results.all Except.isOk) = true ∧
      titlesHere pool = some ["Old"] ∧
      pool.server.map SavedSegment.title = ["New"] := by
  refine ⟨_, .step (.step (.step (.step (.step (.step (.step .refl
    (.start (.load false) trivial))
    (.lock [] [] rfl (by decide)))
    (.handle [] [] oldRows rfl (serves_oldList
      ⟨by decide +kernel, by decide +kernel⟩)))
    (.start (.update "seg_1" (.ofTitle "New")) trivial))
    (.handle [] [_] newRows rfl (serves_newName (by decide +kernel))))
    (.deliver [] [_] rfl))
    (.deliver [] [] rfl), List.isEmpty_iff.mp ?_, ?_⟩
  · decide +kernel
  · decide +kernel

theorem not_current_of_titles
    {pool : Pool Registry (List SavedSegment) (Outcome Unit)}
    (here : titlesHere pool = some ["Old"])
    (there : pool.server.map SavedSegment.title = ["New"]) :
    ¬ Current 0 pool := by
  intro current
  obtain ⟨rows, loaded, titles⟩ := Option.map_eq_some_iff.mp here
  have new : "New" ∈ pool.server.map SavedSegment.title := by simp [there]
  obtain ⟨row, member, title⟩ := List.mem_map.mp new
  have old : row.title ∈ rows.map SavedSegment.title :=
    List.mem_map_of_mem (current rows loaded row member)
  simp [titles, title] at old

/-- The engine is there, and has loaded no list. -/
theorem proper_withEngine : (outlook 0 "event").proper withEngine :=
  ⟨by decide, rfl⟩

theorem unknown_withEngine (rows : List SavedSegment)
    (loaded : (withEngine.engine 0).saved = some rows) : rows.Perm oldRows := by
  cases loaded

/-- The replies crossed, and the list that they tell lacks a row. -/
theorem current_iff_arrived_as_given_at_late :
    ∃ pool recorded,
      (scene 0 "event").Reach (.fresh withEngine oldRows) pool ∧
      (scene 0 "event").recorded.Reach
        (.fresh (.blank withEngine) oldRows) recorded ∧
      recorded.Records pool ∧ ¬ Current 0 pool ∧
      ∃ rows, told "event" none recorded.world.sent
          pool.world.delivered = some rows ∧
        ∃ row ∈ rowsAfter oldRows recorded.world.sent pool.handled,
          row ∉ rows := by
  obtain ⟨pool, reached, -, -, here, there⟩ := exists_late
  have exactly := current_iff_arrived_as_given proper_withEngine
    unknown_withEngine
  obtain ⟨recorded, also, records⟩ := exactly.1 pool reached
  have stale := not_current_of_titles here there
  refine ⟨pool, recorded, reached, also, records, stale, ?_⟩
  by_contra none
  apply stale
  apply (exactly.2 pool recorded also records).1.mpr
  intro rows tells row member
  by_contra lacks
  exact none ⟨rows, tells, row, member, lacks⟩

/-- A list that was under way when a segment was renamed brings back its old
name. -/
theorem late_list_undoes_update :
    (outlook 0 "event").proper withEngine ∧
      (withEngine.engine 0).saved = none ∧
      ¬ ∀ pool, (scene 0 "event").Reach (.fresh withEngine oldRows) pool →
        pool.waiting = [] → (pool.results.all Except.isOk) = true →
        Current 0 pool := by
  refine ⟨proper_withEngine, rfl, fun always => ?_⟩
  obtain ⟨pool, reached, quiet, fine, here, there⟩ := exists_late
  exact not_current_of_titles here there (always pool reached quiet fine)

end LateList

end Fetching
end Audience
