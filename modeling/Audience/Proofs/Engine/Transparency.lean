import Audience.Proofs.Engine.Recalling
import Mathlib.Data.List.Sort

/-!
# The loaded list against a fresh one

One client loads the list of saved segments, changes segments, asks for prompts
and is restored, one call after the other.  A list that is kept has the rows of
the backend: what creates or uses a segment drops it, and what changes a segment
replaces its row.  But the row stays in its place, while the backend may list it
somewhere else.
-/

namespace Audience
namespace Transparency

open Engine
open Listing

/-- The backend handles a call and lists its rows in its order, or the call fails
and changes nothing. -/
def serves (listing : List SavedSegment → List SavedSegment) (event : String)
    (before : List SavedSegment) (call : Call) (reply : Reply)
    (after : List SavedSegment) : Prop :=
  Serves event (fun rows listed => listed = listing rows) before call reply
      after ∨
    (∀ json, Client.ended none reply ≠ .ok json) ∧ after = before

/-- A loaded list is related to the rows of the backend. -/
structure Holds (related : List SavedSegment → List SavedSegment → Prop)
    (id : EngineId) (event : String) (registry : Registry)
    (rows : List SavedSegment) : Prop where
  proper : (outlook id event).proper registry
  list : ∀ known, (registry.engine id).saved = some known → related known rows

/-- No list is loaded. -/
abbrev Unlisted (id : EngineId) (event : String) (registry : Registry)
    (rows : List SavedSegment) : Prop :=
  Holds (fun _ _ => False) id event registry rows

/-- A loaded list is in the order of the backend. -/
def InOrder (listing : List SavedSegment → List SavedSegment) (id : EngineId)
    (registry : Registry) (rows : List SavedSegment) : Prop :=
  ∀ known, (registry.engine id).saved = some known → known = listing rows

section Holding

variable {related other : List SavedSegment → List SavedSegment → Prop}
variable {id : EngineId} {event : String} {registry later : Registry}
variable {rows after : List SavedSegment}

/-- Without a list there is nothing to relate. -/
theorem Unlisted.holds (unlisted : Unlisted id event registry rows) :
    Holds related id event registry after :=
  ⟨unlisted.proper, fun known loaded => (unlisted.list known loaded).elim⟩

theorem Holds.spared (holds : Holds related id event registry rows)
    (spares : (outlook id event).Spares registry later) :
    Holds related id event later rows := by
  obtain ⟨same, proper⟩ := spares holds.proper
  exact ⟨proper, fun known loaded => holds.list known (same.symm.trans loaded)⟩

/-- Only the list of an engine changes. -/
theorem proper_withSaved (proper : (outlook id event).proper registry)
    (saved : Option (List SavedSegment)) :
    (outlook id event).proper (registry.modifyEngine id fun engine =>
        { engine with saved }) ∧
      ((registry.modifyEngine id fun engine =>
        { engine with saved }).engine id).saved = saved := by
  obtain ⟨has, named⟩ := proper
  refine ⟨⟨(Registry.has_modifyEngine _).mpr has, ?_⟩, ?_⟩
  · rw [Registry.engine_modifyEngine_self has]
    exact named
  · rw [Registry.engine_modifyEngine_self has]

/-- A list that was dropped is not there. -/
theorem Holds.dropped (holds : Holds related id event registry rows) :
    Holds other id event
      (registry.modifyEngine id fun engine => { engine with saved := none })
      after := by
  obtain ⟨proper, saved⟩ := proper_withSaved holds.proper none
  refine ⟨proper, fun known loaded => ?_⟩
  rw [saved] at loaded
  cases loaded

end Holding

/-- What loading the list leads to: the list that was seen before is answered, or
that of the backend, and kept. -/
structure Loads (listing : List SavedSegment → List SavedSegment)
    (id : EngineId) (event : String) (seen : Option (List SavedSegment))
    (before : Registry) (rows : List SavedSegment)
    (result : Except Fault (Outcome (List SavedSegment))) (later : Registry)
    (after : List SavedSegment) : Prop where
  kept : after = rows
  proper : (outlook id event).proper later
  listed : ∀ segments, result = .ok (.ok segments) →
    segments = seen.getD (listing rows) ∧
      (later.engine id).saved = some segments
  failed : (∀ segments, result ≠ .ok (.ok segments)) →
    (later.engine id).saved = (before.engine id).saved

/-- What changing a segment leads to: its row is replaced, in its place, or
nothing has changed. -/
structure Updates (id : EngineId) (event : String) (before : Registry)
    (rows : List SavedSegment) (result : Except Fault (Outcome SavedSegment))
    (later : Registry) (after : List SavedSegment) : Prop where
  proper : (outlook id event).proper later
  told : ∀ row, result = .ok (.ok row) → after = replaced row rows ∧
    (later.engine id).saved = (before.engine id).saved.map (replaced row)
  failed : (∀ row, result ≠ .ok (.ok row)) →
    after = rows ∧ (later.engine id).saved = (before.engine id).saved

section Flows

variable {listing : List SavedSegment → List SavedSegment}
variable {related : List SavedSegment → List SavedSegment → Prop}
variable {id : EngineId} {event : String} {registry : Registry}
variable {rows : List SavedSegment}

/-- What is asked of an event and answered leads to what is said; otherwise
nothing has changed. -/
theorem leads_asking {α : Type} {method suffix : String} {body : Option Json}
    {missing : Option (String × String)} {read : Json → Except Fault α}
    {ends : Except Fault (Outcome α) → Registry → List SavedSegment → Prop}
    (speaks : ∀ call reply after,
      registry.client.call method (Client.pathOf event suffix) body = .ok call →
      Serves event (fun rows listed => listed = listing rows) rows call reply
        after →
      ∃ value, Client.said? read reply = some value ∧
        ends (.ok (.ok value)) registry.opened after)
    (stopped : ∀ result later, (∀ value, result ≠ .ok (.ok value)) →
      later = registry ∨ later = registry.opened → ends result later rows) :
    (Flow.guard ((Client.eventPath (some event) suffix).bind fun path =>
      (Client.request method path body missing).bind fun json =>
        .ofResult (read json))).Leads (serves listing event) ends registry
          rows := by
  apply Flow.Alone.leads
  refine Client.alone_exchange stopped fun call made reply after served => ?_
  obtain done | ⟨failed, rfl⟩ := served
  · obtain ⟨value, said, ended⟩ := speaks call reply after made done
    rwa [Client.outcome_eq_ok_iff.mpr said]
  · refine stopped _ _ (fun value well => ?_) (.inr rfl)
    have said := Client.outcome_eq_ok_iff.mp well
    unfold Client.said? at said
    cases answered : Client.ended none reply with
    | ok json => exact failed json answered
    | error fault =>
        rw [answered] at said
        cases said

/-- A reply to a call that says nothing about saved segments keeps what holds. -/
theorem Holds.replied {call : Call} {reply : Reply} {after : List SavedSegment}
    (holds : Holds related id event registry rows) (silent : Silent call)
    (served : serves listing event rows call reply after) :
    Holds related id event registry after := by
  obtain done | ⟨-, rfl⟩ := served
  · rw [done.after, stored_of_silent silent]
    exact holds
  · exact holds

/-- A flow that spares the list and says nothing about saved segments keeps what
holds of it. -/
theorem leads_sparing {α : Type} {flow : Flow Registry α}
    (holds : Holds related id event registry rows)
    (makes : flow.Makes (outlook id event).Spares (fun _ => True) registry)
    (sends : flow.Sends Silent) :
    flow.Leads (serves listing event)
      (fun _ => Holds related id event) registry rows :=
  Flow.Makes.leads (fun _ _ _ spares holds => holds.spared spares)
    (fun _ _ _ _ _ silent served holds => holds.replied silent served) makes
    sends holds

/-- A segment is changed and its row told, or nothing has changed. -/
theorem leads_patch {segment : String} {patch : SavedSegment.Patch}
    {ends : Except Fault (Outcome SavedSegment) → Registry →
      List SavedSegment → Prop}
    (told : ∀ row, ends (.ok (.ok row)) registry.opened (replaced row rows))
    (stopped : ∀ result later, (∀ value, result ≠ .ok (.ok value)) →
      later = registry ∨ later = registry.opened → ends result later rows) :
    (Client.updateSaved (some event) segment patch).Leads (serves listing event)
      ends registry rows := by
  unfold Client.updateSaved Client.sendPatch
  simp only [Client.savedRow_eq]
  refine leads_asking (fun call reply after made served => ?_) stopped
  have changing := changes_of_patch (Client.parts_of_call made).1
  obtain ⟨row, said⟩ := served.tells (by rw [changing]; rfl)
  refine ⟨row, said, ?_⟩
  rw [served.after, stored, said, changing]
  exact told row

/-- A list that was just asked for is in the order of the backend. -/
theorem leads_loadListOf (proper : (outlook id event).proper registry) :
    (loadListOf id event).Leads (serves listing event)
      (Loads listing id event none registry rows) registry rows := by
  show Flow.Leads _ ((Client.listSaved (some event)).bind _) _ _ _
  rw [Flow.leads_bind, Client.listSaved_eq]
  apply leads_asking
  · intro call reply after made served
    obtain ⟨listed, said, rfl⟩ := served.lists ⟨registry.client, made⟩
    refine ⟨_, said, ?_⟩
    have silent := silent_of_get (Client.parts_of_call made).1
    obtain ⟨still, saved⟩ := proper_withSaved
      (spares_opened registry proper).2 (some (listing rows))
    refine ⟨?_, still, ?_, fun other => absurd rfl (other _)⟩
    · rw [served.after, stored_of_silent silent]
    · intro segments same
      cases same
      exact ⟨rfl, saved⟩
  · intro result later silent place
    have kept : (outlook id event).proper later ∧
        (later.engine id).saved = (registry.engine id).saved := by
      obtain rfl | rfl := place
      · exact ⟨proper, rfl⟩
      · exact ⟨(spares_opened registry proper).2, rfl⟩
    obtain fault | problem | segments := result
    · exact ⟨rfl, kept.1, fun _ => nofun, fun _ => kept.2⟩
    · exact ⟨rfl, kept.1, fun _ => nofun, fun _ => kept.2⟩
    · exact absurd rfl (silent segments)

/-- Loading answers the list that there is, unless it is to be refreshed, and
otherwise that of the backend. -/
theorem leads_loadSaved (refresh : Bool)
    (proper : (outlook id event).proper registry) :
    (loadSaved id refresh).Leads (serves listing event)
      (Loads listing id event
        (if refresh then none else (registry.engine id).saved) registry rows)
      registry rows := by
  have fetches : (((loadListOf id (registry.engine id).event).bind fun result =>
      .done (true, result)).bind (filling id)).Leads (serves listing event)
        (Loads listing id event none registry rows) registry rows := by
    rw [proper.2, Flow.leads_bind, Flow.leads_bind]
    apply (leads_loadListOf proper).mono
    intro result later after loads
    obtain fault | problem | segments := result
    · exact ⟨loads.kept, loads.proper, fun _ => nofun, fun _ =>
        loads.failed fun _ => nofun⟩
    · exact loads
    · obtain ⟨same, there⟩ := spares_backfillPrompt later id loads.proper
      refine ⟨loads.kept, there, fun others equal => ?_,
        fun other => absurd rfl (other segments)⟩
      obtain ⟨fresh, saved⟩ := loads.listed others equal
      exact ⟨fresh, same.trans saved⟩
  rw [loadSaved_eq, loadList_eq, Flow.leads_bind, Flow.leads_locked,
    ← Flow.leads_bind]
  simp only [Flow.bind, Flow.Leads]
  cases known : (registry.engine id).saved with
  | none => cases refresh <;> exact fetches
  | some segments =>
      cases refresh with
      | true => exact fetches
      | false =>
          refine ⟨rfl, proper, fun others equal => ?_, fun _ => rfl⟩
          cases equal
          exact ⟨rfl, known⟩

/-- A list that is kept after loading is related to the rows if a fresh one
is. -/
theorem Loads.holds {seen : Option (List SavedSegment)}
    {result : Except Fault (Outcome (List SavedSegment))} {later : Registry}
    {after : List SavedSegment}
    (loads : Loads listing id event seen registry rows result later after)
    (holds : Holds related id event registry rows)
    (fetched : related (listing rows) rows)
    (known : seen = none ∨ seen = (registry.engine id).saved) :
    Holds related id event later after := by
  refine ⟨loads.proper, fun kept saved => ?_⟩
  rw [loads.kept]
  by_cases well : ∃ segments, result = .ok (.ok segments)
  · obtain ⟨segments, same⟩ := well
    obtain ⟨rfl, listed⟩ := loads.listed segments same
    obtain rfl := Option.some.inj (saved.symm.trans listed)
    obtain rfl | rfl := known
    · exact fetched
    · cases before : (registry.engine id).saved with
      | none => exact fetched
      | some segments => exact holds.list segments before
  · rw [loads.failed fun segments same => well ⟨segments, same⟩] at saved
    exact holds.list kept saved

variable (fetched : ∀ rows, related (listing rows) rows)
variable (holds : Holds related id event registry rows)

include fetched holds

theorem holds_loadSaved (refresh : Bool) :
    (loadSaved id refresh).Leads (serves listing event)
      (fun _ => Holds related id event) registry rows := by
  apply (leads_loadSaved refresh holds.proper).mono
  intro result later after loads
  apply loads.holds holds (fetched rows)
  cases refresh with
  | true => exact .inl rfl
  | false => exact .inr rfl

theorem holds_requireSaved (segment : String) :
    (requireSaved id segment).Leads (serves listing event)
      (fun _ => Holds related id event) registry rows := by
  have finds (registry : Registry) (rows : List SavedSegment)
      (holds : Holds related id event registry rows) :
      (findSaved id segment).Leads (serves listing event)
        (fun _ => Holds related id event) registry rows := holds
  apply (holds_loadSaved fetched holds false).andThen
  intro outcome later after holds
  obtain problem | segments := outcome
  · exact holds
  apply (finds later after holds).andThen
  intro found later after holds
  cases found with
  | some saved => exact holds
  | none =>
      apply (holds_loadSaved fetched holds true).andThen
      intro outcome later after holds
      obtain problem | segments := outcome
      · exact holds
      apply (finds later after holds).andThen
      intro found later after holds
      cases found <;> exact holds

omit fetched holds

theorem holds_apply (holds : Holds related id event registry rows)
    (change : Engine.Change) :
    (apply id change).Leads (serves listing event)
      (fun _ => Holds related id event) registry rows :=
  leads_sparing holds (makes_apply id change registry) (sends_apply id change)

/-- Running a segment again keeps what holds: once the segment was marked as
used, there is no list. -/
theorem holds_runSaved (first : Holds related id event registry rows)
    (segment : SavedSegment) :
    (runSaved id segment).Leads (serves listing event)
      (fun _ => Holds related id event) registry rows := by
  have shows (page : Page) (change : Engine.Change) (later : Registry)
      (after : List SavedSegment)
      (holds : Holds related id event later after) :
      (Flow.bind (Flow.modify fun registry : Registry =>
        registry.modifyEngine id (Engine.moveTo page)) fun _ =>
          (apply id change).bind fun _ =>
            (Flow.done (.ok ()) : Flow Registry (Outcome Unit))).Leads
              (serves listing event) (fun _ => Holds related id event) later
                after :=
    leads_sparing holds (makes_moveAndApply id page change later)
      (sends_moveAndApply id page change)
  show Flow.Leads _ (Flow.bind (Client.runSegment
    (some (registry.engine id).event) (some segment.ast.filter) false _) _) _
      _ _
  apply (leads_sparing first
    (makes_opening (Client.opens_runSegment _ _ false _ registry))
    (sends_runSegment _ _ false _)).andThen
  intro outcome later after holds
  obtain problem | results := outcome
  · exact holds
  show Flow.Leads _ (Flow.bind (Client.updateSaved
    (some (registry.engine id).event) segment.id (.ofLastUsed later.now)) _) _
      _ _
  rw [first.proper.2]
  apply Flow.leads_bind.mpr
  apply leads_patch
  · intro row
    exact shows _ _ _ _ (holds.spared (spares_opened later)).dropped
  · intro used last silent place
    have kept : Holds related id event last after := by
      obtain rfl | rfl := place
      · exact holds
      · exact holds.spared (spares_opened later)
    obtain fault | problem | saved := used
    · exact kept
    · exact shows _ _ _ _ kept
    · exact absurd rfl (silent saved)

/-- Saving a generated segment keeps what holds: once there is one more row,
there is no list, and its title cannot be missed. -/
theorem holds_saveGenerated (holds : Holds related id event registry rows)
    (prompt title : String) (root : Filter.Root) :
    (saveGenerated id prompt title root).Leads (serves listing event)
      (fun _ => Holds related id event) registry rows := by
  have titles (segment : String) (later : Registry)
      (after : List SavedSegment) (unlisted : Unlisted id event later after) :
      (titleSaved id segment prompt root).Leads (serves listing event)
        (fun _ => Unlisted id event) later after := by
    show Flow.Leads _ (Flow.bind (Client.suggestTitle
      (some (later.engine id).event) prompt (some root)) _) _ _ _
    rw [unlisted.proper.2]
    apply (leads_sparing unlisted
      (makes_opening (Client.opens_suggestTitle event prompt _ later))
      (sends_suggestTitle _ prompt root)).andThen
    intro outcome next ending kept
    obtain problem | title := outcome
    · exact kept
    show Flow.Leads _ (Flow.bind (Client.updateSaved
      (some (later.engine id).event) segment (.ofTitle title)) _) _ _ _
    rw [unlisted.proper.2]
    apply Flow.leads_bind.mpr
    apply leads_patch
    · exact fun row => Unlisted.holds (kept.spared (spares_opened next))
    · intro updated last _ place
      have kept : Unlisted id event last ending := by
        obtain rfl | rfl := place
        · exact kept
        · exact kept.spared (spares_opened next)
      obtain fault | problem | saved := updated <;> exact kept
  show Flow.Leads _ (Flow.bind (Client.createSaved
    (some (registry.engine id).event) prompt root title false) _) _ _ _
  rw [holds.proper.2]
  apply Flow.leads_bind.mpr
  unfold Client.createSaved
  simp only [Client.savedRow_eq]
  apply leads_asking
  · intro call reply after made served
    obtain ⟨post, carries, -⟩ := Client.parts_of_call made
    have creating : creates call = true := creates_of_post post carries rfl
    obtain ⟨row, said⟩ := served.tells (by rw [creating, Bool.or_true])
    refine ⟨row, said, ?_⟩
    have dropped : Unlisted id event _ after :=
      (holds.spared (spares_opened registry)).dropped
    show Flow.Leads _ (if title = "" then _ else _) _ _ _
    split
    · show Flow.Leads _ ((titleSaved id row.id prompt root).bind _) _ _ _
      exact ((titles row.id _ _ dropped).mono fun _ _ _ kept =>
        kept.holds).andThen fun _ _ _ kept => kept
    · exact dropped.holds
  · intro created later silent place
    have kept : Holds related id event later rows := by
      obtain rfl | rfl := place
      · exact holds
      · exact holds.spared (spares_opened registry)
    obtain fault | problem | saved := created
    · exact kept
    · exact kept
    · exact absurd rfl (silent saved)

theorem holds_generate (holds : Holds related id event registry rows)
    (prompt title : String) (debug : Bool) :
    (generate id prompt title debug).Leads (serves listing event)
      (fun _ => Holds related id event) registry rows := by
  show Flow.Leads _ (Flow.bind (Client.generate _ prompt _) _) _ _ _
  apply (leads_sparing holds
    (makes_opening (Client.opens_generate _ prompt _ registry))
    (sends_generate _ prompt _)).andThen
  intro outcome later after holds
  obtain problem | generated := outcome
  · exact holds
  apply (holds_saveGenerated holds prompt _ generated.segment).andThen
  intro saved later after holds
  exact (holds_apply holds _).andThen fun _ _ _ kept => kept

theorem holds_ask (holds : Holds related id event registry rows)
    (surface : Option Surface) :
    (ask id surface).Leads (serves listing event)
      (fun _ => Holds related id event) registry rows := by
  rw [Provenance.ask_eq]
  simp only [Flow.Leads]
  split <;> exact holds

include fetched holds

theorem holds_openPrompt (defaults : Defaults) (surface : Option Surface) :
    (openPrompt id defaults surface).Leads (serves listing event)
      (fun _ => Holds related id event) registry rows := by
  apply (holds_ask holds surface).andThen
  intro submission later after holds
  cases submission with
  | none => exact holds
  | some submission =>
      refine Flow.Leads.andThen ?_ fun _ _ _ kept => kept
      unfold answerPrompt
      cases Registry.nonempty? submission.savedSegmentId with
      | none => exact holds_generate holds _ _ _
      | some segment =>
          apply (holds_requireSaved fetched holds segment).andThen
          intro outcome later after holds
          cases outcome with
          | error problem => exact holds
          | ok saved => exact holds_runSaved holds saved

/-- Restoring an engine keeps what holds. -/
theorem holds_restoring : (Engine.restoring id).Leads (serves listing event)
    (fun _ => Holds related id event) registry rows := by
  have notes (change : Engine → Engine) (registry : Registry)
      (rows : List SavedSegment)
      (noted : ∀ engine, ∃ phase hydrationError,
        change engine = { engine with phase, hydrationError })
      (holds : Holds related id event registry rows) :
      Holds related id event (registry.modifyEngine id change) rows :=
    holds.spared (spares_modifyEngine registry
      (fun engine => by obtain ⟨_, _, same⟩ := noted engine; rw [same])
      fun engine => by obtain ⟨_, _, same⟩ := noted engine; rw [same])
  have began := notes _ registry rows
    (fun engine => ⟨.hydrating, engine.hydrationError, rfl⟩) holds
  apply Recalling.leads_restoring notes
  rw [Hydrating.restoreFromDocument_eq]
  show Flow.Leads _ (Flow.bind (Store.read _ false) _) _ _ _
  apply (leads_sparing began (makes_quiet (Store.makes_read _ false _))
    (Restoring.sends_read (fun _ => silent_of_get) _ false)).andThen
  intro document later after holds
  apply Recalling.leads_resuming (Holds related id event)
  · exact fun _ _ holds => holds.proper.1
  · exact fun state _ holds => holds.spared (spares_opened state)
  · exact fun _ _ _ _ _ silent _ served holds => holds.replied silent served
  · exact fun _ _ holds => holds
  · exact fun segment => holds_requireSaved fetched holds segment
  · exact fun restored before last server holds _ _ shows =>
      ⟨⟨shows.has, shows.event.trans holds.proper.2⟩,
        fun known loaded => holds.list known (shows.saved.symm.trans loaded)⟩
  · exact holds

omit fetched holds

/-- Changing a segment replaces its row in its place. -/
theorem leads_updateSaved (proper : (outlook id event).proper registry)
    (segment : String) (patch : SavedSegment.Patch) :
    (updateSaved id segment patch).Leads (serves listing event)
      (Updates id event registry rows) registry rows := by
  show Flow.Leads _ (Flow.bind (Client.updateSaved
    (some (registry.engine id).event) segment patch) _) _ _ _
  rw [proper.2]
  apply Flow.leads_bind.mpr
  apply leads_patch
  · intro row
    obtain ⟨has, named⟩ := (spares_opened registry proper).2
    have there : (outlook id event).proper
        (registry.opened.modifyEngine id (Engine.replaceSaved row)) := by
      refine ⟨(Registry.has_modifyEngine _).mpr has, ?_⟩
      rw [Registry.engine_modifyEngine_self has]
      exact named
    have saved : ((registry.opened.modifyEngine id
        (Engine.replaceSaved row)).engine id).saved =
          (registry.engine id).saved.map (replaced row) := by
      rw [Registry.engine_modifyEngine_self has]
      rfl
    show Updates _ _ _ _ (.ok (.ok row)) (if _ then _ else _) _
    split
    · obtain ⟨same, still⟩ := spares_transition _ id _ there
      refine ⟨still, fun other equal => ?_, fun other => absurd rfl (other row)⟩
      cases equal
      exact ⟨rfl, same.trans saved⟩
    · refine ⟨there, fun other equal => ?_, fun other => absurd rfl (other row)⟩
      cases equal
      exact ⟨rfl, saved⟩
  · intro updated later silent place
    have kept : (outlook id event).proper later ∧
        (later.engine id).saved = (registry.engine id).saved := by
      obtain rfl | rfl := place
      · exact ⟨proper, rfl⟩
      · exact ⟨(spares_opened registry proper).2, rfl⟩
    obtain fault | problem | row := updated
    · exact ⟨kept.1, fun _ => nofun, fun _ => ⟨rfl, kept.2⟩⟩
    · exact ⟨kept.1, fun _ => nofun, fun _ => ⟨rfl, kept.2⟩⟩
    · exact absurd rfl (silent row)

variable (replaces : ∀ row known rows, related known rows →
  related (replaced row known) (replaced row rows))

include replaces

/-- That keeps what replacing a row in its place keeps. -/
theorem holds_updateSaved (holds : Holds related id event registry rows)
    (segment : String) (patch : SavedSegment.Patch) :
    (updateSaved id segment patch).Leads (serves listing event)
      (fun _ => Holds related id event) registry rows := by
  apply (leads_updateSaved holds.proper segment patch).mono
  intro result later after updates
  refine ⟨updates.proper, fun known saved => ?_⟩
  by_cases well : ∃ row, result = .ok (.ok row)
  · obtain ⟨row, same⟩ := well
    obtain ⟨rfl, here⟩ := updates.told row same
    obtain ⟨before, loaded, rfl⟩ := Option.map_eq_some_iff.mp
      (here.symm.trans saved)
    exact replaces row before rows (holds.list before loaded)
  · obtain ⟨rfl, here⟩ := updates.failed fun row same => well ⟨row, same⟩
    exact holds.list known (here.symm.trans saved)

theorem holds_answerRefine (holds : Holds related id event registry rows)
    (defaults : Defaults) (submission : Submission) :
    (answerRefine id defaults submission).Leads (serves listing event)
      (fun _ => Holds related id event) registry rows := by
  rw [Provenance.answerRefine_eq]
  simp only [Flow.Leads]
  cases Registry.nonempty? (registry.engine id).state.savedId with
  | none => exact holds_generate holds _ _ _
  | some saved =>
      cases Prompt.sameWords submission.prompt defaults.prompt with
      | false => exact holds_generate holds _ _ _
      | true =>
          apply (holds_updateSaved replaces holds saved _).andThen
          intro outcome later after holds
          cases outcome with
          | error problem => exact holds
          | ok row => exact (holds_apply holds _).andThen fun _ _ _ kept => kept

include fetched

theorem holds_openRefine (holds : Holds related id event registry rows)
    (surface : Option Surface) :
    (openRefine id surface).Leads (serves listing event)
      (fun _ => Holds related id event) registry rows := by
  have looks : (savedOnScreen id).Leads (serves listing event)
      (fun _ => Holds related id event) registry rows := by
    rw [Provenance.savedOnScreen_eq]
    simp only [Flow.Leads]
    cases Registry.nonempty? (registry.engine id).state.savedId with
    | none => exact holds
    | some saved =>
        exact (holds_loadSaved fetched holds false).andThen
          fun _ _ _ kept => kept
  apply looks.andThen
  intro segment later after holds
  show Flow.Leads _ (Flow.bind (ask id surface) _) _ _ _
  apply (holds_ask holds surface).andThen
  intro submission later after holds
  cases submission with
  | none => exact holds
  | some submission =>
      exact (holds_answerRefine replaces holds _ submission).andThen
        fun _ _ _ kept => kept

end Flows

/-! ## One call after the other -/

/-- A call on an engine.  Restoring is known to have ended for some engines. -/
inductive Task where
  | load (refresh : Bool)
  | update (segment : String) (patch : SavedSegment.Patch)
  | openPrompt (defaults : Defaults) (surface : Option Surface)
  | openRefine (surface : Option Surface)
  | hydrate (known : Keyed EngineId (Except Fault Unit))

/-- What a call does when nothing overlaps it. -/
def Task.flow (id : EngineId) : Task → Flow Registry Unit
  | load refresh => (loadSaved id refresh).bind fun _ => .done ()
  | update segment patch => (updateSaved id segment patch).bind fun _ => .done ()
  | openPrompt defaults surface =>
      (Engine.openPrompt id defaults surface).bind fun _ => .done ()
  | openRefine surface => (Engine.openRefine id surface).bind fun _ => .done ()
  | hydrate known =>
      ((Engine.hydrate id).serial Engine.restoring known).bind fun _ => .done ()

/-- The call can change a segment without dropping the list. -/
def Task.Changes : Task → Prop
  | update _ _ => True
  | openRefine _ => True
  | _ => False

/-- Calls that do not overlap lead from one state to another, however they
end. -/
inductive Reached (listing : List SavedSegment → List SavedSegment)
    (id : EngineId) (event : String) (start : Registry)
    (stored : List SavedSegment) : Registry → List SavedSegment → Prop where
  | start : Reached listing id event start stored start stored
  | call {registry later : Registry} {rows after : List SavedSegment}
      {result : Except Fault Unit} (task : Task)
      (reached : Reached listing id event start stored registry rows)
      (ran : (task.flow id).Ran (serves listing event) registry rows result
        later after) :
      Reached listing id event start stored later after

section Calls

variable {listing : List SavedSegment → List SavedSegment}
variable {related : List SavedSegment → List SavedSegment → Prop}
variable {id : EngineId} {event : String} {registry start : Registry}
variable {rows stored : List SavedSegment}

theorem holds_hydrate (fetched : ∀ rows, related (listing rows) rows)
    (holds : Holds related id event registry rows)
    (known : Keyed EngineId (Except Fault Unit)) :
    ((Engine.hydrate id).serial Engine.restoring known).Leads
      (serves listing event) (fun _ => Holds related id event) registry rows :=
  Recalling.leads_hydrate holds (holds_restoring fetched holds) known

/-- Every call keeps what holds; replacing rows only matters where a call can
change a segment without dropping the list. -/
theorem holds_task (fetched : ∀ rows, related (listing rows) rows) (task : Task)
    (replaces : task.Changes → ∀ row known rows, related known rows →
      related (replaced row known) (replaced row rows))
    (holds : Holds related id event registry rows) :
    (task.flow id).Leads (serves listing event)
      (fun _ => Holds related id event) registry rows := by
  cases task with
  | load refresh =>
      exact (holds_loadSaved fetched holds refresh).andThen fun _ _ _ kept => kept
  | update segment patch =>
      exact (holds_updateSaved (replaces trivial) holds segment patch).andThen
        fun _ _ _ kept => kept
  | openPrompt defaults surface =>
      exact (holds_openPrompt fetched holds defaults surface).andThen
        fun _ _ _ kept => kept
  | openRefine surface =>
      exact (holds_openRefine fetched (replaces trivial) holds surface).andThen
        fun _ _ _ kept => kept
  | hydrate known =>
      exact (holds_hydrate fetched holds known).andThen fun _ _ _ kept => kept

/-- After every call, the loaded list has the rows of the backend. -/
theorem Reached.holds (sorts : ∀ rows, (listing rows).Perm rows)
    (first : Holds List.Perm id event start stored)
    (reached : Reached listing id event start stored registry rows) :
    Holds List.Perm id event registry rows := by
  induction reached with
  | start => exact first
  | call task reached ran ih =>
      exact (holds_task sorts task
        (fun _ _ _ _ perm => replaced_perm perm) ih).ran ran

/-- One client calls an engine in any way, one call after the other, and failed
requests change nothing.  Then loading the list answers the rows of a fresh list,
and in the same order if and only if the list that is kept is in the order of the
backend.  Only a change of a segment can bring it out of that order: it does so
exactly if the row that it replaces would be listed in another place. -/
theorem cached_list_is_permuted (sorts : ∀ rows, (listing rows).Perm rows)
    (first : Holds List.Perm id event start stored)
    (reached : Reached listing id event start stored registry rows) :
    (∀ cached fresh later after last ending,
      (loadSaved id false).Ran (serves listing event) registry rows
        (.ok (.ok cached)) later after →
      (loadSaved id true).Ran (serves listing event) registry rows
        (.ok (.ok fresh)) last ending →
      cached.Perm fresh ∧
        (cached = fresh ↔ InOrder listing id registry rows)) ∧
    (InOrder listing id registry rows →
      (∀ task : Task, ¬ task.Changes → ∀ result later after,
        (task.flow id).Ran (serves listing event) registry rows result later
          after →
        InOrder listing id later after) ∧
      ∀ segment patch row later after,
        (updateSaved id segment patch).Ran (serves listing event) registry rows
          (.ok (.ok row)) later after →
        (InOrder listing id later after ↔
          (registry.engine id).saved = none ∨
            listing (replaced row rows) = replaced row (listing rows))) := by
  have holds := reached.holds sorts first
  constructor
  · intro cached fresh later after last ending ran also
    obtain ⟨rfl, -⟩ :=
      ((leads_loadSaved false holds.proper).ran ran).listed cached rfl
    obtain ⟨rfl, -⟩ :=
      ((leads_loadSaved true holds.proper).ran also).listed fresh rfl
    unfold InOrder
    cases known : (registry.engine id).saved with
    | none => simp
    | some segments =>
        exact ⟨(holds.list segments known).trans (sorts rows).symm, by simp⟩
  · intro inOrder
    constructor
    · intro task silent result later after ran
      have ordered : Holds (fun known rows => known = listing rows) id event
          registry rows := ⟨holds.proper, inOrder⟩
      have listed (rows : List SavedSegment) : listing rows = listing rows := rfl
      exact ((holds_task listed task (fun changes => absurd changes silent)
        ordered).ran ran).list
    · intro segment patch row later after ran
      obtain ⟨rfl, saved⟩ :=
        ((leads_updateSaved holds.proper segment patch).ran ran).told row rfl
      unfold InOrder
      rw [saved]
      cases known : (registry.engine id).saved with
      | none => simp
      | some segments =>
          rw [inOrder segments known]
          simp [eq_comm]

end Calls

section Starring

open Reloading (withEngine everyone)

/-- Favorites first, then by last use, then by last change. -/
def inOrder (rows : List SavedSegment) : List SavedSegment :=
  rows.insertionSort fun first second =>
    Memory.keyBelow (Memory.listKey first.toJson)
      (Memory.listKey second.toJson) = false

/-- A saved segment as the backend sends it. -/
def sentRow (id changed : String) (favorite : Bool) : Json :=
  .obj
    [ ("id", .str id), ("prompt", .str "Everyone"), ("ast", everyone.toJson),
      ("favorite", .bool favorite), ("updatedAt", .str changed) ]

/-- The segment that is listed first at the beginning. -/
def early : Json := sentRow "seg_1" "2024-01-02T00:00:00Z" false

/-- The segment that becomes a favorite. -/
def late : Bool → Json
  | false => sentRow "seg_2" "2024-01-01T00:00:00Z" false
  | true => sentRow "seg_2" "2024-01-03T00:00:00Z" true

/-- A row that was sent. -/
def rowOf (sent : Json) : SavedSegment :=
  (SavedSegment.read sent).toExcept.toOption.getD default

/-- The rows before and after the segment becomes a favorite. -/
def rowsAt (starred : Bool) : List SavedSegment :=
  [rowOf early, rowOf (late starred)]

theorem read_sent {sent : Json} (known : sent ∈ [early, late false, late true]) :
    SavedSegment.read sent = .value (rowOf sent) := by
  have there : ∀ sent ∈ [early, late false, late true],
      (SavedSegment.read sent).toExcept.toOption.isSome = true := by
    decide +kernel
  have readable := there sent known
  unfold rowOf
  cases read : SavedSegment.read sent with
  | value row => rfl
  | _ =>
      rw [read] at readable
      cases readable

/-- The backend sends its list, or makes the segment a favorite; no segment can
be created. -/
def answer (starred : Bool) (call : Call) : Reply × Bool :=
  if creates call then (.timeout, starred)
  else if changes call then (toldRow (late true), true)
  else (toldRows (if starred then [late true, early] else [early, late false]),
    starred)

theorem inOrder_rowsAt (starred : Bool) : inOrder (rowsAt starred) =
    if starred then [rowOf (late true), rowOf early]
    else [rowOf early, rowOf (late false)] := by
  have first : Memory.keyBelow (Memory.listKey (rowOf early).toJson)
      (Memory.listKey (rowOf (late false)).toJson) = false := by decide +kernel
  have last : Memory.keyBelow (Memory.listKey (rowOf early).toJson)
      (Memory.listKey (rowOf (late true)).toJson) = true := by decide +kernel
  cases starred <;>
    simp [inOrder, rowsAt, List.insertionSort, List.orderedInsert, first, last]

theorem replaced_rowsAt (starred : Bool) :
    replaced (rowOf (late true)) (rowsAt starred) = rowsAt true := by
  have same : ∀ starred, (rowOf (late starred)).id = (rowOf (late true)).id := by
    decide +kernel
  have other : (rowOf early).id ≠ (rowOf (late true)).id := by decide +kernel
  simp [replaced, rowsAt, same starred, other]

theorem serves_answer (starred : Bool) (call : Call) :
    serves inOrder "event" (rowsAt starred) call (answer starred call).1
      (rowsAt (answer starred call).2) := by
  unfold answer
  split
  · exact .inr ⟨fun json => nofun, rfl⟩
  rename_i quiet
  split
  · rename_i changing
    have tells : row? (toldRow (late true)) = some (rowOf (late true)) :=
      row?_toldRow rfl (read_sent (by simp))
    refine .inl ⟨⟨_, rfl⟩, ?_, fun _ => ⟨_, tells⟩, ?_⟩
    · rintro ⟨client, made⟩
      rw [(silent_of_get (Client.parts_of_call made).1).1] at changing
      cases changing
    · rw [stored, tells, changing]
      exact (replaced_rowsAt starred).symm
  · rename_i still
    have silent : Silent call := ⟨by simpa using still, by simpa using quiet⟩
    refine .inl ⟨?_, fun _ => ⟨_, ?_, (inOrder_rowsAt starred).symm⟩, ?_, ?_⟩
    · cases starred <;> exact ⟨_, rfl⟩
    · cases starred <;>
        exact listed?_toldRows rfl (by simp [read_sent])
    · intro speaks
      rw [silent.1, silent.2] at speaks
      cases speaks
    · exact (stored_of_silent silent _ _).symm

/-- A flow of an engine runs as the backend answers it. -/
theorem ran_of_answer {α : Type} {flow : Flow Registry α}
    {registry later : Registry} {starred after : Bool} {result : Except Fault α}
    (ended : flow.computed answer registry starred =
      some (result, later, after)) :
    flow.Ran (serves inOrder "event") registry (rowsAt starred) result later
      (rowsAt after) :=
  (Flow.ran_of_computed serves_answer ended).viewed

/-- The identifiers of the rows that were loaded. -/
def identifiers : Except Fault (Outcome (List SavedSegment)) →
    Option (List String)
  | .ok (.ok rows) => some (rows.map SavedSegment.id)
  | _ => none

/-- The list is loaded, the segment becomes a favorite, and the list is loaded
again, once from the cache and once from the backend. -/
def relisted : Option (List String × List String) := do
  let (_, listed, before) ←
    ((Task.load false).flow 0).computed answer withEngine false
  let (_, starred, after) ← ((Task.update "seg_2"
    { SavedSegment.Patch.empty with favorite := some (some true) }).flow
      0).computed answer listed before
  let (cached, _) ← (loadSaved 0 false).computed answer starred after
  let (fresh, _) ← (loadSaved 0 true).computed answer starred after
  return (← identifiers cached, ← identifiers fresh)

theorem relisted_eq :
    relisted = some (["seg_1", "seg_2"], ["seg_2", "seg_1"]) := by
  decide +kernel

theorem exists_of_identifiers {result : Except Fault (Outcome (List SavedSegment))}
    {ids : List String} (same : identifiers result = some ids) :
    ∃ rows, result = .ok (.ok rows) ∧ rows.map SavedSegment.id = ids := by
  obtain fault | problem | rows := result
  · cases same
  · cases same
  · exact ⟨rows, rfl, Option.some.inj same⟩

theorem exists_starred : ∃ registry rows cached fresh later after last ending,
    Reached inOrder 0 "event" withEngine (rowsAt false) registry rows ∧
    (loadSaved 0 false).Ran (serves inOrder "event") registry rows
      (.ok (.ok cached)) later after ∧
    (loadSaved 0 true).Ran (serves inOrder "event") registry rows
      (.ok (.ok fresh)) last ending ∧
    cached.map SavedSegment.id = ["seg_1", "seg_2"] ∧
    fresh.map SavedSegment.id = ["seg_2", "seg_1"] := by
  have ended := relisted_eq
  simp only [relisted, Option.bind_eq_bind, Option.bind_eq_some_iff,
    Prod.exists, pure, Option.some.injEq, Prod.mk.injEq] at ended
  obtain ⟨_, listed, before, loads, _, starred, after, stars, kept, later, next,
    caches, asked, last, ending, fetches, _, known, _, given, rfl, rfl⟩ := ended
  obtain ⟨cached, rfl, here⟩ := exists_of_identifiers known
  obtain ⟨fresh, rfl, there⟩ := exists_of_identifiers given
  exact ⟨starred, rowsAt after, cached, fresh, later, rowsAt next, last,
    rowsAt ending,
    .call _ (.call _ .start (ran_of_answer loads)) (ran_of_answer stars),
    ran_of_answer caches, ran_of_answer fetches, here, there⟩

theorem sorts_inOrder (rows : List SavedSegment) :
    (inOrder rows).Perm rows :=
  List.perm_insertionSort _ rows

/-- A new engine has no list. -/
theorem holds_withEngine (rows : List SavedSegment) :
    Holds List.Perm 0 "event" withEngine rows :=
  ⟨⟨by decide, rfl⟩, nofun⟩

/-- A segment that became a favorite is listed first, but stays where it was in
the list that is kept. -/
theorem cached_list_is_permuted_at_star :
    ∃ registry rows, ∃ cached fresh : List SavedSegment,
      Reached inOrder 0 "event" withEngine (rowsAt false) registry rows ∧
      cached.Perm fresh ∧ cached ≠ fresh ∧
      ¬ InOrder inOrder 0 registry rows := by
  obtain ⟨registry, rows, cached, fresh, later, after, last, ending, reached,
    caches, fetches, here, there⟩ := exists_starred
  obtain ⟨perm, same⟩ := (cached_list_is_permuted sorts_inOrder
    (holds_withEngine _) reached).1 cached fresh later after last ending caches
      fetches
  have other : cached ≠ fresh := fun same => by
    rw [same, there] at here
    simp at here
  exact ⟨registry, rows, cached, fresh, reached, perm, other,
    fun inOrder => other (same.mpr inOrder)⟩

/-- So the list that is kept does not always answer what a fresh one would. -/
theorem star_keeps_place : ¬ ∀ registry rows cached fresh later after last ending,
    Reached inOrder 0 "event" withEngine (rowsAt false) registry rows →
    (loadSaved 0 false).Ran (serves inOrder "event") registry rows
      (.ok (.ok cached)) later after →
    (loadSaved 0 true).Ran (serves inOrder "event") registry rows
      (.ok (.ok fresh)) last ending →
    cached = fresh := by
  intro always
  obtain ⟨registry, rows, cached, fresh, later, after, last, ending, reached,
    caches, fetches, here, there⟩ := exists_starred
  rw [always registry rows cached fresh later after last ending reached caches
    fetches, there] at here
  simp at here

end Starring

end Transparency
end Audience
