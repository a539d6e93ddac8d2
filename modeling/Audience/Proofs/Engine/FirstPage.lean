import Audience.Engine.Hydration
import Audience.Proofs.Engine.Applying
import Audience.Proofs.Engine.Failing
import Audience.Proofs.Engine.Limits
import Audience.Proofs.Engine.Moving
import Audience.Proofs.Engine.Reloading
import Audience.Proofs.Engine.Restoring
import Audience.Proofs.Flow.Leading

/-!
# The page of a segment that was just shown

A saved segment that is run again is run on the first page of the table, and the
table moves there.  An engine that is restored shows the page that it starts on.
But a segment that is generated from a prompt is shown wherever the table is.
-/

namespace Audience
namespace FirstPage

open Engine Paging
open Registry (Quiet Alters)
open Restoring (Spares)

/-- How a segment comes on screen: a saved one is run again, a new one is
generated, or the one in the document is restored. -/
inductive Way where
  | again
  | anew
  | restored
  deriving DecidableEq

/-- The page that the table is then on. -/
def Way.page (engine : Engine) : Way → Page
  | again => { engine.table.page with number := 1 }
  | anew => engine.table.page
  | restored => engine.firstPage

/-- The way that a submission leads to. -/
def wayOf (submission : Submission) : Way :=
  if (Registry.nonempty? submission.savedSegmentId).isSome then .again else .anew

/-- A call that may bring a segment on screen. -/
inductive Task where
  | generate (prompt title : String) (debug : Bool)
  | runSaved (segment : SavedSegment)
  | openPrompt (defaults : Defaults) (surface : Option Surface)
  | openRefine (surface : Option Surface)
  | hydrate

namespace Task

/-- What is done, and whether it succeeds. -/
def flow (id : EngineId) : Task → Flow Registry Bool
  | generate prompt title debug =>
      (Engine.generate id prompt title debug).bind fun outcome =>
        .done outcome.isOk
  | runSaved segment =>
      (Engine.runSaved id segment).bind fun outcome => .done outcome.isOk
  | openPrompt defaults surface =>
      (Engine.openPrompt id defaults surface).bind fun turn =>
        .done (turn.outcome.any Except.isOk)
  | openRefine surface =>
      (Engine.openRefine id surface).bind fun turn =>
        .done (turn.outcome.any Except.isOk)
  | hydrate =>
      ((Engine.hydrate id).serial Engine.restoring []).bind fun _ => .done true

/-- The way in which a segment comes on screen, if one does. -/
def way (engine : Engine) : Task → Option Way
  | generate .. => some .anew
  | runSaved _ => some .again
  | openPrompt _ surface =>
      ((surface.or engine.surface).bind Surface.answer).map wayOf
  | openRefine _ => some .anew
  | hydrate => some .restored

/-- The call may succeed without a segment: a refined prompt that only renames,
and a restoring that finds nothing or is not accepted. -/
def MaySpare : Task → Prop
  | openRefine _ => True
  | hydrate => True
  | _ => False

end Task

section Resting

variable {id : EngineId} {registry before middle after : Registry}

/-- The table of an engine and the rows in it are as they were. -/
structure Rests (id : EngineId) (before after : Registry) : Prop where
  has : after.Has id ↔ before.Has id
  event : (after.engine id).event = (before.engine id).event
  firstPage : (after.engine id).firstPage = (before.engine id).firstPage
  surface : (after.engine id).surface = (before.engine id).surface
  table : (after.engine id).table = (before.engine id).table
  results : (after.engine id).state.results = (before.engine id).state.results

theorem Rests.refl (id : EngineId) (registry : Registry) :
    Rests id registry registry :=
  ⟨Iff.rfl, rfl, rfl, rfl, rfl, rfl⟩

theorem Rests.trans (early : Rests id before middle)
    (late : Rests id middle after) : Rests id before after where
  has := late.has.trans early.has
  event := late.event.trans early.event
  firstPage := late.firstPage.trans early.firstPage
  surface := late.surface.trans early.surface
  table := late.table.trans early.table
  results := late.results.trans early.results

theorem rests_of_spares (spares : Spares before after) :
    Rests id before after :=
  have spared := spares.engine id
  ⟨spares.has id, spared.event, spared.firstPage, spared.surface, spared.table,
    spared.results⟩

theorem rests_of_quiet (quiet : before.Quiet after) : Rests id before after :=
  have spared := Restoring.Spared.of_retitled (quiet.engine id)
  ⟨quiet.has id, spared.event, spared.firstPage, spared.surface, spared.table,
    spared.results⟩

theorem rests_of_alters {change : Engine → Engine}
    (alters : Alters id change before after)
    (keeps : ∀ engine, (change engine).event = engine.event ∧
      (change engine).firstPage = engine.firstPage ∧
      (change engine).surface = engine.surface ∧
      (change engine).table = engine.table ∧
      (change engine).state.results = engine.state.results) :
    Rests id before after := by
  have engine := alters.engine id
  split at engine
  · obtain ⟨event, firstPage, surface, table, results⟩ :=
      keeps (before.engine id)
    rw [← engine] at event firstPage surface table results
    exact ⟨alters.has id, event, firstPage, surface, table, results⟩
  · exact ⟨alters.has id, by rw [engine], by rw [engine], by rw [engine],
      by rw [engine], by rw [engine]⟩

variable {β : Type} {serves : β → Call → Reply → β → Prop} {server : β}
variable {α : Type} {flow : Flow Registry α}

/-- A flow that spares its users rests. -/
theorem leads_sparing (id : EngineId)
    (makes : flow.Makes Spares (fun _ => True) registry) :
    flow.Leads serves (fun _ later _ => Rests id registry later) registry
      server :=
  ((makes.relax fun _ _ => rests_of_spares).leads_along (Rests.refl id)
    Rests.trans).mono fun _ _ _ => And.right

/-- So does a quiet one. -/
theorem leads_quiet (id : EngineId) {ends : Except Fault α → Prop}
    (makes : flow.Makes Quiet ends registry) :
    flow.Leads serves (fun _ later _ => Rests id registry later) registry
      server :=
  ((makes.relax fun _ _ => rests_of_quiet).leads_along (Rests.refl id)
    Rests.trans).mono fun _ _ _ => And.right

end Resting

section Showing

variable {β : Type} {serves : β → Call → Reply → β → Prop} {server : β}
variable {id : EngineId} {registry : Registry}

/-- A user's change leaves the table alone and brings its results. -/
theorem leads_apply (has : registry.Has id) (change : Engine.Change) :
    (apply id change).Leads serves (fun result later _ => result = .ok () →
      (later.engine id).table = (registry.engine id).table ∧
      (later.engine id).state.results =
        change.results.getD (registry.engine id).state.results) registry
      server := by
  show Flow.Leads serves (Flow.bind (Flow.ofNormal change.root) _) _
    (change.counted id registry) server
  cases change.root with
  | error misuse => exact nofun
  | ok root =>
      show Flow.Leads serves (persist id _) _ (change.shown id root registry) _
      apply (leads_quiet id (makes_persist id _ _)).mono
      intro result later after rests _
      refine ⟨rests.table.trans (change.table_shown id registry root), ?_⟩
      rw [rests.results, change.state_shown id registry root has]
      rfl

/-- A segment came on screen in one of the ways.  Unless it is new, its results
are the reply to a call for the page that the table is on. -/
structure Installed (serves : β → Call → Reply → β → Prop) (id : EngineId)
    (way : Way) (before after : Registry) : Prop where
  active : (after.engine id).state.usesAi = true
  page : (after.engine id).table.page = way.page (before.engine id)
  asked : way ≠ .anew → ∃ results, (after.engine id).state.results =
    some results ∧ ∃ call reply sooner later, serves sooner call reply later ∧
      Asks call (way.page (before.engine id)) ∧
      Client.runOutcome reply = .ok (.ok results)

section Frames

variable {way : Way} {before middle after : Registry}

theorem Installed.after_rest (rests : Rests id before middle)
    (installed : Installed serves id way middle after) :
    Installed serves id way before after := by
  have same : way.page (middle.engine id) = way.page (before.engine id) := by
    unfold Way.page
    rw [rests.table, rests.firstPage]
  obtain ⟨active, page, asked⟩ := installed
  rw [same] at page asked
  exact ⟨active, page, asked⟩

theorem Installed.before_rest
    (installed : Installed serves id way before middle)
    (rests : Rests id middle after) : Installed serves id way before after := by
  obtain ⟨active, page, asked⟩ := installed
  rw [AiState.usesAi, ← rests.results] at active
  rw [← rests.table] at page
  rw [← rests.results] at asked
  exact ⟨active, page, asked⟩

end Frames

/-- Moving the table and bringing a segment on screen. -/
theorem leads_moveAndApply (has : registry.Has id) (page : Page)
    (change : Engine.Change) :
    (Flow.bind (Flow.modify fun registry : Registry =>
      registry.modifyEngine id (Engine.moveTo page)) fun _ =>
        (apply id change).bind fun _ => Flow.done (Except.ok ())).Leads serves
      (fun (result : Except Fault (Outcome Unit)) later _ =>
        result = .ok (.ok ()) → (later.engine id).table.page = page ∧
          (later.engine id).state.results =
            change.results.getD (registry.engine id).state.results) registry
      server := by
  have moved := Registry.engine_modifyEngine_self has (Engine.moveTo page)
  show Flow.Leads serves ((apply id change).bind _) _
    (registry.modifyEngine id (Engine.moveTo page)) server
  apply Flow.leads_bind.mpr
  apply (leads_apply (by simpa using has) change).mono
  intro result later after brought
  obtain fault | _ := result
  · exact nofun
  · intro _
    obtain ⟨table, results⟩ := brought rfl
    rw [moved] at table results
    exact ⟨by rw [table]; rfl, results⟩

/-- What a user changes who runs a saved segment again. -/
def rerun (segment : SavedSegment) (results : Results) : Engine.Change :=
  { results := some (some results)
    savedId := some (some segment.id)
    ast := some (some segment.ast.toJson)
    title := some (some (shownTitle segment))
    prompt := some (some segment.prompt) }

/-- A saved segment that is run again is shown on the first page. -/
theorem leads_runSaved (has : registry.Has id) (segment : SavedSegment) :
    (runSaved id segment).Leads serves (fun result later _ =>
      result = .ok (.ok ()) → Installed serves id .again registry later)
      registry server := by
  show Flow.Leads serves (Flow.bind (Client.runSegment _
    (some segment.ast.filter) false (some { (registry.engine id).table.page with
      number := 1 })) _) _ registry server
  apply Flow.leads_bind.mpr
  apply Flow.Alone.leads
  apply Client.alone_runSegment
  · intro result later unsuccessful _
    obtain fault | problem | results := result
    · exact nofun
    · exact nofun
    · exact absurd rfl (unsuccessful results)
  intro node call same made reply after served
  cases ended : Client.runOutcome reply with
  | error fault => exact nofun
  | ok outcome =>
  cases outcome with
  | error problem => exact nofun
  | ok results =>
  have installs {between : Registry} {left : β}
      (rests : Rests id registry between) :
      (Flow.bind (Flow.modify fun between : Registry => between.modifyEngine id
        (Engine.moveTo (Way.again.page (registry.engine id)))) fun _ =>
          (apply id (rerun segment results)).bind fun _ =>
            Flow.done (Except.ok ())).Leads serves
        (fun (result : Except Fault (Outcome Unit)) later _ =>
          result = .ok (.ok ()) → Installed serves id .again registry later)
        between left := by
    apply (leads_moveAndApply (rests.has.mpr has) _ _).mono
    intro result later ending shown succeeded
    obtain ⟨page, brought⟩ := shown succeeded
    refine ⟨by rw [AiState.usesAi, brought]; rfl, page, fun _ => ?_⟩
    exact ⟨results, brought, call, reply, _, _, served, asks_of_call made, ended⟩
  apply Flow.leads_bind.mpr
  apply (leads_quiet id (Client.makes_markUsed _ segment.id _)).mono
  intro used between left marking
  have rests := (rests_of_spares (Restoring.spares_opened registry)).trans
    marking
  obtain fault | used := used
  · exact nofun
  dsimp only
  split
  · apply Flow.leads_bind.mpr
    apply (leads_sparing id (Restoring.makes_dropSaved id between)).mono
    intro dropped last ending dropping
    obtain fault | _ := dropped
    · exact nofun
    · exact installs (rests.trans dropping)
  · exact installs rests

/-- A segment that is generated is shown wherever the table is. -/
theorem leads_generate (has : registry.Has id) (prompt title : String)
    (debug : Bool) :
    (generate id prompt title debug).Leads serves (fun result later _ =>
      result = .ok (.ok ()) → Installed serves id .anew registry later)
      registry server := by
  show Flow.Leads serves (Flow.bind (Client.generate _ prompt _) _) _ registry
    server
  apply Flow.leads_bind.mpr
  apply (leads_sparing id (Restoring.makes_opening
    (Client.opens_generate _ prompt _ registry))).mono
  intro generated between left generating
  obtain fault | problem | generated := generated
  · exact nofun
  · exact nofun
  apply Flow.leads_bind.mpr
  apply (leads_sparing id (Restoring.makes_saveGenerated id prompt _
    generated.segment between)).mono
  intro saved last ending saving
  obtain fault | saved := saved
  · exact nofun
  have rests := generating.trans saving
  apply Flow.leads_bind.mpr
  apply (leads_apply (rests.has.mpr has) _).mono
  intro result later after brought
  obtain fault | _ := result
  · exact nofun
  · intro _
    obtain ⟨table, results⟩ := brought rfl
    refine ⟨by rw [AiState.usesAi, results]; rfl, ?_, fun new => absurd rfl new⟩
    rw [table, rests.table]
    rfl

/-- A prompt that is answered brings a saved segment or a new one. -/
theorem leads_answerPrompt (has : registry.Has id) (submission : Submission) :
    (answerPrompt id submission).Leads serves (fun result later _ =>
      result = .ok (.ok ()) →
        Installed serves id (wayOf submission) registry later)
      registry server := by
  unfold answerPrompt wayOf
  cases Registry.nonempty? submission.savedSegmentId with
  | none => exact leads_generate has _ _ _
  | some segment =>
      apply Flow.leads_bind.mpr
      apply (leads_sparing id (Restoring.makes_requireSaved id segment
        registry)).mono
      intro found between left rests
      obtain fault | problem | saved := found
      · exact nofun
      · exact nofun
      · apply (leads_runSaved (rests.has.mpr has) saved).mono
        exact fun result later after installed succeeded =>
          (installed succeeded).after_rest rests

/-- A question that is answered well leads where the answer does. -/
theorem leads_asked {question : Question} {surface : Option Surface}
    {answer : Submission → Flow Registry (Outcome Unit)}
    {ends : Registry → β → Prop}
    (answers : ∀ submission,
      (surface.or (registry.engine id).surface).bind Surface.answer =
        some submission →
      (answer submission).Leads serves (fun result later after =>
        result = .ok (.ok ()) → ends later after) registry server) :
    ((ask id surface).bind (Failing.answered question answer)).Leads serves
      (fun result later after => ∀ turn, result = .ok turn →
        turn.outcome = some (.ok ()) → ends later after) registry server := by
  have asked (given : Option Submission)
      (same : (surface.or (registry.engine id).surface).bind Surface.answer =
        given) :
      (Failing.answered question answer given).Leads serves
        (fun result later after => ∀ turn, result = .ok turn →
          turn.outcome = some (.ok ()) → ends later after) registry server := by
    cases given with
    | none =>
        rintro turn ⟨⟩ ⟨⟩
    | some submission =>
        apply Flow.leads_bind.mpr
        apply (answers submission same).mono
        intro result later after ended
        obtain fault | outcome := result
        · rintro _ ⟨⟩
        · rintro turn ⟨⟩ same
          exact ended (congrArg Except.ok (Option.some.inj same))
  rw [Provenance.ask_eq, Flow.leads_bind]
  simp only [Flow.Leads]
  split
  · exact asked _ rfl
  · rename_i own
    exact asked _ (by rw [own]; rfl)
  · rintro _ ⟨⟩

/-- Changing a saved segment leaves the table and the rows alone. -/
theorem leads_updateSaved (segment : String) (patch : SavedSegment.Patch) :
    (updateSaved id segment patch).Leads serves
      (fun _ later _ => Rests id registry later) registry server := by
  show Flow.Leads serves (Flow.bind (Client.updateSaved _ segment patch) _) _
    registry server
  apply Flow.leads_bind.mpr
  apply (leads_quiet id (Client.makes_updateSaved _ segment patch
    registry)).mono
  intro updated between left rests
  obtain fault | problem | saved := updated
  · exact rests
  · exact rests
  have replaced : Rests id between
      (between.modifyEngine id (Engine.replaceSaved saved)) :=
    rests_of_alters (.of_modifyEngine _) fun _ => ⟨rfl, rfl, rfl, rfl, rfl⟩
  apply rests.trans
  show Rests id between (if _ then _ else _)
  split
  · exact replaced.trans (rests_of_alters (.of_transition fun state =>
      { state with savedTitle := saved.title }) fun _ => ⟨rfl, rfl, rfl, rfl, rfl⟩)
  · exact replaced

/-- So does renaming the segment on screen. -/
theorem leads_rename (has : registry.Has id) (segment : String)
    (submission : Submission) :
    (rename id segment submission).Leads serves (fun result later _ =>
      result = .ok (.ok ()) →
        (later.engine id).table = (registry.engine id).table ∧
        (later.engine id).state.results = (registry.engine id).state.results)
      registry server := by
  apply Flow.leads_bind.mpr
  apply (leads_updateSaved segment _).mono
  intro renamed between left rests
  obtain fault | problem | saved := renamed
  · exact nofun
  · exact nofun
  show Flow.Leads serves (Flow.bind (apply id _) _) _ between left
  apply Flow.leads_bind.mpr
  apply (leads_apply (rests.has.mpr has) _).mono
  intro result later after brought
  obtain fault | _ := result
  · exact nofun
  · intro _
    obtain ⟨table, results⟩ := brought rfl
    exact ⟨table.trans rests.table, results.trans rests.results⟩

/-- The table and the rows in it stay, or a segment is shown in the way given. -/
def Brings (serves : β → Call → Reply → β → Prop) (id : EngineId) (way : Way)
    (before after : Registry) : Prop :=
  (after.engine id).table = (before.engine id).table ∧
      (after.engine id).state.results = (before.engine id).state.results ∨
    Installed serves id way before after

theorem Rests.brings {way : Way} {before after : Registry}
    (rests : Rests id before after) : Brings serves id way before after :=
  .inl ⟨rests.table, rests.results⟩

theorem Brings.after_rest {way : Way} {before middle after : Registry}
    (rests : Rests id before middle) (brings : Brings serves id way middle after) :
    Brings serves id way before after :=
  brings.imp
    (fun ⟨table, results⟩ =>
      ⟨table.trans rests.table, results.trans rests.results⟩)
    (Installed.after_rest rests)

theorem Brings.before_rest {way : Way} {before middle after : Registry}
    (brings : Brings serves id way before middle)
    (rests : Rests id middle after) : Brings serves id way before after :=
  brings.imp
    (fun ⟨table, results⟩ =>
      ⟨rests.table.trans table, rests.results.trans results⟩)
    (·.before_rest rests)

/-- A refined prompt renames the segment on screen or brings a new one. -/
theorem leads_openRefine (has : registry.Has id) (surface : Option Surface) :
    (openRefine id surface).Leads serves (fun result later _ =>
      ∀ turn, result = .ok turn → turn.outcome = some (.ok ()) →
        Brings serves id .anew registry later) registry server := by
  rw [Failing.openRefine_eq, Flow.leads_bind]
  apply (leads_sparing id (Restoring.makes_savedOnScreen id registry)).mono
  intro segment between left rests
  obtain fault | segment := segment
  · exact fun _ => nofun
  simp only [Flow.Leads]
  have there := rests.has.mpr has
  apply leads_asked
  intro submission _
  have generates : (generate id submission.prompt submission.title
      submission.debug).Leads serves (fun result later _ =>
        result = .ok (.ok ()) → Brings serves id .anew registry later) between
        left :=
    (leads_generate there _ _ _).mono fun _ _ _ installed succeeded =>
      .after_rest rests (.inr (installed succeeded))
  rw [Provenance.answerRefine_eq]
  simp only [Flow.Leads]
  cases Registry.nonempty? (between.engine id).state.savedId with
  | none => exact generates
  | some saved =>
      cases Prompt.sameWords submission.prompt
          (refineDefaults (between.engine id).state segment).prompt with
      | true =>
          exact (leads_rename there saved submission).mono
            fun _ _ _ renamed succeeded =>
              .after_rest rests (.inl (renamed succeeded))
      | false => exact generates

end Showing

section Restored

variable {β : Type} {serves : β → Call → Reply → β → Prop} {server : β}
variable {id : EngineId} {registry : Registry}

/-- A run that is restored is shown on the page that the engine starts on. -/
theorem leads_restoreRun (has : registry.Has id) (filter : Filter.Root)
    (debug : Bool) (generation : Nat) {restored : Results → Registry.Restored}
    (brought : ∀ results, (restored results).results = results)
    (tree : ∀ results, (restored results).ast.isSome) :
    (restoreRun id filter debug generation restored).Leads serves
      (fun _ later _ => Brings serves id .restored registry later) registry
      server := by
  show Flow.Leads serves (Flow.bind (Client.runSegment _ (some filter.filter)
    debug (some (registry.engine id).firstPage)) _) _ registry server
  apply Flow.leads_bind.mpr
  apply Flow.Alone.leads
  apply Client.alone_runSegment
  · intro result later unsuccessful place
    have still : Brings serves id .restored registry later := by
      obtain rfl | rfl := place
      · exact .inl ⟨rfl, rfl⟩
      · exact .inl ⟨rfl, rfl⟩
    obtain fault | problem | results := result
    · exact still
    · exact still
    · exact absurd rfl (unsuccessful results)
  intro node call _ made reply after served
  cases ended : Client.runOutcome reply with
  | error fault => exact .inl ⟨rfl, rfl⟩
  | ok outcome =>
  cases outcome with
  | error problem => exact .inl ⟨rfl, rfl⟩
  | ok results =>
  show Brings serves id .restored registry
    (registry.opened.restore id (restored results) (some (generation : Int))).2
  obtain refused | ⟨-, idle, accepted⟩ := Restoring.restore_in_generation
    registry.opened id (restored results) generation
  · rw [refused]
    exact .inl ⟨rfl, rfl⟩
  · rw [accepted]
    have restores : Restoring.Restores id (restored results) registry.opened _ :=
      Restoring.restores_of_accepted has (tree results) idle
    have shown := restores.results
    rw [brought results] at shown
    refine .inr ⟨by rw [AiState.usesAi, shown]; rfl, restores.page, fun _ => ?_⟩
    exact ⟨results, shown, call, reply, _, _, served, asks_of_call made, ended⟩

/-- Restoring an engine from its document shows a segment on that page, or leaves
the table and the rows alone. -/
theorem leads_restoreFromDocument (has : registry.Has id) :
    (restoreFromDocument id).Leads serves
      (fun _ later _ => Brings serves id .restored registry later) registry
      server := by
  show Flow.Leads serves (Flow.bind (Store.read _ false) _) _ registry server
  apply Flow.leads_bind.mpr
  apply (leads_sparing id (Restoring.makes_read _ false registry)).mono
  intro document between left rests
  obtain fault | document := document
  · exact rests.brings
  have there := rests.has.mpr has
  dsimp only
  split
  · exact rests.brings
  split
  · show Flow.Leads serves (Flow.bind (Flow.ofNormal _) _) _ between left
    cases Filter.Root.ofJson (document.ai.ast.getD .null) with
    | error misuse => exact rests.brings
    | ok root =>
        exact (leads_restoreRun there root _ _ (fun _ => rfl)
          fun _ => rfl).mono fun _ _ _ brings => brings.after_rest rests
  · split
    · rename_i segment _
      apply Flow.leads_bind.mpr
      apply (leads_sparing id (Restoring.makes_requireSaved id segment
        between)).mono
      intro found last ending seeking
      have rests := rests.trans seeking
      obtain fault | problem | saved := found
      · exact rests.brings
      · exact rests.brings
      · exact (leads_restoreRun (rests.has.mpr has) saved.ast false _
          (fun _ => rfl) fun _ => rfl).mono
            fun _ _ _ brings => brings.after_rest rests
    · exact rests.brings

/-- So does the one-time restoring. -/
theorem leads_hydrate (has : registry.Has id) :
    ((hydrate id).serial Engine.restoring []).Leads serves
      (fun _ later _ => Brings serves id .restored registry later) registry
      server := by
  have begun : Spares registry (Reloading.phased .hydrating id registry) :=
    Restoring.spares_modifyEngine (.of_learned _ _ _ _) rfl
  have beginning : Rests id registry
      (Reloading.phased .hydrating id registry) := rests_of_spares begun
  show ((Engine.restoring id).finish _).Leads serves _ registry server
  rw [Flow.leads_finish]
  show ((restoreFromDocument id).finish (concludeRestoring id)).Leads serves _
    (Reloading.phased .hydrating id registry) server
  rw [Flow.leads_finish]
  apply (leads_restoreFromDocument (beginning.has.mpr has)).mono
  intro result later after brings
  apply (leads_sparing id (Restoring.makes_concludeRestoring id result
    later)).mono
  intro ended last ending concluding
  have kept := (brings.after_rest beginning).before_rest concluding
  cases ended <;> exact kept

end Restored

section Runs

variable {β : Type} {serves : β → Call → Reply → β → Prop} {server : β}
variable {id : EngineId} {registry : Registry}

/-- A turn that succeeds was answered well. -/
theorem outcome_of_succeeded {turn : Turn}
    (succeeded : turn.outcome.any Except.isOk = true) :
    turn.outcome = some (.ok ()) := by
  obtain ⟨question, none | error | _⟩ := turn
  · cases succeeded
  · cases succeeded
  · rfl

/-- A call that succeeds brings a segment on screen in its way, or is one that
may spare the table. -/
theorem leads_task (has : registry.Has id) (task : Task) :
    (task.flow id).Leads serves (fun result later _ => result = .ok true →
      ∃ way, task.way (registry.engine id) = some way ∧
        (Installed serves id way registry later ∨ task.MaySpare ∧
          (later.engine id).table = (registry.engine id).table ∧
          (later.engine id).state.results =
            (registry.engine id).state.results)) registry server := by
  cases task with
  | generate prompt title debug =>
      apply Flow.leads_bind.mpr
      apply (leads_generate has prompt title debug).mono
      intro result later after installed
      obtain fault | problem | _ := result
      · exact nofun
      · exact nofun
      · exact fun _ => ⟨.anew, rfl, .inl (installed rfl)⟩
  | runSaved segment =>
      apply Flow.leads_bind.mpr
      apply (leads_runSaved has segment).mono
      intro result later after installed
      obtain fault | problem | _ := result
      · exact nofun
      · exact nofun
      · exact fun _ => ⟨.again, rfl, .inl (installed rfl)⟩
  | openPrompt defaults surface =>
      apply Flow.leads_bind.mpr
      rw [Failing.openPrompt_eq]
      have answers (submission : Submission)
          (answered : (surface.or (registry.engine id).surface).bind
            Surface.answer = some submission) :
          (answerPrompt id submission).Leads serves (fun result later _ =>
            result = .ok (.ok ()) → ∃ way, (Task.openPrompt defaults
              surface).way (registry.engine id) = some way ∧
                Installed serves id way registry later) registry server :=
        (leads_answerPrompt has submission).mono
          fun _ _ _ installed succeeded => ⟨wayOf submission,
            by rw [Task.way, answered]; rfl, installed succeeded⟩
      apply (leads_asked answers).mono
      intro result later after installed
      obtain fault | turn := result
      · exact nofun
      · intro succeeded
        obtain ⟨way, leads, shown⟩ :=
          installed turn rfl (outcome_of_succeeded (by simpa using succeeded))
        exact ⟨way, leads, .inl shown⟩
  | openRefine surface =>
      apply Flow.leads_bind.mpr
      apply (leads_openRefine has surface).mono
      intro result later after brings
      obtain fault | turn := result
      · exact nofun
      · intro succeeded
        have brings :=
          brings turn rfl (outcome_of_succeeded (by simpa using succeeded))
        exact ⟨.anew, rfl, brings.symm.imp_right fun kept => ⟨trivial, kept⟩⟩
  | hydrate =>
      apply Flow.leads_bind.mpr
      apply (leads_hydrate has).mono
      intro result later after brings
      obtain fault | phase := result
      · exact nofun
      · exact fun _ => ⟨.restored, rfl, brings.symm.imp_right fun kept =>
          ⟨trivial, kept⟩⟩

/-- While a segment is active, the table shows the page that it is on. -/
theorem alone_tableShown (active : (registry.engine id).state.usesAi = true)
    (rows : Json) (total : Option Int) :
    (tableShown id rows total).Alone serves (fun result _ _ =>
      ∃ shown, result = .ok shown ∧
        shown.page = (registry.engine id).table.page) registry server := by
  apply (Limits.alone_tableShown (Registry.has_of_usesAi active) rows total).mono
  rintro result later after ⟨ends, shows⟩
  have still : (Limits.withTotal total (registry.engine id)).state.usesAi =
      true := active
  split at ends
  · obtain ⟨shown, rfl⟩ := ends.gives ⟨_, Limits.clampedPage_of_usesAi still⟩
    refine ⟨shown, rfl, (shows shown rfl).trans ?_⟩
    rw [ends.kept, Limits.clamped_of_usesAi still]
    rfl
  · obtain ⟨rfl, -, shown, rfl⟩ := ends
    exact ⟨shown, rfl, shows shown rfl⟩

/-- What is true after a segment came on screen in a way, of the page that the
table is on and of the rows. -/
structure Starts (echoing : Prop) (way : Way) (before after : Engine) : Prop where
  active : after.state.usesAi = true
  first : after.table.page.number = 1 ↔
    (way = .anew → before.table.page.number = 1)
  left : way = .anew → after.table.page = before.table.page
  matching : echoing → way ≠ .anew →
    after.resultPage = some after.table.page

theorem Installed.starts {way : Way} {later : Registry}
    (installed : Installed serves id way registry later)
    (one : (registry.engine id).firstPage.number = 1) :
    Starts (∀ before call reply after,
      serves before call reply after → Echoes call reply) way
      (registry.engine id) (later.engine id) where
  active := installed.active
  first := by
    rw [installed.page]
    cases way <;> simp [Way.page, one]
  left := by
    rintro rfl
    exact installed.page
  matching := by
    intro echoes old
    obtain ⟨results, shown, call, reply, before, after, served, asks, ended⟩ :=
      installed.asked old
    rw [resultPage, shown, installed.page]
    exact page_of_outcome asks (echoes _ _ _ _ served) ended

/-- A call succeeds that may bring a segment on screen.  Then the table is on the
first page, unless the segment was generated while the table was on another one:
a generated segment leaves the table where it is.  The rows of any other segment
are those of the page that the table is on.  A call that may spare the table
leaves it and its rows alone, or brings a segment.  What the table shows is the
page that it is on. -/
theorem first_page_iff_not_anew {task : Task} {later : Registry} {after : β}
    (has : registry.Has id) (one : (registry.engine id).firstPage.number = 1)
    (ran : (task.flow id).Ran serves registry server (.ok true) later after) :
    (∃ way, task.way (registry.engine id) = some way ∧
      (Starts (∀ before call reply after,
          serves before call reply after → Echoes call reply) way
          (registry.engine id) (later.engine id) ∨
        task.MaySpare ∧
          (later.engine id).table = (registry.engine id).table ∧
          (later.engine id).state.results =
            (registry.engine id).state.results)) ∧
    ((later.engine id).state.usesAi = true →
      ∀ rows total result final done,
        (tableShown id rows total).Ran serves later after result final done →
        ∃ shown, result = .ok shown ∧
          shown.page = (later.engine id).table.page) := by
  constructor
  · obtain ⟨way, leads, brings⟩ := (leads_task has task).ran ran rfl
    exact ⟨way, leads, brings.imp_left (·.starts one)⟩
  · intro active rows total result final done shows
    exact (alone_tableShown active rows total).ran shows

end Runs

section ThirdPage

open Reloading (everyone withEngine)

/-- A reply to every call: to a prompt with all persons from the first page on, and
to a run with the page that was asked for. -/
def answer (_ : Unit) (call : Call) : Reply × Unit :=
  (.response 200 (.json (.obj
    [ ("segment", everyone.toJson),
      ("results", .obj [("pagination", Page.standard.toJson)]),
      ("pagination", (call.body.getD .null).get "pagination") ])), ())

/-- A backend that gives these replies. -/
def answers (_ : Unit) (call : Call) (reply : Reply) (_ : Unit) : Prop :=
  reply = (answer () call).1

/-- The table of a new engine was moved to the third page. -/
def onThirdPage : Registry :=
  withEngine.modifyEngine 0 (Engine.moveTo { Page.standard with number := 3 })

/-- A saved segment of all persons. -/
def saved : SavedSegment :=
  { (default : SavedSegment) with id := "seg_1", ast := everyone }

/-- A call that is computed to succeed, and to leave the table on a page. -/
theorem exists_ran_to (task : Task) (number : Int)
    (ended : ((task.flow 0).computed answer onThirdPage ()).any (fun ends =>
      ends.1.toOption == some true &&
        (ends.2.1.engine 0).table.page.number == number) = true) :
    ∃ later, (task.flow 0).Ran answers onThirdPage () (.ok true) later () ∧
      (later.engine 0).table.page.number = number := by
  obtain ⟨result, later, after, ran, passed⟩ :
      ∃ result later after,
        (task.flow 0).Ran answers onThirdPage () result later after ∧
        (result.toOption == some true &&
          (later.engine 0).table.page.number == number) = true :=
    Flow.exists_ran answer _ _ _ _ (fun _ _ => rfl) ended
  simp only [Bool.and_eq_true, beq_iff_eq] at passed
  obtain ⟨success, page⟩ := passed
  obtain fault | _ := result
  · cases success
  · cases success
    exact ⟨later, ran, page⟩

/-- A saved segment that is run again starts on the first page. -/
theorem first_page_iff_not_anew_at_rerun :
    ∃ later, ((Task.runSaved saved).flow 0).Ran answers onThirdPage ()
        (.ok true) later () ∧
      (later.engine 0).state.usesAi = true ∧
      (later.engine 0).table.page.number = 1 := by
  obtain ⟨later, ran, -⟩ := exists_ran_to (.runSaved saved) 1
    (by decide +kernel)
  obtain ⟨⟨way, leads, starts | ⟨spared, -⟩⟩, -⟩ :=
    first_page_iff_not_anew (by decide) (by decide) ran
  · obtain rfl : Way.again = way := Option.some.inj leads
    exact ⟨later, ran, starts.active, starts.first.mpr nofun⟩
  · exact spared.elim

/-- A segment that is generated then starts on the third page. -/
theorem generated_segment_stays_on_page :
    onThirdPage.Has 0 ∧ (onThirdPage.engine 0).firstPage.number = 1 ∧
      ¬ ∀ (task : Task) later,
        (task.flow 0).Ran answers onThirdPage () (.ok true) later () →
        (later.engine 0).table.page.number = 1 := by
  refine ⟨by decide, by decide, fun always => ?_⟩
  obtain ⟨later, ran, third⟩ :=
    exists_ran_to (.generate "Everyone" "" false) 3 (by decide +kernel)
  rw [always _ later ran] at third
  exact absurd third (by decide)

end ThirdPage

end FirstPage
end Audience
