import Audience.Proofs.Engine.Hydrating
import Audience.Proofs.Engine.Listing
import Audience.Proofs.Engine.Pairing
import Audience.Proofs.Engine.Reloading
import Audience.Proofs.Flow.Leading

/-!
# What a document recalls

An engine that is restored runs alone: it reads its document, may ask for the list
of saved segments and runs a filter.  Unless that brings back what the document
recalls, it keeps whatever these calls keep.
-/

namespace Audience
namespace Recalling

open Engine
open Hydrating (storedTree resuming)
open Registry (Alters)
open Restoring (WritesNothing writesNothing_of_post)

section Recalled

/-- What was restored is on screen, and nothing happened to the cache and to the
list of saved segments. -/
structure Shows (id : EngineId) (restored : Registry.Restored)
    (before after : Registry) : Prop where
  has : after.Has id
  event : (after.engine id).event = (before.engine id).event
  cache : after.cache = before.cache
  saved : (after.engine id).saved = (before.engine id).saved
  savedId : (after.engine id).state.savedId =
    Registry.nonempty? restored.savedId
  savedTitle : (after.engine id).state.savedTitle = restored.title

variable {id : EngineId} {registry later : Registry}

/-- Filling in a prompt does not touch the cache. -/
@[simp] theorem backfillPrompt_cache :
    (registry.backfillPrompt id).cache = registry.cache := by
  unfold Registry.backfillPrompt
  split <;> simp

/-- A restoring that is accepted shows what it restores. -/
theorem shows_of_accepted (has : registry.Has id)
    (restored : Registry.Restored) :
    Shows id restored registry (((registry.modifyEngine id fun engine =>
      engine.takeToken.moveTo engine.firstPage).transition id
        restored.apply).backfillPrompt id) := by
  have alters : Alters id _ registry _ :=
    (Alters.of_modifyEngine fun engine : Engine =>
      engine.takeToken.moveTo engine.firstPage).trans
      (.of_transition restored.apply)
  have shown := alters.engine id
  rw [if_pos ⟨rfl, has⟩] at shown
  have there := (alters.has id).mpr has
  have spares := Restoring.spares_backfillPrompt ((registry.modifyEngine id
    fun engine => engine.takeToken.moveTo engine.firstPage).transition id
      restored.apply) id
  have filled := spares.engine id
  refine ⟨(spares.has id).mpr there, ?_, by simp, ?_, ?_, ?_⟩
  · rw [filled.event, shown]
    rfl
  · have same := (Listing.spares_backfillPrompt _ id ⟨there, rfl⟩).1
    refine same.trans ?_
    show (Registry.engine id _).saved = _
    rw [shown]
    rfl
  · rw [filled.savedId, shown]
    rfl
  · rw [filled.savedTitle, shown]
    rfl

/-- A document says what to restore: if it holds a tree, its own segment and
title, and otherwise the segment that it names, with its own title if there is
one. -/
inductive Recalls (id : EngineId) (document : Document) (registry : Registry)
    (restored : Registry.Restored) : Prop where
  | inline (tree : (storedTree document).isFull = true)
      (savedId : restored.savedId = document.ai.savedSegmentId)
      (title : restored.title = document.ai.title)
  | saved (row : SavedSegment) (treeless : (storedTree document).isFull = false)
      (named : Registry.nonempty? document.ai.savedSegmentId = some row.id)
      (listed : row ∈ (registry.engine id).savedSegments)
      (savedId : restored.savedId = some row.id)
      (title : restored.title =
        AiState.firstNonempty [document.ai.title] row.title)

/-- What is recalled has the segment that the document names. -/
theorem Recalls.savedId_eq {document : Document} {restored : Registry.Restored}
    (recalls : Recalls id document registry restored) :
    Registry.nonempty? restored.savedId =
      Registry.nonempty? document.ai.savedSegmentId := by
  cases recalls with
  | inline tree savedId title => rw [savedId]
  | saved row treeless named listed savedId title =>
      rw [savedId, ← named, Reloading.nonempty?_nonempty?]

/-- A saved segment that is required is on the list in the end. -/
theorem leads_found {β : Type} {serves : β → Call → Reply → β → Prop}
    {server : β} (segment : String) :
    (requireSaved id segment).Leads serves (fun result later _ =>
      ∀ saved, result = .ok (.ok saved) →
        (later.engine id).findSaved? segment = some saved) registry server := by
  apply Flow.leads_bind.mpr
  apply (Flow.leads_any (loadSaved id false) registry server).mono
  intro result later after _
  obtain fault | problem | segments := result
  · rintro _ ⟨⟩
  · rintro _ ⟨⟩
  apply Flow.leads_bind.mpr
  simp only [findSaved, Flow.query, Flow.Leads]
  cases found : (later.engine id).findSaved? segment with
  | some saved =>
      intro other same
      cases same
      exact found
  | none =>
      apply Flow.leads_bind.mpr
      apply (Flow.leads_any (loadSaved id true) later after).mono
      intro result last ending _
      obtain fault | problem | segments := result
      · rintro _ ⟨⟩
      · rintro _ ⟨⟩
      apply Flow.leads_bind.mpr
      simp only [Flow.Leads]
      cases found : (last.engine id).findSaved? segment with
      | some saved =>
          intro other same
          cases same
          exact found
      | none => rintro _ ⟨⟩

section Rule

variable {β : Type} {serves : β → Call → Reply → β → Prop} {server : β}
variable (inv : Registry → β → Prop) {ends : Registry → β → Prop}
variable (has : ∀ registry server, inv registry server → registry.Has id)
variable (opened : ∀ registry server, inv registry server →
  inv registry.opened server)
variable (replied : ∀ registry before call reply after, Listing.Silent call →
  WritesNothing call → serves before call reply after →
    inv registry before → inv registry after)
variable (stays : ∀ registry server, inv registry server → ends registry server)

include has opened replied stays

/-- A run that is restored shows what it restores, or it only opened the
client. -/
theorem leads_restoreRun (filter : Filter.Root) (debug : Bool)
    (generation : Nat) {restored : Results → Registry.Restored}
    (shows : ∀ results before after server, inv before server →
      Shows id (restored results) before after → ends after server)
    (holds : inv registry server) :
    (restoreRun id filter debug generation restored).Leads serves
      (fun _ => ends) registry server := by
  show Flow.Leads serves (Flow.bind (Client.runSegment _ (some filter.filter)
    debug (some (registry.engine id).firstPage)) _) _ registry server
  apply Flow.leads_bind.mpr
  apply Flow.Alone.leads
  apply Client.alone_runSegment
  · intro result later unsuccessful place
    have kept : ends later server := by
      obtain rfl | rfl := place
      · exact stays _ _ holds
      · exact stays _ _ (opened _ _ holds)
    obtain fault | problem | results := result
    · exact kept
    · exact kept
    · exact absurd rfl (unsuccessful results)
  intro node call _ made reply after served
  obtain ⟨post, carries, -⟩ := Client.parts_of_call made
  have kept := replied _ _ _ _ _ (Listing.silent_of_post post carries rfl)
    (writesNothing_of_post post) served (opened _ _ holds)
  cases Client.runOutcome reply with
  | error fault => exact stays _ _ kept
  | ok outcome =>
      cases outcome with
      | error problem => exact stays _ _ kept
      | ok results =>
          show ends (registry.opened.restore id (restored results)
            (some (generation : Int))).2 after
          obtain refused | accepted :=
            registry.opened.restore_cases id (restored results) (some generation)
          · rw [refused]
            exact stays _ _ kept
          · rw [accepted]
            exact shows results _ _ _ kept
              (shows_of_accepted (has _ _ kept) (restored results))

/-- Once the document is read, restoring an engine keeps what holds, or shows
what the document recalls. -/
theorem leads_resuming {document : Document} (generation : Nat)
    (requires : ∀ segment, (requireSaved id segment).Leads serves
      (fun _ => inv) registry server)
    (recalls : ∀ restored before after server, inv before server →
      document.ai.enabled = true → Recalls id document before restored →
      Shows id restored before after → ends after server)
    (holds : inv registry server) :
    (resuming id generation document).Leads serves (fun _ => ends) registry
      server := by
  unfold resuming
  split
  · exact stays _ _ holds
  rename_i on
  have enabled : document.ai.enabled = true := by simpa using on
  split
  · rename_i tree
    show Flow.Leads _ (Flow.bind (Flow.ofNormal _) _) _ _ _
    cases Filter.Root.ofJson (storedTree document) with
    | error misuse => exact stays _ _ holds
    | ok root =>
        apply leads_restoreRun inv has opened replied stays root _ generation ?_ holds
        exact fun results before after server kept shows =>
          recalls _ before after server kept enabled (.inline tree rfl rfl) shows
  rename_i bare
  have treeless : (storedTree document).isFull = false := by simpa using bare
  cases named : Registry.nonempty? document.ai.savedSegmentId with
  | none => exact stays _ _ holds
  | some segment =>
      apply Flow.leads_bind.mpr
      apply ((requires segment).both (leads_found segment)).mono
      rintro result later after ⟨kept, found⟩
      obtain fault | problem | saved := result
      · exact stays _ _ kept
      · exact stays _ _ kept
      have found := found saved rfl
      have same := id_of_findSaved? found
      apply leads_restoreRun fun registry server => inv registry server ∧
        saved ∈ (registry.engine id).savedSegments
      · exact fun _ _ kept => has _ _ kept.1
      · exact fun _ _ kept => ⟨opened _ _ kept.1, kept.2⟩
      · exact fun _ _ _ _ _ silent quiet served kept =>
          ⟨replied _ _ _ _ _ silent quiet served kept.1, kept.2⟩
      · exact fun _ _ kept => stays _ _ kept.1
      · intro results before last server kept shows
        exact recalls _ before last server kept.1 enabled
          (.saved saved treeless (same ▸ named) kept.2 rfl rfl) shows
      · exact ⟨kept, Pairing.mem_of_findSaved? found⟩

end Rule

end Recalled

section Restored

variable {β : Type} {serves : β → Call → Reply → β → Prop} {server : β}
variable {inv : Registry → β → Prop} {id : EngineId} {registry : Registry}

/-- Restoring an engine keeps what its restoring from the document keeps, unless
the phase or the problem that is kept matters. -/
theorem leads_restoring
    (notes : ∀ (change : Engine → Engine) registry server,
      (∀ engine, ∃ phase hydrationError,
        change engine = { engine with phase, hydrationError }) →
      inv registry server → inv (registry.modifyEngine id change) server)
    (restores : (restoreFromDocument id).Leads serves (fun _ => inv)
      (Reloading.phased .hydrating id registry) server) :
    (Engine.restoring id).Leads serves (fun _ => inv) registry server := by
  have phased {registry : Registry} {server : β} (holds : inv registry server) :
      inv (Reloading.phased .hydrated id registry) server :=
    notes _ registry server (fun engine => ⟨_, engine.hydrationError, rfl⟩) holds
  show Flow.Leads _ ((restoreFromDocument id).finish (concludeRestoring id)) _
    (Reloading.phased .hydrating id registry) _
  apply Flow.leads_finish.mpr
  apply restores.mono
  intro result later after holds
  obtain fault | _ := result
  · cases fault with
    | problem problem =>
        exact phased (notes _ later after
          (fun engine => ⟨engine.phase, some problem, rfl⟩) holds)
    | _ => exact phased holds
  · exact phased holds

/-- So does waiting for an engine, be it restored already or not. -/
theorem leads_hydrate (holds : inv registry server)
    (restores : (Engine.restoring id).Leads serves (fun _ => inv) registry
      server) (known : Keyed EngineId (Except Fault Unit)) :
    ((Engine.hydrate id).serial Engine.restoring known).Leads serves
      (fun _ => inv) registry server := by
  have ends (result : Except Fault Unit)
      (known : Keyed EngineId (Except Fault Unit)) {later : Registry}
      {after : β} (holds : inv later after) :
      (((Flow.ofResult result).bind fun _ =>
        Flow.query fun registry : Registry => (registry.engine id).phase).serial
          Engine.restoring known).Leads serves (fun _ => inv) later after := by
    cases result <;> exact holds
  show Flow.Leads _ (Flow.serial Engine.restoring (.restored id fun result =>
    (Flow.ofResult result).bind fun _ => Flow.query fun registry : Registry =>
      (registry.engine id).phase) known) _ _ _
  rw [Flow.serial]
  cases Keyed.get? id known with
  | some result => exact ends result known holds
  | none =>
      apply Flow.leads_finish.mpr
      apply restores.mono
      exact fun result later after holds => ends result _ holds

end Restored

end Recalling
end Audience
