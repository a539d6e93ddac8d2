import Audience.Proofs.Engine.Naming

/-!
# A segment that was given another title

A saved segment has its title in its row and, while it is active, in the AI block
of the document and on screen.  Changing the segment changes the row and the
screen.  After a reload the screen shows the title of the block, and that of the
row only if the block has neither a title nor a tree.
-/

namespace Audience
namespace Retitling

open Engine
open Hydrating (storedTree)
open Listing (replaced)
open Naming
open Recalling (Recalls)

section Changing

variable {listing : List SavedSegment → List SavedSegment}
variable {id : EngineId} {event : String} {registry : Registry}
variable {server : Backend}

/-- A reply that serves the backend serves its rows. -/
theorem sees_rows (before : Backend) (call : Call) (reply : Reply)
    (after : Backend) (served : Serves listing event before call reply after) :
    Transparency.serves listing event before.rows call reply after.rows :=
  .inl served.rows

/-- A segment that is on screen is shown with the title in its new row. -/
theorem leads_retitle {β : Type} {serves : β → Call → Reply → β → Prop}
    {server : β} {segment : String} {patch : SavedSegment.Patch}
    (has : registry.Has id) (titled : patch.title.isSome)
    (active : (registry.engine id).state.savedId = some segment) :
    (updateSaved id segment patch).Leads serves (fun result later _ =>
      ∀ row, result = .ok (.ok row) →
        (later.engine id).state.savedTitle = row.title) registry server := by
  have opens : (Client.updateSaved (some (registry.engine id).event) segment
      patch).Makes (fun before after => after.engines = before.engines)
        (fun _ => True) registry :=
    (Client.opens_updateSaved _ segment patch registry).relax
      fun before _ same => same ▸ rfl
  have stays : (Client.updateSaved (some (registry.engine id).event) segment
      patch).Leads serves (fun _ later _ => later.engines = registry.engines)
        registry server :=
    opens.leads (fun _ _ _ same kept => same.trans kept)
      (fun _ _ _ _ _ _ _ kept => kept) (Flow.sends_any _) rfl
  show Flow.Leads _ (Flow.bind (Client.updateSaved _ segment patch) _) _ _ _
  apply Flow.leads_bind.mpr
  apply stays.mono
  intro result later after same
  obtain fault | problem | row := result
  · exact fun _ => nofun
  · exact fun _ => nofun
  have there : later.Has id := by
    unfold Registry.Has
    rw [same]
    exact has
  have replaced : (later.modifyEngine id (Engine.replaceSaved row)).engine id =
      Engine.replaceSaved row (registry.engine id) := by
    rw [Registry.engine_modifyEngine_self there]
    unfold Registry.engine
    rw [same]
  show ∀ other, _ → ((if _ ∧ _ then _ else _ : Registry).engine
    id).state.savedTitle = _
  rintro other ⟨⟩
  rw [if_pos ⟨by rw [replaced]; exact active, titled⟩,
    Registry.engine_transition,
    Registry.engine_modifyEngine_self (by simpa using there)]

/-- Changing a segment does not touch the document. -/
theorem leads_unwritten (segment : String) (patch : SavedSegment.Patch) :
    (updateSaved id segment patch).Leads (Serves listing event)
      (fun _ _ after => after.fields = server.fields) registry server := by
  have sends : (updateSaved id segment patch).Sends
      Restoring.WritesNothing := by
    intro registry
    apply ((Client.sends_updateSaved _ segment patch).relax
      fun _ => Pairing.fits_patch).bind
    intro outcome
    cases outcome with
    | error problem => trivial
    | ok saved => exact fun _ => trivial
  exact sends.leads (fun _ _ _ _ silent served same =>
    (served.unwritten silent).trans same) rfl

/-- Once a row is replaced, it is the only one with its identifier. -/
theorem eq_of_mem_replaced {row other : SavedSegment} {rows : List SavedSegment}
    (there : other ∈ replaced row rows) (same : other.id = row.id) :
    other = row := by
  obtain ⟨known, -, rfl⟩ := List.mem_map.mp there
  split at same <;> simp_all

end Changing

section Reload

variable {listing : List SavedSegment → List SavedSegment}
variable {id : EngineId} {event : String} {registry later : Registry}
variable {server : Backend} {document : Document}

/-- The title that a reload shows for a segment: that of the block if it holds a
tree or a title, and otherwise that of the row. -/
def recalled (document : Document) (row : SavedSegment) : String :=
  if (storedTree document).isFull then document.ai.title
  else AiState.firstNonempty [document.ai.title] row.title

theorem recalled_eq_iff {row : SavedSegment} :
    recalled document row = row.title ↔ document.ai.title = row.title ∨
      document.ai.title = "" ∧ (storedTree document).isFull = false := by
  unfold recalled
  cases (storedTree document).isFull with
  | true => simp
  | false =>
      by_cases empty : document.ai.title = "" <;>
        simp [AiState.firstNonempty, empty]

/-- No saved segment is on screen. -/
def Blank (id : EngineId) (registry : Registry) : Prop :=
  (registry.engine id).state.savedId = none ∧
    (registry.engine id).state.savedTitle = ""

/-- What is on screen after a reload: nothing, or the segment with its title. -/
def Brought (id : EngineId) (segment title : String) (registry : Registry) :
    Prop :=
  Blank id registry ∨ (registry.engine id).state.savedId = some segment ∧
    (registry.engine id).state.savedTitle = title

/-- What spares the users leaves the screen blank, and what says nothing about
saved segments leaves their rows. -/
theorem leads_blank {α : Type} {flow : Flow Registry α}
    (makes : flow.Makes Restoring.Spares (fun _ => True) registry)
    (sends : flow.Sends Listing.Silent) (blank : Blank id registry) :
    flow.Leads (Serves listing event) (fun _ later after =>
      Blank id later ∧ after.rows = server.rows) registry server := by
  apply makes.leads ?_ ?_ sends ⟨blank, rfl⟩
  · rintro before after ending spares ⟨blank, same⟩
    have spared := spares.engine id
    exact ⟨⟨spared.savedId.trans blank.1, spared.savedTitle.trans blank.2⟩, same⟩
  · rintro state before call reply after silent served ⟨blank, same⟩
    rw [served.rows.after, Listing.stored_of_silent silent]
    exact ⟨blank, same⟩

/-- What is recalled has the title that the reload shows, if the only listed row
of the segment is the given one. -/
theorem title_of_recalls {segment : String} {row : SavedSegment}
    {rows : List SavedSegment} {restored : Registry.Restored}
    (list : Transparency.Holds List.Perm id event registry rows)
    (only : ∀ other ∈ rows, other.id = segment → other = row)
    (names : Names document.ai segment)
    (recalls : Recalls id document registry restored) :
    restored.title = recalled document row := by
  unfold recalled
  cases recalls with
  | inline tree savedId title => rw [if_pos tree, title]
  | saved other treeless named listed savedId title =>
      have same : other.id = segment :=
        Option.some.inj (named.symm.trans names.savedId)
      have there : other ∈ rows := by
        unfold savedSegments at listed
        cases loaded : (registry.engine id).saved with
        | none => simp [loaded] at listed
        | some known =>
            rw [loaded] at listed
            exact (list.list known loaded).mem_iff.mp listed
      rw [if_neg (by simp [treeless]), title, only other there same]

/-- With nothing on screen, restoring an engine from its document shows nothing,
or the segment that the document names with the title that it recalls. -/
theorem leads_restoreFromDocument {segment : String} {row : SavedSegment}
    (kept : Kept id event registry server)
    (unknown : Keyed.get? event registry.cache.documents = none)
    (blank : Blank id registry) (unlisted : (registry.engine id).saved = none)
    (sorts : ∀ rows, (listing rows).Perm rows)
    (readable : Store.Stored server.fields document)
    (names : Names document.ai segment)
    (only : ∀ other ∈ server.rows, other.id = segment → other = row) :
    (restoreFromDocument id).Leads (Serves listing event)
      (fun _ later _ => Brought id segment (recalled document row) later)
      registry server := by
  have list : Transparency.Holds List.Perm id event registry server.rows :=
    ⟨kept.proper, fun known loaded => nomatch unlisted.symm.trans loaded⟩
  rw [Hydrating.restoreFromDocument_eq]
  show Flow.Leads _ (Flow.bind (Store.read (registry.engine id).event false) _)
    _ _ _
  rw [kept.proper.2]
  apply Flow.leads_bind.mpr
  apply (((leads_read false kept).both (leads_blank
    (Restoring.makes_read event false registry)
    (Restoring.sends_read (fun _ => Listing.silent_of_get) event false)
    blank)).both ((Transparency.leads_sparing list
      (Listing.makes_quiet (Store.makes_read event false registry))
      (Restoring.sends_read (fun _ => Listing.silent_of_get) event
        false)).viewed sees_rows)).mono
  rintro result later after ⟨⟨⟨kept, read⟩, blank, rows⟩, list⟩
  cases result with
  | error fault => exact .inl blank
  | ok found =>
      obtain rfl : found = document := Reading.value.inj
        (((read found rfl).2 unknown).2.symm.trans readable.2)
      apply Recalling.leads_resuming fun registry _ => Blank id registry ∧
        Transparency.Holds List.Perm id event registry server.rows
      · exact fun _ _ holds => holds.2.proper.1
      · exact fun state _ holds =>
          ⟨holds.1, holds.2.spared (Listing.spares_opened state)⟩
      · exact fun _ _ _ _ _ _ _ _ holds => holds
      · exact fun _ _ holds => .inl holds.1
      · intro segment
        apply ((leads_blank (Restoring.makes_requireSaved id segment later)
          (Restoring.sends_requireSaved (fun _ => Listing.silent_of_get) id
            segment) blank).both ((Transparency.holds_requireSaved sorts list
              segment).viewed sees_rows)).mono
        rintro result last ending ⟨⟨blank, same⟩, list⟩
        rw [same, rows] at list
        exact ⟨blank, list⟩
      · intro restored before last _ holds enabled recalls shows
        refine .inr ⟨?_, shows.savedTitle.trans
          (title_of_recalls holds.2 only names recalls)⟩
        rw [shows.savedId, recalls.savedId_eq, names.savedId]
      · exact ⟨blank, rows ▸ list⟩

/-- What is on screen does not depend on how far the engine is restored. -/
theorem Brought.noted {segment title : String} {change : Engine → Engine}
    (brought : Brought id segment title registry)
    (noted : ∀ engine, ∃ phase hydrationError,
      change engine = { engine with phase, hydrationError }) :
    Brought id segment title (registry.modifyEngine id change) := by
  have same : ((registry.modifyEngine id change).engine id).state =
      (registry.engine id).state := by
    rw [Registry.engine_modifyEngine]
    split
    · obtain ⟨_, _, same⟩ := noted (registry.engine id)
      rw [same]
    · rfl
  unfold Brought Blank
  rw [same]
  exact brought

/-- So does the reload of a page. -/
theorem leads_reload {segment : String} {row : SavedSegment}
    (sorts : ∀ rows, (listing rows).Perm rows)
    (readable : Store.Stored server.fields document)
    (names : Names document.ai segment)
    (only : ∀ other ∈ server.rows, other.id = segment → other = row)
    (settings : Settings) (now : Timestamp) (freshId : String)
    (client : Client) :
    ((hydrate 0).serial Engine.restoring []).Leads (Serves listing event)
      (fun _ final _ => Brought 0 segment (recalled document row) final)
      (Reloading.fresh settings now freshId client event) server := by
  have has : (Reloading.phased .hydrating 0
      (Reloading.fresh settings now freshId client event)).Has 0 :=
    Nat.zero_lt_one
  have blank : Brought 0 segment (recalled document row)
      (Reloading.fresh settings now freshId client event) := .inl ⟨rfl, rfl⟩
  refine Recalling.leads_hydrate blank ?_ []
  refine Recalling.leads_restoring (fun change state _ noted brought =>
    brought.noted noted) ?_
  exact leads_restoreFromDocument (kept_of_idle has rfl rfl rfl readable) rfl
    ⟨rfl, rfl⟩ rfl sorts readable names only

end Reload


section Renamed

variable {listing : List SavedSegment → List SavedSegment}
variable {id : EngineId} {event : String} {start registry later final : Registry}
variable {stored before after ending : Backend} {document : Document}

/-- One client calls an engine and works with its document, one call after the
other, and all requests succeed.  Then it gives the active segment another title,
and the page is loaded again.  The screen shows the new title, but the document
stays as it was.  So the reload shows the new title too if and only if it shows
the segment and the document had that title already, or had neither a title nor a
tree. -/
theorem reload_shows_new_title_iff {segment title : String}
    {patch : SavedSegment.Patch} {row : SavedSegment} {settings : Settings}
    {now : Timestamp} {freshId : String} {client : Client}
    {result : Except Fault Phase}
    (sorts : ∀ rows, (listing rows).Perm rows)
    (has : start.Has id) (named : (start.engine id).event = event)
    (idle : (start.engine id).state.savedId = none)
    (unknown : Keyed.get? event start.cache.documents = none)
    (readable : Store.Stored stored.fields document)
    (reached : Reached listing id event start stored registry before)
    (active : (registry.engine id).state.savedId = some segment)
    (titled : patch.title = some (some title)) (full : title ≠ "")
    (changed : (updateSaved id segment patch).Ran (Serves listing event)
      registry before (.ok (.ok row)) later after)
    (echoed : row.id = segment ∧ row.title = title)
    (reloaded : ((hydrate 0).serial Engine.restoring []).Ran
      (Serves listing event) (Reloading.fresh settings now freshId client event)
        after result final ending) :
    (later.engine id).state.savedTitle = title ∧
    after.fields = before.fields ∧
    ∃ document, Store.Stored before.fields document ∧
      Names document.ai segment ∧
      ((final.engine 0).state.savedTitle = (later.engine id).state.savedTitle ↔
        (final.engine 0).state.savedId = some segment ∧
          (document.ai.title = title ∨ document.ai.title = "" ∧
            (storedTree document).isFull = false)) := by
  have kept := reached.kept (kept_of_idle has named idle unknown readable)
  have shown : (later.engine id).state.savedTitle = row.title :=
    (leads_retitle kept.proper.1 (by rw [titled]; rfl) active).ran changed row rfl
  have unwritten : after.fields = before.fields :=
    (leads_unwritten segment patch).ran changed
  obtain ⟨rows, -⟩ := (((Transparency.leads_updateSaved kept.proper segment
    patch).viewed sees_rows).ran changed).told row rfl
  obtain ⟨rfl, rfl⟩ := echoed
  obtain ⟨document, there, agrees⟩ := kept.agrees
  obtain ⟨known, cached, names⟩ := agrees.shown row.id active
  have names := agrees.cached known row.id cached names
  have brought := (leads_reload sorts (unwritten ▸ there) names
    (fun other member same => eq_of_mem_replaced (rows ▸ member) same)
    settings now freshId client).ran reloaded
  refine ⟨shown, unwritten, document, there, names, ?_⟩
  rw [shown]
  obtain ⟨nothing, blank⟩ | ⟨savedId, savedTitle⟩ := brought
  · rw [nothing, blank]
    simp [Ne.symm full]
  · rw [savedTitle, recalled_eq_iff]
    simp [savedId]

end Renamed

section Unread

open Reloading (withEngine everyone whole reload)
open Transparency (rowOf)

/-- The row of a segment before and after its title is changed. -/
def sent (renamed : Bool) : Json :=
  .obj
    [ ("id", .str "seg_1"), ("title", .str (if renamed then "New" else "All")),
      ("prompt", .str "Everyone"), ("ast", everyone.toJson) ]

/-- The only row that the backend has. -/
def rowsAt (renamed : Bool) : List SavedSegment := [rowOf (sent renamed)]

/-- The backend tells its document, its list and its row whatever it is asked. -/
def telling (fields : Fields) (renamed : Bool) : Reply :=
  .response 200 (.json (.obj
    [ ("filters", .obj fields), ("savedSegments", .arr [sent renamed]),
      ("savedSegment", sent renamed) ]))

/-- It merges the blocks of a write, and any change of a row is the new title. -/
def answer (before : Fields × Bool) (call : Call) : Reply × Fields × Bool :=
  let fields := if Store.isWrite call then
      Memory.mergeBlocks (call.body.getD .null) before.1 Memory.blocks
    else before.1
  let renamed := before.2 || Listing.changes call
  (telling fields renamed, fields, renamed)

/-- What is seen of the backend. -/
def seen (server : Fields × Bool) : Backend := ⟨server.1, rowsAt server.2⟩

theorem read_sent (renamed : Bool) :
    SavedSegment.read (sent renamed) = .value (rowOf (sent renamed)) := by
  have readable : ∀ renamed, (SavedSegment.read
      (sent renamed)).toExcept.toOption.isSome = true := by
    decide +kernel
  have there := readable renamed
  unfold rowOf
  cases read : SavedSegment.read (sent renamed) with
  | value row => rfl
  | _ =>
      rw [read] at there
      cases there

theorem replaced_rowsAt (renamed : Bool) :
    replaced (rowOf (sent true)) (rowsAt renamed) = rowsAt true := by
  have same : ∀ renamed, (rowOf (sent renamed)).id = (rowOf (sent true)).id := by
    decide +kernel
  simp [replaced, rowsAt, same renamed]

theorem answered {fields : Fields} {renamed : Bool}
    (sends : (telling fields renamed).ensureSendable = .ok ()) :
    Client.ended none (telling fields renamed) = .ok (.obj
      [ ("filters", .obj fields), ("savedSegments", .arr [sent renamed]),
        ("savedSegment", sent renamed) ]) := by
  unfold Client.ended
  rw [sends]
  rfl

/-- Its replies tell the row and the list of it. -/
theorem told {fields : Fields} {renamed : Bool}
    (sends : (telling fields renamed).ensureSendable = .ok ()) :
    Listing.row? (telling fields renamed) = some (rowOf (sent renamed)) ∧
      Listing.listed? (telling fields renamed) = some (rowsAt renamed) := by
  unfold Listing.row? Listing.listed? Client.said?
  rw [answered sends]
  constructor
  · show (Client.parse "SavedSegment" SavedSegment.read
      (sent renamed)).toOption = _
    rw [Client.parse, read_sent]
    rfl
  · show (Client.parseAll "SavedSegment" SavedSegment.read
      [sent renamed]).toOption = _
    rw [Client.parseAll, Client.parse, read_sent]
    rfl

/-- It serves as long as nothing is to be created and its document can be sent. -/
theorem serves_answer {exchange : (Fields × Bool) × Call}
    (fit : (!Listing.creates exchange.2 &&
      (answer exchange.1 exchange.2).1.ensureSendable.isOk) = true) :
    Serves id "event" (seen exchange.1) exchange.2
      (answer exchange.1 exchange.2).1
      (seen (answer exchange.1 exchange.2).2) := by
  obtain ⟨⟨fields, renamed⟩, call⟩ := exchange
  simp only [Bool.and_eq_true, Bool.not_eq_true'] at fit
  obtain ⟨keeps, sendable⟩ := fit
  obtain ⟨⟨⟩, sends⟩ := Flow.exists_ok _ sendable
  obtain ⟨row, list⟩ := told sends
  refine ⟨⟨⟨_, answered sends⟩, ?_, fun _ => ⟨_, row⟩, ?_⟩, rfl, ?_, ?_⟩
  · rintro ⟨client, made⟩
    have silent := Listing.silent_of_get (Client.parts_of_call made).1
    refine ⟨_, list, ?_⟩
    show rowsAt (renamed || Listing.changes call) = rowsAt renamed
    rw [silent.1, Bool.or_false]
  · have row : Listing.row? (answer (fields, renamed) call).1 =
        some (rowOf (sent (renamed || Listing.changes call))) := row
    unfold Listing.stored
    simp only [row]
    show rowsAt (renamed || Listing.changes call) = _
    cases changing : Listing.changes call with
    | true => simp [replaced_rowsAt, seen]
    | false => simp [keeps, seen]
  · rintro ⟨client, made⟩ json same
    obtain rfl := Except.ok.inj ((answered sends).symm.trans same)
    show (if Store.isWrite call then _ else fields) = fields
    rw [Store.isWrite_of_get made]
    rfl
  · intro _ json same
    obtain rfl := Except.ok.inj ((answered sends).symm.trans same)
    exact .inl rfl

/-- The calls of a flow can be answered so. -/
def Fits {α : Type} (flow : Flow Registry α) (registry : Registry)
    (server : Fields × Bool) : Prop :=
  (flow.exchanges answer registry server).all (fun exchange =>
    !Listing.creates exchange.2 &&
      (answer exchange.1 exchange.2).1.ensureSendable.isOk) = true

instance {α : Type} (flow : Flow Registry α) (registry : Registry)
    (server : Fields × Bool) : Decidable (Fits flow registry server) :=
  inferInstanceAs (Decidable (_ = true))

/-- Then it runs as the backend answers it. -/
theorem ran_of_answer {α : Type} {flow : Flow Registry α}
    {registry later : Registry} {server after : Fields × Bool}
    {result : Except Fault α} (fit : Fits flow registry server)
    (ended : flow.computed answer registry server =
      some (result, later, after)) :
    flow.Ran (Serves id "event") registry (seen server) result later
      (seen after) :=
  (Flow.ran_of_exchanges (fun exchange member =>
    serves_answer (List.all_eq_true.mp fit exchange member)) ended).viewed

/-- A user brings all persons on screen, as a saved segment. -/
def showing : Task :=
  .engine (.apply (whole default (some "seg_1") everyone.toJson (some "All")
    none))

/-- The segment on screen, with its title. -/
def onScreen (registry : Registry) : Option String × String :=
  ((registry.engine 0).state.savedId, (registry.engine 0).state.savedTitle)

/-- The row that a change ended with. -/
def changedRow : Except Fault (Outcome SavedSegment) → Option SavedSegment
  | .ok (.ok row) => some row
  | _ => none

/-- The segment is brought on screen, it gets a new title, and the page is loaded
again: the row, and what is on screen before and after the reload. -/
def retitled : Option ((String × String) × List (Option String × String)) := do
  let (shown, registry, before) ←
    (showing.flow 0 "event").computed answer withEngine ([], false)
  let (changed, later, after) ←
    (updateSaved 0 "seg_1" (.ofTitle "New")).computed answer registry before
  let (_, final, _) ← reload.computed answer withEngine after
  guard (Fits (showing.flow 0 "event") withEngine ([], false))
  guard (Fits (updateSaved 0 "seg_1" (.ofTitle "New")) registry before)
  guard (Fits reload withEngine after)
  let _ ← shown.toOption
  let row ← changedRow changed
  return ((row.id, row.title),
    [onScreen registry, onScreen later, onScreen final])

theorem retitled_eq : retitled = some (("seg_1", "New"),
    [(some "seg_1", "All"), (some "seg_1", "New"), (some "seg_1", "All")]) := by
  decide +kernel

theorem eq_of_changedRow {result : Except Fault (Outcome SavedSegment)}
    {row : SavedSegment} (known : changedRow result = some row) :
    result = .ok (.ok row) := by
  obtain fault | problem | other := result
  · cases known
  · cases known
  · rw [Option.some.inj known]

theorem exists_retitled :
    ∃ registry before row later after result final ending,
      Reached id 0 "event" withEngine (seen ([], false)) registry before ∧
      (registry.engine 0).state.savedId = some "seg_1" ∧
      (updateSaved 0 "seg_1" (.ofTitle "New")).Ran (Serves id "event") registry
        before (.ok (.ok row)) later after ∧
      (row.id = "seg_1" ∧ row.title = "New") ∧
      reload.Ran (Serves id "event") withEngine after result final ending ∧
      onScreen later = (some "seg_1", "New") ∧
      onScreen final = (some "seg_1", "All") := by
  have ended := retitled_eq
  simp only [retitled, Option.bind_eq_bind, Option.bind_eq_some_iff,
    Prod.exists, Option.guard_eq_some', pure, Option.some.injEq, Prod.mk.injEq,
    List.cons.injEq, and_true] at ended
  obtain ⟨shown, registry, _, _, shows, changed, later, _, _, changes, result,
    final, _, _, loads, _, showFits, _, changeFits, _, loadFits, _, ends, row,
    known, told, active, retitled, reloaded⟩ := ended
  obtain rfl := eq_of_changedRow known
  obtain fault | ⟨⟩ := shown
  · cases ends
  exact ⟨registry, _, row, later, _, result, final, _,
    .task showing .start (ran_of_answer showFits shows),
    congrArg Prod.fst active, ran_of_answer changeFits changes, told,
    ran_of_answer loadFits loads, retitled, reloaded⟩

/-- A segment that is on screen gets a new title.  The document keeps the old one
with the tree, so that is what the reload shows. -/
theorem reload_shows_new_title_iff_of_all :
    ∃ registry before row later after result final ending document,
      Reached id 0 "event" withEngine (seen ([], false)) registry before ∧
      (updateSaved 0 "seg_1" (.ofTitle "New")).Ran (Serves id "event") registry
        before (.ok (.ok row)) later after ∧
      reload.Ran (Serves id "event") withEngine after result final ending ∧
      (later.engine 0).state.savedTitle = "New" ∧
      onScreen final = (some "seg_1", "All") ∧
      Store.Stored after.fields document ∧ Names document.ai "seg_1" ∧
      document.ai.title ≠ "New" := by
  obtain ⟨registry, before, row, later, after, result, final, ending, reached,
    active, changed, echoed, reloaded, -, brought⟩ := exists_retitled
  have sorts (rows : List SavedSegment) : (id rows).Perm rows := .refl rows
  have has : withEngine.Has 0 := by decide
  have named : (withEngine.engine 0).event = "event" := rfl
  obtain ⟨shown, unwritten, document, stored, names, same⟩ :=
    reload_shows_new_title_iff sorts has named rfl rfl Store.stored_empty
      reached active rfl (by decide) changed echoed reloaded
  refine ⟨registry, before, row, later, after, result, final, ending, document,
    reached, changed, reloaded, shown, brought, unwritten ▸ stored, names,
    fun titled => ?_⟩
  obtain ⟨savedId, savedTitle⟩ := Prod.mk.inj brought
  have other := same.mpr ⟨savedId, .inl titled⟩
  rw [shown, savedTitle] at other
  exact absurd other (by decide)

/-- So a new title does not always survive the reload. -/
theorem new_title_is_lost :
    ¬ ∀ registry before row later after result final ending,
      Reached id 0 "event" withEngine (seen ([], false)) registry before →
      (registry.engine 0).state.savedId = some "seg_1" →
      (updateSaved 0 "seg_1" (.ofTitle "New")).Ran (Serves id "event") registry
        before (.ok (.ok row)) later after →
      row.id = "seg_1" ∧ row.title = "New" →
      reload.Ran (Serves id "event") withEngine after result final ending →
      (final.engine 0).state.savedTitle = (later.engine 0).state.savedTitle := by
  intro always
  obtain ⟨registry, before, row, later, after, result, final, ending, reached,
    active, changed, echoed, reloaded, shown, brought⟩ := exists_retitled
  have same := always registry before row later after result final ending
    reached active changed echoed reloaded
  rw [(Prod.mk.inj shown).2, (Prod.mk.inj brought).2] at same
  exact absurd same (by decide)

end Unread

end Retitling
end Audience
