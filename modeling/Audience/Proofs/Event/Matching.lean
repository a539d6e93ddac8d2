import Audience.Proofs.Client
import Audience.Proofs.Engine.Provenance
import Audience.Proofs.Engine.Rows
import Audience.Proofs.Event.Action
import Audience.Proofs.Event.Deeds

/-!
# What is done about an event is the same

In two registries that look the same to an event, whatever is done about it
makes corresponding changes, sends the same calls and ends in the same way, and
afterwards the registries still look the same.
-/

namespace Audience
namespace Isolation

open Engine

variable {event : String} {old : List Notice} {pair : Pair Registry}
variable {α β : Type}

/-- Two flows do the same from two registries on that look the same. -/
abbrev Mirrors (event : String) (old : List Notice)
    (flow other : Flow Registry α) (pair : Pair Registry) : Prop :=
  flow.Matches (likeness event old) other pair

section Requests

variable (looks : Looks event old pair)
include looks

/-- The clients can be opened in both registries, or in neither. -/
theorem Looks.opens :
    pair.left.client.ensureOpen = .error .notEncodable ∧
        pair.right.client.ensureOpen = .error .notEncodable ∨
      ∃ client, pair.left.client.ensureOpen = .ok client ∧
        pair.right.client.ensureOpen = .ok client ∧
        pair.left.opened.client = client ∧
        pair.right.opened.client = client := by
  have same : pair.left.client.ensureOpen = pair.right.client.ensureOpen := by
    show pair.left.opened.client.ensureOpen =
      pair.right.opened.client.ensureOpen
    rw [looks.client]
  obtain unfit | fit := Client.ensureOpen_cases pair.right.client
  · exact .inl ⟨same.trans unfit, unfit⟩
  · exact .inr ⟨_, same.trans fit, fit, looks.client, rfl⟩

theorem mirrors_request (method path : String) (body : Option Json)
    (missing : Option (String × String)) :
    Mirrors event old (Client.request method path body missing)
      (Client.request method path body missing) pair := by
  rw [Client.request_eq]
  apply Flow.matches_inspect
  obtain ⟨first, second⟩ | ⟨client, first, second, left, right⟩ := looks.opens
  · rw [first, second]
    exact Flow.matches_fail looks _
  · rw [first, second]
    apply Flow.matches_inspect
    have steps : (likeness event old).Steps pair
        ⟨pair.ids, { pair.left with client },
          { pair.right with client }⟩ := by
      have opened := (Tends.opened looks).steps
      rw [← left] at right
      subst left
      rw [← right]
      unfold Registry.opened at opened right ⊢
      dsimp only at opened right ⊢
      rw [right] at opened ⊢
      exact opened
    apply Flow.matches_update steps
    cases client.call method path body with
    | error misuse => exact Flow.matches_fail steps.holds _
    | ok call =>
        exact Flow.matches_send fun reply later moved =>
          Flow.matches_ofResult moved.holds _

/-- A request whose answer is read. -/
theorem mirrors_asking (method path : String) (body : Option Json)
    (missing : Option (String × String)) (read : Json → Except Fault α) :
    Mirrors event old
      ((Client.request method path body missing).bind fun json =>
        .ofResult (read json))
      ((Client.request method path body missing).bind fun json =>
        .ofResult (read json)) pair :=
  (mirrors_request looks method path body missing).bind
    fun _ moved json => Flow.matches_ofResult moved.holds (read json)

/-- What is asked of an event, if it is named. -/
theorem mirrors_ofEvent (name : Option String) (suffix : String)
    {rest : String → Flow Registry α}
    (asks : ∀ path, Mirrors event old (rest path) (rest path) pair) :
    Mirrors event old (Flow.guard ((Client.eventPath name suffix).bind rest))
      (Flow.guard ((Client.eventPath name suffix).bind rest)) pair := by
  apply Flow.Matches.guard
  unfold Client.eventPath
  cases Registry.nonempty? name with
  | none => exact Flow.matches_fail looks _
  | some name => exact asks _

theorem mirrors_listSaved (name : Option String) :
    Mirrors event old (Client.listSaved name) (Client.listSaved name)
      pair := by
  rw [Client.listSaved_eq]
  exact mirrors_ofEvent looks name _ fun path =>
    mirrors_asking looks "GET" path none none _

theorem mirrors_runSegment (name : Option String)
    (filter : Option Filter.Node) (debug : Bool) (page : Option Page) :
    Mirrors event old (Client.runSegment name filter debug page)
      (Client.runSegment name filter debug page) pair := by
  apply mirrors_ofEvent looks
  intro path
  cases filter with
  | none => exact Flow.matches_fail looks _
  | some node => exact mirrors_asking looks "POST" path _ none _

theorem mirrors_generate (name : Option String) (prompt : String)
    (generation : Client.Generation) :
    Mirrors event old (Client.generate name prompt generation)
      (Client.generate name prompt generation) pair := by
  unfold Client.generate
  split
  · exact Flow.matches_done looks _
  · apply mirrors_ofEvent looks
    intro path
    apply Flow.matches_inspect
    show Mirrors event old
      ((Client.request "POST" path (some (Client.generateBody
        pair.left.settings prompt generation)) none).bind _)
      ((Client.request "POST" path (some (Client.generateBody
        pair.right.settings prompt generation)) none).bind _) pair
    rw [looks.settings]
    exact mirrors_asking looks "POST" path _ none _

theorem mirrors_ofNormal (result : Except Misuse α) :
    Mirrors event old (Flow.ofNormal result) (Flow.ofNormal result) pair := by
  cases result with
  | error misuse => exact Flow.matches_fail looks _
  | ok value => exact Flow.matches_done looks _

theorem mirrors_savedRow (method path : String) (body : Option Json)
    (missing : Option (String × String)) :
    Mirrors event old
      ((Client.request method path body missing).bind Client.savedRow)
      ((Client.request method path body missing).bind Client.savedRow)
      pair := by
  apply (mirrors_request looks method path body missing).bind
  intro later moved json
  rw [Client.savedRow_eq]
  exact Flow.matches_ofResult moved.holds _

theorem mirrors_createSaved (name : Option String) (prompt : String)
    (ast : Filter.Root) (title : String) (favorite : Bool) :
    Mirrors event old (Client.createSaved name prompt ast title favorite)
      (Client.createSaved name prompt ast title favorite) pair :=
  mirrors_ofEvent looks name _ fun path =>
    mirrors_savedRow looks "POST" path _ none

theorem mirrors_updateSaved (name : Option String) (segment : String)
    (patch : SavedSegment.Patch) :
    Mirrors event old (Client.updateSaved name segment patch)
      (Client.updateSaved name segment patch) pair :=
  mirrors_ofEvent looks name _ fun path =>
    mirrors_savedRow looks "PATCH" path _ _

theorem mirrors_markUsed (name : Option String) (segment : String) :
    Mirrors event old (Client.markUsed name segment)
      (Client.markUsed name segment) pair := by
  apply Flow.matches_inspect
  show Mirrors event old
    (Client.updateSaved name segment (.ofLastUsed pair.left.now))
    (Client.updateSaved name segment (.ofLastUsed pair.right.now)) pair
  rw [looks.now]
  exact mirrors_updateSaved looks name segment _

theorem mirrors_suggestTitle (name : Option String) (prompt : String)
    (ast : Option Filter.Root) :
    Mirrors event old (Client.suggestTitle name prompt ast)
      (Client.suggestTitle name prompt ast) pair := by
  rw [Client.suggestTitle_eq]
  exact mirrors_ofEvent looks name _ fun path =>
    mirrors_asking looks "POST" path _ none _

end Requests

section Documents

theorem Looks.cached (looks : Looks event old pair) :
    pair.left.cache.document event = pair.right.cache.document event := by
  unfold Cache.document
  rw [looks.document]

theorem mirrors_load (looks : Looks event old pair) :
    Mirrors event old (Store.load event) (Store.load event) pair := by
  rw [Store.load_eq]
  apply (mirrors_request looks _ _ _ _).finish
  intro later moved answer
  cases Store.fetched answer with
  | error fault => exact Flow.matches_fail moved.holds fault
  | ok document =>
      have steps := steps_kept moved.holds document
      exact Flow.matches_inspect (Flow.matches_update steps
        (Flow.matches_done steps.holds document))

/-- A reader takes the lock, so it looks at nothing before. -/
theorem mirrors_read (pair : Pair Registry) (refresh : Bool) :
    Mirrors event old (Store.read event refresh) (Store.read event refresh)
      pair := by
  rw [Store.read_eq]
  apply Flow.matches_locked .document
  intro later moved
  have looks : Looks event old later := moved.holds
  apply Flow.matches_inspect
  rw [looks.document]
  cases Keyed.get? event later.right.cache.documents with
  | none => exact mirrors_load looks
  | some document =>
      cases refresh with
      | true => exact mirrors_load looks
      | false => exact Flow.matches_done looks document

/-- Putting a document into the cache, and going on with it. -/
theorem mirrors_put (looks : Looks event old pair) (document : Document)
    {next other : Flow Registry α}
    (rest : ∀ later, Looks event old later →
      Mirrors event old next other later) :
    Mirrors event old
      (.inspect fun registry =>
        .update (registry.setDocument event document) next)
      (.inspect fun registry =>
        .update (registry.setDocument event document) other) pair :=
  Flow.matches_inspect (Flow.matches_update (steps_setDocument looks document)
    (rest _ (looks.setDocument document)))

theorem mirrors_rollback (looks : Looks event old pair)
    {pending : PendingWrite} (about : pending.event = event) :
    Mirrors event old (Store.rollback pending) (Store.rollback pending)
      pair := by
  rw [Store.rollback_eq, about]
  apply (mirrors_request looks _ _ _ _).finish
  intro later moved answer
  cases Flow.guarded (Store.fetched answer) with
  | error fault => exact Flow.matches_fail moved.holds fault
  | ok outcome =>
      exact mirrors_put moved.holds _ fun _ looks => Flow.matches_done looks _

/-- Remembering manual filters. -/
theorem mirrors_remember (looks : Looks event old pair)
    (manual : ManualState) :
    Mirrors event old
      (Flow.modify fun registry : Registry =>
        registry.modifyCache (Cache.rememberManual event manual))
      (Flow.modify fun registry : Registry =>
        registry.modifyCache (Cache.rememberManual event manual)) pair :=
  Flow.matches_modify (Tends.remember looks manual).steps

theorem mirrors_settle (looks : Looks event old pair) {pending : PendingWrite}
    (about : pending.event = event) (change : Audience.Change)
    (answer : Except Fault Json) :
    Mirrors event old (Store.settle pending change answer)
      (Store.settle pending change answer) pair := by
  obtain fault | json := answer
  · cases fault with
    | problem problem =>
        exact (mirrors_rollback looks about).bind
          fun _ moved _ => Flow.matches_done moved.holds _
    | _ => exact Flow.matches_fail looks _
  · show Mirrors event old
      (.inspect fun registry : Registry => .update
        (registry.setDocument pending.event (pending.confirmed json)) _)
      (.inspect fun registry : Registry => .update
        (registry.setDocument pending.event (pending.confirmed json)) _) pair
    rw [about]
    apply mirrors_put looks
    intro later looks
    show Mirrors event old (if change.manual.isSome then _ else _)
      (if change.manual.isSome then _ else _) later
    split
    · exact (mirrors_remember looks _).bind
        fun _ moved _ => Flow.matches_done moved.holds _
    · exact Flow.matches_done looks _

theorem mirrors_write (looks : Looks event old pair)
    (change : Audience.Change) :
    Mirrors event old (Store.write event change) (Store.write event change)
      pair := by
  rw [Store.write_eq]
  apply Flow.matches_inspect
  have tried : PendingWrite.stage event change pair.left.cache =
      PendingWrite.stage event change pair.right.cache := by
    unfold PendingWrite.stage
    rw [looks.cached]
  rw [tried]
  cases staged : PendingWrite.stage event change pair.right.cache with
  | error fault => exact Flow.matches_fail looks fault
  | ok pending =>
      have about := (PendingWrite.staged_of_stage staged).1
      have steps := steps_setDocument looks pending.staged
      apply Flow.matches_update steps
      apply (mirrors_request steps.holds _ _ _ _).finish
      exact fun later moved answer =>
        mirrors_settle moved.holds about change answer

theorem mirrors_writeManual (looks : Looks event old pair)
    (manual : ManualState) :
    Mirrors event old (Store.writeManual event manual)
      (Store.writeManual event manual) pair := by
  apply Flow.matches_inspect
  have known : pair.left.cache.manual event = pair.right.cache.manual event := by
    unfold Cache.manual
    rw [looks.manual]
  show Flow.Matches (likeness event old)
    (if (pair.left.cache.manual event).same manual then
      Flow.done (Except.ok (pair.left.cache.document event)) else _)
    (if (pair.right.cache.manual event).same manual then
      Flow.done (Except.ok (pair.right.cache.document event)) else _) pair
  rw [known, looks.cached]
  split
  · exact Flow.matches_done looks _
  apply (mirrors_remember looks manual).bind
  intro later moved _
  apply (mirrors_write moved.holds _).bind
  intro last further outcome
  have looks : Looks event old last := further.holds
  cases outcome with
  | ok document => exact Flow.matches_done looks _
  | error problem =>
      -- The manual filters go back to those of the document.
      apply Flow.Matches.bind
      · have back := Tends.remember looks
          (last.right.cache.document event).manual
        apply Flow.matches_modify
        show (likeness event old).Steps last ⟨last.ids,
          last.left.modifyCache (Cache.rememberManual event
            (last.left.cache.document event).manual), _⟩
        rw [looks.cached]
        exact back.steps
      · exact fun _ moved _ => Flow.matches_done moved.holds _

theorem mirrors_writeTable (looks : Looks event old pair)
    (search filters : Json) :
    Mirrors event old (Store.writeTable event search filters)
      (Store.writeTable event search filters) pair :=
  (Flow.matches_ofResult looks _).bind fun _ moved manual =>
    mirrors_writeManual moved.holds manual

end Documents

section Engines

variable {id twin : EngineId}

/-- Corresponding engines are the same engine of the event. -/
theorem Looks.shared (looks : Looks event old pair) (same : pair.ids id twin) :
    ∃ engine : Engine, pair.left.engine id = engine ∧
      pair.right.engine twin = engine ∧ engine.event = event :=
  ⟨pair.left.engine id, rfl, (looks.engine id twin same).symm,
    looks.about id twin same⟩

/-- Looking at corresponding engines, and what follows. -/
theorem mirrors_engine (looks : Looks event old pair) (same : pair.ids id twin)
    (part : Engine → β) {next other : β → Flow Registry α}
    (rest : ∀ engine, engine.event = event →
      Mirrors event old (next (part engine)) (other (part engine)) pair) :
    Mirrors event old
      ((Flow.query fun registry : Registry =>
        part (registry.engine id)).bind next)
      ((Flow.query fun registry : Registry =>
        part (registry.engine twin)).bind other) pair := by
  obtain ⟨engine, left, right, about⟩ := looks.shared same
  apply Flow.matches_inspect
  show Mirrors event old (next (part (pair.left.engine id)))
    (other (part (pair.right.engine twin))) pair
  rw [left, right]
  exact rest engine about

/-- Changing corresponding engines in a plain way. -/
theorem mirrors_modifyEngine (looks : Looks event old pair)
    (same : pair.ids id twin) {change : Engine → Engine}
    (plain : Plain change) :
    Mirrors event old
      (Flow.modify fun registry : Registry => registry.modifyEngine id change)
      (Flow.modify fun registry : Registry => registry.modifyEngine twin change)
      pair :=
  Flow.matches_modify (Tends.modifyEngine looks same change plain).steps

/-- What follows such a change. -/
theorem mirrors_changing (looks : Looks event old pair)
    (same : pair.ids id twin) {change : Engine → Engine} (plain : Plain change)
    {next other : Flow Registry α}
    (rest : ∀ later, Looks event old later → later.ids id twin →
      Mirrors event old next other later) :
    Mirrors event old
      ((Flow.modify fun registry : Registry =>
        registry.modifyEngine id change).bind fun _ => next)
      ((Flow.modify fun registry : Registry =>
        registry.modifyEngine twin change).bind fun _ => other) pair :=
  (mirrors_modifyEngine looks same plain).bind fun later moved _ =>
    rest later moved.holds (moved.ids _ _ same)

end Engines

end Isolation
end Audience
