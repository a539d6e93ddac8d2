import Audience.Proofs.Engine.Reloading
import Audience.Proofs.Store.Coherence

/-!
# Writes that fail completely

The backend refuses a write, and the document cannot be had afterwards either.
Then the cache goes back to the document that was known before.  Where none was
known the empty document stands in for it and stays: a later read takes it for
the one that is stored and does not ask, and restoring an engine finds nothing.
The manual filters that were written last become those of that document, whatever
they were before.
-/

namespace Audience
namespace Undoing

open Store

/-- The backend refuses every write and cannot bring the document either.  It
stores nothing and only keeps the calls that it received. -/
def refuses (event : String) (before : List Call) (call : Call) (reply : Reply)
    (after : List Call) : Prop :=
  after = before ++ [call] ∧
  if isWrite call then
    ∃ problem, Client.ended none reply = .error (.problem problem)
  else ∃ fault,
    fetched (Client.ended (some (resource, event)) reply) = .error fault

/-- What the cache holds of an event. -/
@[ext] structure Entry where
  document : Option Document
  manual : Option ManualState

namespace Entry

/-- The entry of an event in a cache. -/
def of (event : String) (cache : Cache) : Entry :=
  { document := Keyed.get? event cache.documents
    manual := Keyed.get? event cache.lastManual }

end Entry

/-- A call that writes to the document of an event. -/
inductive Task where
  | write (change : Change)
  | writeManual (search filters : Json)

namespace Task

/-- What a call does. -/
def flow (event : String) : Task → Flow Registry (Outcome Document)
  | write change => Store.write event change
  | writeManual search filters => Store.writeTable event search filters

/-- What the cache knows of an event once a call is tried. -/
def tried (event : String) (cache : Cache) : Task → View
  | write change => Coherence.tried event change cache
  | writeManual search filters => Coherence.triedTable event search filters cache

/-- The document after a call of which nothing worked: the one that was known, or
the empty one.  What was tried stays if the second request ended in something
else than a problem. -/
def remains (event : String) (cache : Cache) (raised : Bool) (task : Task) :
    Document :=
  if raised then (task.tried event cache).document else cache.document event

/-- The entry of an event after such a call. -/
def left (event : String) (cache : Cache) (raised : Bool) (task : Task) :
    Entry :=
  { document := some (task.remains event cache raised)
    manual :=
      match task with
      | write _ => Keyed.get? event cache.lastManual
      | writeManual _ _ => some
          (if raised then (task.tried event cache).manual
          else (cache.document event).manual) }

/-- What was known of an event is what such a call leaves: a document was known
and, where manual filters are written, the filters that were written last are
those in it.  If what was tried stays, it was known already. -/
def Spares (event : String) (cache : Cache) (raised : Bool) (task : Task) :
    Prop :=
  ∃ document, Keyed.get? event cache.documents = some document ∧
    (raised = true → (task.tried event cache).document = document) ∧
    match task with
    | write _ => True
    | writeManual _ _ => Keyed.get? event cache.lastManual = some
        (if raised then (task.tried event cache).manual else document.manual)

/-- Exactly then the entry is the one from before. -/
theorem left_eq_iff {event : String} {cache : Cache} {raised : Bool}
    {task : Task} :
    task.left event cache raised = .of event cache ↔
      task.Spares event cache raised := by
  unfold left remains Spares Entry.of Cache.document
  cases Keyed.get? event cache.documents with
  | none => simp
  | some document =>
      cases task <;> cases raised <;> simp [eq_comm]

end Task

/-- A call stopped at something else than a problem. -/
def Raised {α : Type} : Except Fault α → Bool
  | .ok _ => false
  | .error _ => true

section Alone

variable {event : String} {registry : Registry} {server : List Call}

/-- What the cache holds of all events once it holds an entry of one. -/
structure Holds (event : String) (entry : Entry) (before : Cache)
    (registry : Registry) : Prop where
  entry : .of event registry.cache = entry
  others : ∀ other ≠ event, Entry.of other registry.cache = .of other before

/-- Putting a document into the cache changes the entry of its event. -/
theorem holds_setDocument (event : String) (document : Document)
    (registry : Registry) :
    Holds event
      { document := some document
        manual := Keyed.get? event registry.cache.lastManual }
      registry.cache (registry.setDocument event document) where
  entry := by simp [Entry.of]
  others other different := by
    simp [Entry.of, Keyed.get?_put_of_ne different]

/-- So does remembering manual filters. -/
theorem holds_rememberManual (event : String) (manual : ManualState)
    (registry : Registry) :
    Holds event
      { document := Keyed.get? event registry.cache.documents
        manual := some manual }
      registry.cache
      (registry.modifyCache (Cache.rememberManual event manual)) where
  entry := by simp [Entry.of, Cache.rememberManual]
  others other different := by
    simp [Entry.of, Cache.rememberManual, Keyed.get?_put_of_ne different]

/-- A second change of the entry comes on top of the first. -/
theorem Holds.trans {first second : Entry} {before : Cache}
    {middle later : Registry} (holds : Holds event first before middle)
    (next : Holds event second middle.cache later) :
    Holds event second before later :=
  ⟨next.entry, fun other different =>
    (next.others other different).trans (holds.others other different)⟩

theorem Holds.congr {entry : Entry} {before : Cache} {middle later : Registry}
    (holds : Holds event entry before middle)
    (same : later.cache = middle.cache) : Holds event entry before later := by
  obtain ⟨here, others⟩ := holds
  exact ⟨by rw [same, here], fun other different => by
    rw [same, others other different]⟩

/-- Nothing changed. -/
theorem Holds.refl (event : String) (registry : Registry) :
    Holds event (.of event registry.cache) registry.cache registry :=
  ⟨rfl, fun _ _ => rfl⟩

/-- A write that is taken back leaves the document from before, unless asking for
the document ends in something else than a problem. -/
theorem alone_rollback {pending : PendingWrite}
    (named : pending.event = event) :
    (rollback pending).Alone (refuses event) (fun result later after =>
      after.length = server.length + 1 →
        Holds event
          { document :=
              if Raised result then Keyed.get? event registry.cache.documents
              else some pending.previous
            manual := Keyed.get? event registry.cache.lastManual }
          registry.cache later) registry server := by
  subst named
  rw [rollback_eq, Flow.alone_finish]
  apply Client.alone_request
  · intro misuse later _ sent
    exact absurd sent (by simp)
  rintro call made reply after ⟨rfl, failed⟩
  rw [if_neg (by simp [isWrite_of_get made])] at failed
  obtain ⟨fault, failed⟩ := failed
  rw [failed]
  cases fault with
  | problem problem =>
      exact fun _ =>
        holds_setDocument pending.event pending.previous registry.opened
  | _ => exact fun _ => (Holds.refl pending.event registry).congr rfl

/-- A write of which nothing works leaves what was tried, or goes back to the
document that was known or to the empty one. -/
theorem alone_write (change : Change) :
    (Store.write event change).Alone (refuses event) (fun result later after =>
      after.length = server.length + 2 →
        (Raised result = false → ∃ problem, result = .ok (.error problem)) ∧
        Holds event
          ((Task.write change).left event registry.cache (Raised result))
          registry.cache later) registry server := by
  apply Store.alone_write
  · intro fault later sent
    exact absurd sent (by simp)
  rintro pending put staged made reply after ⟨rfl, failed⟩
  rw [if_pos (isWrite_of_put made)] at failed
  obtain ⟨problem, failed⟩ := failed
  rw [failed]
  obtain ⟨named, previous, -⟩ := PendingWrite.staged_of_stage staged
  have tried : (Task.write change).tried event registry.cache =
      { document := pending.staged, manual := registry.cache.manual event } := by
    show Coherence.tried event change registry.cache = _
    rw [Coherence.tried, staged]
  have trying := holds_setDocument event pending.staged registry
  show Flow.Alone (refuses event) (Flow.bind (rollback pending) _) _ _ _
  rw [Flow.alone_bind]
  apply (alone_rollback named).mono
  rintro result later final ended
  have undone (sent : final.length = server.length + 2) :=
    (trying.congr rfl).trans (ended (by simpa using sent))
  obtain fault | document := result
  · intro sent
    refine ⟨by simp [Raised], ?_⟩
    simpa [Task.left, Task.remains, Raised, tried] using undone sent
  · intro sent
    refine ⟨fun _ => ⟨problem, rfl⟩, ?_⟩
    simpa [Task.left, Task.remains, Raised, previous] using undone sent

/-- Manual filters of which nothing works leave what was tried, or those of the
document that is left. -/
theorem alone_writeManual {search filters : Json} {manual : ManualState}
    (normal : (ManualState.ofTable search filters).toExcept = .ok manual) :
    (Store.writeManual event manual).Alone (refuses event)
      (fun result later after => after.length = server.length + 2 →
        (Raised result = false → ∃ problem, result = .ok (.error problem)) ∧
        Holds event
          ((Task.writeManual search filters).left event registry.cache
            (Raised result)) registry.cache later) registry server := by
  show Flow.Alone _ (if (registry.cache.manual event).same manual then _
    else _) _ _ _
  split
  · intro sent
    exact absurd sent (by simp)
  rename_i other
  have tried : (Task.writeManual search filters).tried event registry.cache =
      Coherence.tried event (.ofManual manual)
        (registry.cache.rememberManual event manual) := by
    show Coherence.triedTable event search filters registry.cache = _
    simp [Coherence.triedTable, normal, Coherence.triedManual, other]
  have remembering := holds_rememberManual event manual registry
  show Flow.Alone _ ((Store.write event (.ofManual manual)).bind _) _
    (registry.modifyCache (Cache.rememberManual event manual)) _
  rw [Flow.alone_bind]
  apply (alone_write (.ofManual manual)).mono
  rintro result later final ended
  have written (sent : final.length = server.length + 2) :=
    remembering.trans (ended sent).2
  obtain fault | problem | document := result
  · intro sent
    refine ⟨nofun, ?_⟩
    have recalled : (Coherence.tried event (.ofManual manual)
        (registry.cache.rememberManual event manual)).manual = manual := by
      unfold Coherence.tried
      split <;> simp [Coherence.shown, Cache.manual, Cache.rememberManual]
    have left := written sent
    simp only [Task.left, Task.remains, Raised, if_true]
    rw [tried, recalled]
    simpa [Task.left, Task.remains, Task.tried, Raised, Cache.rememberManual] using left
  · intro sent
    refine ⟨fun _ => ⟨problem, rfl⟩, ?_⟩
    have left := written sent
    have here : Keyed.get? event later.cache.documents =
        some (registry.cache.document event) :=
      congrArg Entry.document left.entry
    have known : later.cache.document event =
        registry.cache.document event := by
      rw [Cache.document, here]
      rfl
    show Holds event _ registry.cache (later.modifyCache
      (Cache.rememberManual event (later.cache.document event).manual))
    have recalling := left.trans (holds_rememberManual event
      (later.cache.document event).manual later)
    simpa [Task.left, Task.remains, Raised, known, here] using recalling
  · intro sent
    obtain ⟨_, refused⟩ := (ended sent).1 rfl
    cases refused

/-- Every write of which nothing works leaves one entry, and those of other
events as they were. -/
theorem alone_task (task : Task) :
    (task.flow event).Alone (refuses event) (fun result later after =>
      after.length = server.length + 2 →
        (Raised result = false → ∃ problem, result = .ok (.error problem)) ∧
        Holds event (task.left event registry.cache (Raised result))
          registry.cache later) registry server := by
  cases task with
  | write change => exact alone_write change
  | writeManual search filters =>
      show Flow.Alone _ ((Flow.ofResult _).bind _) _ _ _
      rw [Flow.alone_bind, Flow.alone_ofResult]
      cases normal : (ManualState.ofTable search filters).toExcept with
      | error fault => exact fun sent => absurd sent (by simp)
      | ok manual => exact alone_writeManual normal

end Alone

section Afterwards

variable {β : Type} {serves : β → Call → Reply → β → Prop} {server : β}
variable {event : String} {registry : Registry} {document : Document}

/-- A document that is known is read without asking for it. -/
theorem alone_read
    (known : Keyed.get? event registry.cache.documents = some document) :
    (Store.read event false).Alone serves (fun result later after =>
      result = .ok document ∧ later = registry ∧ after = server)
      registry server := by
  rw [read_eq, Flow.alone_locked]
  simp only [Flow.Alone, known]
  exact ⟨rfl, rfl, rfl⟩

/-- Where the document that is known enables no segment, restoring an engine asks
for nothing and leaves the screen alone. -/
theorem alone_hydrate {id : EngineId} (has : registry.Has id)
    (known : Keyed.get? (registry.engine id).event registry.cache.documents =
      some document) (disabled : document.ai.enabled = false) :
    ((Engine.hydrate id).serial Engine.restoring []).Alone serves
      (fun result later after => result = .ok .hydrated ∧
        (later.engine id).state = (registry.engine id).state ∧ after = server)
      registry server := by
  apply Reloading.alone_hydrate
  have there : (Reloading.phased .hydrating id registry).Has id :=
    (Registry.has_modifyEngine _).mpr has
  have engine : (Reloading.phased .hydrating id registry).engine id =
      { registry.engine id with phase := .hydrating } := by
    rw [Reloading.phased, Registry.engine_modifyEngine_self has]
  have still : Keyed.get?
      ((Reloading.phased .hydrating id registry).engine id).event
      (Reloading.phased .hydrating id registry).cache.documents =
        some document := by
    rw [engine]
    exact known
  show Flow.Alone serves (Flow.bind (Store.read _ false) _) _ _ _
  apply Flow.alone_bind.mpr
  apply (alone_read still).mono
  rintro result later after ⟨rfl, rfl, rfl⟩
  dsimp only
  rw [disabled]
  refine ⟨rfl, there, ?_, rfl⟩
  rw [Reloading.phased, Registry.engine_modifyEngine_self there, engine]

end Afterwards

section Runs

variable {event : String} {registry later : Registry} {task : Task}
variable {result : Except Fault (Outcome Document)} {calls : List Call}

/-- A write runs alone, the backend refuses it, and the request for the document
fails as well.  Then the cache is as before exactly if a document was known and,
where manual filters are written, they were last those in it; other events are
left alone.  A later read answers the document that is left and does not ask, and
where that one enables no segment, so does restoring an engine. -/
theorem entry_is_kept_iff_spared
    (ran : (task.flow event).Ran (refuses event) registry [] result later calls)
    (both : calls.length = 2) :
    (Raised result = false → ∃ problem, result = .ok (.error problem)) ∧
    Entry.of event later.cache =
      task.left event registry.cache (Raised result) ∧
    (Entry.of event later.cache = .of event registry.cache ↔
      task.Spares event registry.cache (Raised result)) ∧
    (∀ other ≠ event, Entry.of other later.cache = .of other registry.cache) ∧
    ∀ {β : Type} (serves : β → Call → Reply → β → Prop) (server : β),
      (Store.read event false).Alone serves (fun brought still after =>
        brought = .ok (task.remains event registry.cache (Raised result)) ∧
          still = later ∧ after = server) later server ∧
      ∀ id, later.Has id → (later.engine id).event = event →
        (task.remains event registry.cache (Raised result)).ai.enabled = false →
        ((Engine.hydrate id).serial Engine.restoring []).Alone serves
          (fun phase final after => phase = .ok .hydrated ∧
            (final.engine id).state = (later.engine id).state ∧
            after = server) later server := by
  obtain ⟨failed, left, others⟩ := (alone_task task).ran ran both
  have known : Keyed.get? event later.cache.documents =
      some (task.remains event registry.cache (Raised result)) :=
    congrArg Entry.document left
  refine ⟨failed, left, ?_, others, fun serves server => ⟨alone_read known, ?_⟩⟩
  · rw [left]
    exact Task.left_eq_iff
  · rintro id has rfl disabled
    exact alone_hydrate has known disabled

end Runs

section Timeouts

/-- A backend that never answers in time. -/
def silent (before : List Call) (call : Call) : Reply × List Call :=
  (.timeout, before ++ [call])

theorem refuses_silent (before : List Call) (call : Call) :
    refuses "event" before call (silent before call).1
      (silent before call).2 := by
  refine ⟨rfl, ?_⟩
  split
  · exact ⟨Client.timedOut, rfl⟩
  · exact ⟨.problem Client.timedOut, rfl⟩

/-- Enable a segment, which writes no manual filters. -/
def enabling : Task := .write (.ofAi { AiBlock.cleared with enabled := true })

/-- A registry that knows the empty document of an event. -/
def informed : Registry := kept "event" .empty Coherence.unread

/-- A write that times out and is taken back. -/
theorem exists_silent (start : Registry) (passes : Registry → Bool)
    (ended : ((enabling.flow "event").computed silent start []).any (fun ends =>
      !Raised ends.1 && passes ends.2.1 && ends.2.2.length == 2) = true) :
    ∃ result later calls,
      (enabling.flow "event").Ran (refuses "event") start [] result later
        calls ∧ Raised result = false ∧ passes later = true ∧
      calls.length = 2 := by
  obtain ⟨result, later, calls, ran, passed⟩ := Flow.exists_ran silent
    (enabling.flow "event") start []
    (fun result later calls =>
      !Raised result && passes later && calls.length == 2)
    (fun _ _ => refuses_silent _ _) ended
  simp only [Bool.and_eq_true, Bool.not_eq_true', beq_iff_eq] at passed
  exact ⟨result, later, calls, ran, passed.1.1, passed.1.2, passed.2⟩

/-- A document that is known comes back. -/
theorem entry_is_kept_iff_spared_at_known :
    ∃ result later calls,
      (enabling.flow "event").Ran (refuses "event") informed [] result later
        calls ∧ calls.length = 2 ∧
      Entry.of "event" later.cache = .of "event" informed.cache := by
  obtain ⟨result, later, calls, ran, failed, -, both⟩ :=
    exists_silent informed (fun _ => true) (by decide +kernel)
  obtain ⟨-, -, exactly, -⟩ := entry_is_kept_iff_spared ran both
  refine ⟨result, later, calls, ran, both, exactly.mpr ?_⟩
  rw [failed]
  exact ⟨.empty, rfl, nofun, trivial⟩

/-- Where none was known, one is afterwards. -/
theorem failed_write_invents_document :
    ¬ ∀ (task : Task) result later calls,
      (task.flow "event").Ran (refuses "event") Coherence.unread [] result later
        calls → calls.length = 2 →
      Entry.of "event" later.cache = .of "event" Coherence.unread.cache := by
  intro always
  obtain ⟨result, later, calls, ran, -, known, both⟩ :=
    exists_silent Coherence.unread (fun later =>
      (Keyed.get? "event" later.cache.documents).isSome) (by decide +kernel)
  have same := congrArg Entry.document (always enabling _ _ _ ran both)
  have unknown : Keyed.get? "event" later.cache.documents = none := same
  rw [unknown] at known
  cases known

end Timeouts

end Undoing
end Audience
