import Audience.Proofs.Document.Wire
import Audience.Proofs.Engine.Applying
import Audience.Proofs.Flow.Alone
import Audience.Proofs.Store

/-!
# Reads and writes of a document one after the other

Calls that read and write the filter document of one event do not overlap, and
any of their requests may fail.  After every call that did not stop at a misuse,
the cache holds what the backend stores, the manual filters that were written
last are those that are stored, and a block that the call does not write is
what it was.
-/

namespace Audience
namespace Coherence

open Store

/-- A request failed.  A document is only missing when nothing is stored. -/
def Fails (event : String) (before : Fields) (call : Call) (reply : Reply) :
    Prop :=
  if isWrite call then
    ∃ problem, Client.ended none reply = .error (.problem problem)
  else
    ∃ problem,
      Client.ended (some (resource, event)) reply = .error (.problem problem) ∧
        ((∃ name identifier, problem.kind = .notFound name identifier) →
          before = [])

/-- A reply brings the whole document, or nothing in answer to a write. -/
def Answers (after : Fields) (call : Call) (reply : Reply) : Prop :=
  ∃ json, Client.ended none reply = .ok json ∧
    (Document.unwrapFields json = after ∨
      isWrite call = true ∧ Document.unwrapFields json = [])

/-- A request fails and changes nothing, or the backend merges the blocks of a
write and answers. -/
def serves (event : String) (before : Fields) (call : Call) (reply : Reply)
    (after : Fields) : Prop :=
  (after = before ∧ Fails event before call reply) ∨
  (after = (if isWrite call then
    Memory.mergeBlocks (call.body.getD .null) before Memory.blocks else before) ∧
    Answers after call reply)

/-- What is known of an event is what is stored. -/
structure Coherent (event : String) (registry : Registry) (server : Fields)
    (document : Document) : Prop where
  stored : Stored server document
  finite : Fields.AllFinite server
  known : View.Known event registry (.of document)

/-- A call does not stop at a misuse. -/
def Proper {α : Type} (result : Except Fault α) : Prop :=
  ∀ misuse, result ≠ .error (.misuse misuse)

/-- A proper call leaves what is known as what is stored, and the blocks that it
does not write as they were.  Any other call leaves in the cache what it tried,
and changes nothing that is stored. -/
structure Settles {α : Type} (event : String) (manual ai : Bool) (tried : View)
    (document : Document) (server : Fields) (result : Except Fault α)
    (later : Registry) (after : Fields) : Prop where
  proper : Proper result → ∃ next, Coherent event later after next ∧
    (manual = false → next.manual = document.manual ∧
      Keyed.get? "manual" after = Keyed.get? "manual" server) ∧
    (ai = false → next.ai = document.ai ∧
      Keyed.get? "ai" after = Keyed.get? "ai" server)
  improper : ¬ Proper result → after = server ∧ View.Known event later tried

/-- What the cache knows of an event. -/
def shown (event : String) (cache : Cache) : View :=
  { document := cache.document event, manual := cache.manual event }

/-- What the cache knows of an event once a write is tried. -/
def tried (event : String) (change : Change) (cache : Cache) : View :=
  match PendingWrite.stage event change cache with
  | .ok pending =>
      { document := pending.staged, manual := cache.manual event }
  | .error _ => shown event cache

/-- What the cache knows of an event once a write of manual filters is
tried. -/
def triedManual (event : String) (manual : ManualState) (cache : Cache) :
    View :=
  if (cache.manual event).same manual then shown event cache
  else tried event (.ofManual manual) (cache.rememberManual event manual)

/-- What the cache knows of an event once the filters of the table are tried. -/
def triedTable (event : String) (search filters : Json) (cache : Cache) : View :=
  match (ManualState.ofTable search filters).toExcept with
  | .ok manual => triedManual event manual cache
  | .error _ => shown event cache

/-- What the cache knows of an event once a user's change is tried. -/
def triedChange (event : String) (change : Engine.Change) (cache : Cache) :
    View :=
  match change.root with
  | .ok root =>
      tried event (.ofAi (change.block root (cache.document event).ai)) cache
  | .error _ => shown event cache

section Requests

variable {event : String} {registry : Registry} {server : Fields}
variable {document : Document}

theorem proper_ok {α : Type} {value : α} :
    Proper (.ok value : Except Fault α) := by
  intro misuse same
  cases same

theorem Coherent.of_cache {later : Registry}
    (coherent : Coherent event registry server document)
    (same : later.cache = registry.cache) :
    Coherent event later server document := by
  refine ⟨coherent.stored, coherent.finite, ?_⟩
  unfold View.Known
  rw [same]
  exact coherent.known

theorem Coherent.manual_eq (coherent : Coherent event registry server document) :
    registry.cache.manual event = document.manual := by
  rw [Cache.manual, coherent.known.2]
  rfl

theorem Coherent.document_eq
    (coherent : Coherent event registry server document) :
    registry.cache.document event = document := by
  rw [Cache.document, coherent.known.1]
  rfl

theorem Coherent.shown_eq (coherent : Coherent event registry server document) :
    shown event registry.cache = .of document := by
  rw [shown, coherent.document_eq, coherent.manual_eq, View.of]

/-- A call that changes nothing settles. -/
theorem Coherent.settles {α : Type} {manual ai : Bool} {later : Registry}
    {result : Except Fault α}
    (coherent : Coherent event later server document) :
    Settles event manual ai (.of document) document server result later
      server :=
  ⟨fun _ => ⟨document, coherent, fun _ => ⟨rfl, rfl⟩, fun _ => ⟨rfl, rfl⟩⟩,
    fun _ => ⟨rfl, coherent.known⟩⟩

/-- A proper call that changes nothing settles, whatever it tried. -/
theorem Coherent.settles_proper {α : Type} {manual ai : Bool} {tried : View}
    {later : Registry} {result : Except Fault α}
    (coherent : Coherent event later server document)
    (proper : Proper result) :
    Settles event manual ai tried document server result later server :=
  ⟨fun _ => ⟨document, coherent, fun _ => ⟨rfl, rfl⟩, fun _ => ⟨rfl, rfl⟩⟩,
    fun improper => absurd proper improper⟩

/-- A misuse settles as long as it leaves what was tried. -/
theorem settles_misuse {α : Type} {manual ai : Bool} {tried : View}
    {later : Registry} {misuse : Misuse}
    (left : View.Known event later tried) :
    Settles event manual ai tried document server
      (.error (.misuse misuse) : Except Fault α) later server :=
  ⟨fun proper => absurd rfl (proper misuse), fun _ => ⟨rfl, left⟩⟩

/-- It only matters which misuse a call ends with. -/
theorem Settles.of_misuses {α γ : Type} {manual ai : Bool} {tried : View}
    {later : Registry} {after : Fields} {result : Except Fault α}
    {other : Except Fault γ}
    (settles : Settles event manual ai tried document server result later after)
    (same : ∀ misuse, result = .error (.misuse misuse) ↔
      other = .error (.misuse misuse)) :
    Settles event manual ai tried document server other later after where
  proper proper :=
    settles.proper fun misuse ended => proper misuse ((same misuse).mp ended)
  improper improper := settles.improper fun proper =>
    improper fun misuse ended => proper misuse ((same misuse).mpr ended)

/-- A request stops before it is sent, or ends as its reply says. -/
theorem alone_request {method path : String} {body : Option Json}
    {missing : Option (String × String)}
    {ends : Except Fault Json → Registry → Fields → Prop}
    (refused : ∀ misuse later, later.cache = registry.cache →
      ends (.error (.misuse misuse)) later server)
    (asked : ∀ call, registry.client.call method path body = .ok call →
      ∀ reply after, serves event server call reply after →
        ends (Client.ended missing reply) registry.opened after) :
    (Client.request method path body missing).Alone (serves event) ends
      registry server := by
  refine Client.alone_request (fun misuse later same => ?_) asked
  apply refused
  obtain rfl | rfl := same
  · rfl
  · rfl

/-- The answer to a request is a value, a problem or a misuse. -/
def Usual (answer : Except Fault Json) : Prop :=
  ∀ fault, answer = .error fault →
    (∃ problem, fault = .problem problem) ∨ ∃ misuse, fault = .misuse misuse

theorem usual_ok {json : Json} : Usual (.ok json) := by
  intro fault same
  cases same

theorem usual_problem {problem : Problem} : Usual (.error (.problem problem)) := by
  intro fault same
  exact .inl ⟨problem, (Except.error.inj same).symm⟩

theorem usual_misuse {misuse : Misuse} : Usual (.error (.misuse misuse)) := by
  intro fault same
  exact .inr ⟨misuse, (Except.error.inj same).symm⟩

/-- A document cannot be had because of a problem or a misuse. -/
theorem Usual.fetched {answer : Except Fault Json} (usual : Usual answer)
    {fault : Fault} (failed : fetched answer = .error fault) :
    (∃ problem, fault = .problem problem) ∨ ∃ misuse, fault = .misuse misuse := by
  obtain cause | json := answer
  · obtain ⟨problem, rfl⟩ | ⟨misuse, rfl⟩ := usual cause rfl
    · unfold Store.fetched at failed
      dsimp only at failed
      split at failed
      · cases failed
      · cases failed
        exact .inl ⟨problem, rfl⟩
    · cases failed
      exact .inr ⟨misuse, rfl⟩
  · unfold Store.fetched at failed
    dsimp only at failed
    cases read : Document.ofStored json with
    | error problem =>
        rw [read] at failed
        cases failed
        exact .inl ⟨problem, rfl⟩
    | ok document =>
        rw [read] at failed
        cases failed

/-- A reply to asking for the document brings what is stored, or a problem. -/
theorem fetched_of_serves {call : Call} {reply : Reply} {after : Fields}
    (stored : Stored server document) (reads : isWrite call = false)
    (served : serves event server call reply after) :
    after = server ∧
      Usual (Client.ended (some (resource, event)) reply) ∧
      (fetched (Client.ended (some (resource, event)) reply) = .ok document ∨
        ∃ problem, fetched (Client.ended (some (resource, event)) reply) =
          .error (.problem problem)) := by
  obtain ⟨rfl, failed⟩ | ⟨same, json, answered, carried⟩ := served
  · simp only [Fails, reads, Bool.false_eq_true, if_false] at failed
    obtain ⟨problem, ended, missing⟩ := failed
    rw [ended]
    refine ⟨rfl, usual_problem, ?_⟩
    unfold fetched
    dsimp only
    split
    · rename_i name identifier kind
      obtain rfl := missing ⟨name, identifier, kind⟩
      exact .inl (congrArg Except.ok (Reading.value.inj stored.2))
    · exact .inr ⟨problem, rfl⟩
  · simp only [reads, Bool.false_eq_true, if_false, false_and, or_false]
      at same carried
    subst same
    rw [Client.ended_eq_ok answered]
    refine ⟨rfl, usual_ok, .inl ?_⟩
    unfold fetched
    dsimp only
    rw [Document.ofStored_eq_ok.mpr (carried ▸ stored.2)]
    rfl

/-- Asking for the document brings what is stored, or fails. -/
theorem alone_ask (stored : Stored server document) :
    (ask event).Alone (serves event) (fun answer later after =>
      later.cache = registry.cache ∧ after = server ∧ Usual answer ∧
        ∀ other, fetched answer = .ok other → other = document)
      registry server := by
  apply alone_request
  · intro misuse later same
    refine ⟨same, rfl, usual_misuse, ?_⟩
    intro other found
    cases found
  intro call made reply after served
  obtain ⟨sameServer, usual, found⟩ :=
    fetched_of_serves stored (isWrite_of_get made) served
  refine ⟨Registry.opened_cache, sameServer, usual, ?_⟩
  intro other brought
  obtain known | ⟨problem, failed⟩ := found
  · exact Except.ok.inj (brought.symm.trans known)
  · rw [failed] at brought
    cases brought

/-- Sending a change merges it into what is stored, or changes nothing. -/
theorem alone_put (change : Change) :
    (put event change).Alone (serves event) (fun answer later after =>
      later.cache = registry.cache ∧ Usual answer ∧
        ((∃ fault, answer = .error fault ∧ after = server) ∨
          ∃ json, answer = .ok json ∧ after = change.written server ∧
            (Document.unwrapFields json = after ∨
              Document.unwrapFields json = [])))
      registry server := by
  apply alone_request
  · exact fun misuse later same => ⟨same, usual_misuse, .inl ⟨_, rfl, rfl⟩⟩
  intro call made reply after served
  have writes := isWrite_of_put made
  obtain ⟨rfl, failed⟩ | ⟨same, json, answered, carried⟩ := served
  · simp only [Fails, writes, if_true] at failed
    obtain ⟨problem, ended⟩ := failed
    rw [ended]
    exact ⟨Registry.opened_cache, usual_problem, .inl ⟨_, rfl, rfl⟩⟩
  · simp only [writes, if_true, true_and] at same carried
    rw [Client.body_of_call made] at same
    rw [answered]
    exact ⟨Registry.opened_cache, usual_ok, .inr ⟨json, rfl, same, carried⟩⟩

end Requests

section Flows

variable {event : String} {registry : Registry} {server : Fields}
variable {document : Document}

/-- The document after a write of the blocks of another one. -/
def merged (change : Change) (own document : Document) : Document :=
  { manual := if change.manual.isSome then own.manual else document.manual
    ai := if change.ai.isSome then own.ai else document.ai }

/-- What a write tries is what the backend makes of it. -/
theorem staged_eq_merged {change : Change} {staged : Document}
    (stored : Stored server document) (finite : Fields.AllFinite server)
    (tried : Document.read (.obj (change.mergedFields document)) =
      .value staged) :
    ∃ own, Document.read change.wire = .value own ∧
      staged = merged change own document := by
  obtain ⟨own, readable, manual, ai⟩ := (change.read_mergedFields _).mp tried
  have stable := Document.onWire_of_read stored.2 finite
  have stableManual : document.manual.onWire = document.manual :=
    congrArg Document.manual stable
  have stableAi : document.ai.onWire = document.ai :=
    congrArg Document.ai stable
  rw [stableManual] at manual
  rw [stableAi] at ai
  refine ⟨own, readable, ?_⟩
  obtain ⟨stagedManual, stagedAi⟩ := staged
  dsimp only at manual ai
  rw [merged, manual, ai]

/-- Loading a document makes it known, or changes nothing. -/
theorem alone_load (stored : Stored server document)
    (finite : Fields.AllFinite server) :
    (load event).Alone (serves event) (fun result later after =>
      after = server ∧
        ((∃ fault, result = .error fault ∧ later.cache = registry.cache) ∨
          result = .ok document ∧ Coherent event later after document))
      registry server := by
  rw [load_eq, Flow.alone_finish]
  apply (alone_ask stored).mono
  intro answer later after ⟨same, sameServer, usual, found⟩
  subst sameServer
  cases brought : fetched answer with
  | error fault => exact ⟨rfl, .inl ⟨fault, rfl, same⟩⟩
  | ok other =>
      obtain rfl := found other brought
      refine ⟨rfl, .inr ⟨rfl, stored, finite, ?_⟩⟩
      simp [View.Known, View.of, kept, Cache.rememberManual]

/-- The first successful read of a document makes it known. -/
theorem alone_first_read {refresh : Bool} (stored : Stored server document)
    (finite : Fields.AllFinite server)
    (first : refresh = true ∨
      Keyed.get? event registry.cache.documents = none) :
    (Store.read event refresh).Alone (serves event) (fun result later after =>
      ∀ other, result = .ok other → Coherent event later after document)
      registry server := by
  have loads : (load event).Alone (serves event) (fun result later after =>
      ∀ other, result = .ok other → Coherent event later after document)
      registry server := by
    apply (alone_load stored finite).mono
    intro result later after ⟨_, ended⟩ other same
    obtain ⟨fault, rfl, _⟩ | ⟨_, coherent⟩ := ended
    · cases same
    · exact coherent
  rw [read_eq, Flow.alone_locked]
  simp only [Flow.Alone]
  obtain rfl | unknown := first
  · cases Keyed.get? event registry.cache.documents with
    | none => exact loads
    | some known => exact loads
  · rw [unknown]
    exact loads

/-- Reading a document settles. -/
theorem alone_read (coherent : Coherent event registry server document)
    {manual ai : Bool} (refresh : Bool) :
    (Store.read event refresh).Alone (serves event)
      (Settles event manual ai (.of document) document server)
      registry server := by
  rw [read_eq, Flow.alone_locked]
  simp only [Flow.Alone]
  rw [coherent.known.1]
  cases refresh with
  | false => exact coherent.settles
  | true =>
      apply (alone_load coherent.stored coherent.finite).mono
      intro result later after ended
      obtain ⟨rfl, ended⟩ := ended
      obtain ⟨fault, rfl, still⟩ | ⟨rfl, loaded⟩ := ended
      · exact (coherent.of_cache still).settles
      · exact loaded.settles

/-- Taking a change back brings back what is stored. -/
theorem alone_rollback {pending : PendingWrite}
    (named : pending.event = event) (stored : Stored server document)
    (previous : pending.previous = document) :
    (rollback pending).Alone (serves event) (fun result later after =>
      after = server ∧
        Keyed.get? event later.cache.lastManual =
          Keyed.get? event registry.cache.lastManual ∧
        ((∃ misuse, result = .error (.misuse misuse) ∧
            Keyed.get? event later.cache.documents =
              Keyed.get? event registry.cache.documents) ∨
          ∃ other, result = .ok other ∧
            Keyed.get? event later.cache.documents = some document))
      registry server := by
  subst named
  rw [rollback_eq, Flow.alone_finish]
  apply (alone_ask stored).mono
  intro answer later after ⟨same, sameServer, usual, found⟩
  have lastManual : Keyed.get? pending.event later.cache.lastManual =
      Keyed.get? pending.event registry.cache.lastManual := by rw [same]
  cases brought : fetched answer with
  | ok other =>
      obtain rfl := found other brought
      refine ⟨sameServer, by simpa using lastManual, .inr ⟨_, rfl, ?_⟩⟩
      simp [Except.toOption]
  | error fault =>
      obtain ⟨problem, rfl⟩ | ⟨misuse, rfl⟩ := usual.fetched brought
      · refine ⟨sameServer, by simpa using lastManual, .inr ⟨_, rfl, ?_⟩⟩
        simp [Except.toOption, previous]
      · exact ⟨sameServer, lastManual, .inl ⟨misuse, rfl, by rw [same]⟩⟩

/-- A change was tried on what is stored: what it tried is what the backend makes
of it. -/
structure Trying (event : String) (change : Change) (pending : PendingWrite)
    (server : Fields) (document own : Document) : Prop where
  stored : Stored server document
  finite : Fields.AllFinite server
  carried : Fields.AllFinite change.wireFields
  named : pending.event = event
  previous : pending.previous = document
  readable : Document.read change.wire = .value own
  staged : pending.staged = merged change own document

namespace Trying

variable {change : Change} {pending : PendingWrite} {own : Document}

theorem exists_of_stage {cache : Cache} (stored : Stored server document)
    (finite : Fields.AllFinite server)
    (carried : Fields.AllFinite change.wireFields)
    (known : cache.document event = document)
    (staging : PendingWrite.stage event change cache = .ok pending) :
    ∃ own, Trying event change pending server document own := by
  obtain ⟨named, previous, read⟩ := PendingWrite.staged_of_stage staging
  rw [known] at previous read
  obtain ⟨own, readable, staged⟩ := staged_eq_merged stored finite read
  exact ⟨own, stored, finite, carried, named, previous, readable, staged⟩

theorem next (trying : Trying event change pending server document own) :
    Stored (change.written server) (merged change own document) :=
  ⟨change.plain_written trying.stored.1,
    change.read_written trying.stored.2 trying.readable⟩

/-- Whether the reply carries the document or nothing, it confirms what was
tried. -/
theorem confirmed (trying : Trying event change pending server document own)
    {json : Json}
    (carries : Document.unwrapFields json = change.written server ∨
      Document.unwrapFields json = []) :
    pending.confirmed json = merged change own document := by
  rw [← confirmed_eq, trying.staged]
  obtain content | nothing := carries
  · by_cases nothing : change.written server = []
    · exact confirmed_of_nil (content.trans nothing)
    · exact trying.next.confirmed nothing content
  · exact confirmed_of_nil nothing

end Trying

/-- How a write that was tried ends: what was tried stays, the blocks are merged,
or the document is as before.  The manual filters that were written last stay
unless the blocks are merged. -/
inductive Written (event : String) (change : Change) (pending : PendingWrite)
    (server : Fields) (document own : Document) (registry : Registry) :
    Except Fault (Outcome Document) → Registry → Fields → Prop where
  | stopped {misuse : Misuse} {later : Registry}
      (left : Keyed.get? event later.cache.documents = some pending.staged)
      (manual : Keyed.get? event later.cache.lastManual =
        Keyed.get? event registry.cache.lastManual) :
      Written event change pending server document own registry
        (.error (.misuse misuse)) later server
  | merged {confirmed : Document} {later : Registry}
      (coherent : Coherent event later (change.written server)
        (merged change own document)) :
      Written event change pending server document own registry
        (.ok (.ok confirmed)) later (change.written server)
  | undone {problem : Problem} {later : Registry}
      (back : Keyed.get? event later.cache.documents = some document)
      (manual : Keyed.get? event later.cache.lastManual =
        Keyed.get? event registry.cache.lastManual) :
      Written event change pending server document own registry
        (.ok (.error problem)) later server

/-- Taking over the answer to a write makes the merged blocks known. -/
theorem alone_confirm {change : Change} {pending : PendingWrite}
    {own : Document} {json : Json} {later : Registry}
    (trying : Trying event change pending server document own)
    (silent : change.manual.isSome = false →
      Keyed.get? event later.cache.lastManual = some document.manual)
    (carries : Document.unwrapFields json = change.written server ∨
      Document.unwrapFields json = []) :
    (settle pending change (.ok json)).Alone (serves event)
      (Written event change pending server document own registry)
      later (change.written server) := by
  have taken := trying.confirmed carries
  have whole := change.allFinite_written trying.carried trying.finite
  obtain rfl := trying.named
  show Flow.Alone _ (if change.manual.isSome then _ else _) _ _ _
  split
  · refine .merged ⟨trying.next, whole, ?_⟩
    simp [View.Known, View.of, taken, Cache.rememberManual]
  · rename_i missing
    have given : change.manual.isSome = false := by simpa using missing
    refine .merged ⟨trying.next, whole, ?_⟩
    simp [View.Known, View.of, taken, Coherence.merged, given, silent given]

/-- A write that was tried is sent and settled. -/
theorem alone_settle {change : Change} {pending : PendingWrite}
    {own : Document}
    (trying : Trying event change pending server document own)
    (held : Keyed.get? event registry.cache.documents = some pending.staged)
    (silent : change.manual.isSome = false →
      Keyed.get? event registry.cache.lastManual = some document.manual) :
    ((put event change).finish (settle pending change)).Alone (serves event)
      (Written event change pending server document own registry)
      registry server := by
  rw [Flow.alone_finish]
  apply (alone_put change).mono
  intro answer later after ⟨same, usual, ended⟩
  obtain ⟨fault, rfl, rfl⟩ | ⟨json, rfl, rfl, carries⟩ := ended
  · obtain ⟨problem, rfl⟩ | ⟨misuse, rfl⟩ := usual fault rfl
    · apply Flow.alone_bind.mpr
      apply (alone_rollback trying.named trying.stored trying.previous).mono
      intro result restored after ⟨sameServer, lastManual, rolled⟩
      rw [same] at lastManual rolled
      subst sameServer
      obtain ⟨misuse, rfl, left⟩ | ⟨other, rfl, back⟩ := rolled
      · exact .stopped (left.trans held) lastManual
      · exact .undone back lastManual
    · apply Written.stopped
      · rw [same, held]
      · rw [same]
  · apply alone_confirm trying _ carries
    rw [same]
    exact silent

/-- A write leaves the blocks alone that it does not carry. -/
theorem settles_merged {α : Type} {change : Change} {own : Document}
    {tried : View} {later : Registry} {result : α} {manual ai : Bool}
    (coherent : Coherent event later (change.written server)
      (merged change own document))
    (onlyManual : manual = false → change.manual = none)
    (onlyAi : ai = false → change.ai = none) :
    Settles event manual ai tried document server (.ok result) later
      (change.written server) := by
  refine ⟨fun _ => ⟨_, coherent, fun silent => ?_, fun silent => ?_⟩,
    fun improper => absurd proper_ok improper⟩
  · have missing := onlyManual silent
    constructor
    · simp [merged, missing]
    · simp [change.get?_written, Memory.blocks, missing]
  · have missing := onlyAi silent
    constructor
    · simp [merged, missing]
    · simp [change.get?_written, Memory.blocks, missing]

/-- Writing blocks settles. -/
theorem alone_write {change : Change}
    (coherent : Coherent event registry server document)
    (carried : Fields.AllFinite change.wireFields) :
    (Store.write event change).Alone (serves event)
      (Settles event change.manual.isSome change.ai.isSome
        (tried event change registry.cache) document server)
      registry server := by
  rw [write_eq]
  simp only [Flow.Alone]
  unfold tried
  cases staging : PendingWrite.stage event change registry.cache with
  | error fault =>
      dsimp only
      rw [coherent.shown_eq]
      exact coherent.settles
  | ok pending =>
      obtain ⟨own, trying⟩ := Trying.exists_of_stage coherent.stored
        coherent.finite carried coherent.document_eq staging
      have still : Keyed.get? event
          (registry.setDocument event pending.staged).cache.lastManual =
            some document.manual := by
        simpa [View.of] using coherent.known.2
      apply (alone_settle trying (by simp) fun _ => still).mono
      intro result later after ended
      cases ended with
      | stopped left manual =>
          apply settles_misuse
          rw [coherent.manual_eq]
          exact ⟨left, manual.trans still⟩
      | merged next => exact settles_merged next (by simp) (by simp)
      | undone back manual =>
          have there : View.Known event later (.of document) :=
            ⟨back, manual.trans still⟩
          apply Coherent.settles_proper
            ⟨coherent.stored, coherent.finite, there⟩
          exact proper_ok

/-- Writing manual filters settles. -/
theorem alone_writeManual
    (coherent : Coherent event registry server document)
    (manual : ManualState) :
    (Store.writeManual event manual).Alone (serves event)
      (Settles event true false (triedManual event manual registry.cache)
        document server) registry server := by
  show Flow.Alone _ (if (registry.cache.manual event).same manual then _
    else _) _ _ _
  unfold triedManual
  split
  · rw [coherent.shown_eq]
    exact coherent.settles
  show Flow.Alone _ ((Store.write event (.ofManual manual)).bind _) _
    (registry.modifyCache (Cache.rememberManual event manual)) _
  have known : (Cache.rememberManual event manual registry.cache).document
      event = document := by
    rw [Cache.document, Cache.rememberManual, coherent.known.1]
    rfl
  have remembered : (Cache.rememberManual event manual registry.cache).manual
      event = manual := by
    simp [Cache.manual, Cache.rememberManual]
  obtain ⟨pending, staging⟩ := PendingWrite.exists_stage_ofManual event manual
    (registry.modifyCache (Cache.rememberManual event manual)).cache
  obtain ⟨own, trying⟩ := Trying.exists_of_stage coherent.stored
    coherent.finite (Change.allFinite_ofManual manual) known staging
  rw [Flow.alone_bind, write_eq]
  simp only [Flow.Alone, staging]
  apply (alone_settle trying (by simp)
    fun silent => absurd silent (by simp [Change.ofManual])).mono
  intro result later after ended
  cases ended with
  | stopped left last =>
      apply settles_misuse
      rw [Registry.modifyCache_cache] at staging
      rw [tried, staging, remembered]
      exact ⟨left, last.trans (by simp [Cache.rememberManual])⟩
  | merged next =>
      exact settles_merged next (fun writes => absurd writes (by simp))
        (fun _ => rfl)
  | undone there _ =>
      have back : later.cache.document event = document := by
        rw [Cache.document, there]
        rfl
      refine Coherent.settles_proper
        ⟨coherent.stored, coherent.finite, there, ?_⟩ proper_ok
      simp [Cache.rememberManual, back, View.of]

/-- Writing the manual filters of the table settles. -/
theorem alone_writeTable (coherent : Coherent event registry server document)
    (search filters : Json) :
    (Store.writeTable event search filters).Alone (serves event)
      (Settles event true false
        (triedTable event search filters registry.cache) document server)
      registry server := by
  show Flow.Alone _ ((Flow.ofResult _).bind _) _ _ _
  rw [Flow.alone_bind, Flow.alone_ofResult]
  unfold triedTable
  cases (ManualState.ofTable search filters).toExcept with
  | error fault =>
      dsimp only
      rw [coherent.shown_eq]
      exact coherent.settles
  | ok manual => exact alone_writeManual coherent manual

/-- Writing the AI block of an engine's event settles. -/
theorem alone_persist {id : EngineId} (block : AiBlock)
    (coherent : Coherent event registry server document)
    (named : (registry.engine id).event = event) :
    (Engine.persist id block).Alone (serves event)
      (Settles event false true (tried event (.ofAi block) registry.cache)
        document server) registry server := by
  show Flow.Alone _ ((Store.write (registry.engine id).event
    (.ofAi block)).bind _) _ _ _
  rw [named, Flow.alone_bind]
  apply (alone_write coherent (Change.allFinite_ofAi block)).mono
  intro result later after settled
  obtain fault | outcome := result
  · exact settled.of_misuses fun misuse => by simp
  · exact settled.of_misuses fun misuse => by simp

/-- A user's change settles. -/
theorem alone_apply {id : EngineId} (change : Engine.Change)
    (coherent : Coherent event registry server document)
    (named : (registry.engine id).event = event) :
    (Engine.apply id change).Alone (serves event)
      (Settles event false true (triedChange event change registry.cache)
        document server) registry server := by
  apply Engine.alone_apply
  · intro misuse failed
    apply settles_misuse
    unfold triedChange
    rw [failed]
    dsimp only
    rw [coherent.shown_eq]
    exact (coherent.of_cache (change.counted_cache id registry)).known
  · intro root normal
    unfold triedChange
    rw [normal, named]
    dsimp only
    have alone := alone_persist (change.block root
      (registry.cache.document event).ai)
      (coherent.of_cache (change.shown_cache id registry root))
      ((change.event_shown id registry root).trans named)
    rw [change.shown_cache] at alone
    exact alone

/-- Clearing the screen settles. -/
theorem alone_clear {id : EngineId}
    (coherent : Coherent event registry server document)
    (named : (registry.engine id).event = event) :
    (Engine.clear id).Alone (serves event)
      (Settles event false true (tried event (.ofAi .cleared) registry.cache)
        document server) registry server := by
  have same := Engine.wiped_cache id registry
  rw [← same]
  apply Engine.alone_clear
  exact alone_persist _ (coherent.of_cache same)
    ((Engine.event_wiped id registry).trans named)

/-- A write whose body cannot be sent stops at a misuse. -/
theorem alone_unsendable {change : Change} {pending : PendingWrite}
    {misuse : Misuse}
    (staged : PendingWrite.stage event change registry.cache = .ok pending)
    (unsendable : change.wire.ensureSendable = .error misuse) :
    (Store.write event change).Alone (serves event)
      (fun result _ _ => ¬ Proper result) registry server := by
  rw [write_eq]
  simp only [Flow.Alone, staged]
  rw [Flow.alone_finish]
  apply alone_request
  · exact fun misuse _ _ proper => proper misuse rfl
  · intro call made
    have sendable := (Client.parts_of_call made).2.2
    simp [Option.forM, unsendable] at sendable

end Flows

section Calls

/-- A call that reads or writes the document of an event. -/
inductive Task where
  | read (refresh : Bool)
  | write (change : Change)
  | writeManual (search filters : Json)
  | apply (id : EngineId) (change : Engine.Change)
  | clear (id : EngineId)

namespace Task

/-- What a call does. -/
def flow (event : String) : Task → Flow Registry Unit
  | read refresh => (Store.read event refresh).bind fun _ => .done ()
  | write change => (Store.write event change).bind fun _ => .done ()
  | writeManual search filters =>
      (Store.writeTable event search filters).bind fun _ => .done ()
  | apply id change => Engine.apply id change
  | clear id => Engine.clear id

/-- A call is for the event: what it writes is finite, and its engine is that of
the event. -/
def Fits (event : String) (registry : Registry) : Task → Prop
  | write change => Fields.AllFinite change.wireFields
  | apply id _ => (registry.engine id).event = event
  | clear id => (registry.engine id).event = event
  | _ => True

/-- The call writes the manual block. -/
def writesManual : Task → Bool
  | write change => change.manual.isSome
  | writeManual _ _ => true
  | _ => false

/-- The call writes the AI block. -/
def writesAi : Task → Bool
  | write change => change.ai.isSome
  | apply _ _ => true
  | clear _ => true
  | _ => false

/-- What the cache knows of the event once the call tries what it writes. -/
def tried (event : String) (cache : Cache) : Task → View
  | read _ => shown event cache
  | write change => Coherence.tried event change cache
  | writeManual search filters => triedTable event search filters cache
  | apply _ change => triedChange event change cache
  | clear _ => Coherence.tried event (.ofAi .cleared) cache

end Task

/-- Calls that do not overlap, each of which ended properly, lead from one state
to another. -/
inductive Reached (event : String) (start : Registry) (stored : Fields) :
    Registry → Fields → Prop where
  | start : Reached event start stored start stored
  | call {registry later : Registry} {server after : Fields}
      {result : Except Fault Unit} (task : Task)
      (reached : Reached event start stored registry server)
      (fits : task.Fits event registry)
      (ran : (task.flow event).Ran (serves event) registry server result later
        after)
      (proper : Proper result) : Reached event start stored later after

variable {event : String} {registry start : Registry}
variable {server stored : Fields} {document : Document}

/-- A call whose result is dropped settles as the call does. -/
theorem settles_dropped {α : Type} {flow : Flow Registry α} {manual ai : Bool}
    {tried : View}
    (alone : flow.Alone (serves event)
      (Settles event manual ai tried document server) registry server) :
    (flow.bind fun _ => .done ()).Alone (serves event)
      (Settles event manual ai tried document server) registry server := by
  apply Flow.alone_bind.mpr
  apply alone.mono
  intro result later after settled
  obtain fault | _ := result
  · exact settled.of_misuses fun misuse => by simp
  · exact settled.of_misuses fun misuse => by simp

/-- Every call settles. -/
theorem alone_task {task : Task}
    (coherent : Coherent event registry server document)
    (fits : task.Fits event registry) :
    (task.flow event).Alone (serves event)
      (Settles event task.writesManual task.writesAi
        (task.tried event registry.cache) document server)
      registry server := by
  cases task with
  | read refresh =>
      apply settles_dropped
      rw [Task.tried, coherent.shown_eq]
      exact alone_read coherent refresh
  | write change => exact settles_dropped (alone_write coherent fits)
  | writeManual search filters =>
      exact settles_dropped (alone_writeTable coherent search filters)
  | apply id change => exact alone_apply change coherent fits
  | clear id => exact alone_clear coherent fits

/-- After every call, what is known is what is stored. -/
theorem exists_coherent (first : Coherent event start stored document)
    (reached : Reached event start stored registry server) :
    ∃ current, Coherent event registry server current := by
  induction reached with
  | start => exact ⟨document, first⟩
  | call task reached fits ran proper ih =>
      obtain ⟨current, coherent⟩ := ih
      obtain ⟨next, settled, -⟩ :=
        ((alone_task coherent fits).ran ran).proper proper
      exact ⟨next, settled⟩

/-- A call leaves what is known as what is stored exactly if it is proper or
what it tried is what is stored. -/
theorem Settles.coherent_iff {α : Type} {manual ai : Bool} {tried : View}
    {later : Registry} {after : Fields} {result : Except Fault α}
    (settles : Settles event manual ai tried document server result later after)
    (coherent : Coherent event registry server document) :
    (∃ next, Coherent event later after next) ↔
      Proper result ∨ tried = .of document := by
  by_cases proper : Proper result
  · obtain ⟨next, settled, -⟩ := settles.proper proper
    exact ⟨fun _ => .inl proper, fun _ => ⟨next, settled⟩⟩
  obtain ⟨rfl, left⟩ := settles.improper proper
  constructor
  · rintro ⟨next, stored, finite, known⟩
    obtain rfl : next = document :=
      Reading.value.inj (stored.2.symm.trans coherent.stored.2)
    exact .inr (left.unique known)
  · rintro (ended | same)
    · exact absurd ended proper
    · exact ⟨document, coherent.stored, coherent.finite, same ▸ left⟩

/-- A document was read, and then calls that do not overlap read and write it,
also through an engine, whichever of their requests fail.  As long as no call
stops at a misuse, what is known after every call is what is stored, and a call
leaves the blocks alone that it does not write.  A call that stops at a misuse
leaves in the cache what it tried and stores nothing, so that what is known is
what is stored only if that is what it tried.  A write whose body cannot be sent
is such a call. -/
theorem coherent_after_every_call {before : Registry} {content : Fields}
    {refresh : Bool} {brought : Document}
    (there : Stored content document) (finite : Fields.AllFinite content)
    (first : refresh = true ∨ Keyed.get? event before.cache.documents = none)
    (read : (Store.read event refresh).Ran (serves event) before content
      (.ok brought) start stored)
    (reached : Reached event start stored registry server) :
    ∃ current, Coherent event registry server current ∧
      (∀ (task : Task) result later after, task.Fits event registry →
        (task.flow event).Ran (serves event) registry server result later
          after →
        Settles event task.writesManual task.writesAi
          (task.tried event registry.cache) current server result later after ∧
        ((∃ next, Coherent event later after next) ↔
          Proper result ∨
            task.tried event registry.cache = .of current)) ∧
      ∀ change pending misuse result later after,
        PendingWrite.stage event change registry.cache = .ok pending →
        change.wire.ensureSendable = .error misuse →
        (Store.write event change).Ran (serves event) registry server result
          later after →
        ¬ Proper result := by
  have known : Coherent event start stored document :=
    (alone_first_read there finite first).ran read brought rfl
  obtain ⟨current, coherent⟩ := exists_coherent known reached
  refine ⟨current, coherent, ?_, ?_⟩
  · intro task result later after fits ran
    have settles := (alone_task coherent fits).ran ran
    exact ⟨settles, settles.coherent_iff coherent⟩
  · intro change pending misuse result later after staged unsendable ran
    exact (alone_unsendable staged unsendable).ran ran

end Calls

section FirstSearch

/-- A registry that read nothing yet. -/
def unread : Registry :=
  Registry.initial .standard default ""
    { service := .ofService "http" "crm" "", token := none,
      instanceId := none, opened := false }

/-- A backend that takes over what is written and answers with nothing.  It only
answers a read in time as long as nothing is stored. -/
def writeOnly (before : Fields) (call : Call) : Reply × Fields :=
  if isWrite call then
    (.response 200 .empty,
      Memory.mergeBlocks (call.body.getD .null) before Memory.blocks)
  else if before.isEmpty then (.response 404 .empty, before)
  else (.timeout, before)

theorem serves_writeOnly (before : Fields) (call : Call) :
    serves "event" before call (writeOnly before call).1
      (writeOnly before call).2 := by
  unfold writeOnly
  split
  · rename_i writes
    exact .inr ⟨by rw [if_pos writes], .obj [], rfl, .inr ⟨writes, rfl⟩⟩
  rename_i reads
  split
  · rename_i nothing
    refine .inl ⟨rfl, ?_⟩
    rw [Fails, if_neg reads]
    exact ⟨Client.rejected (some (resource, "event")) 404 .empty, rfl,
      fun _ => List.isEmpty_iff.mp nothing⟩
  · refine .inl ⟨rfl, ?_⟩
    rw [Fails, if_neg reads]
    refine ⟨Client.timedOut, rfl, ?_⟩
    rintro ⟨name, identifier, missing⟩
    cases missing

/-- A search for a text. -/
def searchFor (text : String) : Task := .writeManual (.str text) (.arr [])

/-- What comes of a first read, and of a search after it. -/
def searched (text : String) :
    Option ((Except Fault Document × Registry × Fields) ×
      (Except Fault Unit × Registry × Fields)) :=
  ((Store.read "event" false).computed writeOnly unread []).bind fun read =>
    (((searchFor text).flow "event").computed writeOnly read.2.1 read.2.2).map
      fun search => (read, search)

/-- The search in the cache. -/
def searchHere (registry : Registry) : Option String :=
  (Keyed.get? "event" registry.cache.documents).map (·.manual.search)

/-- Half of a surrogate pair, which has no encoding. -/
def half : String := String.singleton (Text.unitChar 0xD800)

/-- A first read finds nothing, and the search after it runs to its end. -/
theorem exists_search (text : String)
    (holds : Except Fault Unit → Registry → Fields → Bool)
    (ended : (searched text).any (fun both => both.1.1.isOk &&
      both.1.2.2.isEmpty && holds both.2.1 both.2.2.1 both.2.2.2) = true) :
    ∃ brought start result later after,
      (Store.read "event" false).Ran (serves "event") unread [] (.ok brought)
        start [] ∧
      ((searchFor text).flow "event").Ran (serves "event") start [] result later
        after ∧
      holds result later after = true := by
  obtain ⟨⟨⟨answer, start, stored⟩, ⟨result, later, after⟩⟩, both, good⟩ :=
    (Option.any_eq_true _ _).mp ended
  obtain ⟨read, asked, found⟩ := Option.bind_eq_some_iff.mp both
  obtain ⟨search, run, same⟩ := Option.map_eq_some_iff.mp found
  cases same
  simp only [Bool.and_eq_true, List.isEmpty_iff] at good
  obtain ⟨⟨fine, rfl⟩, held⟩ := good
  obtain fault | brought := answer
  · simp [Except.isOk, Except.toBool] at fine
  · exact ⟨brought, start, result, later, after,
      Flow.ran_of_computed serves_writeOnly asked,
      Flow.ran_of_computed serves_writeOnly run, held⟩

/-- After a first search, what is known is what is stored. -/
theorem coherent_after_every_call_at_first_search :
    ∃ start registry server, Reached "event" start [] registry server ∧
      server ≠ [] ∧ ∃ current, Coherent "event" registry server current := by
  obtain ⟨brought, start, result, registry, server, read, ran, good⟩ :=
    exists_search "ada" (fun result _ after => result.isOk && !after.isEmpty)
      (by decide +kernel)
  simp only [Bool.and_eq_true, Bool.not_eq_true', List.isEmpty_eq_false_iff]
    at good
  obtain fault | _ := result
  · simp [Except.isOk, Except.toBool] at good
  have reached : Reached "event" start [] registry server :=
    .call (searchFor "ada") .start trivial ran proper_ok
  obtain ⟨current, coherent, -⟩ := coherent_after_every_call stored_empty
    nofun (.inr rfl) read reached
  exact ⟨start, registry, server, reached, good.2, current, coherent⟩

/-- A search that has no encoding is not stored and stays in the cache. -/
theorem lost_search_stays_in_cache :
    ∃ brought start, (Store.read "event" false).Ran (serves "event") unread []
        (.ok brought) start [] ∧
      ¬ ∀ (task : Task) result later after, task.Fits "event" start →
        (task.flow "event").Ran (serves "event") start [] result later after →
        ∃ next, Coherent "event" later after next := by
  obtain ⟨brought, start, result, later, after, read, ran, lost⟩ :=
    exists_search half
      (fun _ later after => after.isEmpty && searchHere later == some half)
      (by decide +kernel)
  obtain ⟨rfl, here⟩ : after = [] ∧ searchHere later = some half := by
    simpa using lost
  refine ⟨brought, start, read, fun always => ?_⟩
  obtain ⟨next, coherent⟩ := always (searchFor half) result later [] trivial ran
  obtain rfl : next = .empty :=
    Reading.value.inj (coherent.stored.2.symm.trans stored_empty.2)
  rw [searchHere, coherent.known.1] at here
  exact absurd (Option.some.inj here) (by decide +kernel)

end FirstSearch

end Coherence
end Audience
