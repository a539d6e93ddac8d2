import Audience.Proofs.Store.Coherence

/-!
# When manual filters are persisted

Calls that read, write and forget the filter document of one event do not
overlap, any of their requests may fail, and the event need not have been read.
Manual filters that equal the ones that were read or written last are not sent
again.  Where none were, no filters stand in for them, so that clearing the
filters of an event of which nothing is known succeeds without a request.  In
every other case a write that succeeds is persisted.
-/

namespace Audience
namespace Persistence

open Store Coherence

section Calls

/-- A call that concerns the document of an event. -/
inductive Task where
  | read (refresh : Bool)
  | write (change : Change)
  | writeManual (search filters : Json)
  | forget

/-- A call gave a result and not a problem. -/
def Succeeded {α : Type} : Except Fault (Outcome α) → Bool
  | .ok (.ok _) => true
  | _ => false

theorem succeeded_iff {α : Type} {result : Except Fault (Outcome α)} :
    Succeeded result = true ↔ ∃ value, result = .ok (.ok value) := by
  obtain fault | problem | value := result
  · simp [Succeeded]
  · simp [Succeeded]
  · simp [Succeeded]

namespace Task

/-- What a call does. -/
def flow (event : String) : Task → Flow Registry (Outcome Document)
  | read refresh =>
      (Store.read event refresh).bind fun document => .done (.ok document)
  | write change => Store.write event change
  | writeManual search filters => Store.writeTable event search filters
  | forget => (Store.forget event).bind fun _ => .done (.ok .empty)

/-- What a call writes is finite. -/
def Fits : Task → Prop
  | write change => Fields.AllFinite change.wireFields
  | _ => True

/-- A call asks the backend for the manual filters, or sends some. -/
def asks (event : String) (cache : Cache) : Task → Bool
  | read refresh => refresh || (Keyed.get? event cache.documents).isNone
  | write change => change.manual.isSome
  | writeManual search filters =>
      match (ManualState.ofTable search filters).toExcept with
      | .ok manual => !(cache.manual event).same manual
      | .error _ => false
  | forget => false

/-- Whether the backend has told or taken the manual filters, once a call has
ended: it does when a call that asks succeeds, until they are forgotten. -/
def informs (event : String) (cache : Cache) (informed : Bool)
    (result : Except Fault (Outcome Document)) : Task → Bool
  | forget => false
  | task => informed || task.asks event cache && Succeeded result

end Task

/-- Calls that do not overlap, each of which ended properly, lead from one state
to another.  Between them anything may happen that leaves alone what is known of
the event. -/
inductive Reached (event : String) (start : Registry) (stored : Fields) :
    Bool → Registry → Fields → Prop where
  | start : Reached event start stored false start stored
  | aside {informed : Bool} {registry later : Registry} {server : Fields}
      (reached : Reached event start stored informed registry server)
      (documents : Keyed.get? event later.cache.documents =
        Keyed.get? event registry.cache.documents)
      (lastManual : Keyed.get? event later.cache.lastManual =
        Keyed.get? event registry.cache.lastManual) :
      Reached event start stored informed later server
  | call {informed : Bool} {registry later : Registry} {server after : Fields}
      {result : Except Fault (Outcome Document)} (task : Task)
      (reached : Reached event start stored informed registry server)
      (fits : task.Fits)
      (ran : (task.flow event).Ran (serves event) registry server result later
        after)
      (proper : Proper result) :
      Reached event start stored
        (task.informs event registry.cache informed result) later after

end Calls

section Recalling

variable {event : String} {registry : Registry} {server : Fields}
variable {document : Document} {informed : Bool}

/-- Manual filters are those that are stored, or none if the backend has not
told. -/
def Recalls (informed : Bool) (stored recalled : ManualState) : Prop :=
  recalled = stored ∨ informed = false ∧ recalled = .empty

theorem Recalls.eq_of_informed {stored recalled : ManualState}
    (recalls : Recalls true stored recalled) : recalled = stored := by
  obtain same | ⟨uninformed, _⟩ := recalls
  · exact same
  · cases uninformed

/-- Finite manual filters are recalled from the wire as they were. -/
theorem Recalls.onWire {stored recalled : ManualState}
    (stable : stored.onWire = stored)
    (recalls : Recalls informed stored recalled) :
    Recalls informed stored recalled.onWire := by
  obtain rfl | ⟨uninformed, rfl⟩ := recalls
  · exact .inl stable
  · exact .inr ⟨uninformed, rfl⟩

/-- What is known of the manual filters of an event, in its document and as the
ones that were read or written last. -/
structure Believes (event : String) (informed : Bool) (registry : Registry)
    (server : Fields) (document : Document) : Prop where
  stored : Stored server document
  finite : Fields.AllFinite server
  manual : Recalls informed document.manual (registry.cache.manual event)
  shown : Recalls informed document.manual
    (registry.cache.document event).manual

namespace Believes

theorem of_lookups {later : Registry}
    (believes : Believes event informed registry server document)
    (documents : Keyed.get? event later.cache.documents =
      Keyed.get? event registry.cache.documents)
    (lastManual : Keyed.get? event later.cache.lastManual =
      Keyed.get? event registry.cache.lastManual) :
    Believes event informed later server document where
  stored := believes.stored
  finite := believes.finite
  manual := by
    rw [Cache.manual, lastManual]
    exact believes.manual
  shown := by
    rw [Cache.document, documents]
    exact believes.shown

theorem of_cache {later : Registry}
    (believes : Believes event informed registry server document)
    (same : later.cache = registry.cache) :
    Believes event informed later server document :=
  believes.of_lookups (by rw [same]) (by rw [same])

/-- A document that was read is all that is known. -/
theorem of_coherent (coherent : Coherent event registry server document)
    (informed : Bool) :
    Believes event informed registry server document where
  stored := coherent.stored
  finite := coherent.finite
  manual := .inl coherent.manual_eq
  shown := .inl (by rw [coherent.document_eq])

/-- Where nothing is known, no filters stand in for those that are stored. -/
theorem of_unknown (stored : Stored server document)
    (finite : Fields.AllFinite server)
    (documents : Keyed.get? event registry.cache.documents = none)
    (lastManual : Keyed.get? event registry.cache.lastManual = none) :
    Believes event false registry server document where
  stored := stored
  finite := finite
  manual := .inr ⟨rfl, by rw [Cache.manual, lastManual]; rfl⟩
  shown := .inr ⟨rfl, by rw [Cache.document, documents]; rfl⟩

theorem onWire (believes : Believes event informed registry server document) :
    document.manual.onWire = document.manual :=
  congrArg Document.manual
    (Document.onWire_of_read believes.stored.2 believes.finite)

end Believes

end Recalling

section Flows

variable {event : String} {registry : Registry} {server : Fields}
variable {document : Document} {informed : Bool}

/-- Reading a document tells what is stored if the backend is asked. -/
theorem alone_read (refresh : Bool)
    (believes : Believes event informed registry server document) :
    (Store.read event refresh).Alone (serves event) (fun result later after =>
      after = server ∧ Believes event
        (informed || (Task.read refresh).asks event registry.cache &&
          result.isOk) later server document)
      registry server := by
  have loads : (load event).Alone (serves event) (fun result later after =>
      after = server ∧
        Believes event (informed || result.isOk) later server document)
      registry server := by
    apply (alone_load believes.stored believes.finite).mono
    intro result later after ⟨same, ended⟩
    subst same
    refine ⟨rfl, ?_⟩
    obtain ⟨fault, rfl, still⟩ | ⟨rfl, coherent⟩ := ended
    · simpa [Except.isOk, Except.toBool] using believes.of_cache still
    · exact .of_coherent coherent _
  rw [read_eq, Flow.alone_locked]
  simp only [Flow.Alone, Task.asks]
  cases known : Keyed.get? event registry.cache.documents with
  | none => simpa using loads
  | some document =>
      cases refresh with
      | false => simpa [Flow.Alone] using believes
      | true => simpa using loads

/-- Taking a change back shows what is stored, or the document from before the
change. -/
theorem alone_rollback {pending : PendingWrite}
    (named : pending.event = event) (stored : Stored server document) :
    (rollback pending).Alone (serves event) (fun result later after =>
      Proper result → after = server ∧
        Keyed.get? event later.cache.lastManual =
          Keyed.get? event registry.cache.lastManual ∧
        ∃ back, result = .ok back ∧
          Keyed.get? event later.cache.documents = some back ∧
          (back = document ∨ back = pending.previous))
      registry server := by
  subst named
  rw [rollback_eq, Flow.alone_finish]
  apply (alone_ask stored).mono
  intro answer later after ⟨same, sameServer, usual, found⟩
  have lastManual : Keyed.get? pending.event later.cache.lastManual =
      Keyed.get? pending.event registry.cache.lastManual := by rw [same]
  cases brought : fetched answer with
  | ok other =>
      obtain rfl := found other brought
      intro _
      exact ⟨sameServer, by simpa using lastManual, _, rfl,
        by simp [Except.toOption], .inl rfl⟩
  | error fault =>
      obtain ⟨problem, rfl⟩ | ⟨misuse, rfl⟩ := usual.fetched brought
      · intro _
        exact ⟨sameServer, by simpa using lastManual, _, rfl,
          by simp [Except.toOption], .inr rfl⟩
      · intro proper
        exact absurd rfl (proper misuse)

/-- A change was tried on what is known. -/
structure Trying (event : String) (informed : Bool) (change : Change)
    (pending : PendingWrite) (server : Fields) (document own : Document) :
    Prop where
  stored : Stored server document
  finite : Fields.AllFinite server
  carried : Fields.AllFinite change.wireFields
  named : pending.event = event
  previous : Recalls informed document.manual pending.previous.manual
  readable : Document.read change.wire = .value own
  staged : pending.staged.manual = if change.manual.isSome then own.manual
    else pending.previous.manual.onWire

namespace Trying

variable {change : Change} {pending : PendingWrite} {own : Document}

theorem exists_of_stage {cache : Cache} (stored : Stored server document)
    (finite : Fields.AllFinite server)
    (carried : Fields.AllFinite change.wireFields)
    (shown : Recalls informed document.manual (cache.document event).manual)
    (staging : PendingWrite.stage event change cache = .ok pending) :
    ∃ own, Trying event informed change pending server document own := by
  obtain ⟨named, previous, read⟩ := PendingWrite.staged_of_stage staging
  obtain ⟨own, readable, staged, -⟩ := (change.read_mergedFields _).mp read
  rw [← previous] at shown staged
  exact ⟨own, stored, finite, carried, named, shown, readable, staged⟩

theorem next
    (trying : Trying event informed change pending server document own) :
    Stored (change.written server) (merged change own document) :=
  ⟨change.plain_written trying.stored.1,
    change.read_written trying.stored.2 trying.readable⟩

/-- What a confirmed write shows of the manual filters is what is stored now, or
what was known before of filters that it does not carry. -/
theorem recalls_confirmed {json : Json}
    (trying : Trying event informed change pending server document own)
    (carries : Document.unwrapFields json = change.written server ∨
      Document.unwrapFields json = []) :
    Recalls (informed || change.manual.isSome)
      (merged change own document).manual
      (pending.confirmed json).manual := by
  have stable : document.manual.onWire = document.manual :=
    congrArg Document.manual
      (Document.onWire_of_read trying.stored.2 trying.finite)
  have tried : Recalls (informed || change.manual.isSome)
      (merged change own document).manual pending.staged.manual := by
    rw [trying.staged, merged]
    cases change.manual.isSome with
    | true => exact .inl rfl
    | false => simpa using trying.previous.onWire stable
  -- An answer without a document confirms the change as it was tried.
  rw [← confirmed_eq]
  obtain content | nothing := carries
  · by_cases nothing : change.written server = []
    · rw [confirmed_of_nil (content.trans nothing)]
      exact tried
    · rw [trying.next.confirmed nothing content]
      exact .inl rfl
  · rw [confirmed_of_nil nothing]
    exact tried

/-- Manual filters that a write carries are confirmed as they were sent. -/
theorem manual_confirmed {json : Json}
    (trying : Trying event informed change pending server document own)
    (given : change.manual.isSome = true)
    (carries : Document.unwrapFields json = change.written server ∨
      Document.unwrapFields json = []) :
    (pending.confirmed json).manual = (merged change own document).manual := by
  have recalls := trying.recalls_confirmed carries
  rw [given, Bool.or_true] at recalls
  exact recalls.eq_of_informed

end Trying

/-- How a write that was tried ends unless it stops at a misuse: its blocks are
merged, or nothing has changed. -/
inductive Sent (event : String) (informed : Bool) (change : Change)
    (server : Fields) (document own : Document) (registry : Registry) :
    Except Fault (Outcome Document) → Registry → Fields → Prop where
  | merged {confirmed : Document} {later : Registry}
      (shown : Recalls (informed || change.manual.isSome)
        (Coherence.merged change own document).manual
        (later.cache.document event).manual)
      (manual : later.cache.manual event =
        if change.manual.isSome then
          (Coherence.merged change own document).manual
        else registry.cache.manual event) :
      Sent event informed change server document own registry
        (.ok (.ok confirmed)) later (change.written server)
  | undone {problem : Problem} {later : Registry}
      (shown : Recalls informed document.manual
        (later.cache.document event).manual)
      (manual : later.cache.manual event = registry.cache.manual event) :
      Sent event informed change server document own registry
        (.ok (.error problem)) later server

/-- Taking over the answer to a write shows the merged blocks. -/
theorem alone_confirm {change : Change} {pending : PendingWrite}
    {own : Document} {json : Json} {later : Registry}
    (trying : Trying event informed change pending server document own)
    (still : later.cache.manual event = registry.cache.manual event)
    (carries : Document.unwrapFields json = change.written server ∨
      Document.unwrapFields json = []) :
    (settle pending change (.ok json)).Alone (serves event)
      (Sent event informed change server document own registry)
      later (change.written server) := by
  have shown := trying.recalls_confirmed carries
  have sent := fun given => trying.manual_confirmed given carries
  obtain rfl := trying.named
  show Flow.Alone _ (if change.manual.isSome then _ else _) _ _ _
  split
  · rename_i given
    refine .merged ?_ ?_
    · simpa [Cache.document, Cache.rememberManual] using shown
    · simpa [Cache.manual, Cache.rememberManual, given] using sent given
  · rename_i missing
    refine .merged ?_ ?_
    · simpa [Cache.document] using shown
    · simpa [Cache.manual, missing] using still

/-- A write that was tried is sent and settled. -/
theorem alone_settle {change : Change} {pending : PendingWrite}
    {own : Document}
    (trying : Trying event informed change pending server document own) :
    ((put event change).finish (settle pending change)).Alone (serves event)
      (fun result later after => Proper result →
        Sent event informed change server document own registry result later
          after)
      registry server := by
  rw [Flow.alone_finish]
  apply (alone_put change).mono
  intro answer later after ⟨same, usual, ended⟩
  obtain ⟨fault, rfl, rfl⟩ | ⟨json, rfl, rfl, carries⟩ := ended
  · obtain ⟨problem, rfl⟩ | ⟨misuse, rfl⟩ := usual fault rfl
    · apply Flow.alone_bind.mpr
      apply (alone_rollback trying.named trying.stored).mono
      intro result restored after rolled
      obtain fault | back := result
      · intro proper
        obtain ⟨-, -, back, same, -⟩ := rolled fun misuse stopped =>
          proper misuse (by cases stopped; rfl)
        cases same
      · intro proper
        obtain ⟨rfl, lastManual, _, same', documents, shown⟩ :=
          rolled proper_ok
        cases same'
        refine .undone ?_ ?_
        · rw [Cache.document, documents]
          obtain rfl | rfl := shown
          · exact .inl rfl
          · exact trying.previous
        · rw [Cache.manual, lastManual, same]
          rfl
    · exact fun proper => absurd rfl (proper misuse)
  · have still : later.cache.manual event = registry.cache.manual event := by
      rw [same]
    apply (alone_confirm trying still carries).mono
    exact fun result later after sent _ => sent

/-- Once a write is settled, what is known of the manual filters is still right,
and the backend has told them if the write carried them. -/
theorem Sent.believes {change : Change} {own : Document} {later : Registry}
    {after : Fields} {result : Except Fault (Outcome Document)}
    {pending : PendingWrite}
    (sent : Sent event informed change server document own registry result later
      after)
    (trying : Trying event informed change pending server document own)
    (recalled : Recalls informed document.manual
      (registry.cache.manual event)) :
    ∃ next, Believes event
      (informed || change.manual.isSome && Succeeded result) later after
      next := by
  cases sent with
  | merged shown manual =>
      refine ⟨Coherence.merged change own document, trying.next,
        change.allFinite_written trying.carried trying.finite, ?_, ?_⟩
      · rw [manual]
        cases given : change.manual.isSome with
        | true => exact .inl rfl
        | false => simpa [Coherence.merged, given] using recalled
      · simpa [Succeeded] using shown
  | undone shown manual =>
      refine ⟨document, trying.stored, trying.finite, ?_, ?_⟩
      · rw [manual]
        simpa [Succeeded] using recalled
      · simpa [Succeeded] using shown

/-- Writing blocks keeps what is known right. -/
theorem alone_write {change : Change}
    (believes : Believes event informed registry server document)
    (carried : Fields.AllFinite change.wireFields) :
    (Store.write event change).Alone (serves event)
      (fun result later after => Proper result → ∃ next, Believes event
        (informed || change.manual.isSome && Succeeded result) later after
        next)
      registry server := by
  rw [write_eq]
  simp only [Flow.Alone]
  cases staging : PendingWrite.stage event change registry.cache with
  | error fault =>
      intro _
      refine ⟨document, ?_⟩
      simpa [Succeeded] using believes
  | ok pending =>
      obtain ⟨own, trying⟩ := Trying.exists_of_stage believes.stored
        believes.finite carried believes.shown staging
      apply (alone_settle trying).mono
      intro result later after ended proper
      apply (ended proper).believes trying
      simpa [Cache.manual] using believes.manual

/-- Manual filters are sent, and then they are what is stored; or they are what
was read or written last, and nothing happens. -/
structure Wrote (event : String) (informed : Bool) (manual : ManualState)
    (registry : Registry) (server : Fields)
    (result : Except Fault (Outcome Document)) (later : Registry)
    (after : Fields) : Prop where
  believes : ∃ next, Believes event (informed ||
    !(registry.cache.manual event).same manual && Succeeded result) later after
    next
  stored : Succeeded result = true →
    ((registry.cache.manual event).same manual = true ∧ after = server) ∨
      ((registry.cache.manual event).same manual = false ∧
        ∃ next, Stored after next ∧ next.manual = manual.onWire)

/-- Manual filters that were merged are what is stored and what is known. -/
theorem Wrote.of_merged {manual : ManualState} {pending : PendingWrite}
    {own confirmed : Document} {later : Registry}
    (trying : Trying event informed (.ofManual manual) pending server document
      own)
    (differs : (registry.cache.manual event).same manual = false)
    (shown : Recalls true (merged (.ofManual manual) own document).manual
      (later.cache.document event).manual)
    (last : later.cache.manual event =
      (merged (.ofManual manual) own document).manual) :
    Wrote event informed manual registry server (.ok (.ok confirmed)) later
      ((Change.ofManual manual).written server) := by
  have own_eq : own = ⟨manual.onWire, .cleared⟩ :=
    Reading.value.inj (trying.readable.symm.trans
      (Change.read_ofManual manual))
  have next : Believes event true later
      ((Change.ofManual manual).written server)
      (merged (.ofManual manual) own document) :=
    ⟨trying.next, (Change.ofManual manual).allFinite_written trying.carried
      trying.finite, .inl last, shown⟩
  refine ⟨⟨merged (.ofManual manual) own document, ?_⟩,
    fun _ => .inr ⟨differs, _, trying.next, ?_⟩⟩
  · simpa [differs, Succeeded] using next
  · rw [own_eq]
    rfl

/-- Where a change was taken back, the filters that are shown count as the ones
that were written last. -/
theorem Wrote.of_undone {manual : ManualState} {problem : Problem}
    {later : Registry}
    (believes : Believes event informed registry server document)
    (shown : Recalls informed document.manual
      (later.cache.document event).manual) :
    Wrote event informed manual registry server (.ok (.error problem))
      (later.modifyCache fun cache =>
        cache.rememberManual event (cache.document event).manual) server := by
  refine ⟨⟨document, believes.stored, believes.finite, ?_, ?_⟩, ?_⟩
  · simpa [Cache.manual, Cache.rememberManual, Succeeded] using shown
  · simpa [Cache.document, Cache.rememberManual, Succeeded] using shown
  · intro succeeded
    cases succeeded

/-- Writing manual filters sends them or leaves them. -/
theorem alone_writeManual
    (believes : Believes event informed registry server document)
    (manual : ManualState) :
    (Store.writeManual event manual).Alone (serves event)
      (fun result later after => Proper result →
        Wrote event informed manual registry server result later after)
      registry server := by
  show Flow.Alone _ (if (registry.cache.manual event).same manual then _
    else _) _ _ _
  split
  · rename_i same
    intro _
    refine ⟨⟨document, ?_⟩, fun _ => .inl ⟨same, rfl⟩⟩
    simpa [same] using believes
  rename_i other
  have differs : (registry.cache.manual event).same manual = false := by
    simpa using other
  show Flow.Alone _ ((Store.write event (.ofManual manual)).bind _) _
    (registry.modifyCache (Cache.rememberManual event manual)) _
  obtain ⟨pending, staging⟩ := PendingWrite.exists_stage_ofManual event manual
    (registry.modifyCache (Cache.rememberManual event manual)).cache
  obtain ⟨own, trying⟩ := Trying.exists_of_stage believes.stored
    believes.finite (Change.allFinite_ofManual manual) believes.shown staging
  rw [Flow.alone_bind, write_eq]
  simp only [Flow.Alone, staging]
  apply (alone_settle trying).mono
  intro result later after ended
  obtain fault | outcome := result
  · intro proper
    cases ended fun misuse stopped => proper misuse (by cases stopped; rfl)
  cases ended proper_ok with
  | merged shown last =>
      exact fun _ => .of_merged trying differs
        (by simpa [Change.ofManual] using shown) last
  | undone shown last => exact fun _ => .of_undone believes shown

/-- Every call keeps what is known right. -/
theorem alone_task {task : Task}
    (believes : Believes event informed registry server document)
    (fits : task.Fits) :
    (task.flow event).Alone (serves event)
      (fun result later after => Proper result → ∃ next, Believes event
        (task.informs event registry.cache informed result) later after next)
      registry server := by
  cases task with
  | read refresh =>
      apply Flow.alone_bind.mpr
      apply (alone_read refresh believes).mono
      intro result later after ⟨same, next⟩
      subst same
      obtain fault | brought := result
      · exact fun _ => ⟨document, next⟩
      · exact fun _ => ⟨document, next⟩
  | write change => exact alone_write believes fits
  | writeManual search filters =>
      show Flow.Alone _ ((Flow.ofResult _).bind _) _ _ _
      rw [Flow.alone_bind, Flow.alone_ofResult]
      simp only [Task.informs, Task.asks]
      cases (ManualState.ofTable search filters).toExcept with
      | error fault =>
          intro _
          refine ⟨document, ?_⟩
          simpa using believes
      | ok manual =>
          apply (alone_writeManual believes manual).mono
          exact fun result later after wrote proper => (wrote proper).believes
  | forget =>
      intro _
      refine ⟨document, .of_unknown believes.stored believes.finite ?_ ?_⟩
      · simp [Cache.forget]
      · simp [Cache.forget]

end Flows

section Runs

variable {event : String} {registry start : Registry}
variable {server stored : Fields} {document : Document} {informed : Bool}

/-- After every call, what is known of the manual filters is right. -/
theorem exists_believes (first : Believes event false start stored document)
    (reached : Reached event start stored informed registry server) :
    ∃ current, Believes event informed registry server current := by
  induction reached with
  | start => exact ⟨document, first⟩
  | aside reached documents lastManual ih =>
      obtain ⟨current, believes⟩ := ih
      exact ⟨current, believes.of_lookups documents lastManual⟩
  | call task reached fits ran proper ih =>
      obtain ⟨current, believes⟩ := ih
      exact ((alone_task believes fits).ran ran) proper

/-- Manual filters that are stored are those that were written, in their wire
form or up to the equality of values. -/
def Persisted (stored written : ManualState) : Prop :=
  stored = written.onWire ∨ stored.same written = true

/-- Filters are cleared while none are recalled and the backend stores some. -/
def Overlooked (recalled stored written : ManualState) : Prop :=
  recalled = .empty ∧ written = .empty ∧ stored ≠ .empty

/-- No filters but the empty ones equal them. -/
theorem same_empty {manual : ManualState} :
    manual.same .empty = true ↔ manual = .empty := by
  obtain ⟨search, filters⟩ := manual
  cases filters <;>
    simp [ManualState.same, ManualState.sameFilters, ManualState.empty]

theorem empty_same {manual : ManualState} :
    ManualState.empty.same manual = true ↔ manual = .empty := by
  obtain ⟨search, filters⟩ := manual
  cases filters <;>
    simp [ManualState.same, ManualState.sameFilters, ManualState.empty,
      @eq_comm _ "" search]

/-- Clearing the filters is persisted only if none are stored. -/
theorem persisted_empty {stored : ManualState} :
    Persisted stored .empty ↔ stored = .empty := by
  have still : ManualState.empty.onWire = .empty := rfl
  rw [Persisted, same_empty, still, or_self]

/-- Filters that equal the recalled ones are stored unless they are
overlooked. -/
theorem persisted_of_recalled {stored recalled written : ManualState}
    (recalls : Recalls informed stored recalled)
    (same : recalled.same written = true) :
    Persisted stored written ↔ ¬ Overlooked recalled stored written := by
  obtain rfl | ⟨uninformed, rfl⟩ := recalls
  · constructor
    · rintro - ⟨none, -, some⟩
      exact some none
    · exact fun _ => .inr same
  · -- The filters that stand in for unknown ones are equal to empty ones only.
    obtain rfl := empty_same.mp same
    rw [persisted_empty]
    constructor
    · rintro none ⟨-, -, some⟩
      exact some none
    · intro seen
      by_contra some
      exact seen ⟨rfl, rfl, some⟩

/-- Calls on the document of an event of which nothing was known do not overlap,
none stops at a misuse, and any of their requests may fail.  A write of manual
filters that then succeeds is persisted, unless it clears filters that the
backend stores while none are recalled here; such a write changes nothing.  Once
the backend has told or taken the filters, every write that succeeds is
persisted. -/
theorem persisted_iff_not_overlooked
    (there : Stored stored document) (finite : Fields.AllFinite stored)
    (unread : Keyed.get? event start.cache.documents = none)
    (unwritten : Keyed.get? event start.cache.lastManual = none)
    (reached : Reached event start stored informed registry server) :
    ∃ current, Stored server current ∧
      ∀ search filters manual confirmed later after,
        (ManualState.ofTable search filters).toExcept = .ok manual →
        (Store.writeTable event search filters).Ran (serves event) registry
          server (.ok (.ok confirmed)) later after →
        ∃ next, Stored after next ∧
          (Persisted next.manual manual ↔
            ¬ Overlooked (registry.cache.manual event) current.manual manual) ∧
          (Overlooked (registry.cache.manual event) current.manual manual →
            after = server) ∧
          (informed = true → manual.toJson.isFinite = true →
            next.manual = manual ∨ next.manual.same manual = true) := by
  obtain ⟨current, believes⟩ :=
    exists_believes (.of_unknown there finite unread unwritten) reached
  refine ⟨current, believes.stored, ?_⟩
  intro search filters manual confirmed later after normal ran
  have alone : (Store.writeTable event search filters).Alone (serves event)
      (fun result later after => Proper result →
        Wrote event informed manual registry server result later after)
      registry server := by
    show Flow.Alone _ ((Flow.ofResult _).bind _) _ _ _
    rw [Flow.alone_bind, Flow.alone_ofResult, normal]
    exact alone_writeManual believes manual
  have wrote := alone.ran ran proper_ok
  obtain ⟨same, rfl⟩ | ⟨differs, next, now, sent⟩ := wrote.stored rfl
  · have exactly := persisted_of_recalled believes.manual same
    refine ⟨current, believes.stored, exactly, fun _ => rfl, ?_⟩
    intro told _
    subst told
    rw [← believes.manual.eq_of_informed]
    exact .inr same
  · have noticed :
        ¬ Overlooked (registry.cache.manual event) current.manual manual := by
      rintro ⟨none, rfl, -⟩
      rw [none] at differs
      cases differs
    refine ⟨next, now, ⟨fun _ => noticed, fun _ => .inl sent⟩,
      fun overlooked => absurd overlooked noticed, fun _ finite => .inl ?_⟩
    rw [sent, ManualState.onWire_of_isFinite finite]

end Runs

section Searches

/-- The search text that is stored. -/
def searchOf (server : Fields) : Option String :=
  (Document.ofStored (.obj server)).toOption.map (·.manual.search)

/-- What comes of writing a search and of clearing it. -/
def cleared (text : String) :
    Option ((Except Fault (Outcome Document) × Registry × Fields) ×
      (Except Fault (Outcome Document) × Registry × Fields)) :=
  ((Store.writeTable "event" (.str text) (.arr [])).computed writeOnly unread
      []).bind fun search =>
    ((Store.writeTable "event" (.str "") (.arr [])).computed writeOnly
      search.2.1 search.2.2).map fun clear => (search, clear)

/-- A search that was written is known, and clearing it is persisted. -/
theorem persisted_iff_not_overlooked_after_search :
    ∃ registry server, Reached "event" unread [] true registry server ∧
      searchOf server = some "ada" ∧
      ∃ confirmed later after next,
        (Store.writeTable "event" (.str "") (.arr [])).Ran (serves "event")
          registry server (.ok (.ok confirmed)) later after ∧
        Stored after next ∧ next.manual = .empty := by
  have ended : (cleared "ada").any (fun both =>
      Succeeded both.1.1 && Succeeded both.2.1 &&
        searchOf both.1.2.2 == some "ada") = true := by decide +kernel
  obtain ⟨⟨⟨result, registry, server⟩, ⟨clear, later, after⟩⟩, both, good⟩ :=
    (Option.any_eq_true _ _).mp ended
  obtain ⟨search, wrote, found⟩ := Option.bind_eq_some_iff.mp both
  obtain ⟨second, run, same⟩ := Option.map_eq_some_iff.mp found
  cases same
  simp only [Bool.and_eq_true, beq_iff_eq] at good
  obtain ⟨⟨fine, succeeded⟩, searched⟩ := good
  have reached : Reached "event" unread [] true registry server := by
    have informed : (Task.writeManual (.str "ada") (.arr [])).informs "event"
        unread.cache false result = true := by
      have asked : (Task.writeManual (.str "ada") (.arr [])).asks "event"
          unread.cache = true := by decide +kernel
      simp only [Task.informs, asked, fine, Bool.and_true, Bool.or_true]
    have ran : ((Task.writeManual (.str "ada") (.arr [])).flow "event").Ran
        (serves "event") unread [] result registry server :=
      Flow.ran_of_computed serves_writeOnly wrote
    have proper : Proper result := by
      intro misuse stopped
      subst stopped
      cases fine
    have reached := Reached.call (.writeManual (.str "ada") (.arr [])) .start
      trivial ran proper
    rwa [informed] at reached
  obtain ⟨confirmed, rfl⟩ := succeeded_iff.mp succeeded
  have ran : (Store.writeTable "event" (.str "") (.arr [])).Ran
      (serves "event") registry server (.ok (.ok confirmed)) later after :=
    Flow.ran_of_computed serves_writeOnly run
  obtain ⟨current, stored, always⟩ := persisted_iff_not_overlooked
    stored_empty nofun rfl rfl reached
  obtain ⟨next, now, -, -, told⟩ :=
    always (.str "") (.arr []) .empty confirmed later after rfl ran
  refine ⟨registry, server, reached, searched, confirmed, later, after, next,
    ran, now, ?_⟩
  obtain same | same := told rfl rfl
  · exact same
  · exact same_empty.mp same

/-- A search that is stored. -/
def stale : Fields :=
  [("manual", ManualState.toJson { search := "ada", filters := [] })]

/-- Where nothing was read, a search that is stored is not cleared by a write
that succeeds. -/
theorem stale_search_stays_stored :
    ¬ ∀ informed registry server,
      Reached "event" unread stale informed registry server →
      ∀ search filters manual confirmed later after next,
        (ManualState.ofTable search filters).toExcept = .ok manual →
        (Store.writeTable "event" search filters).Ran (serves "event") registry
          server (.ok (.ok confirmed)) later after →
        Stored after next → Persisted next.manual manual := by
  intro always
  have ran : (Store.writeTable "event" (.str "") (.arr [])).Ran (serves "event")
      unread stale (.ok (.ok .empty)) unread stale :=
    .inspect .done
  have stored : Stored stale ⟨{ search := "ada", filters := [] }, .cleared⟩ :=
    ⟨fun _ => nofun, rfl⟩
  have persisted := always false unread stale .start (.str "") (.arr []) .empty
    .empty unread stale _ rfl ran stored
  have none : "ada" = "" := congrArg ManualState.search
    (persisted_empty.mp persisted)
  exact absurd none (by decide)

end Searches

end Persistence
end Audience
