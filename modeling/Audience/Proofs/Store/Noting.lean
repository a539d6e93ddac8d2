import Audience.Proofs.Document.Equality
import Audience.Proofs.Store.Persistence

/-!
# Manual filters that were noted

Manual filters are not written again if they equal those that were noted last.
The backend may answer as it likes, since other clients write to it as well.  A
call that asks for the document takes note of the filters in it, and so does a
write of manual filters; a write of the other block does not, nor does a write
that is taken back, although either may bring other filters into the cache.  A
write that is skipped therefore agrees with the document exactly if the filters
shown are still the ones that were noted.
-/

namespace Audience
namespace Noting

open Store
open Persistence (Task Succeeded)

section Talks

/-- What was said between this side and the backend, in order. -/
abbrev Talk := List (Call × Reply)

/-- The backend answers as it likes. -/
def talks (before : Talk) (call : Call) (reply : Reply) (after : Talk) : Prop :=
  after = before ++ [(call, reply)] ∧ reply.WellKeyed

/-- It answers every call in one way. -/
def telling (reply : Reply) (said : Talk) (call : Call) : Reply × Talk :=
  (reply, said ++ [(call, reply)])

variable {missing : Option (String × String)} {reply : Reply} {json : Json}

theorem talks_telling (keyed : reply.WellKeyed) (said : Talk) (call : Call) :
    talks said call (telling reply said call).1 (telling reply said call).2 :=
  ⟨rfl, keyed⟩

/-- No key stands twice in what such a reply brings. -/
theorem wellKeyed_of_ended (keyed : reply.WellKeyed)
    (answered : Client.ended missing reply = .ok json) : json.WellKeyed := by
  unfold Client.ended at answered
  split at answered
  · cases answered
  split at answered
  · rename_i value
    cases answered
    cases reply with
    | timeout => cases value
    | unreachable cause => cases value
    | response status payload =>
        simp only [Client.valueOf] at value
        split at value
        · split at value
          · cases value
            exact Json.wellKeyed_obj.mpr ⟨List.nodup_nil, nofun⟩
          · split at value
            · rename_i found
              cases value
              exact (keyed status payload rfl).of_json? found
            · cases value
        · cases value
  · cases answered

theorem wellKeyed_of_fetched {document : Document} (keyed : reply.WellKeyed)
    (brought : fetched (Client.ended missing reply) = .ok document) :
    document.manual.WellKeyed := by
  unfold fetched at brought
  split at brought
  · rename_i json answered
    have found : Document.ofStored json = .ok document := by
      cases stored : Document.ofStored json with
      | error problem =>
          rw [stored] at brought
          cases brought
      | ok other =>
          rw [stored] at brought
          exact congrArg Except.ok (Except.ok.inj brought)
    exact Document.wellKeyed_of_ofStored found (wellKeyed_of_ended keyed answered)
  · split at brought
    · cases brought
      exact ManualState.wellKeyed_empty
    · cases brought
  · cases brought

end Talks

/-- The manual filters in the document that is shown of an event. -/
def shown (event : String) (registry : Registry) : ManualState :=
  (registry.cache.document event).manual

/-- What a call is given has no object with two fields of one key. -/
def Proper : Task → Prop
  | .write change => ∀ block, change.manual = some block →
      (Change.wireBlock ManualState.toJson block).WellKeyed
  | .writeManual _ filters => filters.WellKeyed
  | _ => True

/-- The manual filters that a call takes note of, if it does.  Asking for the
document notes those that it brings, and a write of manual filters those that are
left in the document; a write that stops half-way notes those that it was given. -/
def noted? (event : String) (said : Talk)
    (result : Except Fault (Outcome Document)) (later : Registry) :
    Task → Option ManualState
  | .read _ =>
      if Succeeded result && !said.isEmpty then some (shown event later)
      else none
  | .write change =>
      if Succeeded result && change.manual.isSome then some (shown event later)
      else none
  | .writeManual search filters =>
      match result with
      | .ok _ => if said.isEmpty then none else some (shown event later)
      | .error _ => (ManualState.ofTable search filters).toExcept.toOption
  | .forget => some (shown event later)

/-- Calls that do not overlap lead from one state to another, and the last manual
filters that one of them noted are those.  Between the calls anything may happen
that leaves alone what is known of the event. -/
inductive Reached (event : String) (start : Registry) :
    ManualState → Registry → Prop where
  | start : Reached event start .empty start
  | aside {noted : ManualState} {registry later : Registry}
      (reached : Reached event start noted registry)
      (documents : Keyed.get? event later.cache.documents =
        Keyed.get? event registry.cache.documents)
      (lastManual : Keyed.get? event later.cache.lastManual =
        Keyed.get? event registry.cache.lastManual) :
      Reached event start noted later
  | call {noted : ManualState} {registry later : Registry} {said : Talk}
      {result : Except Fault (Outcome Document)} (task : Task)
      (reached : Reached event start noted registry) (proper : Proper task)
      (ran : (task.flow event).Ran talks registry [] result later said) :
      Reached event start ((noted? event said result later task).getD noted)
        later

section Flows

variable {event : String} {registry : Registry}

/-- How asking for a document ends: it is shown and noted, or nothing becomes
known. -/
inductive Loaded (event : String) (registry : Registry) :
    Except Fault Document → Registry → Talk → Prop where
  | brought {document : Document} {later : Registry} {said : Talk}
      (asked : said ≠ [])
      (known : Keyed.get? event later.cache.documents = some document)
      (manual : later.cache.manual event = document.manual)
      (keyed : document.manual.WellKeyed) :
      Loaded event registry (.ok document) later said
  | stopped {fault : Fault} {later : Registry} {said : Talk}
      (same : later.cache = registry.cache) :
      Loaded event registry (.error fault) later said

theorem alone_load :
    (load event).Alone talks (Loaded event registry) registry [] := by
  rw [load_eq, Flow.alone_finish]
  apply Client.alone_request
  · rintro misuse later (rfl | rfl)
    · exact .stopped rfl
    · exact .stopped rfl
  · rintro call made reply said ⟨rfl, replied⟩
    cases brought : fetched (Client.ended (some (resource, event)) reply) with
    | error fault => exact .stopped rfl
    | ok document =>
        refine .brought (by simp) ?_ ?_ (wellKeyed_of_fetched replied brought)
        · simp [kept]
        · simp [kept, Cache.manual, Cache.rememberManual]

/-- Reading a document asks for it, or shows the one that is known. -/
theorem alone_read (refresh : Bool) :
    (Store.read event refresh).Alone talks (fun result later said =>
      Loaded event registry result later said ∨
        ∃ document, Keyed.get? event registry.cache.documents = some document ∧
          result = .ok document ∧ later = registry ∧ said = [])
      registry [] := by
  rw [read_eq, Flow.alone_locked]
  simp only [Flow.Alone]
  cases known : Keyed.get? event registry.cache.documents with
  | none => exact alone_load.mono fun _ _ _ => .inl
  | some document =>
      cases refresh with
      | true => exact alone_load.mono fun _ _ _ => .inl
      | false => exact .inr ⟨document, rfl, rfl, rfl, rfl⟩

/-- Taking a change back notes nothing. -/
theorem alone_rollback {pending : PendingWrite} {said : Talk}
    (named : pending.event = event)
    (previous : pending.previous.manual.WellKeyed)
    (keyed : (shown event registry).WellKeyed) (asked : said ≠ []) :
    (rollback pending).Alone talks (fun _ later after =>
      (shown event later).WellKeyed ∧
        later.cache.manual event = registry.cache.manual event ∧ after ≠ [])
      registry said := by
  subst named
  rw [rollback_eq, Flow.alone_finish]
  apply Client.alone_request
  · rintro misuse later (rfl | rfl)
    · exact ⟨keyed, rfl, asked⟩
    · exact ⟨keyed, rfl, asked⟩
  · rintro call made reply after ⟨rfl, replied⟩
    cases brought :
        fetched (Client.ended (some (resource, pending.event)) reply) with
    | ok document =>
        refine ⟨?_, by simp [Cache.manual], by simp⟩
        simpa [shown, Cache.document, Except.toOption] using
          wellKeyed_of_fetched replied brought
    | error fault =>
        cases fault with
        | problem problem =>
            refine ⟨?_, by simp [Cache.manual], by simp⟩
            simpa [shown, Cache.document, Except.toOption] using previous
        | _ => exact ⟨keyed, rfl, by simp⟩

/-- How a write ends: it is confirmed, and noted if it carried manual filters; it
is taken back; or it stops half-way. -/
inductive Wrote (event : String) (change : Change) (registry : Registry) :
    Except Fault (Outcome Document) → Registry → Talk → Prop where
  | confirmed {pending : PendingWrite} {call : Call} {reply : Reply}
      {json : Json} {later : Registry}
      (tried : PendingWrite.stage event change registry.cache = .ok pending)
      (answer : Client.ended none reply = .ok json)
      (known : Keyed.get? event later.cache.documents =
        some (pending.confirmed json))
      (manual : later.cache.manual event =
        if change.manual.isSome then (pending.confirmed json).manual
        else registry.cache.manual event)
      (keyed : (pending.confirmed json).manual.WellKeyed) :
      Wrote event change registry (.ok (.ok (pending.confirmed json))) later
        [(call, reply)]
  | undone {problem : Problem} {later : Registry} {said : Talk}
      (asked : said ≠ []) (keyed : (shown event later).WellKeyed)
      (manual : later.cache.manual event = registry.cache.manual event) :
      Wrote event change registry (.ok (.error problem)) later said
  | stopped {fault : Fault} {later : Registry} {said : Talk}
      (keyed : (shown event later).WellKeyed)
      (manual : later.cache.manual event = registry.cache.manual event) :
      Wrote event change registry (.error fault) later said

/-- What is left by a change that was tried. -/
theorem wellKeyed_staged {change : Change} {pending : PendingWrite}
    {cache : Cache}
    (tried : PendingWrite.stage event change cache = .ok pending)
    (proper : Proper (.write change))
    (keyed : (cache.document event).manual.WellKeyed) :
    pending.staged.manual.WellKeyed := by
  obtain ⟨-, -, read⟩ := PendingWrite.staged_of_stage tried
  refine Document.wellKeyed_of_read read fun json found => ?_
  rw [change.get?_manual_mergedFields, Option.some.injEq] at found
  subst found
  cases given : change.manual with
  | none => exact Json.WellKeyed.onWire keyed
  | some block => exact proper block given

/-- What is left by a write that was confirmed. -/
theorem wellKeyed_confirmed {pending : PendingWrite} {json : Json}
    (staged : pending.staged.manual.WellKeyed) (keyed : json.WellKeyed) :
    (pending.confirmed json).manual.WellKeyed := by
  have inner := Document.wellKeyed_unwrapFields keyed
  unfold PendingWrite.confirmed
  split
  · exact staged
  · split
    · rename_i found
      exact Document.wellKeyed_of_ofStored found inner
    · exact staged

theorem alone_write {change : Change} (proper : Proper (.write change))
    (keyed : (shown event registry).WellKeyed) :
    (Store.write event change).Alone talks (Wrote event change registry)
      registry [] := by
  rw [write_eq]
  simp only [Flow.Alone]
  cases tried : PendingWrite.stage event change registry.cache with
  | error fault => exact .stopped keyed rfl
  | ok pending =>
      have staged := wellKeyed_staged tried proper keyed
      obtain ⟨rfl, previous, -⟩ := PendingWrite.staged_of_stage tried
      have trying : (shown pending.event (registry.setDocument pending.event
          pending.staged).opened).WellKeyed := by
        simpa [shown, Cache.document, Registry.opened] using staged
      have still : (registry.setDocument pending.event
          pending.staged).opened.cache.manual pending.event =
            registry.cache.manual pending.event := by
        simp [Cache.manual, Registry.opened]
      apply Flow.alone_finish.mpr
      apply Client.alone_request
      · rintro misuse later (rfl | rfl)
        · exact .stopped trying still
        · exact .stopped trying still
      · rintro call made reply said ⟨rfl, replied⟩
        cases answer : Client.ended none reply with
        | ok json =>
            have confirmed := wellKeyed_confirmed staged
              (wellKeyed_of_ended replied answer)
            show Flow.Alone _ (if change.manual.isSome then _ else _) _ _ _
            split
            · rename_i given
              refine .confirmed tried answer ?_ ?_ confirmed
              · simp [Cache.rememberManual]
              · simp [Cache.rememberManual, Cache.manual, given]
            · rename_i missing
              refine .confirmed tried answer ?_ ?_ confirmed
              · simp
              · simp [Cache.manual, missing]
        | error fault =>
            cases fault with
            | problem problem =>
                apply Flow.alone_bind.mpr
                apply (alone_rollback rfl (previous ▸ keyed) trying
                  (List.cons_ne_nil (call, reply) [])).mono
                rintro (fault | back) later after ⟨keyed, manual, asked⟩
                · exact .stopped keyed (manual.trans still)
                · exact .undone asked keyed (manual.trans still)
            | _ => exact .stopped trying still

/-- How a write of manual filters ends that are not those that were noted: they
are confirmed, or taken back, and the ones that are shown then are noted; or it
stops half-way. -/
inductive Sent (event : String) (manual : ManualState) (registry : Registry) :
    Except Fault (Outcome Document) → Registry → Talk → Prop where
  | confirmed {pending : PendingWrite} {call : Call} {reply : Reply}
      {json : Json} {later : Registry}
      (tried : PendingWrite.stage event (.ofManual manual) registry.cache =
        .ok pending)
      (answer : Client.ended none reply = .ok json)
      (known : Keyed.get? event later.cache.documents =
        some (pending.confirmed json))
      (noted : later.cache.manual event = (pending.confirmed json).manual)
      (keyed : (pending.confirmed json).manual.WellKeyed) :
      Sent event manual registry (.ok (.ok (pending.confirmed json))) later
        [(call, reply)]
  | undone {problem : Problem} {later : Registry} {said : Talk}
      (asked : said ≠ []) (keyed : (shown event later).WellKeyed)
      (noted : later.cache.manual event = shown event later) :
      Sent event manual registry (.ok (.error problem)) later said
  | stopped {fault : Fault} {later : Registry} {said : Talk}
      (keyed : (shown event later).WellKeyed)
      (noted : later.cache.manual event = manual) :
      Sent event manual registry (.error fault) later said

/-- Such a write does not end properly without a call. -/
theorem Sent.asked {manual : ManualState} {later : Registry} {said : Talk}
    {outcome : Outcome Document}
    (sent : Sent event manual registry (.ok outcome) later said) :
    said ≠ [] := by
  cases sent with
  | confirmed => exact List.cons_ne_nil _ _
  | undone asked => exact asked

theorem alone_writeManual {manual : ManualState} (keyed : manual.WellKeyed)
    (shows : (shown event registry).WellKeyed)
    (differs : (registry.cache.manual event).same manual = false) :
    (Store.writeManual event manual).Alone talks (Sent event manual registry)
      registry [] := by
  have proper : Proper (.write (.ofManual manual)) := by
    rintro block given
    cases given
    exact Json.WellKeyed.onWire keyed
  show Flow.Alone _ (if (registry.cache.manual event).same manual then _
    else _) _ _ _
  rw [differs, if_neg Bool.false_ne_true]
  show Flow.Alone _ ((Store.write event (.ofManual manual)).bind _) _
    (registry.modifyCache (Cache.rememberManual event manual)) _
  have shows : (shown event (registry.modifyCache
      (Cache.rememberManual event manual))).WellKeyed := shows
  rw [Flow.alone_bind]
  apply (alone_write proper shows).mono
  intro result later said wrote
  cases wrote with
  | confirmed tried answer known noted keyed =>
      exact .confirmed tried answer known noted keyed
  | undone asked keyed noted =>
      refine .undone asked keyed ?_
      simp [shown, Cache.manual, Cache.document, Cache.rememberManual]
  | stopped keyed noted =>
      refine .stopped keyed (noted.trans ?_)
      simp [Cache.manual, Cache.rememberManual]

/-- Manual filters that equal those that were noted are skipped. -/
theorem alone_writeManual_of_same {manual : ManualState}
    {ends : Except Fault (Outcome Document) → Registry → Talk → Prop}
    (same : (registry.cache.manual event).same manual = true)
    (skipped : ends (.ok (.ok (registry.cache.document event))) registry []) :
    (Store.writeManual event manual).Alone talks ends registry [] := by
  show Flow.Alone _ (if (registry.cache.manual event).same manual then _
    else _) _ _ _
  rw [same, if_pos rfl]
  exact skipped

end Flows

section Calls

variable {event : String} {registry later : Registry} {noted : ManualState}

/-- Those manual filters were noted last. -/
structure Recalls (event : String) (noted : ManualState) (registry : Registry) :
    Prop where
  manual : registry.cache.manual event = noted
  noted : noted.WellKeyed
  shown : (shown event registry).WellKeyed

theorem Recalls.of_lookups (recalls : Recalls event noted registry)
    (documents : Keyed.get? event later.cache.documents =
      Keyed.get? event registry.cache.documents)
    (lastManual : Keyed.get? event later.cache.lastManual =
      Keyed.get? event registry.cache.lastManual) :
    Recalls event noted later where
  manual := by
    rw [Cache.manual, lastManual]
    exact recalls.manual
  noted := recalls.noted
  shown := by
    rw [Noting.shown, Cache.document, documents]
    exact recalls.shown

/-- The filters that are shown were noted last. -/
theorem Recalls.of_shown (shows : (Noting.shown event later).WellKeyed)
    (manual : later.cache.manual event = Noting.shown event later) :
    Recalls event (Noting.shown event later) later :=
  ⟨manual, shows, shows⟩

theorem shown_of_known {document : Document}
    (known : Keyed.get? event registry.cache.documents = some document) :
    shown event registry = document.manual := by
  rw [shown, Cache.document, known]
  rfl

/-- A document that was asked for is noted. -/
theorem Loaded.recalls (refresh : Bool) {result : Except Fault Document}
    {said : Talk} (loaded : Loaded event registry result later said)
    (recalls : Recalls event noted registry) :
    Recalls event ((noted? event said (result.map .ok) later
      (.read refresh)).getD noted) later := by
  cases loaded with
  | brought asked known manual keyed =>
      have shows := shown_of_known known
      have recalls : Recalls event (shown event later) later :=
        .of_shown (shows ▸ keyed) (manual.trans shows.symm)
      simpa [Except.map, noted?, Succeeded, asked] using recalls
  | stopped same => exact recalls.of_lookups (by rw [same]) (by rw [same])

/-- A confirmed write is noted if it carried manual filters. -/
theorem Wrote.recalls {change : Change} {said : Talk}
    {result : Except Fault (Outcome Document)}
    (wrote : Wrote event change registry result later said)
    (recalls : Recalls event noted registry) :
    Recalls event ((noted? event said result later (.write change)).getD noted)
      later := by
  cases wrote with
  | confirmed tried answer known manual keyed =>
      have shows := shown_of_known known
      cases given : change.manual.isSome with
      | true =>
          rw [given, if_pos rfl] at manual
          have recalls : Recalls event (shown event later) later :=
            .of_shown (shows ▸ keyed) (manual.trans shows.symm)
          simpa [noted?, Succeeded, given] using recalls
      | false =>
          rw [given, if_neg Bool.false_ne_true] at manual
          have recalls : Recalls event noted later :=
            ⟨manual.trans recalls.manual, recalls.noted, shows ▸ keyed⟩
          simpa [noted?, given] using recalls
  | undone asked keyed manual =>
      exact ⟨manual.trans recalls.manual, recalls.noted, keyed⟩
  | stopped keyed manual =>
      exact ⟨manual.trans recalls.manual, recalls.noted, keyed⟩

/-- A write of manual filters that was sent is noted however it ends. -/
theorem Sent.recalls {search filters : Json} {manual : ManualState}
    {said : Talk} {result : Except Fault (Outcome Document)}
    (sent : Sent event manual registry result later said)
    (normal : (ManualState.ofTable search filters).toExcept = .ok manual)
    (given : manual.WellKeyed) :
    Recalls event ((noted? event said result later
      (.writeManual search filters)).getD noted) later := by
  cases sent with
  | confirmed tried answer known manual keyed =>
      have shows := shown_of_known known
      exact .of_shown (shows ▸ keyed) (manual.trans shows.symm)
  | undone asked keyed manual =>
      simpa [noted?, asked] using Recalls.of_shown keyed manual
  | stopped shows manual =>
      have recalls : Recalls event _ later := ⟨manual, given, shows⟩
      simpa [noted?, normal, Except.toOption] using recalls

/-- After every call those filters are remembered that were noted last. -/
theorem alone_task {task : Task} (recalls : Recalls event noted registry)
    (proper : Proper task) :
    (task.flow event).Alone talks (fun result later said =>
      Recalls event ((noted? event said result later task).getD noted) later)
      registry [] := by
  cases task with
  | read refresh =>
      apply Flow.alone_bind.mpr
      apply (alone_read refresh).mono
      rintro result later said (loaded | ⟨document, known, rfl, rfl, rfl⟩)
      · have recalls := loaded.recalls refresh recalls
        cases result with
        | ok document => exact recalls
        | error fault => exact recalls
      · exact recalls
  | write change =>
      apply (alone_write proper recalls.shown).mono
      exact fun _ _ _ wrote => wrote.recalls recalls
  | writeManual search filters =>
      show Flow.Alone _ ((Flow.ofResult _).bind _) _ _ _
      rw [Flow.alone_bind, Flow.alone_ofResult]
      cases normal : (ManualState.ofTable search filters).toExcept with
      | error fault =>
          simpa [noted?, normal, Except.toOption] using recalls
      | ok manual =>
          have keyed : manual.WellKeyed := ManualState.wellKeyed_of_ofTable
            (Reading.toExcept_eq_ok.mp normal) proper
          cases same : (registry.cache.manual event).same manual with
          | true => exact alone_writeManual_of_same same recalls
          | false =>
              apply (alone_writeManual keyed recalls.shown same).mono
              exact fun _ _ _ sent => sent.recalls normal keyed
  | forget =>
      refine .of_shown ?_ ?_
      · simpa [shown, Cache.document, Cache.forget, Document.empty] using
          ManualState.wellKeyed_empty
      · simp [shown, Cache.document, Cache.manual, Cache.forget, Document.empty]

/-- So it is after calls that do not overlap. -/
theorem Reached.recalls {start : Registry}
    (unread : Keyed.get? event start.cache.documents = none)
    (unwritten : Keyed.get? event start.cache.lastManual = none)
    (reached : Reached event start noted registry) :
    Recalls event noted registry := by
  induction reached with
  | start =>
      refine ⟨?_, ManualState.wellKeyed_empty, ?_⟩
      · rw [Cache.manual, unwritten]
        rfl
      · rw [shown, Cache.document, unread]
        exact ManualState.wellKeyed_empty
  | aside reached documents lastManual ih => exact ih.of_lookups documents lastManual
  | call task reached proper ran ih => exact (alone_task ih proper).ran ran

end Calls

section Skipping

variable {event : String} {registry later start : Registry}
variable {noted manual : ManualState} {search filters : Json}
variable {document returned : Document}

/-- The filters of the table are not written: nothing is said or changed, and the
document that is known is returned, or the empty one if none is. -/
def Skips (event : String) (registry : Registry) (search filters : Json) : Prop :=
  (Store.writeTable event search filters).Alone talks (fun result later said =>
    result = .ok (.ok (registry.cache.document event)) ∧ later = registry ∧
      said = []) registry []

/-- There is such a run: some reply comes to every call. -/
theorem Skips.ran (skips : Skips event registry search filters) :
    (Store.writeTable event search filters).Ran talks registry []
      (.ok (.ok (registry.cache.document event))) registry [] := by
  have keyed : Reply.timeout.WellKeyed := nofun
  obtain ⟨result, later, said, computed, rfl, rfl, rfl⟩ :=
    skips.exists_computed (telling .timeout) (talks_telling keyed)
  exact Flow.ran_of_computed (talks_telling keyed) computed

/-- How a write of the filters of the table ends. -/
theorem alone_writeTable
    (normal : (ManualState.ofTable search filters).toExcept = .ok manual)
    (keyed : manual.WellKeyed) (shows : (shown event registry).WellKeyed) :
    (Store.writeTable event search filters).Alone talks
      (fun result later said =>
        ((registry.cache.manual event).same manual = true ∧
          result = .ok (.ok (registry.cache.document event)) ∧
          later = registry ∧ said = []) ∨
        ((registry.cache.manual event).same manual = false ∧
          Sent event manual registry result later said))
      registry [] := by
  show Flow.Alone _ ((Flow.ofResult _).bind _) _ _ _
  rw [Flow.alone_bind, Flow.alone_ofResult, normal]
  cases same : (registry.cache.manual event).same manual with
  | true =>
      exact alone_writeManual_of_same same (.inl ⟨rfl, rfl, rfl, rfl⟩)
  | false =>
      apply (alone_writeManual keyed shows same).mono
      exact fun _ _ _ sent => .inr ⟨rfl, sent⟩

/-- The filters that equal those that were noted last are skipped, and no
others. -/
theorem skips_iff
    (normal : (ManualState.ofTable search filters).toExcept = .ok manual)
    (keyed : manual.WellKeyed) (shows : (shown event registry).WellKeyed) :
    Skips event registry search filters ↔
      (registry.cache.manual event).same manual = true := by
  constructor
  · intro skips
    obtain ⟨same, -⟩ | ⟨-, sent⟩ :=
      (alone_writeTable normal keyed shows).ran skips.ran
    · exact same
    · exact absurd rfl sent.asked
  · intro same
    show Flow.Alone _ ((Flow.ofResult _).bind _) _ _ _
    rw [Flow.alone_bind, Flow.alone_ofResult, normal]
    exact alone_writeManual_of_same same ⟨rfl, rfl, rfl⟩

/-- Calls on the document of an event of which nothing was known do not overlap,
the backend answers as it likes, and a document is shown.  A write of manual
filters that then succeeds without a request changes nothing and returns the
document that is shown.  The filters in it equal those that were to be written if
and only if they equal the ones that were noted last. -/
theorem skipped_write_agrees_iff_noted
    (unread : Keyed.get? event start.cache.documents = none)
    (unwritten : Keyed.get? event start.cache.lastManual = none)
    (reached : Reached event start noted registry)
    (known : Keyed.get? event registry.cache.documents = some document)
    (keyed : filters.WellKeyed)
    (normal : (ManualState.ofTable search filters).toExcept = .ok manual)
    (ran : (Store.writeTable event search filters).Ran talks registry []
      (.ok (.ok returned)) later []) :
    returned = document ∧ later = registry ∧
      (returned.manual.same manual = true ↔
        document.manual.same noted = true) := by
  have recalls := reached.recalls unread unwritten
  have keyed := ManualState.wellKeyed_of_ofTable
    (Reading.toExcept_eq_ok.mp normal) keyed
  have shows := recalls.shown
  obtain ⟨same, result, rfl, -⟩ | ⟨-, sent⟩ :=
    (alone_writeTable normal keyed shows).ran ran
  · rw [Cache.document, known] at result
    cases result
    rw [recalls.manual] at same
    rw [shown_of_known known] at shows
    exact ⟨rfl, rfl, ManualState.same_congr shows recalls.noted keyed same⟩
  · exact absurd rfl sent.asked

end Skipping

section Replies

variable {event : String} {start registry later : Registry}
variable {noted left : ManualState}

/-- What was noted last, and what is known, when calls have ended each of which
was answered in one way. -/
def replayed (event : String) (noted : ManualState) (registry : Registry) :
    List (Task × Reply) → Option (ManualState × Registry)
  | [] => some (noted, registry)
  | (task, reply) :: rest =>
      ((task.flow event).computed (telling reply) registry []).bind fun ended =>
        replayed event
          ((noted? event ended.2.2 ended.1 ended.2.1 task).getD noted)
          ended.2.1 rest

/-- That is a history. -/
theorem Reached.replayed {steps : List (Task × Reply)}
    (reached : Reached event start noted registry)
    (proper : ∀ step ∈ steps, Proper step.1 ∧ step.2.WellKeyed)
    (ended : replayed event noted registry steps = some (left, later)) :
    Reached event start left later := by
  induction steps generalizing noted registry with
  | nil =>
      cases ended
      exact reached
  | cons step rest ih =>
      obtain ⟨task, reply⟩ := step
      obtain ⟨⟨fits, keyed⟩, others⟩ := List.forall_mem_cons.mp proper
      obtain ⟨⟨result, next, said⟩, computed, ended⟩ :=
        Option.bind_eq_some_iff.mp ended
      have ran : (task.flow event).Ran talks registry [] result next said :=
        Flow.ran_of_computed (talks_telling keyed) computed
      exact ih (reached.call task fits ran) others ended

/-- Such a history exists if what it leaves passes a test. -/
theorem exists_reached (event : String) (start : Registry)
    (steps : List (Task × Reply)) (passes : ManualState → Registry → Bool)
    (proper : ∀ step ∈ steps, Proper step.1 ∧ step.2.WellKeyed)
    (ended : (Noting.replayed event .empty start steps).any
      (fun left => passes left.1 left.2) = true) :
    ∃ noted registry, Reached event start noted registry ∧
      passes noted registry = true := by
  obtain ⟨⟨noted, registry⟩, found, passed⟩ :=
    (Option.any_eq_true _ _).mp ended
  exact ⟨noted, registry, Reached.start.replayed proper found, passed⟩

/-- A document with those manual filters, as the backend sends it. -/
def sharing (manual : ManualState) : Reply :=
  .response 200 (.json (.obj [("manual", manual.toJson)]))

theorem wellKeyed_sharing {manual : ManualState} (keyed : manual.WellKeyed) :
    (sharing manual).WellKeyed := by
  rintro status payload ⟨⟩ json ⟨⟩
  refine Json.wellKeyed_obj.mpr ⟨by simp [Keyed.Distinct], ?_⟩
  exact List.forall_mem_cons.mpr ⟨keyed, by simp⟩

end Replies

section OtherClients

/-- A search for a text. -/
def searching (text : String) : ManualState := { search := text, filters := [] }

theorem wellKeyed_searching (text : String) : (searching text).WellKeyed :=
  ManualState.wellKeyed_iff.mpr nofun

theorem wellKeyed_noFilters : (Json.arr []).WellKeyed :=
  Json.wellKeyed_arr.mpr nofun

/-- A change that carries no manual filters. -/
def enabling : Change := .ofAi { AiBlock.cleared with enabled := true }

/-- A history after which a search is skipped, and whether the document that is
shown agrees with it. -/
theorem exists_skipped (text : String) (agrees : Bool)
    (steps : List (Task × Reply))
    (proper : ∀ step ∈ steps, Proper step.1 ∧ step.2.WellKeyed)
    (ended : (replayed "event" .empty Coherence.unread steps).any (fun left =>
      left.1.same (searching text) &&
        (Keyed.get? "event" left.2.cache.documents).any (fun document =>
          document.manual.same left.1 == agrees &&
            document.manual.same (searching text) == agrees)) = true) :
    ∃ noted registry document, Reached "event" Coherence.unread noted registry ∧
      Keyed.get? "event" registry.cache.documents = some document ∧
      (Store.writeTable "event" (.str text) (.arr [])).Ran talks registry []
        (.ok (.ok document)) registry [] ∧
      document.manual.same noted = agrees ∧
      document.manual.same (searching text) = agrees := by
  obtain ⟨noted, registry, reached, good⟩ := exists_reached "event"
    Coherence.unread steps (fun noted registry => noted.same (searching text) &&
      (Keyed.get? "event" registry.cache.documents).any (fun document =>
        document.manual.same noted == agrees &&
          document.manual.same (searching text) == agrees)) proper ended
  obtain ⟨same, found⟩ := Bool.and_eq_true_iff.mp good
  obtain ⟨document, known, good⟩ := (Option.any_eq_true _ _).mp found
  simp only [Bool.and_eq_true, beq_iff_eq] at good
  have recalls := reached.recalls rfl rfl
  have skips : Skips "event" registry (.str text) (.arr []) :=
    (skips_iff rfl (wellKeyed_searching text) recalls.shown).mpr
      (recalls.manual ▸ same)
  have ran := skips.ran
  rw [Cache.document, known] at ran
  exact ⟨noted, registry, document, reached, known, ran, good⟩

/-- A search that was read is shown where writing it again is skipped. -/
theorem skipped_write_agrees_iff_noted_after_read :
    ∃ noted registry document returned later,
      Reached "event" Coherence.unread noted registry ∧
      Keyed.get? "event" registry.cache.documents = some document ∧
      (Store.writeTable "event" (.str "ada") (.arr [])).Ran talks registry []
        (.ok (.ok returned)) later [] ∧
      returned.manual.same (searching "ada") = true := by
  obtain ⟨noted, registry, document, reached, known, ran, agrees, -⟩ :=
    exists_skipped "ada" true [(.read false, sharing (searching "ada"))]
      (by simp [Proper, wellKeyed_sharing, wellKeyed_searching])
      (by decide +kernel)
  obtain ⟨-, -, exactly⟩ := skipped_write_agrees_iff_noted rfl rfl reached known
    wellKeyed_noFilters rfl ran
  exact ⟨noted, registry, document, document, registry, reached, known, ran,
    exactly.mpr agrees⟩

/-- A search of another client that came with the reply to a write of the other
block stays in the document, although clearing the search succeeds. -/
theorem search_of_others_is_not_cleared :
    ¬ ∀ noted registry document search filters manual returned later,
      Reached "event" Coherence.unread noted registry →
      Keyed.get? "event" registry.cache.documents = some document →
      filters.WellKeyed →
      (ManualState.ofTable search filters).toExcept = .ok manual →
      (Store.writeTable "event" search filters).Ran talks registry []
        (.ok (.ok returned)) later [] →
      returned.manual.same manual = true := by
  intro always
  obtain ⟨noted, registry, document, reached, known, ran, -, differs⟩ :=
    exists_skipped "" false
      [(.read false, .response 404 .empty),
        (.write enabling, sharing (searching "ada"))]
      (by
        simp only [List.forall_mem_cons, List.not_mem_nil, false_implies,
          implies_true, and_true]
        exact ⟨⟨trivial, nofun⟩, nofun, wellKeyed_sharing (wellKeyed_searching _)⟩)
      (by decide +kernel)
  have agrees := always noted registry document (.str "") (.arr []) .empty
    document registry reached known wellKeyed_noFilters rfl ran
  exact Bool.false_ne_true (differs.symm.trans agrees)

end OtherClients

end Noting
end Audience
