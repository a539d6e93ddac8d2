import Audience.Proofs.Client.Crossing
import Audience.Proofs.Store.Coherence

/-!
# How replies are decoded

A stored document comes bare or wrapped under `filters`.  A read, and a write that
is taken back, look under `filters` once.  A write that is confirmed looks there
twice, and takes an object under `filters` of the document itself for the document.
So the three paths agree on a reply unless there is such an object that is read as
something else.
-/

namespace Audience

namespace Decoding

open Store

variable {event : String} {registry : Registry} {change : Change}

/-- The cache has a document of the event. -/
def Cached (event : String) (document : Document) (registry : Registry) : Prop :=
  Keyed.get? event registry.cache.documents = some document

theorem cached_setDocument (event : String) (document : Document)
    (registry : Registry) :
    Cached event document (registry.setDocument event document) := by
  simp [Cached]

/-- A reply to a request for the document of an event. -/
abbrev asked (event : String) (reply : Reply) : Except Fault Json :=
  Client.ended (some (resource, event)) reply

/-! ## Reading -/

/-- A document that comes with the reply is cached and returned. -/
def Takes (event : String) (said : List (Call × Reply))
    (result : Except Fault Document) (later : Registry) : Prop :=
  ∀ get reply document, said = [(get, reply)] →
    fetched (asked event reply) = .ok document →
      result = .ok document ∧ Cached event document later

theorem crossing_load : (load event).Crossing (Takes event) registry := by
  rw [load_eq, Flow.crossing_finish]
  apply Client.crossing_request
  · rintro misuse later get reply document ⟨⟩
  · intro call reply later
    cases fetch : fetched (asked event reply) with
    | error fault =>
        rintro get other document ⟨⟩ brought
        rw [fetch] at brought
        cases brought
    | ok document =>
        rintro get other brought ⟨⟩ same
        obtain rfl : document = brought :=
          Except.ok.inj (fetch.symm.trans same)
        exact ⟨rfl, cached_setDocument _ _ _⟩

theorem crossing_read (refresh : Bool) :
    (Store.read event refresh).Crossing (Takes event) registry := by
  rw [read_eq, Flow.crossing_locked]
  intro found
  simp only [Flow.Crossing]
  cases Keyed.get? event found.cache.documents with
  | none => exact crossing_load
  | some document =>
      dsimp only
      split
      · exact crossing_load
      · rintro get reply other ⟨⟩

/-! ## Writing -/

/-- A write caches what its reply confirms, or else the document that comes with
the reply to its second call. -/
structure Settles (event : String) (staged : Document)
    (said : List (Call × Reply)) (result : Except Fault (Outcome Document))
    (later : Registry) : Prop where
  confirms : ∀ put reply json, said = [(put, reply)] →
    Client.ended none reply = .ok json →
      result = .ok (.ok (confirmed staged json)) ∧
        Cached event (confirmed staged json) later
  reverts : ∀ put refusal get reply document,
    said = [(put, refusal), (get, reply)] →
    fetched (asked event reply) = .ok document →
      (∃ problem, result = .ok (.error problem)) ∧ Cached event document later

variable {put : Call} {reply : Reply} {found : Registry}

/-- A write that was confirmed caches the document that it confirms. -/
theorem settles_confirmed {pending : PendingWrite} {json : Json} {later : Registry}
    (answer : Client.ended none reply = .ok json)
    (cached : Cached pending.event (confirmed pending.staged json) later) :
    Settles pending.event pending.staged [(put, reply)]
      (.ok (.ok (confirmed pending.staged json))) later where
  confirms := by
    rintro put reply other ⟨⟩ same
    obtain rfl : json = other := Except.ok.inj (answer.symm.trans same)
    exact ⟨rfl, cached⟩
  reverts := by
    rintro put refusal get reply document ⟨⟩

/-- A write that ends before a second reply was not confirmed. -/
theorem settles_refused {staged : Document} {fault fault' : Fault}
    {later : Registry} (answer : Client.ended none reply = .error fault) :
    Settles event staged [(put, reply)] (.error fault') later where
  confirms := by
    rintro put reply json ⟨⟩ same
    rw [answer] at same
    cases same
  reverts := by
    rintro put refusal get reply document ⟨⟩

/-- A write that is taken back caches what comes with the second reply. -/
theorem settles_reverted {staged document : Document} {get : Call}
    {refusal : Reply} {problem : Problem} {later : Registry}
    (brought : fetched (asked event reply) = .ok document)
    (cached : Cached event document later) :
    Settles event staged [(put, refusal), (get, reply)] (.ok (.error problem))
      later where
  confirms := by
    rintro put reply json ⟨⟩
  reverts := by
    rintro put refusal get reply other ⟨⟩ same
    obtain rfl : document = other := Except.ok.inj (brought.symm.trans same)
    exact ⟨⟨problem, rfl⟩, cached⟩

/-- A second reply that brings no document leaves nothing to show. -/
theorem settles_lost {staged : Document} {get : Call} {refusal : Reply}
    {fault : Fault} {result : Except Fault (Outcome Document)} {later : Registry}
    (failed : fetched (asked event reply) = .error fault) :
    Settles event staged [(put, refusal), (get, reply)] result later where
  confirms := by
    rintro put reply json ⟨⟩
  reverts := by
    rintro put refusal get reply document ⟨⟩ brought
    rw [failed] at brought
    cases brought

theorem crossing_settle (pending : PendingWrite) :
    (settle pending change (Client.ended none reply)).Crossing
      (fun more => Settles pending.event pending.staged ((put, reply) :: more))
      found := by
  cases answer : Client.ended none reply with
  | ok json =>
      have taken := cached_setDocument pending.event (pending.confirmed json) found
      rw [← confirmed_eq] at taken
      show Flow.Crossing _ (if change.manual.isSome then _ else _) _
      rw [← confirmed_eq]
      split
      · exact settles_confirmed answer taken
      · exact settles_confirmed answer taken
  | error fault =>
      cases fault with
      | problem problem =>
          show Flow.Crossing _ ((rollback pending).bind _) _
          rw [rollback_eq, Flow.bind_finish, Flow.crossing_finish]
          apply Client.crossing_request
          · exact fun misuse later => settles_refused answer
          · intro get again later
            cases fetch : fetched (asked pending.event again) with
            | ok document =>
                simp only [Flow.guarded]
                exact settles_reverted fetch (cached_setDocument _ _ _)
            | error fault =>
                cases fault with
                | problem _ => exact settles_lost fetch
                | _ => exact settles_lost fetch
      | _ => exact settles_refused answer

/-- However it is crossed, a write sends nothing, or settles with what it tried. -/
theorem crossing_write :
    (Store.write event change).Crossing (fun said result later =>
      said = [] ∨ ∃ staged, Document.read
          (.obj (change.mergedFields (registry.cache.document event))) =
            .value staged ∧
        Settles event staged said result later) registry := by
  rw [write_eq]
  simp only [Flow.Crossing]
  cases tried : PendingWrite.stage event change registry.cache with
  | error fault => exact .inl rfl
  | ok pending =>
      obtain ⟨rfl, -, own⟩ := PendingWrite.staged_of_stage tried
      apply Flow.crossing_finish.mpr
      apply Client.crossing_request
      · exact fun misuse later => .inl rfl
      · intro put reply later
        apply (crossing_settle pending).mono
        exact fun more result later settles => .inr ⟨_, own, settles⟩

/-! ## Both -/

variable {body : Json} {document : Document}

/-- A body that unwraps to a document brings it. -/
theorem fetched_of_valid
    (valid : Document.read (.obj (Document.unwrapFields body)) = .value document) :
    fetched (.ok body) = .ok document := by
  rw [fetched, Document.ofStored_eq_ok.mpr valid]
  rfl

theorem toOption_ofStored (json : Json) :
    (Document.ofStored json).toOption =
      (Document.read (.obj (Document.unwrapFields json))).toExcept.toOption := by
  unfold Document.ofStored
  cases Document.read (.obj (Document.unwrapFields json)) <;> rfl

/-- A confirmation unwraps the fields of a body once more. -/
theorem confirmed_of_content {staged : Document}
    (content : Document.unwrapFields body ≠ []) :
    confirmed staged body =
      (Document.read (.obj (Document.unwrapFields
        (.obj (Document.unwrapFields body))))).toExcept.toOption.getD staged := by
  unfold confirmed
  split
  · exact absurd (by assumption) content
  · rw [toOption_ofStored]

/-- It finds the document that the fields are, unless there is an object under
`filters` among them that is read as something else. -/
theorem confirmed_eq_iff {staged : Document}
    (content : Document.unwrapFields body ≠ [])
    (valid : Document.read (.obj (Document.unwrapFields body)) = .value document) :
    confirmed staged body = document ↔
      ∀ inner, Fields.getD "filters" (Document.unwrapFields body) = .obj inner →
        (Document.read (.obj inner)).toExcept.toOption.getD staged = document := by
  rw [confirmed_of_content content]
  by_cases plain : Document.Plain (Document.unwrapFields body)
  · rw [plain.unwrapFields, valid]
    exact iff_of_true rfl fun inner found => absurd found (plain inner)
  · obtain ⟨inner, found⟩ : ∃ inner,
        Fields.getD "filters" (Document.unwrapFields body) = .obj inner := by
      simpa [Document.Plain] using plain
    have twice : Document.unwrapFields (.obj (Document.unwrapFields body)) =
        inner := by
      conv => lhs; rw [Document.unwrapFields]
      rw [found]
    rw [twice, found]
    simp

/-- A body unwraps to fields that are read as a document.  However others cross it,
a read that is answered with this body caches and returns this document, and so does
a write that was refused whose second call is answered with it.  A write that is
confirmed with the body caches this document as well if and only if every object
under `filters` among the fields is read as the same document, or cannot be read
and the write tried the same document. -/
theorem confirmed_as_read_iff (content : Document.unwrapFields body ≠ [])
    (valid : Document.read (.obj (Document.unwrapFields body)) = .value document) :
    (∀ refresh registry get reply result later,
      (Store.read event refresh).Crossed registry [(get, reply)] result later →
      asked event reply = .ok body →
        result = .ok document ∧ Cached event document later) ∧
    (∀ change registry put refusal get reply result later,
      (Store.write event change).Crossed registry
        [(put, refusal), (get, reply)] result later →
      asked event reply = .ok body →
        (∃ problem, result = .ok (.error problem)) ∧
          Cached event document later) ∧
    ∀ change registry put reply result later,
      (Store.write event change).Crossed registry [(put, reply)] result later →
      Client.ended none reply = .ok body →
        ∃ staged cached,
          Document.read (.obj (change.mergedFields
            (registry.cache.document event))) = .value staged ∧
          result = .ok (.ok cached) ∧ Cached event cached later ∧
          (cached = document ↔ ∀ inner,
            Fields.getD "filters" (Document.unwrapFields body) = .obj inner →
              (Document.read (.obj inner)).toExcept.toOption.getD staged =
                document) := by
  have brought := fetched_of_valid valid
  refine ⟨?_, ?_, ?_⟩
  · intro refresh registry get reply result later crossed answer
    exact (crossing_read refresh).crossed crossed get reply document rfl
      (answer ▸ brought)
  · intro change registry put refusal get reply result later crossed answer
    obtain nothing | ⟨staged, -, settles⟩ := crossing_write.crossed crossed
    · cases nothing
    · exact settles.reverts put refusal get reply document rfl (answer ▸ brought)
  · intro change registry put reply result later crossed answer
    obtain nothing | ⟨staged, own, settles⟩ := crossing_write.crossed crossed
    · cases nothing
    · obtain ⟨same, cached⟩ := settles.confirms put reply body rfl answer
      exact ⟨staged, _, own, same, cached, confirmed_eq_iff content valid⟩

section Bodies

/-- A document with a search, wrapped, with more fields around and within. -/
def wrapped : Json :=
  .obj
    [ ("status", .str "ok"),
      ("filters", .obj
        [("manual", .obj [("search", .str "ada"), ("page", .int 2)])]) ]

/-- The same document with an object beside the manual filters. -/
def nested : Json :=
  .obj
    [ ("filters", .obj
        [ ("manual", .obj [("search", .str "ada"), ("filters", .arr [])]),
          ("filters", .obj [("saved", .bool true)]) ]) ]

/-- Both unwrap to this document. -/
def searched : Document :=
  { manual := { search := "ada", filters := [] }, ai := .cleared }

/-- A change of the other block. -/
def enabling : Change := .ofAi { AiBlock.cleared with enabled := true }

/-- A reply with a body. -/
def bringing (body : Json) : Reply := .response 200 (.json body)

/-- Writes are refused, and what is asked for is brought. -/
def refusing (body : Json) (call : Call) : Reply :=
  if isWrite call then .timeout else bringing body

/-- The calls that were sent, whether each of them writes. -/
def kinds (said : List (Call × Reply)) : List Bool :=
  said.map fun exchange => isWrite exchange.1

/-- A run with one call, which gets its reply, and with a test of what is cached
at the end. -/
theorem exists_single {α : Type} {flow : Flow Registry α} (body : Json)
    (writes : Bool) (passes : Registry → Bool)
    (ended : (flow.computed (Flow.answering fun _ => bringing body)
      Coherence.unread []).any (fun ends =>
        kinds ends.2.2 == [writes] && passes ends.2.1) = true) :
    ∃ call result later,
      flow.Crossed Coherence.unread [(call, bringing body)] result later ∧
        passes later = true := by
  obtain ⟨said, result, later, crossed, good, answered⟩ :=
    Flow.exists_crossed _ flow Coherence.unread
      (fun said _ later => kinds said == [writes] && passes later) ended
  simp only [kinds, Bool.and_eq_true, beq_iff_eq] at good
  obtain ⟨⟨call, reply⟩, rfl, -⟩ := List.map_eq_singleton_iff.mp good.1
  obtain rfl := answered _ (List.mem_singleton_self _)
  exact ⟨call, result, later, crossed, good.2⟩

/-- A document that is wrapped once is cached on all three paths. -/
theorem confirmed_as_read_iff_of_wrapped :
    (∃ get result later, (Store.read "event" false).Crossed Coherence.unread
      [(get, bringing wrapped)] result later ∧ Cached "event" searched later) ∧
    (∃ put get result later, (Store.write "event" enabling).Crossed
      Coherence.unread [(put, .timeout), (get, bringing wrapped)] result later ∧
        Cached "event" searched later) ∧
    ∃ put result later, (Store.write "event" enabling).Crossed Coherence.unread
      [(put, bringing wrapped)] result later ∧ Cached "event" searched later := by
  have content : Document.unwrapFields wrapped ≠ [] := by
    rintro ⟨⟩
  have valid : Document.read (.obj (Document.unwrapFields wrapped)) =
      .value searched := by rfl
  obtain ⟨reads, reverts, confirms⟩ :=
    @confirmed_as_read_iff "event" wrapped searched content valid
  refine ⟨?_, ?_, ?_⟩
  · obtain ⟨get, result, later, crossed, -⟩ :=
      @exists_single _ (Store.read "event" false) wrapped false (fun _ => true)
        (by decide +kernel)
    exact ⟨get, result, later, crossed,
      (reads _ _ _ _ _ _ crossed rfl).2⟩
  · obtain ⟨said, result, later, crossed, good, answered⟩ :=
      Flow.exists_crossed (refusing wrapped) (Store.write "event" enabling)
        Coherence.unread (fun said _ _ => kinds said == [true, false])
        (by decide +kernel)
    obtain ⟨⟨put, refusal⟩, rest, rfl, writes, more⟩ :=
      List.map_eq_cons_iff.mp (beq_iff_eq.mp good)
    obtain ⟨⟨get, reply⟩, rfl, asks⟩ := List.map_eq_singleton_iff.mp more
    have refused : refusal = .timeout := by
      simpa [refusing, writes] using answered (put, refusal) (by simp)
    have brought : reply = bringing wrapped := by
      simpa [refusing, asks] using answered (get, reply) (by simp)
    subst refused brought
    exact ⟨put, get, result, later, crossed,
      (reverts _ _ _ _ _ _ _ _ crossed rfl).2⟩
  · obtain ⟨put, result, later, crossed, -⟩ :=
      @exists_single _ (Store.write "event" enabling) wrapped true (fun _ => true)
        (by decide +kernel)
    obtain ⟨staged, cached, -, -, known, same⟩ :=
      confirms _ _ _ _ _ _ crossed rfl
    obtain rfl := same.mpr (by rintro inner ⟨⟩)
    exact ⟨put, result, later, crossed, known⟩

/-- What a read caches of a body, a confirmed write need not cache. -/
theorem nested_object_is_confirmed :
    ¬ ∀ body document, Document.unwrapFields body ≠ [] →
      Document.read (.obj (Document.unwrapFields body)) = .value document →
      ∀ get read brought put written confirmed,
        (Store.read "event" true).Crossed Coherence.unread
          [(get, bringing body)] read brought →
        (Store.write "event" (.ofManual searched.manual)).Crossed Coherence.unread
          [(put, bringing body)] written confirmed →
        Keyed.get? "event" confirmed.cache.documents =
          Keyed.get? "event" brought.cache.documents := by
  intro always
  have content : Document.unwrapFields nested ≠ [] := by
    rintro ⟨⟩
  have valid : Document.read (.obj (Document.unwrapFields nested)) =
      .value searched := by rfl
  obtain ⟨get, read, brought, reads, shown⟩ :=
    @exists_single _ (Store.read "event" true) nested false
      (fun later => (Keyed.get? "event" later.cache.documents).any
        fun document => document.manual.search == "ada") (by decide +kernel)
  obtain ⟨put, written, confirmed, writes, hidden⟩ :=
    @exists_single _ (Store.write "event" (.ofManual searched.manual)) nested true
      (fun later => !(Keyed.get? "event" later.cache.documents).any
        fun document => document.manual.search == "ada") (by decide +kernel)
  have same := always nested searched content valid get read brought put written
    confirmed reads writes
  rw [same, shown] at hidden
  cases hidden

end Bodies

end Decoding
end Audience
