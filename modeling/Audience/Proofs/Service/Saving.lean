import Audience.Proofs.Filter.Totality
import Audience.Proofs.Service.Tracing
import Audience.Proofs.Store

/-!
# Saving manual filters

The manual filters of a request are written before they are shown as a query.  A
request that fails leaves what the backend stores, unless what was written cannot
be shown: a label of a custom column cannot be looked up, or the answer cannot be
sent.
-/

namespace Audience
namespace Saving

open Store

/-! ## What the backend changes -/

section Backend

variable {β δ : Type}

/-- A backend changes what it stores only with a write that it confirms: requests
that fail and reads change nothing. -/
def Careful (stored : β → δ) (serves : β → Call → Reply → β → Prop) : Prop :=
  ∀ before call reply after, serves before call reply after →
    stored after = stored before ∨
      isWrite call = true ∧ ∃ json, Client.ended none reply = .ok json

end Backend

/-! ## What is shown -/

/-- A document as it is shown after manual filters were saved, with the query that
lists persons. -/
def shown (document : Document) (query : List QueryFilter) : Json :=
  (Json.obj (Keyed.put "serverFilters" (.arr (query.map QueryFilter.toJson))
    [ ("manual", document.manual.toJson.onWire),
      ("ai", document.ai.toJson.onWire) ])).withoutKeys Service.isInternalKey

/-- What comes of showing a document. -/
def showing (body : ManualBody) (document : Document) : Except Fault Json :=
  (QueryFilter.ofTable body.filterList body.columnList).toExcept.map
    (shown document)

/-- A document can be shown after saving a body: no custom column has an array or an
object for its label, and the answer can be sent. -/
structure Showable (body : ManualBody) (document : Document) : Prop where
  labels : ∀ column ∈ body.columns,
    (Fields.getD "label" column).isCompound = false
  sendable : ∀ query,
    QueryFilter.ofTable body.filterList body.columnList = .value query →
      (shown document query).ensureSendable = .ok ()

theorem columnIds_eq_ok_iff {columns : List Fields} :
    (∃ ids, QueryFilter.columnIds (columns.map .obj) = .ok ids) ↔
      ∀ column ∈ columns, (Fields.getD "label" column).isCompound = false := by
  induction columns with
  | nil => simp [QueryFilter.columnIds]
  | cons column rest ih =>
      rw [List.forall_mem_cons, ← ih, List.map_cons, QueryFilter.columnIds]
      cases Fields.getD "label" column with
      | arr items => simp [Json.isCompound]
      | obj fields => simp [Json.isCompound]
      | str label =>
          cases QueryFilter.columnIds (rest.map .obj) <;>
            simp [Json.isCompound, bind, Except.bind, pure, Except.pure]
      | _ => simp [Json.isCompound]

/-- Filters that can be reduced are shown as a query if the labels of the custom
columns can be looked up. -/
theorem showing_eq_ok_iff {body : ManualBody} {document : Document}
    {filters : List ManualFilter}
    (reduced : ManualFilter.ofTableList (body.filters.map .obj) =
      .value filters) :
    (∃ query, QueryFilter.ofTable body.filterList body.columnList =
        .value query ∧ showing body document = .ok (shown document query)) ∧
        (∀ column ∈ body.columns,
          (Fields.getD "label" column).isCompound = false) ∨
      (∃ misuse, showing body document = .error (.misuse misuse)) ∧
        ¬ ∀ column ∈ body.columns,
          (Fields.getD "label" column).isCompound = false := by
  have looked : QueryFilter.columnsOf body.columnList =
      QueryFilter.columnIds (body.columns.map .obj) := rfl
  have items : body.filterList.elements = .ok (body.filters.map .obj) := rfl
  rw [← columnIds_eq_ok_iff, showing, QueryFilter.ofTable, looked, items]
  cases QueryFilter.columnIds (body.columns.map .obj) with
  | error misuse =>
      exact .inr ⟨⟨misuse, rfl⟩, by simp⟩
  | ok ids =>
      left
      simp only [Reading.ofExcept, Reading.andThen, reduced, Reading.map]
      exact ⟨⟨_, rfl, rfl⟩, ids, rfl⟩

/-! ## What saving leaves -/

section Flows

variable {β δ : Type} {stored : β → δ} {serves : β → Call → Reply → β → Prop}
variable {registry : Registry} {event : String} {server : β}

/-- What is stored was left alone, or the write gave the document that is known
now. -/
def Leaves (stored : β → δ) (event : String) (server : β)
    (result : Except Fault (Outcome Document)) (later : Registry) (after : β) :
    Prop :=
  stored after = stored server ∨
    result = .ok (.ok (later.cache.document event))

/-- Asking for a document changes nothing. -/
theorem alone_ask (careful : Careful stored serves) :
    (ask event).Alone serves (fun _ _ after => stored after = stored server)
      registry server := by
  apply Client.alone_request
  · exact fun _ _ _ => rfl
  · intro call made reply after served
    obtain same | ⟨writes, -⟩ := careful _ _ _ _ served
    · exact same
    · rw [isWrite_of_get made] at writes
      cases writes

theorem alone_rollback (careful : Careful stored serves)
    (pending : PendingWrite) :
    (rollback pending).Alone serves
      (fun _ _ after => stored after = stored server) registry server := by
  rw [rollback_eq, Flow.alone_finish]
  apply (alone_ask careful).mono
  intro answer later after same
  cases Flow.guarded (fetched answer) <;> exact same

/-- A write leaves what is stored, or gives what is known then. -/
theorem alone_write (careful : Careful stored serves) (change : Change) :
    (write event change).Alone serves (Leaves stored event server) registry
      server := by
  apply Store.alone_write
  · exact fun _ _ => .inl rfl
  intro pending call staged made reply after served
  have named := (PendingWrite.staged_of_stage staged).1
  subst named
  cases ended : Client.ended none reply with
  | ok json =>
      show Flow.Alone _ (if change.manual.isSome then _ else _) _ _ _
      split <;> exact .inr (by simp [Cache.document, Cache.rememberManual])
  | error fault =>
      have same : stored after = stored server := by
        obtain same | ⟨-, json, fine⟩ := careful _ _ _ _ served
        · exact same
        · rw [ended] at fine
          cases fine
      cases fault with
      | problem problem =>
          apply Flow.alone_bind.mpr
          apply (alone_rollback careful pending).mono
          intro result later final unchanged
          have kept := unchanged.trans same
          cases result <;> exact .inl kept
      | _ => exact .inl same

/-- Manual filters that are not written change nothing. -/
theorem alone_writeManual (careful : Careful stored serves)
    (manual : ManualState) :
    (writeManual event manual).Alone serves (Leaves stored event server)
      registry server := by
  show Flow.Alone _ (if (registry.cache.manual event).same manual then _
    else _) _ _ _
  split
  · exact .inl rfl
  show Flow.Alone _ ((write event (.ofManual manual)).bind _) _
    (registry.modifyCache (Cache.rememberManual event manual)) _
  apply Flow.alone_bind.mpr
  apply (alone_write careful (.ofManual manual)).mono
  intro result later after leaves
  obtain fault | problem | document := result
  · exact leaves.imp_right nofun
  · exact leaves.imp_right nofun
  · exact leaves

theorem reduced_of_ofTable {body : ManualBody} {manual : ManualState}
    (read : (ManualState.ofTable (.str body.search) body.filterList).toExcept =
      .ok manual) :
    ∃ filters, ManualFilter.ofTableList (body.filters.map .obj) =
      .value filters := by
  have items : body.filterList.elements = .ok (body.filters.map .obj) := rfl
  rw [ManualState.ofTable, items] at read
  cases reduced : ManualFilter.ofTableList (body.filters.map .obj) with
  | value filters => exact ⟨filters, rfl⟩
  | _ => simp [Reading.ofExcept, Reading.andThen, reduced, Reading.toExcept] at read

theorem alone_shown {α γ : Type} {result : Except Fault α} {show_ : α → γ}
    {ends : Except Fault γ → Registry → β → Prop} :
    ((Flow.ofResult result).bind fun value => .done (show_ value)).Alone serves
        ends registry server ↔
      ends (result.map show_) registry server := by
  cases result <;> rfl

/-- What a saving ends with that changed what is stored is what is known then, as
it is shown. -/
theorem alone_saveManual (careful : Careful stored serves) (body : ManualBody) :
    (Service.saveManual event body).Alone serves (fun result later after =>
      stored after = stored server ∨
        result = showing body (later.cache.document event) ∧
          ∃ filters, ManualFilter.ofTableList (body.filters.map .obj) =
            .value filters) registry server := by
  show Flow.Alone _ (Flow.bind (Flow.bind (Flow.ofResult _) _) fun written =>
    (Flow.unwrap written).bind _) _ _ _
  rw [Flow.alone_bind, Flow.alone_bind, Flow.alone_ofResult]
  cases read : (ManualState.ofTable (.str body.search)
      body.filterList).toExcept with
  | error fault => exact .inl rfl
  | ok manual =>
      have reduced := reduced_of_ofTable read
      apply (alone_writeManual careful manual).mono
      intro result later after leaves
      obtain fault | problem | document := result
      · exact .inl (leaves.resolve_right nofun)
      · exact .inl (leaves.resolve_right nofun)
      · apply alone_shown.mpr
        refine leaves.imp_right fun known => ⟨?_, reduced⟩
        cases known
        rfl

end Flows

/-! ## What is answered -/

section Answers

variable {context : Answer.Context} {settings : Settings} {body : ManualBody}
variable {document : Document}

theorem status_deliver (answer : Answer) :
    (Service.deliver context settings answer).status =
      if answer.ensureSendable = .ok () then answer.status else 500 := by
  unfold Service.deliver
  cases answer.ensureSendable with
  | ok _ =>
      simp only [if_true, Service.mark, Answer.setHeader, Answer.addHeader]
      split
      · rfl
      · split <;> rfl
  | error misuse =>
      simp only [reduceCtorEq, if_false]
      exact Service.status_ofUnexpected _ _ _

theorem ensureSendable_success (json : Json) :
    (Answer.success json).ensureSendable = json.ensureSendable := by
  have typed : Answer.fitsHeader "application/json" = true := by decide
  simp only [Answer.ensureSendable, Answer.success]
  cases json.ensureSendable <;> simp [bind, Except.bind, typed, pure, Except.pure]

/-- What is known after filters that can be reduced were saved is answered exactly
if it can be shown. -/
theorem status_showing_iff {filters : List ManualFilter}
    (reduced : ManualFilter.ofTableList (body.filters.map .obj) =
      .value filters) :
    (Service.conclude context settings (showing body document)).status = 200 ↔
      Showable body document := by
  obtain ⟨⟨query, read, shows⟩, labels⟩ | ⟨⟨misuse, fails⟩, labels⟩ :=
    @showing_eq_ok_iff body document filters reduced
  · have status : (Service.conclude context settings
        (showing body document)).status =
          if (shown document query).ensureSendable = .ok () then 200
          else 500 := by
      rw [shows, Service.conclude, status_deliver, ensureSendable_success]
      rfl
    rw [status]
    constructor
    · intro fine
      refine ⟨labels, fun other also => ?_⟩
      cases read.symm.trans also
      by_contra unsendable
      rw [if_neg unsendable] at fine
      cases fine
    · intro showable
      exact if_pos (showable.sendable query read)
  · rw [fails]
    refine iff_of_false ?_ fun showable => labels showable.labels
    show (Answer.ofUnexpected context _ _).status ≠ 200
    rw [Service.status_ofUnexpected]
    decide

end Answers

/-! ## Failing without effect -/

section Requests

variable {β δ : Type} {stored : β → δ} {serves : β → Call → Reply → β → Prop}
variable {registry : Registry} {event : String} {server : β}
variable {request : Request} {body : ManualBody}

/-- A request to save manual filters that changes what is stored is answered
exactly if what is known then can be shown. -/
theorem alone_handle (careful : Careful stored serves)
    (place : Place.ofPath? request.address.path = some (.manual event))
    (method : request.method = "PUT")
    (read : request.readBody ManualBody.readFields = .value body) :
    (Service.handle request).Alone serves (fun result later after =>
      ∃ answer, result = .ok answer ∧
        (stored after = stored server ∨
          (answer.status = 200 ↔
            Showable body (later.cache.document event)))) registry server := by
  have endpoint : Service.endpoint? (.manual event) request =
      some (.value (Service.saveManual event body)) := by
    simp [Service.endpoint?, method, read, Reading.map]
  have answers : Service.answer request = .inspect fun registry =>
      (Service.saveManual event body).finish fun result =>
        .done (Service.conclude (Service.context registry request)
          registry.settings result) := by
    unfold Service.answer
    simp only [place, endpoint]
    rfl
  show Flow.Alone _ ((Service.answer request).bind _) _ _ _
  rw [answers]
  apply Flow.alone_bind.mpr
  apply Flow.alone_finish.mpr
  apply (alone_saveManual careful body).mono
  intro result later after ended
  have whole : (if request.method = "HEAD" then
      { Service.conclude (Service.context registry request) registry.settings
          result with content := .empty }
      else Service.conclude (Service.context registry request)
        registry.settings result) =
          Service.conclude (Service.context registry request)
            registry.settings result := by
    rw [if_neg (by rw [method]; decide)]
  refine ⟨_, congrArg _ whole, ended.imp_right ?_⟩
  rintro ⟨rfl, filters, reduced⟩
  exact status_showing_iff reduced

/-- A request to save manual filters is answered, and a failed one leaves what is
stored exactly if nothing was written or what is known then can be shown. -/
theorem failure_changes_nothing_iff (careful : Careful stored serves)
    (place : Place.ofPath? request.address.path = some (.manual event))
    (method : request.method = "PUT")
    (read : request.readBody ManualBody.readFields = .value body)
    {result : Except Fault Answer} {later : Registry} {after : β}
    (ran : (Service.handle request).Ran serves registry server result later
      after) :
    ∃ answer, result = .ok answer ∧
      ((answer.status ≠ 200 → stored after = stored server) ↔
        stored after = stored server ∨
          Showable body (later.cache.document event)) := by
  obtain ⟨answer, same, ended⟩ :=
    (alone_handle careful place method read).ran ran
  refine ⟨answer, same, ?_⟩
  by_cases changed : stored after = stored server
  · exact iff_of_true (fun _ => changed) (.inl changed)
  · have shows := ended.resolve_left changed
    simp only [changed, imp_false, not_not, false_or]
    exact shows

end Requests

section Trial

/-- The backend in memory, as long as it is careful. -/
def tells (before : Memory) (call : Call) (reply : Reply) (after : Memory) :
    Prop :=
  before.answer call = (reply, after) ∧
    (after.documents = before.documents ∨
      isWrite call = true ∧ ∃ json, Client.ended none reply = .ok json)

theorem careful_tells : Careful Memory.documents tells :=
  fun _ _ _ _ told => told.2

/-- A request to save a search, with such custom columns. -/
def savingRequest (columns : List Json) : Request :=
  { Service.stateRequest with
    method := "PUT"
    address :=
      .ofService "http" "test" "/api/v2/events/evt_1/crm/filters/manual"
    headers := [("content-type", "application/json")]
    body := (Json.obj
      [("search", .str "ada"), ("crmFields", .arr columns)]).write }

/-- The search is written, and what is stored passes a test then. -/
theorem exists_saving (columns : List Json) (status : Int)
    (served : ((Service.handle (savingRequest columns)).exchanges
      (fun memory call => memory.answer call) Service.unused
        Memory.standard).all (fun exchange => isWrite exchange.2 &&
          (Client.ended none (exchange.1.answer exchange.2).1).isOk) = true)
    (ended : ((Service.handle (savingRequest columns)).computed
      (fun memory call => memory.answer call) Service.unused
        Memory.standard).any (fun ends =>
          ends.1.toOption.any (fun answer => answer.status == status) &&
            !ends.2.2.documents.isEmpty) = true) :
    ∃ answer later after, (Service.handle (savingRequest columns)).Ran tells
        Service.unused Memory.standard (.ok answer) later after ∧
      answer.status = status ∧ after.documents ≠ [] := by
  have careful : ∀ exchange ∈ (Service.handle (savingRequest columns)).exchanges
      (fun memory call => memory.answer call) Service.unused Memory.standard,
      tells exchange.1 exchange.2 (exchange.1.answer exchange.2).1
        (exchange.1.answer exchange.2).2 := by
    intro exchange member
    have written := List.all_eq_true.mp served exchange member
    rw [Bool.and_eq_true] at written
    obtain ⟨writes, fine⟩ := written
    cases confirmed : Client.ended none (exchange.1.answer exchange.2).1 with
    | error fault => simp [confirmed, Except.isOk, Except.toBool] at fine
    | ok json => exact ⟨rfl, .inr ⟨writes, json, confirmed⟩⟩
  obtain ⟨result, later, after, ran, passed⟩ :=
    Flow.exists_ran _ _ _ _ (fun result _ after =>
      result.toOption.any (fun answer : Answer => answer.status == status) &&
        !after.documents.isEmpty) careful ended
  obtain fault | answer := result
  · simp [Except.toOption] at passed
  · simp [Except.toOption] at passed
    exact ⟨answer, later, after, ran, passed⟩

/-- A search is saved and shown. -/
theorem failure_changes_nothing_iff_at_search :
    ∃ answer later after, (Service.handle (savingRequest [])).Ran tells
        Service.unused Memory.standard (.ok answer) later after ∧
      answer.status = 200 ∧ after.documents ≠ Memory.standard.documents ∧
      Showable { search := "ada", filters := [], columns := [] }
        (later.cache.document "evt_1") := by
  obtain ⟨answer, later, after, ran, status, changed⟩ :=
    exists_saving [] 200 (by decide +kernel) (by decide +kernel)
  have place : Place.ofPath? (savingRequest []).address.path =
      some (.manual "evt_1") := by decide +kernel
  obtain ⟨body, read, searched, unfiltered, plain⟩ : ∃ body : ManualBody,
      (savingRequest []).readBody ManualBody.readFields = .value body ∧
        body.search = "ada" ∧ body.filters = [] ∧ body.columns = [] := by
    have sought : ((savingRequest []).readBody
        ManualBody.readFields).toExcept.toOption.any (fun body =>
          body.search == "ada" && body.filters.isEmpty &&
            body.columns.isEmpty) = true := by decide +kernel
    cases read : (savingRequest []).readBody ManualBody.readFields with
    | value body =>
        rw [read] at sought
        simpa [Reading.toExcept, Except.toOption, and_assoc] using sought
    | _ => simp [read, Reading.toExcept, Except.toOption] at sought
  obtain rfl : body = { search := "ada", filters := [], columns := [] } := by
    cases body
    simp_all
  obtain ⟨_, same, iff⟩ :=
    failure_changes_nothing_iff careful_tells place rfl read ran
  cases same
  refine ⟨answer, later, after, ran, status, changed, ?_⟩
  exact (iff.mp fun failed => absurd status failed).resolve_left changed

/-- With a custom column whose label is a list, the search is written and the
request fails all the same. -/
theorem listed_label_fails_after_write :
    ∃ answer later after, (Service.handle (savingRequest
        [.obj [("label", .arr [])]])).Ran tells Service.unused Memory.standard
          (.ok answer) later after ∧
      answer.status = 500 ∧ after.documents ≠ Memory.standard.documents :=
  exists_saving _ 500 (by decide +kernel) (by decide +kernel)

end Trial

end Saving
end Audience
