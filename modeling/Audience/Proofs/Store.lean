import Audience.Proofs.Document
import Audience.Proofs.Registry
import Audience.Store

/-!
# The store in its parts

Every flow of the store asks the backend once and then does what the answer
says, in one stretch; only a write that fails asks a second time.  The equations
here say which call that is and what is done with its answer.
-/

namespace Audience

namespace Flow

variable {σ α β γ : Type}

/-- What follows the rest of a flow is a part of that rest. -/
theorem bind_finish (flow : Flow σ α) (middle : Except Fault α → Flow σ β)
    (last : β → Flow σ γ) :
    (flow.finish middle).bind last =
      flow.finish fun result => (middle result).bind last := by
  induction flow with
  | done _ => rfl
  | fail _ => rfl
  | inspect next ih => simp [bind, finish, ih]
  | update _ next ih => simp [bind, finish, ih]
  | send _ next ih => simp [bind, finish, ih]
  | acquire _ next ih => simp [bind, finish, ih]
  | release _ next ih => simp [bind, finish, ih]
  | restored _ next ih => simp [bind, finish, ih]

/-- Two rests of a flow in a row are one. -/
theorem finish_finish (flow : Flow σ α) (middle : Except Fault α → Flow σ β)
    (last : Except Fault β → Flow σ γ) :
    (flow.finish middle).finish last =
      flow.finish fun result => (middle result).finish last := by
  induction flow with
  | done _ => rfl
  | fail _ => rfl
  | inspect next ih => simp [finish, ih]
  | update _ next ih => simp [finish, ih]
  | send _ next ih => simp [finish, ih]
  | acquire _ next ih => simp [finish, ih]
  | release _ next ih => simp [finish, ih]
  | restored _ next ih => simp [finish, ih]

end Flow

namespace Registry

variable (event : String) (document : Document) (registry : Registry)

@[simp] theorem tellSubscriber_cache (subscriber : Subscriber) :
    (registry.tellSubscriber event document subscriber).cache =
      registry.cache := by
  cases subscriber with
  | engine id =>
      show (registry.hearDocument id event document).cache = _
      unfold hearDocument
      dsimp only
      split
      · exact transition_cache _
      · rfl
  | observer => rfl

/-- Telling subscribers does not touch the cache. -/
theorem tellAll_cache (subscribers : List Subscriber) :
    (subscribers.foldl (tellSubscriber event document) registry).cache =
      registry.cache := by
  induction subscribers generalizing registry with
  | nil => rfl
  | cons subscriber rest ih => rw [List.foldl_cons, ih, tellSubscriber_cache]

/-- Putting a document into the cache leaves the rest of it alone. -/
@[simp] theorem setDocument_cache :
    (registry.setDocument event document).cache =
      { registry.cache with
        documents := Keyed.put event document registry.cache.documents } :=
  tellAll_cache event document _ _

@[simp] theorem modifyCache_cache (change : Cache → Cache) :
    (registry.modifyCache change).cache = change registry.cache := rfl

@[simp] theorem tellSubscriber_client (subscriber : Subscriber) :
    (registry.tellSubscriber event document subscriber).client =
      registry.client := by
  cases subscriber with
  | engine id =>
      show (registry.hearDocument id event document).client = _
      unfold hearDocument
      dsimp only
      split
      · exact transition_client _
      · rfl
  | observer => rfl

/-- Putting a document into the cache does not touch the client. -/
@[simp] theorem setDocument_client :
    (registry.setDocument event document).client = registry.client := by
  have told (subscribers : List Subscriber) (registry : Registry) :
      (subscribers.foldl (tellSubscriber event document) registry).client =
        registry.client := by
    induction subscribers generalizing registry with
    | nil => rfl
    | cons subscriber rest ih =>
        rw [List.foldl_cons, ih, tellSubscriber_client]
  exact told _ _

end Registry

namespace PendingWrite

/-- A write that was staged read its document from the known blocks and its
own. -/
theorem staged_of_stage {event : String} {change : Change} {cache : Cache}
    {pending : PendingWrite}
    (tried : stage event change cache = .ok pending) :
    pending.event = event ∧ pending.previous = cache.document event ∧
      Document.read (.obj (change.mergedFields (cache.document event))) =
        .value pending.staged := by
  unfold stage at tried
  cases merged :
      Document.read (.obj (change.mergedFields (cache.document event))) with
  | value staged =>
      simp only [merged, Reading.toExcept, bind, Except.bind, pure,
        Except.pure, Except.ok.injEq] at tried
      subst tried
      exact ⟨rfl, rfl, rfl⟩
  | rejected errors =>
      simp only [merged, Reading.toExcept, bind, Except.bind] at tried
      cases tried
  | misused misuse =>
      simp only [merged, Reading.toExcept, bind, Except.bind] at tried
      cases tried

end PendingWrite

namespace Store

/-- Ask the backend for the document of an event. -/
def ask (event : String) : Flow Registry Json :=
  Client.request "GET" (path event) none (some (resource, event))

/-- Send the blocks of a change. -/
def put (event : String) (change : Change) : Flow Registry Json :=
  Client.request "PUT" (path event) (some change.wire) none

/-- The document that an answer brings; one that is missing is empty. -/
def fetched : Except Fault Json → Except Fault Document
  | .ok json => (Document.ofStored json).mapError .problem
  | .error (.problem problem) =>
      match problem.kind with
      | .notFound _ _ => .ok .empty
      | _ => .error (.problem problem)
  | .error fault => .error fault

/-- Keep a document that was read. -/
def kept (event : String) (document : Document) (registry : Registry) :
    Registry :=
  (registry.modifyCache
    (Cache.rememberManual event document.manual)).setDocument event document

theorem fetch_eq (event : String) :
    fetch event =
      (ask event).finish fun answer => .ofResult (fetched answer) := by
  show (Flow.guard (ask event)).bind _ = _
  rw [Flow.guard_eq, Flow.bind_finish]
  congr 1
  funext answer
  obtain fault | json := answer
  · cases fault with
    | problem problem =>
        show (match problem.kind with
          | .notFound _ _ => Flow.done Document.empty
          | _ => Flow.refuse problem) = _
        unfold fetched
        dsimp only
        split <;> rfl
    | _ => rfl
  · show Flow.unwrap (Document.ofStored json) = _
    dsimp only [fetched]
    cases Document.ofStored json <;> rfl

/-- Loading a document asks for it and keeps it. -/
theorem load_eq (event : String) :
    load event = (ask event).finish fun answer =>
      match fetched answer with
      | .ok document => .inspect fun registry =>
          .update (kept event document registry) (.done document)
      | .error fault => .fail fault := by
  show (fetch event).bind _ = _
  rw [fetch_eq, Flow.bind_finish]
  congr 1
  funext answer
  cases fetched answer <;> rfl

/-- Reading a document loads it unless it is known. -/
theorem read_eq (event : String) (refresh : Bool) :
    Store.read event refresh =
      Flow.locked (.document event) (.inspect fun registry =>
        match Keyed.get? event registry.cache.documents with
        | some document => if refresh then load event else .done document
        | none => load event) :=
  rfl

/-- Trying a change may fail, and otherwise puts a document into the cache. -/
theorem stage_eq (event : String) (change : Change) :
    stage event change = .inspect fun registry =>
      match PendingWrite.stage event change registry.cache with
      | .ok pending =>
          .update (registry.setDocument event pending.staged) (.done pending)
      | .error fault => .fail fault := by
  unfold stage Flow.attempt
  congr 1
  funext registry
  dsimp only [bind, Except.bind, pure, Except.pure]
  cases PendingWrite.stage event change registry.cache <;> rfl

/-- Taking a change back asks for the document, and falls back to the one from
before the change. -/
theorem rollback_eq (pending : PendingWrite) :
    rollback pending = (ask pending.event).finish fun answer =>
      match Flow.guarded (fetched answer) with
      | .ok outcome => .inspect fun registry =>
          .update
            (registry.setDocument pending.event
              (outcome.toOption.getD pending.previous))
            (.done (outcome.toOption.getD pending.previous))
      | .error fault => .fail fault := by
  show (Flow.guard (fetch pending.event)).bind _ = _
  rw [Flow.guard_eq, fetch_eq, Flow.finish_finish, Flow.bind_finish]
  congr 1
  funext answer
  obtain fault | document := fetched answer
  · cases fault <;> rfl
  · rfl

/-- What a write does with the answer to its call. -/
def settle (pending : PendingWrite) (change : Change) :
    Except Fault Json → Flow Registry (Outcome Document)
  | .ok json =>
      (confirm pending json).bind fun document =>
        if change.manual.isSome then
          (Flow.modify fun registry : Registry =>
            registry.modifyCache
              (Cache.rememberManual pending.event document.manual)).bind
                fun _ => .done (.ok document)
        else .done (.ok document)
  | .error (.problem problem) =>
      (rollback pending).bind fun _ => .done (.error problem)
  | .error fault => .fail fault

/-- A write tries its change, sends it, and settles it. -/
theorem write_eq (event : String) (change : Change) :
    write event change = .inspect fun registry =>
      match PendingWrite.stage event change registry.cache with
      | .ok pending =>
          .update (registry.setDocument event pending.staged)
            ((put event change).finish (settle pending change))
      | .error fault => .fail fault := by
  show (stage event change).bind _ = _
  rw [stage_eq]
  show Flow.inspect _ = Flow.inspect _
  congr 1
  funext registry
  dsimp only
  cases tried : PendingWrite.stage event change registry.cache with
  | error fault => rfl
  | ok pending =>
      have named := (PendingWrite.staged_of_stage tried).1
      show Flow.update _ ((Flow.guard (put event change)).bind _) = _
      rw [Flow.guard_eq, Flow.bind_finish]
      congr 2
      funext answer
      obtain fault | json := answer
      · cases fault <;> rfl
      · subst named
        rfl

/-- The call writes. -/
def isWrite (call : Call) : Bool := call.method == "PUT"

theorem isWrite_of_get {client : Client} {path : String} {call : Call}
    (made : client.call "GET" path none = .ok call) :
    isWrite call = false := by
  unfold isWrite
  rw [(Client.parts_of_call made).1]
  decide

theorem isWrite_of_put {client : Client} {path : String} {body : Option Json}
    {call : Call} (made : client.call "PUT" path body = .ok call) :
    isWrite call = true := by
  unfold isWrite
  rw [(Client.parts_of_call made).1]
  decide

/-- What is known of an event: its document, and the manual filters that were
read or written last. -/
structure View where
  document : Document
  manual : ManualState

namespace View

/-- A document is known and no manual filters but its own. -/
def of (document : Document) : View := { document, manual := document.manual }

/-- That is what the cache knows of an event. -/
def Known (event : String) (registry : Registry) (view : View) : Prop :=
  Keyed.get? event registry.cache.documents = some view.document ∧
    Keyed.get? event registry.cache.lastManual = some view.manual

/-- Only one view of an event is known. -/
theorem Known.unique {event : String} {registry : Registry}
    {first second : View} (one : Known event registry first)
    (two : Known event registry second) : first = second := by
  obtain ⟨document, manual⟩ := first
  obtain ⟨other, others⟩ := second
  have sameDocument := Option.some.inj (one.1.symm.trans two.1)
  have sameManual := Option.some.inj (one.2.symm.trans two.2)
  dsimp only at sameDocument sameManual
  rw [sameDocument, sameManual]

end View

/-- What is stored is a document. -/
def Stored (fields : Fields) (document : Document) : Prop :=
  Document.Plain fields ∧ Document.read (.obj fields) = .value document

/-- What is stored can be read back from what is stored. -/
theorem Stored.ofStored {fields : Fields} {document : Document}
    (stored : Stored fields document) :
    Document.ofStored (.obj fields) = .ok document := by
  rw [Document.ofStored_eq_ok, stored.1.unwrapFields]
  exact stored.2

/-- The document that the reply to a write tells, given the one that was
tried. -/
def confirmed (staged : Document) (json : Json) : Document :=
  match Document.unwrapFields json with
  | [] => staged
  | fields => (Document.ofStored (.obj fields)).toOption.getD staged

/-- A write that was tried takes over what the reply tells. -/
theorem confirmed_eq (pending : PendingWrite) (json : Json) :
    confirmed pending.staged json = pending.confirmed json := by
  unfold confirmed PendingWrite.confirmed
  cases Document.unwrapFields json with
  | nil => rfl
  | cons field rest =>
      dsimp only
      cases Document.ofStored (.obj (field :: rest)) <;> rfl

/-- A write keeps what it tried when the reply carries nothing. -/
theorem confirmed_of_nil {staged : Document} {json : Json}
    (nothing : Document.unwrapFields json = []) :
    confirmed staged json = staged := by
  unfold confirmed
  rw [nothing]

/-- A write takes over a document that the reply carries. -/
theorem Stored.confirmed {fields : Fields} {document staged : Document}
    {json : Json} (stored : Stored fields document) (content : fields ≠ [])
    (carried : Document.unwrapFields json = fields) :
    confirmed staged json = document := by
  unfold Store.confirmed
  rw [carried]
  cases fields with
  | nil => exact absurd rfl content
  | cons field rest =>
      dsimp only
      rw [stored.ofStored]
      rfl

/-- Where nothing is stored, the empty document is. -/
theorem stored_empty : Stored [] .empty :=
  ⟨fun _ => nofun, rfl⟩

section Alone

variable {β : Type} {serves : β → Call → Reply → β → Prop} {server : β}
variable {registry : Registry} {event : String} {change : Change}
variable {ends : Except Fault (Outcome Document) → Registry → β → Prop}

/-- A write that is made alone fails, or settles as the reply to its call
says. -/
theorem alone_write
    (failed : ∀ fault later, ends (.error fault) later server)
    (sent : ∀ pending call,
      PendingWrite.stage event change registry.cache = .ok pending →
      registry.client.call "PUT" (path event) (some change.wire) = .ok call →
      ∀ reply after, serves server call reply after →
        (settle pending change (Client.ended none reply)).Alone serves ends
          (registry.setDocument event pending.staged).opened after) :
    (write event change).Alone serves ends registry server := by
  rw [write_eq]
  simp only [Flow.Alone]
  cases tried : PendingWrite.stage event change registry.cache with
  | error fault => exact failed fault registry
  | ok pending =>
      apply Flow.alone_finish.mpr
      apply Client.alone_request
      · exact fun misuse later _ => failed (.misuse misuse) later
      · intro call made reply after served
        rw [Registry.setDocument_client] at made
        exact sent pending call tried made reply after served

end Alone

end Store
end Audience
