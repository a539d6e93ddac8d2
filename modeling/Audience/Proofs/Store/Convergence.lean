import Audience.Backend.Description
import Audience.Proofs.Document.Wire
import Audience.Proofs.Flow.Soundness
import Audience.Proofs.Store

/-!
# Overlapping reads and writes of a document

Any number of calls read and write the filter document of one event.  Every
reply is taken over when it arrives: once nothing is under way, the cache holds
what the replies told in the order in which they arrived.  That is the stored
document whenever it comes to the same as what they told in the order in which
the backend handled the calls, but replies can cross.
-/

namespace Audience
namespace Convergence

open Store

/-- The call writes manual filters. -/
def writesManual (call : Call) : Bool :=
  isWrite call && ((call.body.getD .null).given? "manual").isSome

/-- The document that the reply to a call tells.  What a write tried is in the
cache when its call is sent. -/
def told (event : String) (asked : Registry) (call : Call) (reply : Reply) :
    Document :=
  if isWrite call then
    match Client.ended none reply with
    | .ok json => confirmed (asked.cache.document event) json
    | .error _ => .empty
  else
    match fetched (Client.ended (some (resource, event)) reply) with
    | .ok document => document
    | .error _ => .empty

/-- What is known after a reply.  A write of the AI block says nothing about the
manual filters that were written last. -/
def viewAfter (event : String) (asked : Registry) (call : Call)
    (reply : Reply) (view : View) : View :=
  { document := told event asked call reply
    manual :=
      if isWrite call && !writesManual call then view.manual
      else (told event asked call reply).manual }

/-- What is known after replies to the calls that were sent. -/
def retold (event : String) (start : View) (sent : List (Registry × Call))
    (replies : List (Nat × Reply)) : View :=
  replies.foldl (fun view entry =>
    match sent[entry.1]? with
    | some (asked, call) => viewAfter event asked call entry.2 view
    | none => view) start

/-- A call carries blocks that can be read. -/
def Carries (call : Call) : Prop :=
  ∃ change : Change, call.body = some change.wire ∧
    (change.manual.isSome ∨ change.ai.isSome) ∧
    ∃ document, Document.read change.wire = .value document

/-- A reply says that the call succeeded. -/
def Succeeds (event : String) (call : Call) (reply : Reply) : Prop :=
  if isWrite call then ∃ json, Client.ended none reply = .ok json
  else ∃ document,
    fetched (Client.ended (some (resource, event)) reply) = .ok document

/-- All calls of a kind are answered. -/
def Settled (kind : Call → Bool) (world : World Registry) : Prop :=
  ∀ number asked call, world.sent[number]? = some (asked, call) →
    kind call → world.Answered number

/-- Once all writes are answered, the cache holds what the replies told. -/
structure Coherent (event : String) (start : View) (world : World Registry) :
    Prop where
  known : ∀ entry ∈ world.delivered, entry.1 < world.sent.length
  carries : ∀ entry ∈ world.sent, isWrite entry.2 → Carries entry.2
  document : Settled isWrite world →
    Keyed.get? event world.state.cache.documents =
      some (retold event start world.sent world.delivered).document
  manual : Settled writesManual world →
    Keyed.get? event world.state.cache.lastManual =
      some (retold event start world.sent world.delivered).manual

/-- What readers and writers of an event rely on. -/
def contract (event : String) (start : View) : Contract Registry where
  inv := Coherent event start
  moves _ _ := True
  change _ _ := True
  replies := Succeeds event
  moves_refl _ := trivial
  moves_trans _ _ := trivial
  change_trans _ _ := trivial
  change_of_moves _ := trivial

section Replies

variable {event : String} {start : View} {sent : List (Registry × Call)}
variable {replies : List (Nat × Reply)}

/-- Later calls do not change what replies told. -/
theorem retold_append (more : List (Registry × Call))
    (within : ∀ entry ∈ replies, entry.1 < sent.length) :
    retold event start (sent ++ more) replies =
      retold event start sent replies := by
  unfold retold
  apply List.foldl_ext
  intro view entry member
  rw [List.getElem?_append_left (within entry member)]

/-- One more reply tells one more document. -/
theorem retold_concat {number : Nat} {asked : Registry} {call : Call}
    (found : sent[number]? = some (asked, call)) (reply : Reply) :
    retold event start sent (replies ++ [(number, reply)]) =
      viewAfter event asked call reply (retold event start sent replies) := by
  simp [retold, found]

end Replies

section Calls

variable {event : String} {start : View} {world : World Registry}

/-- A settled world was settled before its last call, which is not of the
kind. -/
theorem Settled.of_send {kind : Call → Bool} {state : Registry} {call : Call}
    (settled : Settled kind (({ world with state } : World Registry).send call))
    (known : ∀ entry ∈ world.delivered, entry.1 < world.sent.length) :
    kind call = false ∧ Settled kind world := by
  constructor
  · by_contra other
    obtain ⟨reply, member⟩ := settled world.sent.length state call
      (World.getElem?_send _ _) (by simpa using other)
    exact Nat.lt_irrefl _ (known _ member)
  · intro number asked earlier found ofKind
    exact settled number asked earlier
      ((World.Extends.of_send _ _).getElem? found) ofKind

/-- Sending a call keeps what is known, except that a write may try
anything. -/
theorem Coherent.send {state : Registry} {call : Call}
    (coherent : Coherent event start world)
    (carries : isWrite call → Carries call)
    (document : isWrite call = false →
      Keyed.get? event state.cache.documents =
        Keyed.get? event world.state.cache.documents)
    (manual : writesManual call = false →
      Keyed.get? event state.cache.lastManual =
        Keyed.get? event world.state.cache.lastManual) :
    Coherent event start
      (({ world with state } : World Registry).send call) where
  known entry member := by
    have within := coherent.known entry member
    simp only [World.send, List.length_append, List.length_singleton]
    omega
  carries entry member writes := by
    obtain old | new := List.mem_append.mp member
    · exact coherent.carries entry old writes
    · cases List.mem_singleton.mp new
      exact carries writes
  document settled := by
    obtain ⟨other, before⟩ := settled.of_send coherent.known
    have same := coherent.document before
    simp only [World.send, retold_append _ coherent.known]
    exact (document other).trans same
  manual settled := by
    obtain ⟨other, before⟩ := settled.of_send coherent.known
    have same := coherent.manual before
    simp only [World.send, retold_append _ coherent.known]
    exact (manual other).trans same

/-- A settled world was settled before its last reply, up to the call that it
answers. -/
theorem Settled.of_deliver {kind : Call → Bool} {state : Registry}
    {number : Nat} {reply : Reply} {asked : Registry} {call : Call}
    (settled : Settled kind
      ({ world.deliver number reply with state } : World Registry))
    (found : world.sent[number]? = some (asked, call))
    (other : kind call = false) : Settled kind world := by
  intro earlier before sent atEarlier ofKind
  obtain ⟨answer, member⟩ := settled earlier before sent atEarlier ofKind
  obtain old | new := List.mem_append.mp member
  · exact ⟨answer, old⟩
  · cases List.mem_singleton.mp new
    rw [found] at atEarlier
    cases atEarlier
    rw [other] at ofKind
    cases ofKind

/-- Taking over a reply makes what it tells known. -/
theorem Coherent.deliver {state : Registry} {number : Nat} {reply : Reply}
    {asked : Registry} {call : Call} (coherent : Coherent event start world)
    (found : world.sent[number]? = some (asked, call))
    (document : Keyed.get? event state.cache.documents =
      some (told event asked call reply))
    (manual : Keyed.get? event state.cache.lastManual =
      if isWrite call && !writesManual call then
        Keyed.get? event world.state.cache.lastManual
      else some (told event asked call reply).manual) :
    Coherent event start { world.deliver number reply with state } where
  known entry member := by
    obtain old | new := List.mem_append.mp member
    · exact coherent.known entry old
    · cases List.mem_singleton.mp new
      exact (List.getElem?_eq_some_iff.mp found).1
  carries := coherent.carries
  document _ := by
    simp only [World.deliver, retold_concat found]
    exact document
  manual settled := by
    simp only [World.deliver, retold_concat found, viewAfter]
    rw [manual]
    split
    · rename_i silent
      have other : writesManual call = false := by
        simpa using (Bool.and_eq_true_iff.mp silent).2
      exact coherent.manual (settled.of_deliver found other)
    · rfl

end Calls

section Flows

variable {event : String} {start : View} {now : World Registry}
variable {began : Registry}

/-- A call ends well, or its change cannot be read and nothing is sent. -/
def Fine (result : Except Fault (Outcome Document)) : Prop :=
  (∃ document, result = .ok (.ok document)) ∨
    ∃ errors, result = .error (.rejected errors)

/-- What a call may end with. -/
abbrev Ends (event : String) (start : View)
    (result : Except Fault (Outcome Document)) (began : Registry)
    (now : World Registry) : Prop :=
  Fine result → (contract event start).Turn began now

/-- A misuse is no such end. -/
theorem not_fine_misuse {misuse : Misuse} :
    ¬ Fine (.error (.misuse misuse)) := by
  rintro (⟨document, same⟩ | ⟨errors, same⟩) <;> cases same

/-- Neither is a problem. -/
theorem not_fine_problem {problem : Problem} :
    ¬ Fine (.ok (.error problem)) := by
  rintro (⟨document, same⟩ | ⟨errors, same⟩) <;> cases same

/-- Nor a missing surface. -/
theorem not_fine_noSurface : ¬ Fine (.error .noSurface) := by
  rintro (⟨document, same⟩ | ⟨errors, same⟩) <;> cases same

instance : DecidablePred Fine
  | .ok (.ok document) => isTrue (.inl ⟨document, rfl⟩)
  | .error (.rejected errors) => isTrue (.inr ⟨errors, rfl⟩)
  | .ok (.error _) => isFalse not_fine_problem
  | .error (.problem _) => isFalse (by
      rintro (⟨document, same⟩ | ⟨errors, same⟩) <;> cases same)
  | .error (.misuse _) => isFalse not_fine_misuse
  | .error .noSurface => isFalse not_fine_noSurface

/-- A write writes manual filters if its change has them. -/
theorem writesManual_of_body {call : Call} {change : Change}
    (writes : isWrite call = true) (body : call.body = some change.wire) :
    writesManual call = change.manual.isSome := by
  unfold writesManual
  rw [writes, body]
  simp [Change.wire, Json.given?]

/-- Loading a document upholds the contract. -/
theorem upholds_load (coherent : Coherent event start now) :
    (load event).Upholds (contract event start) (fun result began ended =>
      (∀ misuse, result ≠ .error (.misuse misuse)) →
        (contract event start).Turn began ended) began now := by
  rw [load_eq, Flow.upholds_finish]
  apply Client.upholds_request trivial
  · exact fun misuse other => absurd rfl (other misuse)
  · exact fun misuse other => absurd rfl (other misuse)
  intro call made
  have reads := isWrite_of_get made
  have silent : writesManual call = false := by simp [writesManual, reads]
  refine ⟨⟨coherent.send (by simp [reads]) (fun _ => rfl) (fun _ => rfl),
    trivial⟩, fun reply later known moved => ?_⟩
  rw [Flow.upholds_ofResult]
  obtain ⟨document, found⟩ : ∃ document,
      fetched (Client.ended (some (resource, event)) reply) = .ok document := by
    simpa [contract, Succeeds, reads] using known
  rw [found]
  refine ⟨trivial, fun _ => ⟨?_, trivial⟩⟩
  have tells : told event now.state.opened call reply = document := by
    simp [told, reads, found]
  apply moved.inv.deliver (moved.grown.getElem? (World.getElem?_send _ _))
  · simp [kept, tells]
  · simp [kept, tells, reads, Cache.rememberManual]

/-- Reading a document upholds the contract. -/
theorem upholds_read (coherent : Coherent event start now) (refresh : Bool) :
    (Store.read event refresh).Upholds (contract event start)
      (fun result began ended =>
        (∀ misuse, result ≠ .error (.misuse misuse)) →
          (contract event start).Turn began ended) began now := by
  rw [read_eq]
  apply Flow.upholds_locked ⟨coherent, trivial⟩
  intro later moved
  simp only [Flow.Upholds]
  cases Keyed.get? event later.state.cache.documents with
  | none => exact upholds_load moved.inv
  | some document =>
      cases refresh with
      | true => exact upholds_load moved.inv
      | false => exact fun _ => ⟨moved.inv, trivial⟩

/-- Taking over the reply to a write upholds the contract. -/
theorem upholds_confirm {change : Change} {pending : PendingWrite}
    {state : Registry} {number : Nat} {call : Call} {reply : Reply}
    {json : Json} (coherent : Coherent pending.event start now)
    (found : now.sent[number]? = some (state, call))
    (writes : isWrite call = true)
    (manual : writesManual call = change.manual.isSome)
    (tells : told pending.event state call reply = pending.confirmed json) :
    (settle pending change (.ok json)).Upholds (contract pending.event start)
      (Ends pending.event start) now.state (now.deliver number reply) := by
  refine ⟨trivial, ?_⟩
  show Flow.Upholds _ (if change.manual.isSome then _ else _) _ _ _
  split
  · rename_i given
    refine ⟨trivial, fun _ => ⟨?_, trivial⟩⟩
    apply coherent.deliver found
    · simp [tells, Cache.rememberManual]
    · simp [tells, Cache.rememberManual, manual, given]
  · rename_i missing
    refine fun _ => ⟨?_, trivial⟩
    apply coherent.deliver found
    · simp [tells]
    · simp [writes, manual, missing, World.deliver]

/-- Sending a change that was tried, and settling it, upholds the contract. -/
theorem upholds_put {change : Change} {pending : PendingWrite}
    {state : Registry} (coherent : Coherent event start now)
    (named : pending.event = event)
    (tried : Keyed.get? event state.cache.documents = some pending.staged)
    (kept : change.manual.isSome = false →
      Keyed.get? event state.cache.lastManual =
        Keyed.get? event now.state.cache.lastManual)
    (blocks : change.manual.isSome ∨ change.ai.isSome)
    (readable : ∃ document, Document.read change.wire = .value document) :
    ((put event change).finish (settle pending change)).Upholds
      (contract event start) (Ends event start) began
        { now with state } := by
  subst named
  rw [Flow.upholds_finish]
  apply Client.upholds_request trivial
  · exact fun misuse fine => absurd fine not_fine_misuse
  · exact fun misuse fine => absurd fine not_fine_misuse
  intro call made
  have writes := isWrite_of_put made
  have manual := writesManual_of_body writes (Client.body_of_call made)
  refine ⟨⟨coherent.send
    (fun _ => ⟨change, Client.body_of_call made, blocks, readable⟩)
    (by simp [writes]) (by simpa [manual] using kept), trivial⟩,
    fun reply later known moved => ?_⟩
  rw [Flow.upholds_ofResult]
  obtain ⟨json, answered⟩ : ∃ json, Client.ended none reply = .ok json := by
    simpa [contract, Succeeds, writes] using known
  rw [answered]
  apply upholds_confirm moved.inv
    (moved.grown.getElem? (World.getElem?_send _ _)) writes manual
  simp [told, writes, answered, Cache.document, tried, confirmed_eq]

/-- Writing a document upholds the contract. -/
theorem upholds_write (coherent : Coherent event start now) {change : Change}
    (blocks : change.manual.isSome ∨ change.ai.isSome) :
    (Store.write event change).Upholds (contract event start)
      (Ends event start) began now := by
  rw [write_eq]
  simp only [Flow.Upholds]
  cases tried : PendingWrite.stage event change now.state.cache with
  | error fault => exact fun _ => ⟨coherent, trivial⟩
  | ok pending =>
      obtain ⟨named, -, staged⟩ := PendingWrite.staged_of_stage tried
      obtain ⟨document, readable, -⟩ :=
        (change.read_mergedFields _).mp staged
      exact ⟨trivial, upholds_put coherent named (by simp) (by simp) blocks
        ⟨document, readable⟩⟩

/-- Writing manual filters upholds the contract. -/
theorem upholds_writeManual (coherent : Coherent event start now)
    (manual : ManualState) :
    (Store.writeManual event manual).Upholds (contract event start)
      (Ends event start) began now := by
  show Flow.Upholds _ (if (now.state.cache.manual event).same manual then _
    else _) _ _ _
  split
  · exact fun _ => ⟨coherent, trivial⟩
  obtain ⟨pending, tried⟩ := PendingWrite.exists_stage_ofManual event manual
    (now.state.modifyCache (Cache.rememberManual event manual)).cache
  obtain ⟨named, -, staged⟩ := PendingWrite.staged_of_stage tried
  obtain ⟨document, readable, -⟩ :=
    ((Change.ofManual manual).read_mergedFields _).mp staged
  refine ⟨trivial, ?_⟩
  show Flow.Upholds _ ((Store.write event (.ofManual manual)).bind _) _ _ _
  rw [Flow.upholds_bind, write_eq]
  simp only [Flow.Upholds, tried]
  refine ⟨trivial, (upholds_put coherent named (by simp)
    (by simp [Change.ofManual]) (.inl rfl) ⟨document, readable⟩).mono ?_⟩
  intro result began ended upheld
  obtain fault | problem | document := result
  · exact upheld
  · exact ⟨trivial, fun fine => absurd fine not_fine_problem⟩
  · exact upheld

/-- Writing the manual filters of the table upholds the contract. -/
theorem upholds_writeTable (coherent : Coherent event start now)
    (search filters : Json) :
    (Store.writeTable event search filters).Upholds (contract event start)
      (Ends event start) began now := by
  show Flow.Upholds _ ((Flow.ofResult _).bind _) _ _ _
  rw [Flow.upholds_bind, Flow.upholds_ofResult]
  cases (ManualState.ofTable search filters).toExcept with
  | error fault => exact fun _ => ⟨coherent, trivial⟩
  | ok manual => exact upholds_writeManual coherent manual

end Flows

section Pools

/-- A call that reads or writes the document of an event. -/
inductive Task where
  | read (refresh : Bool)
  | write (change : Change)
      (blocks : change.manual.isSome ∨ change.ai.isSome)
  | writeManual (search filters : Json)

/-- What a call does. -/
def Task.flow (event : String) : Task → Flow Registry (Outcome Document)
  | read refresh =>
      (Store.read event refresh).bind fun document => .done (.ok document)
  | write change _ => Store.write event change
  | writeManual search filters => Store.writeTable event search filters

/-- The backend answers a call with the whole stored document, after merging the
blocks of a write. -/
def serves (before : Fields) (call : Call) (reply : Reply) (after : Fields) :
    Prop :=
  after = (if isWrite call then
    Memory.mergeBlocks (call.body.getD .null) before Memory.blocks else before) ∧
    ∃ json, Client.ended none reply = .ok json ∧
      Document.unwrapFields json = after

/-- Any number of calls for one event. -/
def scene (event : String) :
    Scene Registry Fields Task (Outcome Document) where
  flow := Task.flow event
  restoring _ := .done ()
  admits _ _ := True
  serves := serves

variable {event : String} {start : View}

/-- Every call upholds the contract. -/
theorem upholds_task {now : World Registry} {began : Registry}
    (coherent : Coherent event start now) (task : Task) :
    (task.flow event).Upholds (contract event start) (Ends event start)
      began now := by
  cases task with
  | read refresh =>
      apply Flow.upholds_bind.mpr
      apply (upholds_read coherent refresh).mono
      intro result began ended upheld
      obtain fault | document := result
      · intro fine
        apply upheld
        rintro misuse ⟨⟩
        exact not_fine_misuse fine
      · exact fun _ => upheld fun misuse same => by cases same
  | write change blocks => exact upholds_write coherent blocks
  | writeManual search filters =>
      exact upholds_writeTable coherent search filters

/-- The backend keeps a document, and its reply tells that document.  A write of
the AI block leaves the manual filters alone. -/
theorem serve_stored (event : String) {before after : Fields}
    {document : Document} {call : Call} {reply : Reply}
    (stored : Stored before document)
    (carries : isWrite call → Carries call)
    (served : serves before call reply after) (asked : Registry) :
    Succeeds event call reply ∧ ∃ next, Stored after next ∧
      told event asked call reply = next ∧
      ((isWrite call && !writesManual call) = true →
        next.manual = document.manual) := by
  obtain ⟨merged, json, answered, carried⟩ := served
  unfold Succeeds told
  cases writes : isWrite call with
  | false =>
      rw [writes] at merged
      obtain rfl : after = before := merged
      have found : fetched (Client.ended (some (resource, event)) reply) =
          .ok document := by
        rw [Client.ended_eq_ok answered]
        show (Document.ofStored json).mapError _ = _
        rw [Document.ofStored_eq_ok.mpr (carried ▸ stored.2)]
        rfl
      simp only [Bool.false_eq_true, if_false, found]
      exact ⟨⟨document, rfl⟩, document, stored, rfl, by simp⟩
  | true =>
      obtain ⟨change, body, blocks, own, readable⟩ := carries writes
      rw [writes, body] at merged
      obtain rfl : after = change.written before := merged
      have next : Stored (change.written before) _ :=
        ⟨change.plain_written stored.1, change.read_written stored.2 readable⟩
      simp only [if_true, answered]
      refine ⟨⟨json, rfl⟩, _, next,
        next.confirmed (change.written_ne_nil blocks before) carried, ?_⟩
      rw [writesManual_of_body writes body]
      intro silent
      simp only [Bool.true_and, Bool.not_eq_true'] at silent
      simp [silent]

/-- The replies of the backend tell what is stored. -/
structure Retold (event : String) (start : View)
    (sent : List (Registry × Call)) (handled : List (Nat × Reply))
    (server : Fields) : Prop where
  within : ∀ entry ∈ handled, entry.1 < sent.length
  stored : ∃ document, Stored server document ∧
    retold event start sent handled = .of document

/-- They still do after more calls. -/
theorem Retold.more {sent : List (Registry × Call)}
    {handled : List (Nat × Reply)} {server : Fields}
    (told : Retold event start sent handled server)
    (calls : List (Registry × Call)) :
    Retold event start (sent ++ calls) handled server where
  within entry member := by
    have before := told.within entry member
    rw [List.length_append]
    omega
  stored := by
    rw [retold_append calls told.within]
    exact told.stored

/-- They still do after the backend handled one more call. -/
theorem Retold.handle {sent : List (Registry × Call)}
    {handled : List (Nat × Reply)} {before after : Fields} {number : Nat}
    {asked : Registry} {call : Call} {reply : Reply}
    (told : Retold event start sent handled before)
    (found : sent[number]? = some (asked, call))
    (carries : isWrite call → Carries call)
    (served : serves before call reply after) :
    Retold event start sent (handled ++ [(number, reply)]) after where
  within entry member := by
    obtain old | new := List.mem_append.mp member
    · exact told.within entry old
    · cases List.mem_singleton.mp new
      exact (List.getElem?_eq_some_iff.mp found).1
  stored := by
    obtain ⟨document, stored, same⟩ := told.stored
    obtain ⟨-, next, kept, tells, manual⟩ :=
      serve_stored event stored carries served asked
    refine ⟨next, kept, ?_⟩
    rw [retold_concat found, same, viewAfter, tells]
    unfold View.of
    congr 1
    split
    · rename_i silent
      exact (manual silent).symm
    · rfl

variable {registry : Registry} {server : Fields}
variable {pool : Pool Registry Fields (Outcome Document)}

/-- What is known here is what is stored. -/
def Converged (event : String)
    (pool : Pool Registry Fields (Outcome Document)) : Prop :=
  ∃ document, Stored pool.server document ∧
    View.Known event pool.world.state (.of document)

/-- All calls honour the contract. -/
theorem honoured (event : String) (start : View) :
    (contract event start).Honoured Fine
      (fun fields => ∃ document, Stored fields document) (scene event) where
  tasks _ task _ coherent _ := upholds_task coherent task
  restorings _ _ coherent := ⟨coherent, trivial⟩
  replies world call reply before after coherent member serving served := by
    obtain ⟨document, stored⟩ := serving
    obtain ⟨entry, sent, rfl⟩ := List.mem_map.mp member
    obtain ⟨succeeds, next, kept, -⟩ :=
      serve_stored event stored (coherent.carries entry sent) served entry.1
    exact ⟨succeeds, next, kept⟩

/-- At first, what is known is what is stored. -/
theorem Coherent.fresh {document : Document}
    (known : View.Known event registry (.of document)) :
    Coherent event (.of document) (.fresh registry) where
  known := by simp [World.fresh]
  carries := by simp [World.fresh]
  document _ := known.1
  manual _ := known.2

section Runs

variable {document : Document}

/-- In every run, the replies of the backend tell what is stored. -/
theorem retold_of_reach (stored : Stored server document)
    (known : View.Known event registry (.of document))
    (reached : (scene event).Reach (.fresh registry server) pool)
    (fine : ∀ result ∈ pool.results, Fine result) :
    Retold event (.of document) pool.world.sent pool.handled pool.server := by
  induction reached with
  | refl => exact ⟨by simp [Pool.fresh], document, stored, rfl⟩
  | step before step ih =>
      have early := fun result member =>
        fine result (Contract.mem_results_of_step step member)
      have told := ih early
      have kept := (honoured event _).kept (.fresh known) ⟨document, stored⟩
        before early
      have accounted :=
        (Pool.Accounted.fresh registry server).of_reach before
      cases step with
      | start task admitted => exact told.more _
      | begin before after waits => exact told.more _
      | deliver before after waits => exact told.more _
      | lock before after waits free => exact told.more _
      | learn before after waits known => exact told.more _
      | @handle before after number call next reply server waits served =>
          obtain ⟨asked, found⟩ :=
            accounted.asked number call next (by simp [waits])
          exact told.handle found
            (kept.inv.carries _ (List.mem_of_getElem? found)) served

/-- Calls overlap in any way, every request succeeds, and nobody else writes.
Once nothing is under way, what is known is what is stored if and only if the
replies come to the same in the order in which they arrived as in the order in
which the backend gave them; in particular when no two of them crossed. -/
theorem converged_iff_replies_in_order (stored : Stored server document)
    (known : View.Known event registry (.of document))
    (reached : (scene event).Reach (.fresh registry server) pool)
    (quiet : pool.waiting = [])
    (fine : ∀ result ∈ pool.results, Fine result) :
    (Converged event pool ↔
      retold event (.of document) pool.world.sent pool.world.delivered =
        retold event (.of document) pool.world.sent pool.handled) ∧
    (pool.world.delivered = pool.handled → Converged event pool) := by
  have kept := (honoured event _).kept (.fresh known) ⟨document, stored⟩
    reached fine
  have settled : ∀ kind, Settled kind pool.world :=
    fun kind number asked call found _ =>
      ((Pool.Accounted.fresh registry server).of_reach reached).answered quiet
        (List.getElem?_eq_some_iff.mp found).1
  have shown : View.Known event pool.world.state
      (retold event (.of document) pool.world.sent pool.world.delivered) :=
    ⟨kept.inv.document (settled _), kept.inv.manual (settled _)⟩
  obtain ⟨current, there, same⟩ :=
    (retold_of_reach stored known reached fine).stored
  have exactly : Converged event pool ↔
      retold event (.of document) pool.world.sent pool.world.delivered =
        retold event (.of document) pool.world.sent pool.handled := by
    rw [same]
    constructor
    · rintro ⟨other, also, agrees⟩
      obtain rfl : other = current :=
        Reading.value.inj (also.2.symm.trans there.2)
      exact shown.unique agrees
    · intro agree
      exact ⟨current, there, agree ▸ shown⟩
  exact ⟨exactly, fun inOrder => exactly.mpr (by rw [inOrder])⟩

end Runs

end Pools

section CrossedReplies

/-- A registry that read the empty document of an event. -/
def afterFirstRead : Registry :=
  { Registry.initial .standard default ""
      { service := .ofService "http" "crm" "", token := none,
        instanceId := none, opened := false } with
    cache := { documents := [("event", .empty)],
               lastManual := [("event", .empty)], subscribers := [] } }

theorem known_empty : View.Known "event" afterFirstRead (.of .empty) :=
  ⟨rfl, rfl⟩

/-- A search for a name. -/
def searchAda : Task := .writeManual (.str "ada") (.arr [])

/-- A titled AI block. -/
def titleAda : Task :=
  .write { manual := none, ai := some (.own { AiBlock.cleared with
    enabled := true, title := "Ada" }) } (.inr rfl)

/-- What is stored after the search. -/
def withSearch : Fields :=
  [("manual", .obj [("search", .str "ada"), ("filters", .arr [])])]

/-- What is stored after the title. -/
def withTitle : Fields :=
  withSearch ++
    [("ai", .obj [("enabled", .bool true), ("savedSegmentId", .null),
      ("ast", .null), ("title", .str "Ada")])]

/-- The backend answers with the whole document under one key. -/
theorem serves_whole {before after : Fields} {call : Call}
    (merged : after = if isWrite call then
      Memory.mergeBlocks (call.body.getD .null) before Memory.blocks else before)
    (sendable : Reply.ensureSendable (Memory.documentReply (.obj after)) =
      .ok ()) :
    serves before call (Memory.documentReply (.obj after)) after := by
  refine ⟨merged, .obj [("filters", .obj after)], ?_, rfl⟩
  unfold Client.ended
  rw [sendable]
  rfl

/-- The title in the cache. -/
def titleHere (pool : Pool Registry Fields (Outcome Document)) :
    Option String :=
  (Keyed.get? "event" pool.world.state.cache.documents).map (·.ai.title)

/-- The title in the backend. -/
def titleThere (pool : Pool Registry Fields (Outcome Document)) :
    Option String :=
  (Document.read (.obj pool.server)).toExcept.toOption.map (·.ai.title)

theorem titleHere_eq_titleThere
    {pool : Pool Registry Fields (Outcome Document)}
    (converged : Converged "event" pool) : titleHere pool = titleThere pool := by
  obtain ⟨document, stored, known⟩ := converged
  unfold titleHere titleThere
  rw [known.1, stored.2]
  rfl

/-- A write of the manual filters and one of the AI block overlap, and the reply
to the first arrives last. -/
theorem exists_crossed :
    ∃ pool, (scene "event").Reach (.fresh afterFirstRead []) pool ∧
      pool.waiting = [] ∧ (∀ result ∈ pool.results, Fine result) ∧
      titleHere pool ≠ titleThere pool := by
  refine ⟨_, .step (.step (.step (.step (.step (.step .refl
    (.start searchAda trivial))
    (.start titleAda trivial))
    (.handle [_] [] withSearch rfl (serves_whole rfl rfl)))
    (.handle [] [_] withTitle rfl (serves_whole rfl rfl)))
    (.deliver [] [_] rfl))
    (.deliver [] [] rfl), List.isEmpty_iff.mp ?_, ?_⟩
  · decide +kernel
  · decide +kernel

/-- The replies crossed, and did not come to the same. -/
theorem converged_iff_replies_in_order_at_crossed :
    ∃ pool, (scene "event").Reach (.fresh afterFirstRead []) pool ∧
      pool.waiting = [] ∧
      ¬ Converged "event" pool ∧
      retold "event" (.of .empty) pool.world.sent pool.world.delivered ≠
        retold "event" (.of .empty) pool.world.sent pool.handled := by
  obtain ⟨pool, reached, quiet, fine, differ⟩ := exists_crossed
  have exactly := (converged_iff_replies_in_order stored_empty known_empty
    reached quiet fine).1
  have apart : ¬ Converged "event" pool :=
    fun converged => differ (titleHere_eq_titleThere converged)
  exact ⟨pool, reached, quiet, apart, fun same => apart (exactly.mpr same)⟩

/-- Overlapping writes can lose a block that the backend confirmed. -/
theorem crossed_replies_lose_a_block :
    Stored [] .empty ∧ View.Known "event" afterFirstRead (.of .empty) ∧
      ¬ ∀ pool, (scene "event").Reach (.fresh afterFirstRead []) pool →
        pool.waiting = [] → (∀ result ∈ pool.results, Fine result) →
        Converged "event" pool := by
  refine ⟨stored_empty, known_empty, fun always => ?_⟩
  obtain ⟨pool, reached, quiet, fine, differ⟩ := exists_crossed
  exact differ (titleHere_eq_titleThere (always pool reached quiet fine))

end CrossedReplies

end Convergence
end Audience
