import Audience.Backend.Description
import Audience.Proofs.Flow.Soundness
import Audience.Proofs.Store.Coherence

/-!
# Rollbacks next to another write

Two writes to the document of an event carry different blocks and overlap in any
way.  The backend takes one of them over and refuses the other, which then asks
for the document again.  Once both are done, the cache holds what the backend
stores exactly if the reply that arrived last allowed for the write that was
taken over.  That need not be so: the refused write may have begun first and go
back to the document of that time, its request for the document may have been
answered too early, and a confirmation without a document keeps all that was
tried.
-/

namespace Audience
namespace Rollback

open Store

/-- Two writes to the document of an event, one of which the backend takes over,
and the documents before and after. -/
structure Race where
  event : String
  taken : Change
  refused : Change
  before : Document
  after : Document

/-- One change carries manual filters only, and the other an AI block only. -/
def Apart (first second : Change) : Prop :=
  (first.manual.isSome ∧ first.ai = none) ∧
    second.manual = none ∧ second.ai.isSome

namespace Race

/-- The writes carry different blocks, and the one that is taken over turns what
is stored at first into the document after it. -/
structure Fair (race : Race) (server : Fields) : Prop where
  stored : Stored server race.before
  finite : Fields.AllFinite server
  apart : Apart race.taken race.refused ∨ Apart race.refused race.taken
  merges : ∃ own, Document.read race.taken.wire = .value own ∧
    race.after = Coherence.merged race.taken own race.before

/-- What the cache holds of the event. -/
def cached (race : Race) (registry : Registry) : Document :=
  registry.cache.document race.event

/-- The document that the reply to asking for it brings. -/
def fetched (race : Race) (reply : Reply) : Except Fault Document :=
  Store.fetched (Client.ended (some (resource, race.event)) reply)

open Classical in
/-- The document with or without the write that is taken over. -/
noncomputable def document (race : Race) (taken : Prop) : Document :=
  if taken then race.after else race.before

theorem document_of (race : Race) {taken : Prop} (yes : taken) :
    race.document taken = race.after := if_pos yes

theorem document_of_not (race : Race) {taken : Prop} (no : ¬ taken) :
    race.document taken = race.before := if_neg no

/-- Only the document after the write has it. -/
theorem of_document_eq {race : Race} {taken : Prop}
    (differs : race.after ≠ race.before)
    (same : race.document taken = race.after) : taken := by
  by_contra no
  exact differs (same.symm.trans (race.document_of_not no))

end Race

/-- The backend answers or fails, and applies exactly the write that succeeds. -/
def serves (race : Race) (before : Fields) (call : Call) (reply : Reply)
    (after : Fields) : Prop :=
  Coherence.serves race.event before call reply after ∧
    (isWrite call = true → ((∃ json, Client.ended none reply = .ok json) ↔
      call.body = some race.taken.wire))

/-- The call writes a change. -/
def Puts (change : Change) (call : Call) : Prop :=
  isWrite call = true ∧ call.body = some change.wire

/-- A write was sent. -/
def Sent (change : Change) (sent : List (Registry × Call)) : Prop :=
  ∃ entry ∈ sent, Puts change entry.2

/-- The write that is taken over was sent first. -/
def Leads (race : Race) (sent : List (Registry × Call)) : Prop :=
  ∃ first, sent.head? = some first ∧ Puts race.taken first.2

/-- The backend handled the write that it takes over. -/
def TookOver (race : Race) (sent : List (Registry × Call))
    (handled : List (Nat × Reply)) : Prop :=
  ∃ entry ∈ handled, ∃ asked call, sent[entry.1]? = some (asked, call) ∧
    Puts race.taken call

/-- What replies say.  The write that is taken over is answered with the document
after it or with nothing, the other one fails, and asking for the document
brings what is stored or fails. -/
structure Reports (race : Race) (document : Document) (call : Call)
    (reply : Reply) : Prop where
  taken : isWrite call = true → call.body = some race.taken.wire →
    ∃ json, Client.ended none reply = .ok json ∧
      (Document.unwrapFields json ≠ [] →
        ∀ staged, confirmed staged json = race.after)
  refused : isWrite call = true → call.body ≠ some race.taken.wire →
    ∃ problem, Client.ended none reply = .error (.problem problem)
  asked : isWrite call = false → race.fetched reply = .ok document ∨
    ∃ problem, race.fetched reply = .error (.problem problem)

/-- The document in the cache after a reply.  A write that fails leaves it to the
reply that follows. -/
inductive Tells (race : Race) (sent : List (Registry × Call))
    (asked : Registry) (call : Call) (reply : Reply) : Document → Prop where
  | confirmed {json : Json} (writes : isWrite call = true)
      (answered : Client.ended none reply = .ok json) :
      Tells race sent asked call reply
        (Store.confirmed (race.cached asked) json)
  | fetched {document : Document} (reads : isWrite call = false)
      (found : race.fetched reply = .ok document) :
      Tells race sent asked call reply document
  | previous {problem : Problem} (reads : isWrite call = false)
      (failed : race.fetched reply = .error (.problem problem)) :
      Tells race sent asked call reply (race.document (Leads race sent))

/-- Until the refused write is sent, the cache holds what the other one made of
it. -/
def Early (race : Race) (world : World Registry) : Prop :=
  ¬ Sent race.refused world.sent →
    (world.sent ≠ [] → Leads race world.sent) ∧
      race.cached world.state = race.document (Leads race world.sent)

/-- What holds while the writes are under way: once all calls are answered, the
cache holds what the last reply told. -/
structure Racing (race : Race) (world : World Registry) : Prop where
  known : ∀ entry ∈ world.delivered, entry.1 < world.sent.length
  early : Early race world
  final : ∀ earlier number reply asked call,
    (∀ other < world.sent.length, world.Answered other) →
    world.delivered = earlier ++ [(number, reply)] →
    world.sent[number]? = some (asked, call) →
    Tells race world.sent asked call reply (race.cached world.state)

/-- What the two writes rely on. -/
def contract (race : Race) : Contract Registry where
  inv := Racing race
  moves _ _ := True
  change _ _ := True
  replies call reply := ∃ document, Reports race document call reply
  moves_refl _ := trivial
  moves_trans _ _ := trivial
  change_trans _ _ := trivial
  change_of_moves _ := trivial

section Replies

variable {race : Race} {server before after : Fields}

/-- The two writes do not look alike. -/
theorem Race.Fair.wire_ne (fair : race.Fair server) :
    race.refused.wire ≠ race.taken.wire := by
  intro same
  have blocks : race.refused.wireFields = race.taken.wireFields :=
    Json.obj.inj same
  have manual := congrArg (Keyed.get? "manual") blocks
  rw [Change.get?_manual_wireFields, Change.get?_manual_wireFields] at manual
  have alike : race.refused.manual.isSome = race.taken.manual.isSome := by
    simpa using congrArg Option.isSome manual
  obtain ⟨⟨given, -⟩, missing, -⟩ | ⟨⟨given, -⟩, missing, -⟩ := fair.apart
  · simp [missing, given] at alike
  · simp [missing, given] at alike

/-- Merging the write that is taken over a second time changes nothing. -/
theorem Race.Fair.merged_document (fair : race.Fair server) (taken : Prop) :
    ∃ own, Document.read race.taken.wire = .value own ∧
      Coherence.merged race.taken own (race.document taken) = race.after := by
  obtain ⟨own, readable, merged⟩ := fair.merges
  refine ⟨own, readable, ?_⟩
  by_cases yes : taken
  · rw [race.document_of yes, merged]
    unfold Coherence.merged
    dsimp only
    congr 1 <;> split <;> rfl
  · rw [race.document_of_not yes, merged]

/-- What the write that is taken over tries on the document before it is the
document after it. -/
theorem Race.Fair.staged_eq (fair : race.Fair server) {cache : Cache}
    {pending : PendingWrite} (known : cache.document race.event = race.before)
    (tried : PendingWrite.stage race.event race.taken cache = .ok pending) :
    pending.staged = race.after := by
  obtain ⟨-, -, read⟩ := PendingWrite.staged_of_stage tried
  rw [known] at read
  obtain ⟨own, readable, staged⟩ :=
    Coherence.staged_eq_merged fair.stored fair.finite read
  obtain ⟨other, also, merged⟩ := fair.merges
  obtain rfl : other = own := Reading.value.inj (also.symm.trans readable)
  rw [staged, merged]

/-- The write that is taken over carries a block. -/
theorem Race.Fair.blocks (fair : race.Fair server) :
    race.taken.manual.isSome ∨ race.taken.ai.isSome := by
  obtain ⟨⟨given, -⟩, -⟩ | ⟨-, -, given⟩ := fair.apart
  · exact .inl given
  · exact .inr given

/-- The write that is taken over is stored, and its confirmation carries the
document after it or nothing. -/
theorem serve_taken (fair : race.Fair server) {taken : Prop} {call : Call}
    {reply : Reply} {json : Json}
    (stored : Stored before (race.document taken))
    (puts : Puts race.taken call)
    (answers : Coherence.serves race.event before call reply after)
    (answered : Client.ended none reply = .ok json) :
    (Document.unwrapFields json ≠ [] →
      ∀ staged, confirmed staged json = race.after) ∧
      Stored after race.after := by
  obtain ⟨writes, body⟩ := puts
  obtain ⟨-, failed⟩ | ⟨same, other, also, carried⟩ := answers
  · rw [Coherence.Fails, if_pos writes, answered] at failed
    obtain ⟨problem, failed⟩ := failed
    cases failed
  obtain rfl : other = json := Except.ok.inj (also.symm.trans answered)
  rw [if_pos writes, body] at same
  obtain rfl : after = race.taken.written before := same
  obtain ⟨own, readable, merged⟩ := fair.merged_document taken
  have next : Stored (race.taken.written before) race.after := by
    rw [← merged]
    exact ⟨race.taken.plain_written stored.1,
      race.taken.read_written stored.2 readable⟩
  refine ⟨fun something staged => ?_, next⟩
  obtain whole | ⟨-, nothing⟩ := carried
  · exact next.confirmed (race.taken.written_ne_nil fair.blocks before) whole
  · exact absurd nothing something

/-- The backend keeps the document with or without the write that it takes over,
and replies as it should. -/
theorem serve_reports (fair : race.Fair server) {taken : Prop} {call : Call}
    {reply : Reply} (stored : Stored before (race.document taken))
    (served : serves race before call reply after) :
    Reports race (race.document taken) call reply ∧
      Stored after (race.document (taken ∨ Puts race.taken call)) := by
  obtain ⟨answers, applied⟩ := served
  cases writes : isWrite call with
  | false =>
      obtain ⟨rfl, -, found⟩ :=
        Coherence.fetched_of_serves stored writes answers
      exact ⟨⟨by simp [writes], by simp [writes], fun _ => found⟩,
        by simpa [Puts, writes] using stored⟩
  | true =>
      have succeeds := applied writes
      by_cases body : call.body = some race.taken.wire
      · obtain ⟨json, answered⟩ := succeeds.mpr body
        have puts : Puts race.taken call := ⟨writes, body⟩
        obtain ⟨carries, next⟩ := serve_taken fair stored puts answers answered
        have there : taken ∨ Puts race.taken call := .inr puts
        rw [race.document_of there]
        exact ⟨⟨fun _ _ => ⟨json, answered, carries⟩,
          fun _ different => absurd body different, by simp [writes]⟩, next⟩
      · obtain ⟨rfl, failed⟩ | ⟨-, json, answered, -⟩ := answers
        · rw [Coherence.Fails, if_pos writes] at failed
          exact ⟨⟨fun _ same => absurd same body, fun _ _ => failed,
            by simp [writes]⟩, by simpa [Puts, body] using stored⟩
        · exact absurd (succeeds.mp ⟨json, answered⟩) body

end Replies

section Calls

variable {race : Race} {server : Fields} {world : World Registry}

/-- Who was sent first does not change. -/
theorem leads_of_extends {sent more : List (Registry × Call)} (some : sent ≠ [])
    (grown : sent <+: more) : Leads race more ↔ Leads race sent := by
  obtain ⟨rest, rfl⟩ := grown
  unfold Leads
  rw [List.head?_append_of_ne_nil _ some]

/-- Another call does not lead. -/
theorem leads_concat {sent : List (Registry × Call)} {entry : Registry × Call}
    (other : ¬ Puts race.taken entry.2) :
    Leads race (sent ++ [entry]) ↔ Leads race sent := by
  cases sent with
  | nil => simp [Leads, other]
  | cons first rest =>
      exact leads_of_extends (List.cons_ne_nil _ _) (List.prefix_append _ _)

/-- Sending a call leaves only the time before the refused write to be looked
at. -/
theorem Racing.send {state : Registry} {call : Call}
    (known : ∀ entry ∈ world.delivered, entry.1 < world.sent.length)
    (early : Early race (({ world with state } : World Registry).send call)) :
    Racing race (({ world with state } : World Registry).send call) where
  known entry member := by
    have within := known entry member
    simp only [World.send, List.length_append, List.length_singleton]
    omega
  early := early
  final earlier number reply asked other answered last found := by
    obtain ⟨answer, member⟩ := answered world.sent.length (by simp [World.send])
    exact absurd (known _ member) (Nat.lt_irrefl _)

/-- A reply that arrives is one to a call that was sent. -/
theorem known_deliver {number : Nat} {reply : Reply} {call : Registry × Call}
    (known : ∀ entry ∈ world.delivered, entry.1 < world.sent.length)
    (found : world.sent[number]? = some call) :
    ∀ entry ∈ (world.deliver number reply).delivered,
      entry.1 < world.sent.length := by
  intro entry member
  obtain old | new := List.mem_append.mp member
  · exact known entry old
  · cases List.mem_singleton.mp new
    exact (List.getElem?_eq_some_iff.mp found).1

/-- Taking over the reply to a call makes the cache hold what it tells. -/
theorem Racing.deliver {state asked : Registry} {number : Nat} {reply : Reply}
    {call : Call}
    (known : ∀ entry ∈ world.delivered, entry.1 < world.sent.length)
    (found : world.sent[number]? = some (asked, call))
    (early : Early race { world.deliver number reply with state })
    (tells : Tells race world.sent asked call reply (race.cached state)) :
    Racing race { world.deliver number reply with state } where
  known := known_deliver known found
  early := early
  final earlier other answer before earlierCall _ last foundHere := by
    obtain ⟨-, same⟩ := List.append_inj' last rfl
    cases same
    rw [World.deliver] at foundHere
    obtain ⟨rfl, rfl⟩ := Prod.mk.inj
      (Option.some.inj (foundHere.symm.trans found))
    exact tells

/-- So does the confirmation of the write that is taken over. -/
theorem Racing.confirmed {state asked : Registry} {number : Nat} {reply : Reply}
    {call : Call} {json : Json} (racing : Racing race world)
    (found : world.sent[number]? = some (asked, call))
    (writes : isWrite call = true)
    (answered : Client.ended none reply = .ok json)
    (carries : Document.unwrapFields json ≠ [] →
      ∀ staged, confirmed staged json = race.after)
    (whole : ¬ Sent race.refused world.sent → race.cached asked = race.after)
    (cached : race.cached state = Store.confirmed (race.cached asked) json) :
    Racing race { world.deliver number reply with state } := by
  refine Racing.deliver racing.known found (fun alone => ?_)
    (cached ▸ .confirmed writes answered)
  have leads : Leads race world.sent := (racing.early alone).1
    fun nothing => by simp [nothing] at found
  refine ⟨fun _ => leads, ?_⟩
  show race.cached state = race.document (Leads race world.sent)
  rw [race.document_of leads, cached]
  by_cases nothing : Document.unwrapFields json = []
  · rw [confirmed_of_nil nothing]
    exact whole alone
  · exact carries nothing _

end Calls

section Flows

variable {race : Race} {server : Fields} {now : World Registry}
variable {began : Registry}

/-- How a write may end. -/
abbrev Ends (race : Race) (result : Except Fault (Outcome Document))
    (began : Registry) (now : World Registry) : Prop :=
  Coherence.Proper result → (contract race).Turn began now

/-- A misuse may leave anything. -/
theorem ends_misuse {misuse : Misuse} :
    Ends race (.error (.misuse misuse)) began now :=
  fun proper => absurd rfl (proper misuse)

/-- Nothing was sent before the write that is taken over, unless the other one
was. -/
theorem Racing.eq_nil (racing : Racing race now)
    (first : ¬ Sent race.taken now.sent)
    (alone : ¬ Sent race.refused now.sent) : now.sent = [] := by
  by_contra some
  obtain ⟨entry, here, body⟩ := (racing.early alone).1 some
  exact first ⟨entry, List.mem_of_mem_head? here, body⟩

/-- What was sent stays sent. -/
theorem Sent.mono {change : Change} {sent more : List (Registry × Call)}
    (was : Sent change sent) (grown : sent <+: more) : Sent change more := by
  obtain ⟨entry, member, body⟩ := was
  exact ⟨entry, grown.subset member, body⟩

/-- Taking over the answer to a write leaves the confirmed document in the
cache. -/
theorem upholds_confirm {change : Change} {pending : PendingWrite} {json : Json}
    {ends : Except Fault (Outcome Document) → Registry → World Registry → Prop}
    (named : pending.event = race.event)
    (ended : ∀ state, race.cached state = pending.confirmed json →
      ends (.ok (.ok (pending.confirmed json))) began { now with state }) :
    (settle pending change (.ok json)).Upholds (contract race) ends began
      now := by
  refine ⟨trivial, ?_⟩
  show Flow.Upholds _ (if change.manual.isSome then _ else _) _ _ _
  split
  · refine ⟨trivial, ended _ ?_⟩
    simp [Race.cached, Cache.document, Cache.rememberManual, named]
  · apply ended
    simp [Race.cached, Cache.document, named]

/-- The write that is taken over upholds the contract. -/
theorem upholds_taken (fair : race.Fair server) (racing : Racing race now)
    (first : ¬ Sent race.taken now.sent) :
    (Store.write race.event race.taken).Upholds (contract race) (Ends race)
      began now := by
  rw [write_eq]
  simp only [Flow.Upholds]
  cases tried : PendingWrite.stage race.event race.taken now.state.cache with
  | error fault => exact fun _ => ⟨racing, trivial⟩
  | ok pending =>
      have named := (PendingWrite.staged_of_stage tried).1
      -- As long as the other write is not sent, the cache holds the document from
      -- before both, and what is tried is the one after.
      have whole (alone : ¬ Sent race.refused now.sent) :
          pending.staged = race.after := by
        apply fair.staged_eq _ tried
        have nothing := racing.eq_nil first alone
        have known := (racing.early alone).2
        rwa [race.document_of_not (by simp [Leads, nothing])] at known
      refine ⟨trivial, ?_⟩
      rw [Flow.upholds_finish]
      apply Client.upholds_request trivial (fun _ => ends_misuse)
        (fun _ => ends_misuse)
      intro call made
      have writes := isWrite_of_put made
      have body := Client.body_of_call made
      have staged : race.cached (now.state.setDocument race.event
          pending.staged).opened = pending.staged := by
        simp [Race.cached, Cache.document]
      refine ⟨⟨Racing.send racing.known fun alone => ?_, trivial⟩,
        fun reply later known moved => ?_⟩
      · have before : ¬ Sent race.refused now.sent := fun was =>
          alone (was.mono (List.prefix_append _ _))
        have leads : Leads race [((now.state.setDocument race.event
            pending.staged).opened, call)] := ⟨_, rfl, writes, body⟩
        simp only [World.send, racing.eq_nil first before, List.nil_append]
        exact ⟨fun _ => leads,
          (staged.trans (whole before)).trans (race.document_of leads).symm⟩
      · rw [Flow.upholds_ofResult]
        obtain ⟨document, reports⟩ := known
        obtain ⟨json, answered, carries⟩ := reports.taken writes body
        rw [answered]
        apply upholds_confirm named
        intro state cached _
        rw [← confirmed_eq, ← staged] at cached
        refine ⟨moved.inv.confirmed
          (moved.grown.getElem? (World.getElem?_send _ _)) writes answered
          carries (fun alone => staged.trans (whole fun was => ?_)) cached,
          trivial⟩
        exact alone
          (was.mono ((List.prefix_append _ _).trans moved.grown.sent))

/-- What the refused write goes back to is what the cache held when it was
sent. -/
theorem upholds_rollback {pending : PendingWrite}
    {problem : Problem} (named : pending.event = race.event)
    (sent : Sent race.refused now.sent)
    (known : ∀ entry ∈ now.delivered, entry.1 < now.sent.length)
    (previous : ∀ sent, now.sent <+: sent →
      pending.previous = race.document (Leads race sent)) :
    ((rollback pending).bind fun _ => .done (.error problem)).Upholds
      (contract race) (Ends race) began now := by
  rw [Flow.upholds_bind, rollback_eq, Flow.upholds_finish, named]
  apply Client.upholds_request trivial (fun _ => ends_misuse)
    (fun _ => ends_misuse)
  intro call made
  have reads := isWrite_of_get made
  refine ⟨⟨Racing.send known fun alone => ?_, trivial⟩,
    fun reply later reported moved => ?_⟩
  · exact absurd (sent.mono (List.prefix_append _ _)) alone
  have grown : now.sent <+: later.sent :=
    (List.prefix_append _ _).trans moved.grown.sent
  have found := moved.grown.getElem? (World.getElem?_send _ _)
  -- Nothing is asked of the cache any more but what the last reply tells.
  have settled (state : Registry) {document : Document}
      (cached : race.cached state = document)
      (tells : Tells race later.sent now.state.opened call reply document) :
      (contract race).Turn later.state
        { later.deliver now.sent.length reply with state } :=
    ⟨Racing.deliver moved.inv.known found
      (fun alone => absurd (sent.mono grown) alone) (cached ▸ tells), trivial⟩
  rw [Flow.upholds_ofResult]
  obtain ⟨document, reports⟩ := reported
  obtain brought | ⟨failure, failed⟩ := reports.asked reads
  · have answered : fetched (Client.ended (some (resource, race.event)) reply) =
      .ok document := brought
    rw [answered]
    refine ⟨trivial, fun _ => settled _ ?_ (.fetched reads brought)⟩
    simp [Race.cached, Cache.document, Except.toOption]
  · have answered : fetched (Client.ended (some (resource, race.event)) reply) =
      .error (.problem failure) := failed
    rw [answered]
    refine ⟨trivial, fun _ => settled _ ?_ (.previous reads failed)⟩
    rw [← previous later.sent grown]
    simp [Race.cached, Cache.document, Except.toOption]

/-- The refused write upholds the contract. -/
theorem upholds_refused (fair : race.Fair server) (racing : Racing race now)
    (first : ¬ Sent race.refused now.sent) :
    (Store.write race.event race.refused).Upholds (contract race) (Ends race)
      began now := by
  rw [write_eq]
  simp only [Flow.Upholds]
  cases tried : PendingWrite.stage race.event race.refused now.state.cache with
  | error fault => exact fun _ => ⟨racing, trivial⟩
  | ok pending =>
      -- What it would go back to is taken now, and whether the other block is in
      -- it is settled by which write is sent first.
      obtain ⟨named, previous, -⟩ := PendingWrite.staged_of_stage tried
      obtain ⟨leading, known⟩ := racing.early first
      refine ⟨trivial, ?_⟩
      rw [Flow.upholds_finish]
      apply Client.upholds_request trivial (fun _ => ends_misuse)
        (fun _ => ends_misuse)
      intro call made
      have writes := isWrite_of_put made
      have body := Client.body_of_call made
      have other : call.body ≠ some race.taken.wire := by
        rw [body]
        exact fun same => fair.wire_ne (Option.some.inj same)
      refine ⟨⟨Racing.send racing.known fun alone => ?_, trivial⟩,
        fun reply later reported moved => ?_⟩
      · exact absurd ⟨_, List.mem_append_right _ (List.mem_singleton_self _),
          writes, body⟩ alone
      rw [Flow.upholds_ofResult]
      obtain ⟨document, reports⟩ := reported
      obtain ⟨problem, failed⟩ := reports.refused writes other
      rw [failed]
      have grown := moved.grown.sent
      have sent : Sent race.refused
          (later.deliver now.sent.length reply).sent := Sent.mono
        ⟨_, List.mem_append_right _ (List.mem_singleton_self _), writes, body⟩
        grown
      show Flow.Upholds _ ((rollback pending).bind _) _ _
        (later.deliver now.sent.length reply)
      apply upholds_rollback named sent
      · exact known_deliver moved.inv.known
          (moved.grown.getElem? (World.getElem?_send _ _))
      · intro more further
        have leads : Leads race more ↔ Leads race now.sent :=
          (leads_of_extends (by simp [World.send])
            (grown.trans further)).trans
            (leads_concat fun puts => other puts.2)
        rw [previous, propext leads]
        exact known

end Flows

section Pools

/-- One of the two writes. -/
inductive Side where
  | taken
  | refused

/-- What it changes. -/
def Race.change (race : Race) : Side → Change
  | .taken => race.taken
  | .refused => race.refused

/-- The two writes, in any order and overlapping in any way. -/
def scene (race : Race) : Scene Registry Fields Side (Outcome Document) where
  flow side := Store.write race.event (race.change side)
  restoring _ := .done ()
  admits pool side := ¬ Sent (race.change side) pool.world.sent
  serves := serves race

variable {race : Race} {server : Fields} {registry : Registry}
variable {pool : Pool Registry Fields (Outcome Document)}

/-- Both writes honour the contract. -/
theorem honoured (fair : race.Fair server) :
    (contract race).Honoured Coherence.Proper
      (fun fields => ∃ taken, Stored fields (race.document taken))
      (scene race) where
  tasks pool side _ racing admitted := by
    cases side with
    | taken => exact upholds_taken fair racing admitted
    | refused => exact upholds_refused fair racing admitted
  restorings _ _ racing := ⟨racing, trivial⟩
  replies world call reply before after _ _ serving served := by
    obtain ⟨taken, stored⟩ := serving
    obtain ⟨reports, next⟩ := serve_reports fair stored served
    exact ⟨⟨_, reports⟩, _, next⟩

/-- At first nothing was sent. -/
theorem Racing.fresh (known : race.cached registry = race.before) :
    Racing race (.fresh registry) where
  known := by simp [World.fresh]
  early _ := by
    refine ⟨fun some => absurd rfl some, ?_⟩
    rw [race.document_of_not (by simp [Leads, World.fresh])]
    exact known
  final earlier number reply asked call _ last := by
    simp [World.fresh] at last

/-- What the backend stores has the write that it takes over once it handled it,
and its replies told what was stored when they were given. -/
structure Serving (race : Race) (sent : List (Registry × Call))
    (handled : List (Nat × Reply)) (server : Fields) : Prop where
  stored : Stored server (race.document (TookOver race sent handled))
  reports : ∀ early number reply late asked call,
    handled = early ++ (number, reply) :: late →
    sent[number]? = some (asked, call) →
    Reports race (race.document (TookOver race sent early)) call reply

/-- Later calls do not change what the backend handled. -/
theorem tookOver_append {sent : List (Registry × Call)}
    {handled : List (Nat × Reply)} (more : List (Registry × Call))
    (within : ∀ entry ∈ handled, entry.1 < sent.length) :
    TookOver race (sent ++ more) handled ↔ TookOver race sent handled := by
  unfold TookOver
  refine exists_congr fun entry => and_congr_right fun member => ?_
  rw [List.getElem?_append_left (within entry member)]

/-- One more call may be the write that is taken over. -/
theorem tookOver_concat {sent : List (Registry × Call)}
    {handled : List (Nat × Reply)} {number : Nat} {reply : Reply}
    {asked : Registry} {call : Call}
    (found : sent[number]? = some (asked, call)) :
    TookOver race sent (handled ++ [(number, reply)]) ↔
      TookOver race sent handled ∨ Puts race.taken call := by
  simp [TookOver, or_and_right, exists_or, found]

/-- More calls leave what the backend stores. -/
theorem Serving.more {sent : List (Registry × Call)}
    {handled : List (Nat × Reply)} (serving : Serving race sent handled server)
    (within : ∀ entry ∈ handled, entry.1 < sent.length)
    (more : List (Registry × Call)) :
    Serving race (sent ++ more) handled server where
  stored := by
    rw [propext (tookOver_append more within)]
    exact serving.stored
  reports early number reply late asked call split found := by
    subst split
    have earlyWithin : ∀ entry ∈ early, entry.1 < sent.length :=
      fun entry member => within entry (List.mem_append_left _ member)
    rw [propext (tookOver_append more earlyWithin)]
    refine serving.reports early number reply late asked call rfl ?_
    rw [← found, List.getElem?_append_left (within (number, reply) (by simp))]

/-- So does handling one more call, unless it is the write. -/
theorem Serving.handle (fair : race.Fair server) {sent : List (Registry × Call)}
    {handled : List (Nat × Reply)} {before after : Fields} {number : Nat}
    {reply : Reply} {asked : Registry} {call : Call}
    (serving : Serving race sent handled before)
    (found : sent[number]? = some (asked, call))
    (served : serves race before call reply after) :
    Serving race sent (handled ++ [(number, reply)]) after := by
  obtain ⟨reports, next⟩ := serve_reports fair serving.stored served
  refine ⟨by rwa [propext (tookOver_concat found)], ?_⟩
  intro early other answer late asker asking split named
  obtain rfl | ⟨rest, last, rfl⟩ := List.eq_nil_or_concat late
  · obtain ⟨rfl, same⟩ := List.append_inj' split rfl
    cases same
    obtain ⟨rfl, rfl⟩ := Prod.mk.inj
      (Option.some.inj (found.symm.trans named))
    exact reports
  · rw [List.concat_eq_append, ← List.cons_append, ← List.append_assoc] at split
    obtain ⟨split, -⟩ := List.append_inj' split rfl
    exact serving.reports early other answer rest asker asking split named

/-- In every run, the backend stores what the writes that it handled make of the
document, and its replies told it. -/
theorem serving_of_reach (fair : race.Fair server)
    (reached : (scene race).Reach (.fresh registry server) pool) :
    Serving race pool.world.sent pool.handled pool.server := by
  induction reached with
  | refl =>
      refine ⟨?_, fun early number reply late asked call split => ?_⟩
      · rw [race.document_of_not (by simp [TookOver, Pool.fresh])]
        exact fair.stored
      · simp [Pool.fresh] at split
  | step before step ih =>
      have accounted := (Pool.Accounted.fresh registry server).of_reach before
      have given := (Pool.Given.fresh registry server).of_reach
        (.fresh registry server) before
      cases step with
      | start task admitted => exact ih.more given.within _
      | begin before after waits => exact ih.more given.within _
      | deliver before after waits => exact ih.more given.within _
      | lock before after waits free => exact ih.more given.within _
      | learn before after waits known => exact ih.more given.within _
      | @handle before after number call next reply server waits served =>
          obtain ⟨asked, found⟩ :=
            accounted.asked number call next (by simp [waits])
          exact ih.handle fair found served

/-- A reply allows for the write that is taken over: it confirms the write with
the document, or with nothing when nothing but the document after it was tried;
it brings what was stored once the backend had handled the write; or it fails
where the write had begun before the refused one. -/
inductive Spares (race : Race) (sent : List (Registry × Call))
    (handled : List (Nat × Reply)) (number : Nat) (reply : Reply)
    (asked : Registry) (call : Call) : Prop where
  | confirmed {json : Json} (writes : isWrite call = true)
      (answered : Client.ended none reply = .ok json)
      (whole : Document.unwrapFields json ≠ [] ∨
        race.cached asked = race.after)
  | fetched {document : Document} {early late : List (Nat × Reply)}
      (reads : isWrite call = false) (found : race.fetched reply = .ok document)
      (split : handled = early ++ (number, reply) :: late)
      (later : TookOver race sent early)
  | previous {problem : Problem} (reads : isWrite call = false)
      (failed : race.fetched reply = .error (.problem problem))
      (leads : Leads race sent)

/-- The reply that arrived last allows for the write that is taken over. -/
def Spared (race : Race) (pool : Pool Registry Fields (Outcome Document)) :
    Prop :=
  ∃ earlier number reply asked call,
    pool.world.delivered = earlier ++ [(number, reply)] ∧
      pool.world.sent[number]? = some (asked, call) ∧
      Spares race pool.world.sent pool.handled number reply asked call

section Replied

variable {sent : List (Registry × Call)} {handled : List (Nat × Reply)}
variable {number : Nat} {reply : Reply} {asked : Registry} {call : Call}

/-- A confirmation brings the document after the write, unless it brings
nothing. -/
theorem Serving.confirmed {json : Json}
    (serving : Serving race sent handled server)
    (found : sent[number]? = some (asked, call))
    (member : (number, reply) ∈ handled) (writes : isWrite call = true)
    (answered : Client.ended none reply = .ok json)
    (something : Document.unwrapFields json ≠ []) (staged : Document) :
    Store.confirmed staged json = race.after := by
  obtain ⟨early, late, split⟩ := List.append_of_mem member
  have reports := serving.reports early number reply late asked call split found
  by_cases body : call.body = some race.taken.wire
  · obtain ⟨other, also, carries⟩ := reports.taken writes body
    obtain rfl : other = json := Except.ok.inj (also.symm.trans answered)
    exact carries something staged
  · obtain ⟨problem, failed⟩ := reports.refused writes body
    rw [answered] at failed
    cases failed

/-- A document that was asked for is the one that was stored when the backend
handled the call. -/
theorem Serving.fetched {document : Document}
    {early late : List (Nat × Reply)}
    (serving : Serving race sent handled server)
    (found : sent[number]? = some (asked, call))
    (split : handled = early ++ (number, reply) :: late)
    (reads : isWrite call = false)
    (brought : race.fetched reply = .ok document) :
    document = race.document (TookOver race sent early) := by
  have reports := serving.reports early number reply late asked call split found
  obtain known | ⟨problem, failed⟩ := reports.asked reads
  · exact Except.ok.inj (brought.symm.trans known)
  · rw [brought] at failed
    cases failed

/-- A reply that allows for the write tells the document after it. -/
theorem Tells.of_spares {document : Document}
    (tells : Tells race sent asked call reply document)
    (serving : Serving race sent handled server)
    (found : sent[number]? = some (asked, call))
    (member : (number, reply) ∈ handled)
    (spares : Spares race sent handled number reply asked call) :
    document = race.after := by
  cases tells with
  | @confirmed json writes answered =>
      obtain @⟨other, -, also, whole⟩ | ⟨reads, -⟩ | ⟨reads, -⟩ := spares
      · obtain rfl : other = json := Except.ok.inj (also.symm.trans answered)
        by_cases nothing : Document.unwrapFields other = []
        · rw [confirmed_of_nil nothing]
          exact whole.resolve_left fun something => something nothing
        · exact serving.confirmed found member writes answered nothing _
      · simp [writes] at reads
      · simp [writes] at reads
  | fetched reads brought =>
      obtain ⟨writes, -⟩ | ⟨-, -, split, later⟩ | ⟨-, failed, -⟩ := spares
      · simp [reads] at writes
      · rw [serving.fetched found split reads brought, race.document_of later]
      · rw [brought] at failed
        cases failed
  | previous reads failed =>
      obtain ⟨writes, -⟩ | ⟨-, brought, -⟩ | ⟨-, -, leads⟩ := spares
      · simp [reads] at writes
      · rw [failed] at brought
        cases brought
      · exact race.document_of leads

/-- Only a reply that allows for the write does. -/
theorem Tells.spares {document : Document}
    (tells : Tells race sent asked call reply document)
    (serving : Serving race sent handled server)
    (found : sent[number]? = some (asked, call))
    (member : (number, reply) ∈ handled) (differs : race.after ≠ race.before)
    (same : document = race.after) :
    Spares race sent handled number reply asked call := by
  cases tells with
  | @confirmed json writes answered =>
      refine .confirmed writes answered ?_
      by_cases nothing : Document.unwrapFields json = []
      · exact .inr ((confirmed_of_nil nothing).symm.trans same)
      · exact .inl nothing
  | fetched reads brought =>
      obtain ⟨early, late, split⟩ := List.append_of_mem member
      refine .fetched reads brought split (Race.of_document_eq differs ?_)
      rw [← serving.fetched found split reads brought, same]
  | previous reads failed =>
      exact .previous reads failed (Race.of_document_eq differs same)

end Replied

/-- Two writes to the document of an event carry different blocks and overlap in
any way, on top of what the backend stores; the backend takes one of them over
and refuses the other.  Once both are done, it stores the document with the
block that it took over.  The cache holds that document if the reply that
arrived last allows for the write, and otherwise only if the write changed
nothing. -/
theorem cached_is_stored_iff_spared (fair : race.Fair server)
    (known : race.cached registry = race.before)
    (reached : (scene race).Reach (.fresh registry server) pool)
    (quiet : pool.waiting = [])
    (taken : Sent race.taken pool.world.sent)
    (proper : ∀ result ∈ pool.results, Coherence.Proper result) :
    Stored pool.server race.after ∧
      (Spared race pool → race.cached pool.world.state = race.after) ∧
      (race.after ≠ race.before →
        race.cached pool.world.state = race.after → Spared race pool) := by
  have accounted := (Pool.Accounted.fresh registry server).of_reach reached
  have given := (Pool.Given.fresh registry server).of_reach
    (.fresh registry server) reached
  have serving := serving_of_reach fair reached
  have racing : Racing race pool.world :=
    ((honoured fair).kept (.fresh known)
      ⟨False, by rw [race.document_of_not id]; exact fair.stored⟩ reached
      proper).inv
  have answered : ∀ number < pool.world.sent.length,
      pool.world.Answered number :=
    fun number within => accounted.answered quiet within
  obtain ⟨entry, sent, puts⟩ := taken
  obtain ⟨number, found⟩ := List.mem_iff_getElem?.mp sent
  obtain ⟨reply, arrived⟩ :=
    answered number (List.getElem?_eq_some_iff.mp found).1
  have tookOver : TookOver race pool.world.sent pool.handled :=
    ⟨_, given.delivered _ arrived, entry.1, entry.2, found, puts⟩
  have stored := serving.stored
  rw [race.document_of tookOver] at stored
  refine ⟨stored, ?_, ?_⟩
  · rintro ⟨earlier, number, reply, asked, call, last, found, spares⟩
    exact (racing.final earlier number reply asked call answered last
      found).of_spares serving found (given.delivered _ (by simp [last])) spares
  · intro differs same
    obtain nothing | ⟨earlier, ⟨number, reply⟩, last⟩ :=
      List.eq_nil_or_concat pool.world.delivered
    · simp [nothing] at arrived
    rw [List.concat_eq_append] at last
    have member : (number, reply) ∈ pool.handled :=
      given.delivered _ (by simp [last])
    obtain ⟨⟨asked, call⟩, found⟩ : ∃ entry,
        pool.world.sent[number]? = some entry :=
      ⟨_, List.getElem?_eq_getElem (given.within _ member)⟩
    exact ⟨earlier, number, reply, asked, call, last, found,
      (racing.final earlier number reply asked call answered last found).spares
        serving found member differs same⟩

end Pools

section DoubleFailure

/-- A titled AI block. -/
def titled : AiBlock := { AiBlock.cleared with enabled := true, title := "Ada" }

/-- A title, which the backend takes over, and a search, which it refuses. -/
def titleAndSearch : Race :=
  { event := "event"
    taken := .ofAi titled
    refused := .ofManual { ManualState.empty with search := "ada" }
    before := .empty
    after := { manual := .empty, ai := titled } }

theorem fair_titleAndSearch : titleAndSearch.Fair [] where
  stored := stored_empty
  finite := nofun
  apart := .inr ⟨⟨rfl, rfl⟩, rfl, rfl⟩
  merges := ⟨{ manual := .empty, ai := titled }, rfl, rfl⟩

/-- What is stored after the title. -/
def withTitle : Fields :=
  [("ai", .obj [("enabled", .bool true), ("savedSegmentId", .null),
    ("ast", .null), ("title", .str "Ada")])]

/-- The backend takes the title over and answers with the whole document. -/
theorem serves_title {call : Call} (puts : Puts titleAndSearch.taken call) :
    serves titleAndSearch [] call (Memory.documentReply (.obj withTitle))
      withTitle := by
  have answered : Client.ended none (Memory.documentReply (.obj withTitle)) =
      .ok (.obj [("filters", .obj withTitle)]) := rfl
  refine ⟨.inr ⟨?_, _, answered, .inl rfl⟩, fun _ => ?_⟩
  · rw [if_pos puts.1, puts.2]
    rfl
  · exact ⟨fun _ => puts.2, fun _ => ⟨_, answered⟩⟩

/-- Any other call times out. -/
theorem serves_timeout {before : Fields} {call : Call}
    (other : ¬ Puts titleAndSearch.taken call) :
    serves titleAndSearch before call .timeout before := by
  refine ⟨.inl ⟨rfl, ?_⟩, fun writes => ?_⟩
  · unfold Coherence.Fails
    split
    · exact ⟨Client.timedOut, rfl⟩
    · refine ⟨Client.timedOut, rfl, ?_⟩
      rintro ⟨name, identifier, missing⟩
      cases missing
  · constructor
    · rintro ⟨json, answered⟩
      cases answered
    · exact fun body => absurd ⟨writes, body⟩ other

/-- A call does not write a change that has a block which the call lacks. -/
theorem not_puts {change : Change} {call : Call} (key : String)
    (given : (change.wire.given? key).isSome = true)
    (lacks : ((call.body.getD .null).given? key).isNone = true) :
    ¬ Puts change call := by
  rintro ⟨-, body⟩
  rw [body, Option.getD_some, Option.isNone_iff_eq_none] at lacks
  rw [lacks] at given
  cases given

theorem not_sent {change : Change} {sent : List (Registry × Call)}
    (key : String) (given : (change.wire.given? key).isSome = true)
    (lacks : sent.all (fun entry =>
      ((entry.2.body.getD .null).given? key).isNone) = true) :
    ¬ Sent change sent := by
  rintro ⟨entry, member, puts⟩
  exact not_puts key given (List.all_eq_true.mp lacks entry member) puts

theorem proper_of_isOk {results : List (Except Fault (Outcome Document))}
    (fine : results.all Except.isOk = true) :
    ∀ result ∈ results, Coherence.Proper result := by
  intro result member
  obtain fault | outcome := result
  · have ok := List.all_eq_true.mp fine _ member
    cases ok
  · exact Coherence.proper_ok

/-- The title in the cache. -/
def titleHere (pool : Pool Registry Fields (Outcome Document)) : String :=
  (titleAndSearch.cached pool.world.state).ai.title

/-- The search begins first, and fails after the title is confirmed; so does the
request for the document. -/
theorem exists_discarded :
    ∃ pool, (scene titleAndSearch).Reach (.fresh Coherence.unread []) pool ∧
      pool.waiting = [] ∧ Sent titleAndSearch.taken pool.world.sent ∧
      Sent titleAndSearch.refused pool.world.sent ∧
      (∀ result ∈ pool.results, Coherence.Proper result) ∧
      titleHere pool ≠ "Ada" := by
  refine ⟨_, .step (.step (.step (.step (.step (.step (.step (.step .refl
    (.start .refused (not_sent "manual" rfl rfl)))
    (.start .taken (not_sent "ai" rfl (by decide +kernel))))
    (.handle [] [_] withTitle rfl (serves_title ⟨rfl, rfl⟩)))
    (.deliver [] [_] rfl))
    (.handle [] [] withTitle rfl (serves_timeout (not_puts "ai" rfl rfl))))
    (.deliver [] [] rfl))
    (.handle [] [] withTitle rfl (serves_timeout (not_puts "ai" rfl rfl))))
    (.deliver [] [] rfl), List.isEmpty_iff.mp ?_, ?_, ?_, ?_, ?_⟩
  · decide +kernel
  · exact ⟨_, List.mem_of_getElem? (i := 1) rfl, rfl, rfl⟩
  · exact ⟨_, List.mem_of_getElem? (i := 0) rfl, rfl, rfl⟩
  · exact proper_of_isOk (by decide +kernel)
  · decide +kernel

/-- The title begins first.  The search fails after it is confirmed, and so does
the request for the document. -/
theorem exists_spared :
    ∃ pool, (scene titleAndSearch).Reach (.fresh Coherence.unread []) pool ∧
      pool.waiting = [] ∧ Sent titleAndSearch.taken pool.world.sent ∧
      (∀ result ∈ pool.results, Coherence.Proper result) ∧
      Spared titleAndSearch pool := by
  refine ⟨_, .step (.step (.step (.step (.step (.step (.step (.step .refl
    (.start .taken (not_sent "ai" rfl rfl)))
    (.start .refused (not_sent "manual" rfl (by decide +kernel))))
    (.handle [_] [] withTitle rfl (serves_title ⟨rfl, rfl⟩)))
    (.deliver [_] [] rfl))
    (.handle [] [] withTitle rfl (serves_timeout (not_puts "ai" rfl rfl))))
    (.deliver [] [] rfl))
    (.handle [] [] withTitle rfl (serves_timeout (not_puts "ai" rfl rfl))))
    (.deliver [] [] rfl), List.isEmpty_iff.mp ?_, ?_, ?_, ?_⟩
  · decide +kernel
  · exact ⟨_, List.mem_of_getElem? (i := 0) rfl, rfl, rfl⟩
  · exact proper_of_isOk (by decide +kernel)
  · exact ⟨[_, _], 2, .timeout, _, _, rfl, rfl,
      .previous rfl rfl ⟨_, rfl, rfl, rfl⟩⟩

/-- The title stays where its write began first. -/
theorem cached_is_stored_iff_spared_at_title_first :
    ∃ pool, (scene titleAndSearch).Reach (.fresh Coherence.unread []) pool ∧
      pool.waiting = [] ∧ Stored pool.server titleAndSearch.after ∧
      titleAndSearch.cached pool.world.state = titleAndSearch.after := by
  obtain ⟨pool, reached, quiet, taken, proper, spared⟩ := exists_spared
  obtain ⟨stored, keeps, -⟩ := cached_is_stored_iff_spared fair_titleAndSearch
    rfl reached quiet taken proper
  exact ⟨pool, reached, quiet, stored, keeps spared⟩

/-- A write that is taken back can discard a block that the backend confirmed. -/
theorem rollback_discards_confirmed_block :
    titleAndSearch.Fair [] ∧
      titleAndSearch.cached Coherence.unread = titleAndSearch.before ∧
      ¬ ∀ pool, (scene titleAndSearch).Reach (.fresh Coherence.unread []) pool →
        pool.waiting = [] → Sent titleAndSearch.taken pool.world.sent →
        Sent titleAndSearch.refused pool.world.sent →
        (∀ result ∈ pool.results, Coherence.Proper result) →
        (titleAndSearch.cached pool.world.state).ai =
          titleAndSearch.after.ai := by
  refine ⟨fair_titleAndSearch, rfl, fun always => ?_⟩
  obtain ⟨pool, reached, quiet, taken, refused, proper, differs⟩ :=
    exists_discarded
  apply differs
  rw [titleHere, always pool reached quiet taken refused proper]
  rfl

end DoubleFailure

end Rollback
end Audience
