import Audience.Proofs.Client
import Audience.Proofs.Reading.Misuse

/-!
# Calls that end with an outcome

Whatever is asked of the backend, the flow of the call ends: with an outcome, or
by stopping at a misuse.  It ends with an outcome exactly when it is refused
before anything is sent, or can be sent and gets a reply that fails or is
readable.  Every answer to a run is readable; an answer to another call must
have the members that are looked up, and plainly typed filter trees.
-/

namespace Audience
namespace Client

open Filter (PlainlyTyped)

/-! ## Results -/

section Results

variable {α γ : Type}

/-- The result is a value if the condition holds, and a misuse otherwise. -/
def ReturnsIff (result : Except Fault α) (condition : Prop) : Prop :=
  ((∃ value, result = .ok value) ∧ condition) ∨
    (∃ misuse, result = .error (.misuse misuse)) ∧ ¬ condition

/-- The result is a value or a problem if the condition holds, and a misuse
otherwise. -/
def SettledIff (result : Except Fault α) (condition : Prop) : Prop :=
  ReturnsIff (Flow.guarded result) condition

theorem ReturnsIff.congr {result : Except Fault α} {condition other : Prop}
    (returns : ReturnsIff result condition) (same : condition ↔ other) :
    ReturnsIff result other := by
  rwa [← propext same]

theorem SettledIff.congr {result : Except Fault α} {condition other : Prop}
    (settled : SettledIff result condition) (same : condition ↔ other) :
    SettledIff result other :=
  ReturnsIff.congr settled same

theorem settledIff_ok {value : α} {condition : Prop} (holds : condition) :
    SettledIff (.ok value : Except Fault α) condition :=
  .inl ⟨⟨_, rfl⟩, holds⟩

theorem settledIff_problem {problem : Problem} {condition : Prop}
    (holds : condition) :
    SettledIff (.error (.problem problem) : Except Fault α) condition :=
  .inl ⟨⟨_, rfl⟩, holds⟩

theorem settledIff_misuse {misuse : Misuse} {condition : Prop}
    (fails : ¬ condition) :
    SettledIff (.error (.misuse misuse) : Except Fault α) condition :=
  .inr ⟨⟨_, rfl⟩, fails⟩

/-- What is made of a value does not matter for that. -/
theorem SettledIff.map {result : Except Fault α} {condition : Prop}
    (settled : SettledIff result condition) (change : α → γ) :
    SettledIff (do return change (← result)) condition := by
  rcases settled with ⟨⟨outcome, done⟩, holds⟩ | ⟨⟨misuse, stopped⟩, fails⟩
  · cases result with
    | ok value => exact settledIff_ok holds
    | error fault =>
        cases fault with
        | problem problem => exact settledIff_problem holds
        | _ => cases done
  · cases result with
    | ok value => cases stopped
    | error fault =>
        cases fault with
        | misuse found => exact settledIff_misuse fails
        | _ => cases stopped

/-- Parsing settles unless the reading stops. -/
theorem settledIff_parse (model : String) (read : Reader α) (json : Json) :
    SettledIff (parse model read json) ((read json).isMisused = false) := by
  unfold parse
  cases read json with
  | value part => exact settledIff_ok rfl
  | rejected errors => exact settledIff_problem rfl
  | misused misuse => exact settledIff_misuse (by simp [Reading.isMisused])

end Results

/-! ## Answers that can be read -/

/-- A value that has members: an object, or one that is not full. -/
def HasMembers (json : Json) : Prop :=
  json.isFull = true → ∃ fields, json = .obj fields

/-- The tree under a key is plainly typed. -/
def PlainUnder (key : String) (json : Json) : Prop :=
  PlainlyTyped (Filter.Root.source (json.get key))

/-- An answer with a saved segment. -/
def HasPlainRow (json : Json) : Prop :=
  HasMembers json ∧ PlainUnder "ast" (json.get "savedSegment")

/-- The rows up to the first that is refused have plainly typed trees. -/
def PlainRows (rows : List Json) : Prop :=
  ∀ before row after, rows = before ++ row :: after →
    (∀ earlier ∈ before,
      ∃ segment, SavedSegment.read earlier = .value segment) →
      PlainUnder "ast" row

/-- An answer with a list of saved segments. -/
def HasPlainRows (json : Json) : Prop :=
  ∃ rows, savedRows json = .ok rows ∧ PlainRows rows

theorem member_of_hasMembers {json : Json} (has : HasMembers json)
    (key : String) : member key json = .ok (json.get key) := by
  cases json with
  | obj fields => rfl
  | _ =>
      rw [member]
      split
      · rename_i full
        obtain ⟨fields, same⟩ := has full
        cases same
      · rfl
      · simp

theorem member_of_not_hasMembers {json : Json} (lacks : ¬ HasMembers json)
    (key : String) : member key json = .error .noMember := by
  simp only [HasMembers, Classical.not_imp] at lacks
  obtain ⟨full, no⟩ := lacks
  cases json with
  | obj fields => exact absurd ⟨fields, rfl⟩ no
  | _ => simp [member, full]

theorem settledIff_readSavedRow (json : Json) :
    SettledIff (readSavedRow json) (HasPlainRow json) := by
  unfold readSavedRow
  by_cases has : HasMembers json
  · rw [member_of_hasMembers has]
    apply (settledIff_parse _ _ _).congr
    rw [SavedSegment.isMisused_read]
    exact (and_iff_right has).symm
  · rw [member_of_not_hasMembers has]
    exact settledIff_misuse fun row => has row.1

theorem plainRows_nil : PlainRows [] := by
  intro before row after split
  simp at split

theorem plainRows_cons {row : Json} {rest : List Json} :
    PlainRows (row :: rest) ↔ PlainUnder "ast" row ∧
      ((∃ segment, SavedSegment.read row = .value segment) →
        PlainRows rest) := by
  constructor
  · intro plain
    refine ⟨plain [] row rest rfl (by simp), ?_⟩
    rintro read before later after rfl earlier
    refine plain (row :: before) later after rfl ?_
    intro one among
    obtain rfl | among := List.mem_cons.mp among
    · exact read
    · exact earlier one among
  · rintro ⟨first, others⟩ before later after split earlier
    cases before with
    | nil =>
        cases split
        exact first
    | cons one before =>
        cases split
        exact others (earlier _ (.head _)) before later after rfl
          fun one among => earlier one (.tail _ among)

theorem settledIff_parseAll (rows : List Json) :
    SettledIff (parseAll "SavedSegment" SavedSegment.read rows)
      (PlainRows rows) := by
  induction rows with
  | nil => exact settledIff_ok plainRows_nil
  | cons row rest ih =>
      have tree : (SavedSegment.read row).isMisused = false ↔
          PlainUnder "ast" row := SavedSegment.isMisused_read
      rw [parseAll]
      unfold parse
      cases read : SavedSegment.read row with
      | value segment =>
          apply (ih.map (segment :: ·)).congr
          rw [plainRows_cons]
          exact ⟨fun others => ⟨tree.mp (by rw [read]; rfl), fun _ => others⟩,
            fun plain => plain.2 ⟨segment, read⟩⟩
      | rejected errors =>
          refine settledIff_problem (plainRows_cons.mpr ⟨?_, ?_⟩)
          · exact tree.mp (by rw [read]; rfl)
          · rintro ⟨segment, other⟩
            rw [read] at other
            cases other
      | misused misuse =>
          refine settledIff_misuse fun plain => ?_
          have stops := tree.mpr (plainRows_cons.mp plain).1
          rw [read] at stops
          cases stops

theorem settledIff_readSavedRows (json : Json) :
    SettledIff (readSavedRows json) (HasPlainRows json) := by
  unfold readSavedRows HasPlainRows
  cases listed : savedRows json with
  | error misuse => exact settledIff_misuse (by simp)
  | ok rows => simpa using settledIff_parseAll rows

theorem settledIff_readTitle (json : Json) :
    SettledIff (readTitle json) (HasMembers json) := by
  unfold readTitle
  by_cases has : HasMembers json
  · rw [member_of_hasMembers has]
    dsimp only
    split
    · exact settledIff_problem has
    · exact settledIff_ok has
  · rw [member_of_not_hasMembers has]
    exact settledIff_misuse has

/-! ## One call -/

/-- A call can be sent: its credentials have only ASCII, its path leads to an
address, and every number and text of its body can be written. -/
structure Sendable (client : Client) (path : String) (body : Option Json) :
    Prop where
  credentials : (client.authorization?.toList ++ client.instance?.toList).all
    Text.isAscii = true
  address : ∃ address, client.service.resolve path = .ok address
  numbers : ∀ json, body = some json → json.isFinite = true
  texts : ∀ json, body = some json → json.isEncodable = true

theorem ensureOpen_eq_ok_iff {client : Client} :
    (∃ opened, client.ensureOpen = .ok opened) ↔
      (client.authorization?.toList ++ client.instance?.toList).all
        Text.isAscii = true := by
  unfold ensureOpen
  dsimp only
  split <;> simp_all

theorem ensureSendable_eq_ok_iff {json : Json} :
    json.ensureSendable = .ok () ↔
      json.isFinite = true ∧ json.isEncodable = true := by
  unfold Json.ensureSendable
  cases json.isFinite <;> cases json.isEncodable <;> simp

theorem sendable_iff (client : Client) (method path : String)
    (body : Option Json) : Sendable client path body ↔
      (∃ opened, client.ensureOpen = .ok opened) ∧
        ∃ call, client.call method path body = .ok call := by
  have checked : body.forM Json.ensureSendable = .ok () ↔
      (∀ json, body = some json → json.isFinite = true) ∧
        ∀ json, body = some json → json.isEncodable = true := by
    cases body with
    | none => simp [pure, Except.pure]
    | some json => simpa using ensureSendable_eq_ok_iff
  have called : (∃ call, client.call method path body = .ok call) ↔
      (∃ address, client.service.resolve path = .ok address) ∧
        body.forM Json.ensureSendable = .ok () := by
    simp only [Client.call, Filter.bind_eq_ok, pure, Except.pure,
      Except.ok.injEq]
    constructor
    · rintro ⟨call, address, resolved, _, fine, -⟩
      exact ⟨⟨address, resolved⟩, fine⟩
    · rintro ⟨⟨address, resolved⟩, fine⟩
      exact ⟨_, address, resolved, _, fine, rfl⟩
  rw [called, checked, ensureOpen_eq_ok_iff]
  constructor
  · intro sendable
    exact ⟨sendable.credentials, sendable.address, sendable.numbers,
      sendable.texts⟩
  · rintro ⟨credentials, address, numbers, texts⟩
    exact ⟨credentials, address, numbers, texts⟩

section Asking

variable {α : Type} {registry : Registry} {reply : Reply}
variable {event : Option String} {suffix method : String} {body : Option Json}
variable {missing : Option (String × String)} {read : Json → Except Fault α}
variable {readable : Json → Prop}

/-- A reply that fails, or whose answer is readable. -/
def Legible (missing : Option (String × String)) (readable : Json → Prop)
    (reply : Reply) : Prop :=
  ∀ json, ended missing reply = .ok json → readable json

/-- A failure of the backend is a problem. -/
theorem ended_of_sent (missing : Option (String × String))
    (sent : reply.ensureSendable = .ok ()) :
    (∃ json, ended missing reply = .ok json) ∨
      ∃ problem, ended missing reply = .error (.problem problem) := by
  unfold ended
  rw [sent]
  cases valueOf missing reply with
  | ok json => exact .inl ⟨json, rfl⟩
  | error problem => exact .inr ⟨problem, rfl⟩

theorem returnsIff_outcome (sent : reply.ensureSendable = .ok ())
    (settled : ∀ json, SettledIff (read json) (readable json)) :
    ReturnsIff (outcome missing read reply)
      (Legible missing readable reply) := by
  unfold outcome Legible
  obtain ⟨json, answered⟩ | ⟨problem, failed⟩ :=
    ended_of_sent missing sent
  · rw [answered]
    exact ReturnsIff.congr (settled json) (by simp)
  · rw [failed]
    exact .inl ⟨⟨_, rfl⟩, by simp⟩

/-- A call ends with an outcome if it can be sent and answered. -/
theorem alone_asking {path : String} (sent : reply.ensureSendable = .ok ())
    (settled : ∀ json, SettledIff (read json) (readable json)) :
    (Flow.guard ((request method path body missing).bind fun json =>
      .ofResult (read json))).Alone (fun _ _ answer _ => answer = reply)
      (fun result _ _ => ReturnsIff result
        (Sendable registry.client path body ∧ Legible missing readable reply))
      registry () := by
  rw [Flow.guard_eq, Flow.alone_finish, Flow.alone_bind, request_eq]
  have fits := sendable_iff registry.client method path body
  obtain unfit | opens := ensureOpen_cases registry.client
  · simp only [Flow.Alone, unfit, Flow.alone_ofResult]
    exact .inr ⟨⟨_, rfl⟩, by simp [fits, unfit]⟩
  simp only [Flow.Alone, opens, call_opened]
  cases made : registry.client.call method path body with
  | error misuse =>
      simp only [Flow.Alone, Flow.alone_ofResult]
      exact .inr ⟨⟨_, rfl⟩, by simp [fits, made]⟩
  | ok call =>
      rintro answer _ rfl
      have sendable := fits.mpr ⟨⟨_, opens⟩, _, made⟩
      have returns : ReturnsIff (outcome missing read answer) _ :=
        (returnsIff_outcome sent settled).congr (and_iff_right sendable).symm
      unfold outcome at returns
      rw [Flow.alone_ofResult]
      cases answered : ended missing answer with
      | error fault =>
          rw [answered] at returns
          exact Flow.alone_ofResult.mpr returns
      | ok json =>
          rw [answered] at returns
          exact Flow.alone_ofResult.mpr (Flow.alone_ofResult.mpr returns)

/-- The event is named, its call can be sent, and gets a legible reply. -/
def Answerable (client : Client) (event : Option String) (suffix : String)
    (body : Option Json) (missing : Option (String × String))
    (readable : Json → Prop) (reply : Reply) : Prop :=
  ∃ name, Registry.nonempty? event = some name ∧
    Sendable client (pathOf name suffix) body ∧ Legible missing readable reply

/-- What is asked of an event that is not named is refused. -/
theorem alone_ofEvent {rest : String → Flow Registry α}
    (asking : ∀ name, (Flow.guard (rest (pathOf name suffix))).Alone
      (fun _ _ answer _ => answer = reply)
      (fun result _ _ => ReturnsIff result
        (Sendable registry.client (pathOf name suffix) body ∧
          Legible missing readable reply)) registry ()) :
    (Flow.guard ((eventPath event suffix).bind rest)).Alone
      (fun _ _ answer _ => answer = reply)
      (fun result _ _ => ReturnsIff result
        (Registry.nonempty? event = none ∨
          Answerable registry.client event suffix body missing readable reply))
      registry () := by
  unfold eventPath
  cases named : Registry.nonempty? event with
  | none => exact .inl ⟨⟨_, rfl⟩, .inl rfl⟩
  | some name =>
      apply (asking name).mono
      intro result _ _ returns
      apply returns.congr
      simp [Answerable, named]

end Asking

/-! ## Everything that can be asked -/

/-- What the backend can be asked about an event. -/
inductive Ask where
  | run (filter : Filter.Node) (debug : Bool) (page : Option Page)
  | generate (prompt : String) (generation : Generation)
  | list
  | create (prompt : String) (ast : Filter.Root) (title : String)
      (favorite : Bool)
  | update (segment : String) (patch : SavedSegment.Patch)
  /-- Changes that are given as an object. -/
  | change (segment : String) (changes : Fields)
  | markUsed (segment : String)
  | suggestTitle (prompt : String) (ast : Option Filter.Root)

namespace Ask

/-- What is asked for. -/
def Answer : Ask → Type
  | run .. => Results
  | generate .. => Generated
  | list => List SavedSegment
  | suggestTitle .. => String
  | create .. => SavedSegment
  | update .. => SavedSegment
  | change .. => SavedSegment
  | markUsed .. => SavedSegment

/-- The flow that asks. -/
def flow (event : Option String) :
    (ask : Ask) → Flow Registry (Outcome ask.Answer)
  | run filter debug page => runSegment event (some filter) debug page
  | generate prompt generation => Client.generate event prompt generation
  | list => listSaved event
  | create prompt ast title favorite =>
      createSaved event prompt ast title favorite
  | update segment patch => updateSaved event segment patch
  | change segment changes => updateSavedWith event segment (.obj changes)
  | markUsed segment => Client.markUsed event segment
  | suggestTitle prompt ast => Client.suggestTitle event prompt ast

/-- What is refused before the event is looked at: a blank prompt, and changes
that are none. -/
def Refused : Ask → Prop
  | generate prompt _ => Text.isBlankText prompt = true
  | change _ changes =>
      ∃ errors, SavedSegment.Patch.read (.obj changes) = .rejected errors
  | _ => False

/-- Where it is asked, below the event. -/
def suffix : Ask → String
  | run .. => "segments"
  | generate .. => "segments/generative"
  | list => "saved-segments"
  | create .. => "saved-segments"
  | update segment _ => segmentSuffix segment
  | change segment _ => segmentSuffix segment
  | markUsed segment => segmentSuffix segment
  | suggestTitle .. => "saved-segments/suggest-title"

/-- What is sent. -/
def body (registry : Registry) : Ask → Option Json
  | run filter debug page => some (runBody filter debug page)
  | generate prompt generation =>
      some (generateBody registry.settings prompt generation)
  | list => none
  | create prompt ast title favorite =>
      some (createBody prompt ast title favorite)
  | update _ patch => some patch.toJson
  | change _ changes =>
      match SavedSegment.Patch.read (.obj changes) with
      | .value patch => some patch.toJson
      | _ => none
  | markUsed _ => some (SavedSegment.Patch.ofLastUsed registry.now).toJson
  | suggestTitle prompt ast => some (titleBody prompt ast)

/-- The resource that a 404 means. -/
def missing : Ask → Option (String × String)
  | update segment _ => some (savedResource, segment)
  | change segment _ => some (savedResource, segment)
  | markUsed segment => some (savedResource, segment)
  | _ => none

/-- The answers that can be read or refused. -/
def Readable : Ask → Json → Prop
  | run .., _ => True
  | generate .., json => PlainUnder "segment" json
  | list, json => HasPlainRows json
  | suggestTitle .., json => HasMembers json
  | create .., json => HasPlainRow json
  | update .., json => HasPlainRow json
  | change .., json => HasPlainRow json
  | markUsed .., json => HasPlainRow json

/-- It can be sent, and gets a legible reply. -/
def Answered (event : Option String) (registry : Registry) (reply : Reply)
    (ask : Ask) : Prop :=
  Answerable registry.client event ask.suffix (ask.body registry) ask.missing
    ask.Readable reply

/-- An ask ends with an outcome if it is refused or answered. -/
def EndsWell (event : Option String) (registry : Registry) (reply : Reply)
    (ask : Ask) : Prop :=
  ask.Refused ∨ Registry.nonempty? event = none ∨
    ask.Answered event registry reply

end Ask

variable {registry : Registry} {reply : Reply} {event : Option String}

theorem settledIff_generated (json : Json) :
    SettledIff (parse "GenerateResponse" Generated.read json)
      (PlainUnder "segment" json) :=
  (settledIff_parse _ _ _).congr Generated.isMisused_read

theorem settledIff_results (json : Json) :
    SettledIff (parse "SegmentResults" Results.read json) True :=
  (settledIff_parse _ _ _).congr (iff_true_intro (Results.total_read json))

theorem updateSavedWith_of_value {json : Json} {patch : SavedSegment.Patch}
    {segment : String} (read : SavedSegment.Patch.read json = .value patch) :
    updateSavedWith event segment json = updateSaved event segment patch := by
  unfold updateSavedWith readPatch
  rw [read]
  rfl

theorem updateSavedWith_of_rejected (event : Option String) (segment : String)
    {json : Json} {errors : List FieldError}
    (read : SavedSegment.Patch.read json = .rejected errors) :
    ∃ problem, updateSavedWith event segment json = .done (.error problem) := by
  unfold updateSavedWith readPatch
  rw [read]
  exact ⟨_, rfl⟩

/-- Changes of a saved segment, if they are not refused. -/
theorem alone_patch (sent : reply.ensureSendable = .ok ()) (segment : String)
    (patch : SavedSegment.Patch) :
    (updateSaved event segment patch).Alone (fun _ _ answer _ => answer = reply)
      (fun result _ _ => ReturnsIff result
        (Registry.nonempty? event = none ∨
          Answerable registry.client event (segmentSuffix segment)
            (some patch.toJson) (some (savedResource, segment)) HasPlainRow
            reply)) registry () := by
  unfold updateSaved sendPatch
  simp only [savedRow_eq]
  exact alone_ofEvent fun name => alone_asking sent settledIff_readSavedRow

/-- Every ask ends with an outcome exactly if it is refused or answered. -/
theorem alone_flow (sent : reply.ensureSendable = .ok ()) (ask : Ask) :
    (ask.flow event).Alone (fun _ _ answer _ => answer = reply)
      (fun result _ _ => ReturnsIff result (ask.EndsWell event registry reply))
      registry () := by
  have unrefused (ask : Ask) (free : ¬ ask.Refused)
      (asking : (ask.flow event).Alone (fun _ _ answer _ => answer = reply)
        (fun result _ _ => ReturnsIff result
          (Registry.nonempty? event = none ∨
            ask.Answered event registry reply)) registry ()) :
      (ask.flow event).Alone (fun _ _ answer _ => answer = reply)
        (fun result _ _ =>
          ReturnsIff result (ask.EndsWell event registry reply))
        registry () :=
    asking.mono fun _ _ _ returns => returns.congr (or_iff_right free).symm
  cases ask with
  | run filter debug page =>
      apply unrefused _ id
      exact alone_ofEvent fun name => alone_asking sent settledIff_results
  | generate prompt generation =>
      by_cases blank : Text.isBlankText prompt = true
      · show (generate event prompt generation).Alone _ _ _ _
        rw [generate, if_pos blank]
        exact .inl ⟨⟨_, rfl⟩, .inl blank⟩
      · refine unrefused (.generate prompt generation) blank ?_
        show (generate event prompt generation).Alone _ _ _ _
        rw [generate, if_neg blank]
        exact alone_ofEvent fun name => alone_asking sent settledIff_generated
  | list =>
      apply unrefused _ id
      show (listSaved event).Alone _ _ _ _
      rw [listSaved_eq]
      exact alone_ofEvent fun name =>
        alone_asking sent settledIff_readSavedRows
  | create prompt ast title favorite =>
      apply unrefused _ id
      show (createSaved event prompt ast title favorite).Alone _ _ _ _
      unfold createSaved
      simp only [savedRow_eq]
      exact alone_ofEvent fun name => alone_asking sent settledIff_readSavedRow
  | update segment patch =>
      apply unrefused _ id
      exact alone_patch sent segment patch
  | change segment changes =>
      show (updateSavedWith event segment (.obj changes)).Alone _ _ _ _
      have total := SavedSegment.Patch.total_read (.obj changes)
      cases read : SavedSegment.Patch.read (.obj changes) with
      | value patch =>
          rw [updateSavedWith_of_value read]
          apply (alone_patch sent segment patch).mono
          intro result _ _ returns
          apply returns.congr
          simp [Ask.EndsWell, Ask.Refused, Ask.Answered, Ask.body, read]
          rfl
      | rejected errors =>
          obtain ⟨problem, same⟩ :=
            updateSavedWith_of_rejected event segment read
          rw [same]
          exact .inl ⟨⟨_, rfl⟩, .inl ⟨errors, read⟩⟩
      | misused misuse =>
          rw [read] at total
          cases total
  | markUsed segment =>
      apply unrefused _ id
      exact alone_patch sent segment (.ofLastUsed registry.now)
  | suggestTitle prompt ast =>
      apply unrefused _ id
      show (suggestTitle event prompt ast).Alone _ _ _ _
      rw [suggestTitle_eq]
      exact alone_ofEvent fun name => alone_asking sent settledIff_readTitle

/-- Whatever is asked, in whatever state, and however the backend replies, the
call ends.  It returns an outcome if it is refused, or can be sent and gets a
legible reply; otherwise it stops at a misuse. -/
theorem returns_iff_endsWell (ask : Ask) (event : Option String)
    (registry : Registry) (reply : Reply)
    (sent : reply.ensureSendable = .ok ()) :
    ∃ result later, (ask.flow event).computed (fun _ _ => (reply, ()))
        registry () = some (result, later, ()) ∧
      ReturnsIff result (ask.EndsWell event registry reply) := by
  obtain ⟨result, later, _, computed, returns⟩ :=
    (alone_flow sent ask).exists_computed (fun _ _ => (reply, ()))
      fun _ _ => rfl
  exact ⟨result, later, computed, returns⟩

/-- A registry that was not used yet. -/
def unused : Registry :=
  .initial .standard default ""
    { service := .ofService "http" "crm" "", token := some "secret",
      instanceId := none, opened := false }

/-- A segment of everyone is to be saved. -/
def saveEveryone : Ask := .create "Everyone" { filter := .empty } "All" false

/-- The answer that it was saved. -/
def savedEveryone : Reply :=
  .response 200 (.json (.obj [("savedSegment", .obj
    [("id", .str "seg_1"), ("ast", .arr [])])]))

/-- The result of asking about an event, when the reply is given. -/
def resultOf (ask : Ask) (reply : Reply) :
    Option (Except Fault (Outcome ask.Answer)) :=
  ((ask.flow (some "event")).computed (fun _ _ => (reply, ())) unused ()).map
    (·.1)

theorem returns_iff_endsWell_of_saved :
    savedEveryone.ensureSendable = .ok () ∧
      saveEveryone.EndsWell (some "event") unused savedEveryone := by
  have sent : savedEveryone.ensureSendable = .ok () := by rfl
  have good : (resultOf saveEveryone savedEveryone).any (·.isOk) = true := by
    decide +kernel
  obtain ⟨result, later, computed, returns⟩ :=
    returns_iff_endsWell saveEveryone (some "event") unused savedEveryone sent
  refine ⟨sent, ?_⟩
  rw [resultOf, computed] at good
  obtain ⟨-, well⟩ | ⟨⟨misuse, rfl⟩, -⟩ := returns
  · exact well
  · cases good

/-- Saving a segment stops at an answer that is a list, and turning a prompt
into one at a tree with a list for its type. -/
theorem listed_answer_stops_saving :
    resultOf saveEveryone (.response 200 (.json (.arr [.int 1]))) =
        some (.error (.misuse .noMember)) ∧
      resultOf (.generate "Everyone" default)
          (.response 200 (.json (.obj
            [("segment", .obj [("type", .arr [])]),
              ("results", .obj [])]))) =
        some (.error (.misuse .wrongType)) := by
  constructor <;> rfl

end Client
end Audience
