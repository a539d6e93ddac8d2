import Audience.Proofs.Filter.Canonical
import Audience.Proofs.Quiet
import Audience.Proofs.Reading

/-!
# What calls of the backend bring

Every call is quiet.  Filter trees in the answers are canonical, and the results
of a run or of a prompt are those of a reply that was delivered.
-/

namespace Audience

open Registry (Quiet)

/-- A filter root that was read is canonical. -/
theorem Filter.Root.canonical_read {json : Json} {root : Filter.Root}
    (read : Filter.Root.read json = .value root) : root.Canonical := by
  unfold Filter.Root.read Reading.ofExcept at read
  cases normal : Filter.Root.ofJson json with
  | error misuse => simp [normal] at read
  | ok found =>
      simp only [normal, Reading.value.injEq] at read
      exact read ▸ Filter.Root.canonical_ofJson normal

/-- The tree of a saved segment that was read is canonical. -/
theorem SavedSegment.canonical_read {json : Json} {segment : SavedSegment}
    (read : SavedSegment.read json = .value segment) :
    segment.ast.Canonical := by
  obtain ⟨fields, rfl, parts⟩ := Reading.model_eq_value.mp read
  obtain ⟨_, _, upToCreated, _, rfl⟩ := Reading.seq_eq_value.mp parts
  obtain ⟨_, _, upToUsed, _, rfl⟩ := Reading.seq_eq_value.mp upToCreated
  obtain ⟨_, _, upToFavorite, _, rfl⟩ := Reading.seq_eq_value.mp upToUsed
  obtain ⟨_, _, upToAst, _, rfl⟩ := Reading.seq_eq_value.mp upToFavorite
  obtain ⟨_, ast, upToPrompt, atAst, rfl⟩ := Reading.seq_eq_value.mp upToAst
  obtain ⟨_, _, upToTitle, _, rfl⟩ := Reading.seq_eq_value.mp upToPrompt
  obtain ⟨_, _, upToId, _, rfl⟩ := Reading.seq_eq_value.mp upToTitle
  obtain ⟨_, _, rfl⟩ := Reading.map_eq_value.mp upToId
  obtain ⟨source, found⟩ := Reading.exists_of_required atAst
  exact Filter.Root.canonical_read found

/-- The tree of a generated segment that was read is canonical. -/
theorem Generated.canonical_read {json : Json} {generated : Generated}
    (read : Generated.read json = .value generated) :
    generated.segment.Canonical := by
  obtain ⟨fields, rfl, parts⟩ := Reading.model_eq_value.mp read
  obtain ⟨_, _, atSegment, _, rfl⟩ := Reading.seq_eq_value.mp parts
  obtain ⟨segment, found, rfl⟩ := Reading.map_eq_value.mp atSegment
  obtain ⟨source, root⟩ := Reading.exists_of_required found
  exact Filter.Root.canonical_read root

namespace Client

theorem parse_eq_ok {α : Type} {model : String} {read : Reader α} {json : Json}
    {value : α} : parse model read json = .ok value ↔
      read json = .value value := by
  unfold parse
  cases read json <;> simp

/-- All trees in a list of saved segments are canonical. -/
theorem canonical_parseAll {rows : List Json} {segments : List SavedSegment}
    (read : parseAll "SavedSegment" SavedSegment.read rows = .ok segments) :
    ∀ segment ∈ segments, segment.ast.Canonical := by
  induction rows generalizing segments with
  | nil =>
      cases read
      simp
  | cons row rest ih =>
      obtain ⟨first, readFirst, others, readOthers, rfl⟩ := by
        simpa only [parseAll, Filter.bind_eq_ok, pure, Except.pure,
          Except.ok.injEq] using read
      intro segment member
      obtain rfl | later := List.mem_cons.mp member
      · exact SavedSegment.canonical_read (parse_eq_ok.mp readFirst)
      · exact ih readOthers segment later

/-- A request and what is made of its answer are quiet. -/
theorem makes_asking {α : Type} {rest : Json → Flow Registry α}
    {ends : Except Fault (Outcome α) → Prop} (method path : String)
    (body : Option Json) (missing : Option (String × String))
    (failed : ∀ fault, ends (Flow.guarded (.error fault)))
    (answered : ∀ json later, (rest json).Makes Quiet
      (fun result => ends (Flow.guarded result)) later) (now : Registry) :
    (Flow.guard ((request method path body missing).bind rest)).Makes Quiet
      ends now := by
  apply Flow.Makes.guard
  apply Flow.Makes.bind
  apply (makes_request method path body missing now).mono
  intro result _
  obtain fault | json := result
  · exact failed fault
  · exact answered json

/-- What is asked of an event is quiet. -/
theorem makes_ofEvent {α : Type} {event suffix : String}
    {rest : String → Flow Registry α}
    {ends : Except Fault (Outcome α) → Prop} {now : Registry}
    (unnamed : ends (.ok (.error noEvent)))
    (named : ∀ path, (Flow.guard (rest path)).Makes Quiet ends now) :
    (Flow.guard ((eventPath (some event) suffix).bind rest)).Makes Quiet
      ends now := by
  unfold eventPath
  cases Registry.nonempty? (some event) with
  | none => exact unnamed
  | some name => exact named _

/-- Listing saved segments is quiet, and brings canonical trees. -/
theorem makes_listSaved (event : String) (now : Registry) :
    (listSaved (some event)).Makes Quiet (fun result =>
      ∀ segments, result = .ok (.ok segments) →
        ∀ segment ∈ segments, segment.ast.Canonical) now := by
  apply makes_ofEvent (by simp)
  intro path
  apply makes_asking
  · intro fault
    cases fault <;> simp [Flow.guarded]
  · intro json later
    apply Flow.Makes.bind
    cases read : savedRows json with
    | error misuse => simp [Flow.ofNormal, Flow.Makes, Flow.guarded]
    | ok rows =>
        intro _
        apply Flow.makes_ofResult.mpr
        intro segments same
        cases parsed : parseAll "SavedSegment" SavedSegment.read rows with
        | error fault =>
            rw [parsed] at same
            cases fault <;> simp [Flow.guarded] at same
        | ok found =>
            rw [parsed] at same
            cases same
            exact canonical_parseAll parsed

/-- The saved segment in an answer has a canonical tree. -/
theorem makes_savedRow (json : Json) (now : Registry) :
    (savedRow json).Makes Quiet (fun result =>
      ∀ segment, result = .ok segment → segment.ast.Canonical) now := by
  apply Flow.Makes.bind
  cases member "savedSegment" json with
  | error misuse => simp [Flow.ofNormal, Flow.Makes]
  | ok row =>
      intro _
      apply Flow.makes_ofResult.mpr
      intro segment found
      exact SavedSegment.canonical_read (parse_eq_ok.mp found)

/-- Changing a saved segment is quiet, and brings a canonical tree. -/
theorem makes_updateSaved (event segment : String) (patch : SavedSegment.Patch)
    (now : Registry) :
    (updateSaved (some event) segment patch).Makes Quiet (fun result =>
      ∀ saved, result = .ok (.ok saved) → saved.ast.Canonical) now := by
  apply makes_ofEvent (by simp)
  intro path
  apply makes_asking
  · intro fault
    cases fault <;> simp [Flow.guarded]
  · intro json later
    apply (makes_savedRow json later).mono
    intro result canonical saved same
    obtain fault | found := result
    · cases fault <;> simp [Flow.guarded] at same
    · cases same
      exact canonical _ rfl

/-- The saved segment in an answer, or why there is none. -/
def readSavedRow (json : Json) : Except Fault SavedSegment :=
  match member "savedSegment" json with
  | .error misuse => .error (.misuse misuse)
  | .ok row => parse "SavedSegment" SavedSegment.read row

theorem savedRow_eq (json : Json) :
    savedRow json = .ofResult (readSavedRow json) := by
  show (Flow.ofNormal (member "savedSegment" json)).bind _ = _
  unfold readSavedRow
  cases member "savedSegment" json <;> rfl

/-- The saved segments in an answer, or why there are none. -/
def readSavedRows (json : Json) : Except Fault (List SavedSegment) :=
  match savedRows json with
  | .error misuse => .error (.misuse misuse)
  | .ok rows => parseAll "SavedSegment" SavedSegment.read rows

theorem listSaved_eq (event : Option String) :
    listSaved event = Flow.guard ((eventPath event "saved-segments").bind
      fun path => (request "GET" path none none).bind fun json =>
        .ofResult (readSavedRows json)) := by
  have rows (json : Json) : ((Flow.ofNormal (savedRows json)).bind fun rows =>
      .ofResult (parseAll "SavedSegment" SavedSegment.read rows) :
        Flow Registry (List SavedSegment)) =
          .ofResult (readSavedRows json) := by
    unfold readSavedRows
    cases savedRows json <;> rfl
  simp only [← rows]
  rfl

/-- The title in an answer, or why there is none. -/
def readTitle (json : Json) : Except Fault String :=
  match member "title" json with
  | .error misuse => .error (.misuse misuse)
  | .ok title =>
      if Title.ofJson title = "" then .error (.problem noTitle)
      else .ok (Title.ofJson title)

theorem suggestTitle_eq (event : Option String) (prompt : String)
    (ast : Option Filter.Root) :
    suggestTitle event prompt ast =
      Flow.guard ((eventPath event "saved-segments/suggest-title").bind
        fun path =>
          (request "POST" path (some (titleBody prompt ast)) none).bind
            fun json => .ofResult (readTitle json)) := by
  have title (json : Json) :
      ((Flow.ofNormal (member "title" json)).bind fun title =>
        if Title.ofJson title = "" then Flow.refuse noTitle
        else .done (Title.ofJson title) : Flow Registry String) =
          .ofResult (readTitle json) := by
    unfold readTitle
    cases member "title" json with
    | error misuse => rfl
    | ok title =>
        show (if _ then _ else _) = Flow.ofResult (if _ then _ else _)
        split <;> rfl
  simp only [← title]
  rfl

section Opening

/-- What is asked of an event changes nothing but that the client is opened, if
what is done with the path does. -/
theorem opens_ofEvent {α : Type} {event suffix : String}
    {rest : String → Flow Registry α} {now : Registry}
    (named : ∀ path, (rest path).Makes
      (fun before after => after = before.opened) (fun _ => True) now) :
    (Flow.guard ((eventPath (some event) suffix).bind rest)).Makes
      (fun before after => after = before.opened) (fun _ => True) now := by
  apply Flow.Makes.guard
  unfold eventPath
  cases Registry.nonempty? (some event) with
  | none => trivial
  | some name => exact named _

/-- A request whose answer is looked at changes nothing else either. -/
theorem opens_asking {α : Type} {read : Json → Except Fault α}
    (method path : String) (body : Option Json) (now : Registry) :
    ((request method path body none).bind fun json =>
      .ofResult (read json)).Makes (fun before after => after = before.opened)
        (fun _ => True) now :=
  Flow.Makes.andThen (opens_request method path body none now)
    fun _ _ => Flow.makes_ofResult.mpr trivial

theorem opens_listSaved (event : String) (now : Registry) :
    (listSaved (some event)).Makes (fun before after => after = before.opened)
      (fun _ => True) now := by
  apply opens_ofEvent
  intro path
  apply Flow.Makes.andThen (opens_request _ _ _ _ now)
  intro json later
  apply Flow.Makes.bind
  cases savedRows json with
  | error misuse => trivial
  | ok rows => exact fun _ => Flow.makes_ofResult.mpr trivial

theorem opens_runSegment (event : String) (filter : Option Filter.Node)
    (debug : Bool) (page : Option Page) (now : Registry) :
    (runSegment (some event) filter debug page).Makes
      (fun before after => after = before.opened) (fun _ => True) now := by
  apply opens_ofEvent
  intro path
  cases filter with
  | none => trivial
  | some node => exact opens_asking _ _ _ now

theorem opens_generate (event prompt : String) (generation : Generation)
    (now : Registry) :
    (generate (some event) prompt generation).Makes
      (fun before after => after = before.opened) (fun _ => True) now := by
  unfold generate
  split
  · trivial
  · exact opens_ofEvent fun path => opens_asking _ _ _ now

theorem opens_updateSaved (event segment : String)
    (patch : SavedSegment.Patch) (now : Registry) :
    (updateSaved (some event) segment patch).Makes
      (fun before after => after = before.opened) (fun _ => True) now := by
  apply opens_ofEvent
  intro path
  apply Flow.Makes.andThen (opens_request _ _ _ _ now)
  intro json later
  rw [savedRow_eq]
  exact Flow.makes_ofResult.mpr trivial

theorem opens_markUsed (event segment : String) (now : Registry) :
    (markUsed (some event) segment).Makes
      (fun before after => after = before.opened) (fun _ => True) now :=
  opens_updateSaved event segment (.ofLastUsed now.now) now

theorem opens_createSaved (event prompt : String) (ast : Filter.Root)
    (title : String) (favorite : Bool) (now : Registry) :
    (createSaved (some event) prompt ast title favorite).Makes
      (fun before after => after = before.opened) (fun _ => True) now := by
  apply opens_ofEvent
  intro path
  apply Flow.Makes.andThen (opens_request _ _ _ _ now)
  intro json later
  rw [savedRow_eq]
  exact Flow.makes_ofResult.mpr trivial

theorem opens_suggestTitle (event prompt : String) (ast : Option Filter.Root)
    (now : Registry) :
    (suggestTitle (some event) prompt ast).Makes
      (fun before after => after = before.opened) (fun _ => True) now := by
  apply opens_ofEvent
  intro path
  apply Flow.Makes.andThen (opens_request _ _ _ _ now)
  intro json later
  apply Flow.Makes.bind
  cases member "title" json with
  | error misuse => trivial
  | ok title =>
      intro _
      dsimp only
      split <;> trivial

end Opening

section Quietly

variable {α : Type} {flow : Flow Registry α} {now : Registry}

/-- Opening the client is quiet. -/
theorem quiet_of_opens (opens : flow.Makes
    (fun before after => after = before.opened) (fun _ => True) now) :
    flow.Makes Quiet (fun _ => True) now :=
  opens.relax fun _ _ same => same ▸ .of_engines rfl

theorem makes_markUsed (event segment : String) (now : Registry) :
    (markUsed (some event) segment).Makes Quiet (fun _ => True) now :=
  quiet_of_opens (opens_markUsed event segment now)

theorem makes_createSaved (event prompt : String) (ast : Filter.Root)
    (title : String) (favorite : Bool) (now : Registry) :
    (createSaved (some event) prompt ast title favorite).Makes Quiet
      (fun _ => True) now :=
  quiet_of_opens (opens_createSaved event prompt ast title favorite now)

end Quietly

section Sending

/-- A request sends calls with its method only. -/
theorem sends_request (method path : String) (body : Option Json)
    (missing : Option (String × String)) :
    (request method path body missing).Sends
      fun call => call.method = Text.upper method := by
  rw [request_eq]
  simp only [Flow.Sends]
  intro registry
  cases registry.client.ensureOpen with
  | error misuse => trivial
  | ok client =>
      intro later
      cases made : client.call method path body with
      | error misuse => trivial
      | ok call =>
          exact ⟨(parts_of_call made).1, fun reply => Flow.sends_ofResult _⟩

theorem sends_ofEvent {α : Type} {sendable : Call → Prop}
    {event : Option String} {suffix : String} {rest : String → Flow Registry α}
    (named : ∀ path, (rest path).Sends sendable) :
    (Flow.guard ((eventPath event suffix).bind rest)).Sends sendable := by
  apply Flow.Sends.guard
  unfold eventPath
  cases Registry.nonempty? event with
  | none => trivial
  | some name => exact named _

/-- Listing saved segments sends a `GET`. -/
theorem sends_listSaved (event : Option String) :
    (listSaved event).Sends fun call => call.method = Text.upper "GET" := by
  apply sends_ofEvent
  intro path
  apply (sends_request "GET" path none none).bind
  intro json
  apply Flow.Sends.bind
  · cases savedRows json <;> trivial
  · exact fun rows => Flow.sends_ofResult _

/-- Running a filter sends a `POST`. -/
theorem sends_runSegment (event : Option String) (filter : Option Filter.Node)
    (debug : Bool) (page : Option Page) :
    (runSegment event filter debug page).Sends
      fun call => call.method = Text.upper "POST" := by
  apply sends_ofEvent
  intro path
  cases filter with
  | none => trivial
  | some node =>
      exact (sends_request "POST" path _ none).bind
        fun json => Flow.sends_ofResult _

theorem canonical_readSavedRow {json : Json} {saved : SavedSegment}
    (read : readSavedRow json = .ok saved) : saved.ast.Canonical := by
  unfold readSavedRow at read
  cases found : member "savedSegment" json with
  | error misuse =>
      rw [found] at read
      cases read
  | ok row =>
      rw [found] at read
      exact SavedSegment.canonical_read (parse_eq_ok.mp read)

/-- Changing a saved segment sends a `PATCH`. -/
theorem sends_updateSaved (event : Option String) (segment : String)
    (patch : SavedSegment.Patch) :
    (updateSaved event segment patch).Sends
      fun call => call.method = Text.upper "PATCH" := by
  apply sends_ofEvent
  intro path
  apply (sends_request "PATCH" path _ _).bind
  intro json
  rw [savedRow_eq]
  exact Flow.sends_ofResult _

theorem sends_markUsed (event : Option String) (segment : String) :
    (markUsed event segment).Sends
      fun call => call.method = Text.upper "PATCH" :=
  fun _ => sends_updateSaved event segment _

/-- Turning a prompt into a segment sends a `POST`. -/
theorem sends_generate (event : Option String) (prompt : String)
    (generation : Generation) :
    (generate event prompt generation).Sends
      fun call => call.method = Text.upper "POST" := by
  unfold generate
  split
  · trivial
  · apply sends_ofEvent
    intro path registry
    exact (sends_request "POST" path _ none).bind fun json =>
      Flow.sends_ofResult _

/-- So does saving a segment. -/
theorem sends_createSaved (event : Option String) (prompt : String)
    (ast : Filter.Root) (title : String) (favorite : Bool) :
    (createSaved event prompt ast title favorite).Sends
      fun call => call.method = Text.upper "POST" := by
  apply sends_ofEvent
  intro path
  apply (sends_request "POST" path _ none).bind
  intro json
  rw [savedRow_eq]
  exact Flow.sends_ofResult _

/-- Asking for a title sends a `POST`. -/
theorem sends_suggestTitle (event : Option String) (prompt : String)
    (ast : Option Filter.Root) :
    (suggestTitle event prompt ast).Sends
      fun call => call.method = Text.upper "POST" := by
  apply sends_ofEvent
  intro path
  apply (sends_request "POST" path _ none).bind
  intro json
  apply Flow.Sends.bind
  · cases member "title" json <;> trivial
  · intro title
    dsimp only
    split <;> trivial

end Sending

section Replies

/-- A reply to a call with the given method, path and body was delivered, and
the call was answered with the given value. -/
def Replied (world : World Registry) (method path : String) (body : Option Json)
    (json : Json) : Prop :=
  ∃ number reply registry call,
    world.sent[number]? = some (registry, call) ∧
      registry.client.call method path body = .ok call ∧
      (number, reply) ∈ world.delivered ∧ ended none reply = .ok json

/-- The same of a call that was sent in the given state. -/
def Answered (world : World Registry) (asked : Registry) (method path : String)
    (body : Option Json) (json : Json) : Prop :=
  ∃ number reply call,
    world.sent[number]? = some (asked, call) ∧
      asked.client.call method path body = .ok call ∧
      (number, reply) ∈ world.delivered ∧ ended none reply = .ok json

theorem Answered.replied {world : World Registry} {asked : Registry}
    {method path : String} {body : Option Json} {json : Json}
    (answered : Answered world asked method path body json) :
    Replied world method path body json := by
  obtain ⟨number, reply, call, sent, made, delivered, same⟩ := answered
  exact ⟨number, reply, asked, call, sent, made, delivered, same⟩

/-- What was answered stays answered. -/
theorem Answered.mono {world later : World Registry} {asked : Registry}
    {method path : String} {body : Option Json} {json : Json}
    (answered : Answered world asked method path body json)
    (grown : later.Extends world) :
    Answered later asked method path body json := by
  obtain ⟨number, reply, call, sent, made, delivered, same⟩ := answered
  exact ⟨number, reply, call, grown.getElem? sent, made,
    grown.delivered.subset delivered, same⟩

/-- What was delivered stays delivered. -/
theorem Replied.mono {world later : World Registry} {method path : String}
    {body : Option Json} {json : Json}
    (replied : Replied world method path body json)
    (grown : later.Extends world) : Replied later method path body json := by
  obtain ⟨number, reply, registry, call, sent, made, delivered, same⟩ := replied
  exact ⟨number, reply, registry, call, grown.getElem? sent, made,
    grown.delivered.subset delivered, same⟩

variable {contract : Contract Registry} {sendable : Call → Prop}
variable {start : Registry} {now : World Registry}

/-- A request is answered by a reply that was delivered. -/
theorem upholds_answered (tolerates : contract.Tolerates Quiet sendable)
    (turn : contract.Turn start now) (method path : String)
    (body : Option Json) (missing : Option (String × String))
    (fit : ∀ call, call.method = Text.upper method → sendable call) :
    (request method path body missing).Upholds contract
      (fun result began ended => contract.Passed now began ended ∧
        ∀ json, result = .ok json →
          Answered ended now.state.opened method path body json)
      start now := by
  have opened := tolerates.update turn (Registry.quiet_opened)
  apply upholds_request (contract.change_of_moves opened.moved)
  · exact fun misuse => ⟨.refl turn, by simp⟩
  · exact fun misuse => ⟨opened, by simp⟩
  · intro call made
    have fits := fit call (parts_of_call made).1
    refine ⟨⟨tolerates.send _ _ fits opened.inv, opened.began⟩, ?_⟩
    intro reply later known moved
    apply Flow.upholds_ofResult.mpr
    refine ⟨⟨tolerates.deliver _ _ _ moved.inv, contract.moves_refl _, ?_, ?_⟩,
      ?_⟩
    · exact (World.Extends.of_deliver _ _ _).trans
        (moved.grown.trans ((World.Extends.of_send _ _).trans opened.grown))
    · exact contract.moves_trans opened.moved moved.moved
    · intro json answered
      refine ⟨_, reply, call, moved.grown.getElem? (World.getElem?_send _ _),
        made, ?_, ended_eq_ok answered⟩
      exact List.mem_append_right _ (List.mem_singleton_self _)

/-- A request whose answer is read is answered by a reply that was delivered. -/
theorem upholds_asking_answered {α : Type}
    (tolerates : contract.Tolerates Quiet sendable)
    (turn : contract.Turn start now) (method path : String)
    (body : Option Json) (missing : Option (String × String))
    (read : Json → Except Fault α)
    (fit : ∀ call, call.method = Text.upper method → sendable call) :
    (Flow.guard ((request method path body missing).bind fun json =>
      .ofResult (read json))).Upholds contract (fun result began ended =>
        contract.Passed now began ended ∧
          ∀ value, result = .ok (.ok value) →
            ∃ json, Answered ended now.state.opened method path body json ∧
              read json = .ok value) start now := by
  rw [Flow.upholds_guard, Flow.upholds_bind]
  apply (upholds_answered tolerates turn method path body missing fit).mono
  intro result began ended ⟨passed, answered⟩
  obtain fault | json := result
  · exact ⟨passed, fun value same => by cases fault <;> cases same⟩
  · apply Flow.upholds_ofResult.mpr
    refine ⟨passed, fun value same => ⟨json, answered json rfl, ?_⟩⟩
    cases found : read json with
    | error fault =>
        rw [found] at same
        cases fault <;> cases same
    | ok other =>
        rw [found] at same
        cases same
        rfl

/-- Results of a filter come from a reply to its run, which was sent in the
state in which it was asked for. -/
theorem upholds_runSegment_answered
    (tolerates : contract.Tolerates Quiet sendable)
    (turn : contract.Turn start now) (event : String)
    (filter : Option Filter.Node) (debug : Bool) (page : Option Page)
    (fit : ∀ call, call.method = Text.upper "POST" → sendable call) :
    (runSegment (some event) filter debug page).Upholds contract
      (fun result began ended => contract.Passed now began ended ∧
        ∀ results, result = .ok (.ok results) → ∃ node json,
          filter = some node ∧
          Answered ended now.state.opened "POST" (pathOf event "segments")
            (some (runBody node debug page)) json ∧
          Results.read json = .value results) start now := by
  unfold runSegment eventPath
  cases named : Registry.nonempty? (some event) with
  | none => exact ⟨.refl turn, by simp⟩
  | some name =>
      have same := Registry.eq_of_nonempty? named
      subst same
      cases filter with
      | none => exact ⟨.refl turn, by simp⟩
      | some node =>
          apply (upholds_asking_answered tolerates turn "POST" _ _ _ _ fit).mono
          intro result began ended ⟨passed, answered⟩
          refine ⟨passed, fun results same => ?_⟩
          obtain ⟨json, found, read⟩ := answered results same
          exact ⟨node, json, rfl, found, parse_eq_ok.mp read⟩

/-- Results of a filter come from a reply to its run. -/
theorem upholds_runSegment_replied (permits : contract.Permits Quiet)
    (turn : contract.Turn start now) (event : String)
    (filter : Option Filter.Node) (debug : Bool) (page : Option Page) :
    (runSegment (some event) filter debug page).Upholds contract
      (fun result began ended => contract.Passed now began ended ∧
        ∀ results, result = .ok (.ok results) → ∃ node json,
          filter = some node ∧
          Replied ended "POST" (pathOf event "segments")
            (some (runBody node debug page)) json ∧
          Results.read json = .value results) start now := by
  apply (upholds_runSegment_answered
    (permits.tolerates : contract.Tolerates Quiet fun _ => True) turn event
    filter debug page fun _ _ => trivial).mono
  intro result began ended ⟨passed, answered⟩
  refine ⟨passed, fun results same => ?_⟩
  obtain ⟨node, json, given, found, read⟩ := answered results same
  exact ⟨node, json, given, found.replied, read⟩

/-- A generated segment comes from a reply to its prompt. -/
theorem upholds_generate_answered
    (tolerates : contract.Tolerates Quiet sendable)
    (turn : contract.Turn start now) (event prompt : String)
    (generation : Generation)
    (fit : ∀ call, call.method = Text.upper "POST" → sendable call) :
    (generate (some event) prompt generation).Upholds contract
      (fun result began ended => contract.Passed now began ended ∧
        ∀ generated, result = .ok (.ok generated) → ∃ body json,
          Replied ended "POST" (pathOf event "segments/generative")
            (some body) json ∧
          Generated.read json = .value generated) start now := by
  unfold generate
  split
  · exact ⟨.refl turn, by simp⟩
  unfold eventPath
  cases named : Registry.nonempty? (some event) with
  | none => exact ⟨.refl turn, by simp⟩
  | some name =>
      have same := Registry.eq_of_nonempty? named
      subst same
      apply (upholds_asking_answered tolerates turn "POST" _ _ _ _ fit).mono
      intro result began ended ⟨passed, answered⟩
      refine ⟨passed, fun generated same => ?_⟩
      obtain ⟨json, found, read⟩ := answered generated same
      exact ⟨_, json, found.replied, parse_eq_ok.mp read⟩

theorem upholds_generate_replied (permits : contract.Permits Quiet)
    (turn : contract.Turn start now) (event prompt : String)
    (generation : Generation) :
    (generate (some event) prompt generation).Upholds contract
      (fun result began ended => contract.Passed now began ended ∧
        ∀ generated, result = .ok (.ok generated) → ∃ body json,
          Replied ended "POST" (pathOf event "segments/generative")
            (some body) json ∧
          Generated.read json = .value generated) start now :=
  upholds_generate_answered
    (permits.tolerates : contract.Tolerates Quiet fun _ => True) turn event
    prompt generation fun _ _ => trivial

/-- A segment that was saved comes from a reply to its creation. -/
theorem upholds_createSaved_answered
    (tolerates : contract.Tolerates Quiet sendable)
    (turn : contract.Turn start now) (event prompt : String)
    (ast : Filter.Root) (title : String) (favorite : Bool)
    (fit : ∀ call, call.method = Text.upper "POST" → sendable call) :
    (createSaved (some event) prompt ast title favorite).Upholds contract
      (fun result began ended => contract.Passed now began ended ∧
        ∀ saved, result = .ok (.ok saved) → ∃ json,
          Replied ended "POST" (pathOf event "saved-segments")
            (some (createBody prompt ast title favorite)) json ∧
          readSavedRow json = .ok saved) start now := by
  unfold createSaved eventPath
  cases named : Registry.nonempty? (some event) with
  | none => exact ⟨.refl turn, by simp⟩
  | some name =>
      have same := Registry.eq_of_nonempty? named
      subst same
      simp only [savedRow_eq]
      apply (upholds_asking_answered tolerates turn "POST" _ _ _ _ fit).mono
      intro result began ended ⟨passed, answered⟩
      refine ⟨passed, fun saved same => ?_⟩
      obtain ⟨json, found, read⟩ := answered saved same
      exact ⟨json, found.replied, read⟩

/-- A segment that was changed comes from a reply to its change, which was sent
in the state in which it was asked for. -/
theorem upholds_updateSaved_answered
    (tolerates : contract.Tolerates Quiet sendable)
    (turn : contract.Turn start now) (event segment : String)
    (patch : SavedSegment.Patch)
    (fit : ∀ call, call.method = Text.upper "PATCH" → sendable call) :
    (updateSaved (some event) segment patch).Upholds contract
      (fun result began ended => contract.Passed now began ended ∧
        ∀ saved, result = .ok (.ok saved) → ∃ json,
          Answered ended now.state.opened "PATCH"
            (pathOf event (segmentSuffix segment)) (some patch.toJson) json ∧
          readSavedRow json = .ok saved) start now := by
  unfold updateSaved sendPatch eventPath
  cases named : Registry.nonempty? (some event) with
  | none => exact ⟨.refl turn, by simp⟩
  | some name =>
      have same := Registry.eq_of_nonempty? named
      subst same
      simp only [savedRow_eq]
      exact upholds_asking_answered tolerates turn "PATCH" _ _ _ _ fit

end Replies

end Client
end Audience
