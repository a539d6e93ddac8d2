import Audience.Json.Writer
import Audience.Proofs.Engine.Rows
import Audience.Proofs.Engine.Showing

/-!
# A generated segment is shown

Once a segment was generated from a prompt, it is saved, titled and brought on
screen, whatever becomes of saving and titling it: what fails is left out.  Only
what cannot be sent or read stops it.
-/

namespace Audience
namespace Generating

open Engine

/-! ## Saving and titling -/

/-- The title that comes of a suggestion and of the reply to it. -/
def titled (suggestion : String) :
    Except Fault (Outcome SavedSegment) → Except Fault String
  | .ok (.ok saved) =>
      .ok (if saved.title = "" then suggestion else saved.title)
  | .ok (.error _) => .ok suggestion
  | .error fault => .error fault

/-- What is said while a saved segment is titled, and the title. -/
inductive Titles (client : Client) (event segment prompt : String)
    (root : Filter.Root) : List (Call × Reply) → Except Fault String → Prop where
  | stopped {said : List (Call × Reply)} {fault : Fault}
      (suggesting : Client.Suggesting client (some event) prompt root said
        (.error fault)) :
      Titles client event segment prompt root said (.error fault)
  | unsuggested {said : List (Call × Reply)} {problem : Problem}
      (suggesting : Client.Suggesting client (some event) prompt root said
        (.ok (.error problem))) :
      Titles client event segment prompt root said (.ok "")
  | suggested {said more : List (Call × Reply)} {suggestion : String}
      {updated : Except Fault (Outcome SavedSegment)}
      (suggesting : Client.Suggesting client (some event) prompt root said
        (.ok (.ok suggestion)))
      (updating : Client.Updating client (some event) segment
        (.ofTitle suggestion) more updated) :
      Titles client event segment prompt root (said ++ more)
        (titled suggestion updated)

/-- What is said while a generated segment is saved, and the identifier and the
title that it gets. -/
inductive Saves (client : Client) (event prompt title : String)
    (root : Filter.Root) :
    List (Call × Reply) → Except Fault (Option String × String) → Prop where
  | stopped {said : List (Call × Reply)} {fault : Fault}
      (creating : Client.Creating client (some event) prompt title root said
        (.error fault)) :
      Saves client event prompt title root said (.error fault)
  | uncreated {said : List (Call × Reply)} {problem : Problem}
      (creating : Client.Creating client (some event) prompt title root said
        (.ok (.error problem))) :
      Saves client event prompt title root said (.ok (none, title))
  | titled {said : List (Call × Reply)} {saved : SavedSegment}
      (creating : Client.Creating client (some event) prompt title root said
        (.ok (.ok saved)))
      (given : title ≠ "") :
      Saves client event prompt title root said (.ok (some saved.id, title))
  | untitled {said more : List (Call × Reply)} {saved : SavedSegment}
      {suggested : Except Fault String}
      (creating : Client.Creating client (some event) prompt title root said
        (.ok (.ok saved)))
      (blank : title = "")
      (titling : Titles client event saved.id prompt root more suggested) :
      Saves client event prompt title root (said ++ more)
        (suggested.map fun title => (some saved.id, title))

/-- What keeps a generated segment from being saved or titled, other than a
problem. -/
inductive Hindered (client : Client) (event prompt title : String)
    (root : Filter.Root) : List (Call × Reply) → Prop where
  | creating {said : List (Call × Reply)}
      (unanswered : Client.Unanswered client (some event) "saved-segments"
        (some (Client.createBody prompt root title false)) none
        Client.HasPlainRow said) :
      Hindered client event prompt title root said
  | suggesting {said more : List (Call × Reply)} {saved : SavedSegment}
      (creating : Client.Creating client (some event) prompt title root said
        (.ok (.ok saved)))
      (unanswered : Client.Unanswered client (some event)
        "saved-segments/suggest-title"
        (some (Client.titleBody prompt (some root))) none Client.HasMembers
        more) :
      Hindered client event prompt title root (said ++ more)
  | updating {said more last : List (Call × Reply)} {saved : SavedSegment}
      {suggestion : String}
      (creating : Client.Creating client (some event) prompt title root said
        (.ok (.ok saved)))
      (suggesting : Client.Suggesting client (some event) prompt root more
        (.ok (.ok suggestion)))
      (unanswered : Client.Unanswered client (some event)
        (Client.segmentSuffix saved.id)
        (some (SavedSegment.Patch.ofTitle suggestion).toJson)
        (some (Client.savedResource, saved.id)) Client.HasPlainRow last) :
      Hindered client event prompt title root (said ++ (more ++ last))

/-- Nothing else does. -/
theorem Saves.hindered {client : Client} {event prompt title : String}
    {root : Filter.Root} {said : List (Call × Reply)} {fault : Fault}
    (saves : Saves client event prompt title root said (.error fault)) :
    Hindered client event prompt title root said := by
  generalize ended : Except.error fault = result at saves
  cases saves with
  | stopped creating =>
      exact .creating (creating.stopped Client.settledIff_readSavedRow)
  | uncreated creating => cases ended
  | titled creating given => cases ended
  | untitled creating blank titling =>
      cases titling with
      | stopped suggesting =>
          exact .suggesting creating
            (suggesting.stopped Client.settledIff_readTitle)
      | unsuggested suggesting => cases ended
      | @suggested _ _ _ updated suggesting updating =>
          obtain fault | problem | saved := updated
          · exact .updating creating suggesting
              (updating.stopped Client.settledIff_readSavedRow)
          · cases ended
          · cases ended

section Saving

variable {id : EngineId} {start : Registry} {course : Course Registry}
variable {prompt title : String} {root : Filter.Root}

theorem solo_titleSaved {segment : String}
    {ends : Except Fault String → Course Registry → Prop}
    (steady : Steady id start course.state)
    (ended : ∀ said result later,
      Titles start.client (start.engine id).event segment prompt root said
        result →
      later.log = course.log ++ said → Steady id start later.state →
        ends result later) :
    (titleSaved id segment prompt root).Solo .any ends course := by
  have event := steady.event
  show (Flow.bind (Client.suggestTitle (some (course.state.engine id).event)
    prompt (some root)) _).Solo .any ends course
  rw [event]
  apply Flow.solo_bind.mpr
  apply Client.solo_suggestTitle trivial
  intro result later asked
  obtain ⟨said, logged, suggesting⟩ := steady.said asked
  have steady := steady.asked asked
  obtain fault | problem | suggestion := result
  · exact ended _ _ _ (.stopped suggesting) logged steady
  · exact ended _ _ _ (.unsuggested suggesting) logged steady
  · show (Flow.bind (Client.updateSaved (some (course.state.engine id).event)
      segment (.ofTitle suggestion)) _).Solo .any ends later
    rw [event]
    apply Flow.solo_bind.mpr
    apply Client.solo_updateSaved trivial
    intro result last asked
    obtain ⟨more, logged', updating⟩ := steady.said asked
    have told := ended _ _ last (.suggested suggesting updating)
      (by rw [logged', logged, List.append_assoc]) (steady.asked asked)
    obtain fault | problem | saved := result
    · exact told
    · exact told
    · dsimp only
      split
      case isTrue none =>
        rw [titled, if_pos none] at told
        exact told
      case isFalse given =>
        rw [titled, if_neg given] at told
        exact told

theorem solo_saveGenerated
    {ends : Except Fault (Option String × String) → Course Registry → Prop}
    (steady : Steady id start course.state)
    (ended : ∀ said result later,
      Saves start.client (start.engine id).event prompt title root said
        result →
      later.log = course.log ++ said → Steady id start later.state →
        ends result later) :
    (saveGenerated id prompt title root).Solo .any ends course := by
  show (Flow.bind (Client.createSaved (some (course.state.engine id).event)
    prompt root title false) _).Solo .any ends course
  rw [steady.event]
  apply Flow.solo_bind.mpr
  apply Client.solo_createSaved trivial
  intro result later asked
  obtain ⟨said, logged, creating⟩ := steady.said asked
  have steady := steady.asked asked
  obtain fault | problem | saved := result
  · exact ended _ _ _ (.stopped creating) logged steady
  · exact ended _ _ _ (.uncreated creating) logged steady
  · refine ⟨trivial, ?_⟩
    show Flow.Solo _ _ (if title = "" then _ else _) _
    split
    case isFalse given =>
      exact ended _ _ _ (.titled creating given) logged steady.dropped
    case isTrue blank =>
      apply Flow.solo_bind.mpr
      apply solo_titleSaved steady.dropped
      intro more result last titling logged' steady'
      have told := ended _ _ last (.untitled creating blank titling)
        (by rw [logged', logged, List.append_assoc]) steady'
      cases result <;> exact told

end Saving

/-! ## Showing -/

/-- The change that shows a generated segment, with the identifier and the title
that it got. -/
def showing (prompt : String) (generated : Generated)
    (made : Option String × String) : Engine.Change :=
  { results := some (some generated.results)
    savedId := some made.1
    ast := some (some generated.segment.toJson)
    title := some (some made.2)
    prompt := some (some prompt) }

/-- The block that is stored for it. -/
def blockOf (generated : Generated) (made : Option String × String) : AiBlock :=
  { enabled := true
    savedSegmentId := Registry.nonempty? made.1
    ast := some generated.segment.toJson
    title := made.2 }

/-- It is on screen. -/
def OnScreen (prompt : String) (generated : Generated)
    (made : Option String × String) (state : AiState) : Prop :=
  ∃ persistedTitle, state =
    { results := some generated.results
      savedId := Registry.nonempty? made.1
      prompt
      ast := some generated.segment
      savedTitle := made.2
      persistedTitle }

theorem root_showing {prompt : String} {generated : Generated}
    {made : Option String × String} (canonical : generated.segment.Canonical) :
    (showing prompt generated made).root =
      .ok (some (some generated.segment)) := by
  simp [Change.root, showing, Filter.Root.ofJson_toJson canonical,
    pure, bind, Except.pure, Except.bind]

theorem block_showing (prompt : String) (generated : Generated)
    (made : Option String × String) (prior : AiBlock) :
    (showing prompt generated made).block (some (some generated.segment))
      prior = blockOf generated made := by
  simp [Change.block, showing, blockOf, Filter.Root.toJson, Json.isFull]

/-- It stays there while nothing but quiet happens. -/
theorem onScreen_of_quiet {id : EngineId} {registry later : Registry}
    {prompt : String} {generated : Generated} {made : Option String × String}
    (has : registry.Has id)
    (quiet : ((showing prompt generated made).shown id
      (some (some generated.segment)) registry).Quiet later) :
    OnScreen prompt generated made (later.engine id).state := by
  obtain ⟨persistedTitle, same⟩ := Change.state_of_quiet has quiet
  exact ⟨persistedTitle, by rw [same]; rfl⟩

/-- What is said when an engine asks for a segment. -/
abbrev Asks (id : EngineId) (start : Registry) (prompt : String)
    (debug : Bool) :
    List (Call × Reply) → Except Fault (Outcome Generated) → Prop :=
  Client.Asking start.client start.settings (some (start.engine id).event)
    prompt { temperature := none, includeContext := none, debug }

/-- What is said while a segment is generated, how that ends, and the state that
it leaves. -/
inductive Generates (id : EngineId) (start : Registry) (prompt title : String)
    (debug : Bool) : List (Call × Reply) → Except Fault (Outcome Unit) →
      Registry → Prop where
  | blank {later : Registry} (blank : Text.isBlankText prompt = true)
      (steady : Steady id start later) :
      Generates id start prompt title debug []
        (.ok (.error (.emptyPrompt Problem.blankPromptDetail))) later
  | stopped {said : List (Call × Reply)} {fault : Fault} {later : Registry}
      (asking : Asks id start prompt debug said (.error fault))
      (steady : Steady id start later) :
      Generates id start prompt title debug said (.error fault) later
  | failed {said : List (Call × Reply)} {problem : Problem} {later : Registry}
      (asking : Asks id start prompt debug said (.ok (.error problem)))
      (steady : Steady id start later) :
      Generates id start prompt title debug said (.ok (.error problem)) later
  | unsaved {said more : List (Call × Reply)} {generated : Generated}
      {fault : Fault} {later : Registry}
      (asking : Asks id start prompt debug said (.ok (.ok generated)))
      (saving : Saves start.client (start.engine id).event prompt
        (Text.trimmed title) generated.segment more (.error fault))
      (steady : Steady id start later) :
      Generates id start prompt title debug (said ++ more) (.error fault) later
  | shown {said more writing : List (Call × Reply)} {generated : Generated}
      {made : Option String × String}
      {written : Except Fault (Outcome Document)} {later : Registry}
      (asking : Asks id start prompt debug said (.ok (.ok generated)))
      (saving : Saves start.client (start.engine id).event prompt
        (Text.trimmed title) generated.segment more (.ok made))
      (writes : Store.Writes start.client (start.engine id).event
        (.ofAi (blockOf generated made)) writing written)
      (onScreen : start.Has id →
        OnScreen prompt generated made (later.engine id).state) :
      Generates id start prompt title debug (said ++ more ++ writing)
        (written.map fun _ => .ok ()) later

section Generation

variable {id : EngineId} {course : Course Registry}
variable {prompt title : String} {debug : Bool}

/-- A segment that is generated on its own ends in one of these ways. -/
theorem solo_generate
    {ends : Except Fault (Outcome Unit) → Course Registry → Prop}
    (ended : ∀ said result later,
      Generates id course.state prompt title debug said result later.state →
      later.log = course.log ++ said → ends result later) :
    (generate id prompt title debug).Solo .any ends course := by
  show (Flow.bind (Client.generate (some (course.state.engine id).event) prompt
    _) _).Solo .any ends course
  apply Flow.solo_bind.mpr
  have start := Steady.refl id course.state
  apply Client.solo_generate trivial
  · intro blank
    exact ended _ _ _ (.blank blank start) (List.append_nil _).symm
  · intro result between asked
    obtain ⟨said, logged, asking⟩ := start.said asked
    have steady := start.asked asked
    obtain fault | problem | generated := result
    · exact ended _ _ _ (.stopped asking steady) logged
    · exact ended _ _ _ (.failed asking steady) logged
    · apply Flow.solo_bind.mpr
      apply solo_saveGenerated steady
      intro more result last saving logged' steady
      obtain fault | made := result
      · exact ended _ _ _ (.unsaved asking saving steady)
          (by rw [logged', logged, List.append_assoc])
      · obtain ⟨_, -, parses⟩ := asking.exists_reply
        obtain ⟨_, read⟩ := Client.exists_read_of_outcome parses
        have canonical := Generated.canonical_read (Client.parse_eq_ok.mp read)
        apply Flow.solo_bind.mpr
        show (apply id (showing prompt generated made)).Solo _ _ _
        apply solo_apply (root_showing canonical)
        intro writing written later writes quiet
        obtain ⟨opened, client⟩ := steady.client
        rw [block_showing, steady.event, client] at writes
        have told := ended _ _
          { last with state := later, log := last.log ++ writing }
          (.shown asking saving writes.unopened fun has =>
            onScreen_of_quiet (steady.has.mpr has) quiet)
          (by rw [logged', logged]; simp only [List.append_assoc])
        cases written <;> exact told

/-- So does a run of generating one. -/
theorem generates_of_ran {registry later : Registry}
    {said : List (Call × Reply)} {result : Except Fault (Outcome Unit)}
    (ran : (generate id prompt title debug).Ran Flow.Transcribes registry []
      result later said) :
    Generates id registry prompt title debug said result later := by
  have solo : (generate id prompt title debug).Solo .any (fun result later =>
      Generates id registry prompt title debug later.log result later.state)
      { state := registry, log := [], held := [] } :=
    solo_generate fun said result later generates logged => by
      rwa [logged, List.nil_append]
  exact (solo.ran ran).choose_spec

end Generation

/-! ## The whole run -/

section Runs

variable {id : EngineId} {registry later : Registry} {prompt title : String}
variable {debug : Bool} {generated : Generated}

/-- The body with which a generated segment is stored. -/
def bodyOf (generated : Generated) (made : Option String × String) : Json :=
  .obj [("ai", (blockOf generated made).toJson)]

theorem wire_blockOf {made : Option String × String}
    (canonical : generated.segment.Canonical) :
    (Change.ofAi (blockOf generated made)).wire = bodyOf generated made :=
  Change.wire_ofAi (fun _ same => Option.some.inj same ▸ canonical) rfl

/-- The calls that store a body in the document of an event: it is put once, and
the document may be asked for again. -/
def Stores (client : Client) (event : String) (body : Json)
    (said : List (Call × Reply)) : Prop :=
  ∃ put again, said = put :: again ∧
    client.call "PUT" (Store.path event) (some body) = .ok put.1 ∧
    ∀ exchange ∈ again,
      client.call "GET" (Store.path event) none = .ok exchange.1

/-- A run of generating a segment that begins with a segment that was generated.
It is saved and titled, and then shown and stored, whatever problems that meets.
The run ends well exactly if nothing else hinders saving and titling, and the block
can be sent. -/
theorem shown_iff_sendable {first : Call × Reply} {rest : List (Call × Reply)}
    {result : Except Fault (Outcome Unit)} (has : registry.Has id)
    (ran : (generate id prompt title debug).Ran Flow.Transcribes registry []
      result later (first :: rest))
    (sent : ∀ exchange ∈ first :: rest, exchange.2.ensureSendable = .ok ())
    (parses : Client.outcome none
      (Client.parse "GenerateResponse" Generated.read) first.2 =
        .ok (.ok generated)) :
    ∃ saving saved storing, rest = saving ++ storing ∧
      Saves registry.client (registry.engine id).event prompt
        (Text.trimmed title) generated.segment saving saved ∧
      (∀ fault, saved = .error fault →
        Hindered registry.client (registry.engine id).event prompt
          (Text.trimmed title) generated.segment saving) ∧
      (∀ made, saved = .ok made →
        OnScreen prompt generated made (later.engine id).state ∧
        (result = .ok (.ok ()) →
          Stores registry.client (registry.engine id).event
            (bodyOf generated made) storing)) ∧
      (result = .ok (.ok ()) ↔ ∃ made, saved = .ok made ∧
        registry.client.Sendable (Store.path (registry.engine id).event)
          (some (bodyOf generated made))) := by
  have generates := generates_of_ran ran
  generalize told : first :: rest = said at generates
  have other {value : Except Fault (Outcome Generated)}
      {also : List (Call × Reply)} (same : first :: rest = also)
      (asking : Asks id registry prompt debug also value) :
      value = .ok (.ok generated) := by
    subst same
    rw [asking.of_cons.2, parses]
  have same {value : Generated} {also more : List (Call × Reply)}
      (split : first :: rest = also ++ more)
      (asking : Asks id registry prompt debug also (.ok (.ok value))) :
      value = generated ∧ rest = more := by
    obtain ⟨exchange, rfl, found⟩ := asking.exists_reply
    obtain ⟨rfl, rfl⟩ := List.cons.inj split
    rw [parses] at found
    cases found
    exact ⟨rfl, rfl⟩
  cases generates with
  | blank blank steady => cases told
  | stopped asking steady => cases other told asking
  | failed asking steady => cases other told asking
  | unsaved asking saving steady =>
      obtain ⟨rfl, rfl⟩ := same told asking
      exact ⟨_, _, [], (List.append_nil _).symm, saving,
        fun fault stopped => saving.hindered, by simp, by simp⟩
  | @shown _ more storing _ made written _ asking saving writes onScreen =>
      obtain ⟨rfl, rfl⟩ := same (told.trans (List.append_assoc ..)) asking
      obtain ⟨_, read⟩ := Client.exists_read_of_outcome parses
      have canonical := Generated.canonical_read (Client.parse_eq_ok.mp read)
      have ends := writes.ended_iff fun exchange member => sent exchange
        (List.mem_cons_of_mem _ (List.mem_append_right _ member))
      have puts := writes.puts
      rw [wire_blockOf canonical] at ends puts
      have good : (written.map fun _ => Except.ok ()) =
          (.ok (.ok ()) : Except Fault (Outcome Unit)) ↔
            ∃ outcome, written = .ok outcome := by
        cases written <;> simp [Except.map]
      refine ⟨more, .ok made, storing, rfl, saving, by simp, ?_, ?_⟩
      · rintro _ ⟨⟩
        exact ⟨onScreen has, fun ended => puts (ends.mp (good.mp ended))⟩
      · rw [good, ends]
        simp

end Runs

section Trial

/-- A saved segment of all persons with a title. -/
def rowOf (title : String) : Json :=
  .obj [("savedSegment", .obj
    [ ("id", .str "seg_1"), ("title", .str title),
      ("ast", .obj [("filter", Filter.Node.empty.toJson)]) ])]

/-- Replies to a prompt for all persons without a title: the segment is generated
and saved, a title is suggested, and the segment gets the given one. -/
def replies (title : String) : List Reply :=
  [ Provenance.everyone, .response 201 (.json (rowOf "")),
    .response 200 (.json (.obj [("title", .str "Everyone there")])),
    .response 200 (.text (rowOf title).write), .response 200 .empty ]

/-- The replies are given in order, and what is said is written down. -/
def replying (title : String) (log : List (Call × Reply)) (call : Call) :
    Reply × List (Call × Reply) :=
  let reply := ((replies title)[log.length]?).getD .timeout
  (reply, log ++ [(call, reply)])

/-- The run ended so, with that title on screen and after so many calls, which
were all answered well, the first of them with a segment. -/
def went (ended : Except Fault (Outcome Unit) → Bool) (title : String)
    (count : Nat) (result : Except Fault (Outcome Unit)) (later : Registry)
    (said : List (Call × Reply)) : Bool :=
  ended result && (later.engine 0).state.savedTitle == title &&
    said.length == count &&
    said.all (fun exchange => exchange.2.ensureSendable.isOk &&
      (Client.ended none exchange.2).isOk) &&
    said.head?.any fun exchange =>
      (Client.outcome none (Client.parse "GenerateResponse" Generated.read)
        exchange.2).toOption.any Except.isOk

/-- A run in which every call was answered well, the first of them with a
segment. -/
structure AnsweredWell (result : Except Fault (Outcome Unit)) (later : Registry)
    (first : Call × Reply) (rest : List (Call × Reply))
    (generated : Generated) : Prop where
  ran : (generate 0 "Everyone" "" false).Ran Flow.Transcribes
    Provenance.withNewEngine [] result later (first :: rest)
  sent : ∀ exchange ∈ first :: rest, exchange.2.ensureSendable = .ok ()
  good : ∀ exchange ∈ first :: rest, ∃ json,
    Client.ended none exchange.2 = .ok json
  parses : Client.outcome none
    (Client.parse "GenerateResponse" Generated.read) first.2 =
      .ok (.ok generated)

/-- There is such a run that passes a computed test. -/
theorem exists_answeredWell (given : String)
    (ended : Except Fault (Outcome Unit) → Bool) (title : String) (count : Nat)
    (computed : ((generate 0 "Everyone" "" false).computed (replying given)
      Provenance.withNewEngine []).any (fun ends =>
        went ended title count ends.1 ends.2.1 ends.2.2) = true) :
    ∃ result later first rest generated,
      AnsweredWell result later first rest generated ∧ ended result = true ∧
      (later.engine 0).state.savedTitle = title ∧
      (first :: rest).length = count := by
  obtain ⟨result, later, said, ran, passed⟩ :
      ∃ result later said, (generate 0 "Everyone" "" false).Ran
        Flow.Transcribes Provenance.withNewEngine [] result later said ∧
          went ended title count result later said = true :=
    Flow.exists_ran (replying given) _ _ _ (went ended title count)
      (fun _ _ => rfl) computed
  cases said with
  | nil => simp [went] at passed
  | cons first rest =>
      simp only [went, Bool.and_eq_true, beq_iff_eq, List.all_eq_true,
        List.head?_cons, Option.any_some] at passed
      obtain ⟨⟨⟨⟨ends, shown⟩, length⟩, fine⟩, parses⟩ := passed
      cases outcome : Client.outcome none
          (Client.parse "GenerateResponse" Generated.read) first.2 with
      | error fault => simp [outcome, Except.toOption] at parses
      | ok answer =>
          rw [outcome] at parses
          obtain ⟨generated, rfl⟩ := Flow.exists_ok _ parses
          have sent : ∀ exchange ∈ first :: rest,
              exchange.2.ensureSendable = .ok () := fun exchange member =>
            (Flow.exists_ok _ (fine exchange member).1).choose_spec
          exact ⟨result, later, first, rest, generated,
            ⟨ran, sent, fun exchange member =>
              Flow.exists_ok _ (fine exchange member).2, outcome⟩,
            ends, shown, length⟩

/-- A prompt for all persons, with a title that is suggested and then given
another form. -/
theorem shown_iff_sendable_of_everyone :
    ∃ later first rest generated made,
      AnsweredWell (.ok (.ok ())) later first rest generated ∧
      (first :: rest).length = 5 ∧
      OnScreen "Everyone" generated made (later.engine 0).state ∧
      made.2 = "All of them" := by
  obtain ⟨result, later, first, rest, generated, well, ended, title, count⟩ :=
    exists_answeredWell "All of them"
      (fun result => result.toOption.any Except.isOk) "All of them" 5
      (by decide +kernel)
  have has : Provenance.withNewEngine.Has 0 := by decide +kernel
  obtain ⟨saving, saved, storing, -, -, -, shown, iff⟩ :=
    shown_iff_sendable has well.ran well.sent well.parses
  obtain fault | problem | _ := result
  · cases ended
  · cases ended
  · obtain ⟨made, rfl, -⟩ := iff.mp rfl
    have onScreen := (shown made rfl).1
    refine ⟨later, first, rest, generated, made, well, count, onScreen, ?_⟩
    obtain ⟨_, same⟩ := onScreen
    rw [← title, same]

/-- A title with half a character. -/
def halfTitle : String := String.singleton (Text.unitChar 0xD83D)

/-- A text that cannot be encoded was to be sent. -/
def isHalf {α : Type} : Except Fault α → Bool
  | .error (.misuse misuse) => misuse == .notEncodable
  | _ => false

theorem eq_of_isHalf {α : Type} {result : Except Fault α}
    (half : isHalf result = true) : result = .error (.misuse .notEncodable) := by
  unfold isHalf at half
  split at half
  · rw [eq_of_beq half]
  · cases half

/-- The segment is generated and saved, and a title is suggested and taken up, all
with success.  The title that it gets has half a character: it is on screen and
cannot be stored, and the run stops. -/
theorem half_title_stops_after_saving :
    ∃ later first rest generated,
      AnsweredWell (.error (.misuse .notEncodable)) later first rest generated ∧
      (first :: rest).length = 4 ∧
      (later.engine 0).state.savedTitle = halfTitle := by
  obtain ⟨result, later, first, rest, generated, well, ended, title, count⟩ :=
    exists_answeredWell halfTitle isHalf halfTitle 4 (by decide +kernel)
  obtain rfl := eq_of_isHalf ended
  exact ⟨later, first, rest, generated, well, count, title⟩

end Trial

end Generating
end Audience
