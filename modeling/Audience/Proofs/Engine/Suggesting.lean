import Audience.Proofs.Client.Crossing
import Audience.Proofs.Engine.Generating
import Audience.Proofs.Title.Line

/-!
# Suggested titles

A suggested title is used only if something is left of it once it is normalized.  So
whatever the backend suggests, and whatever else happens meanwhile, a saved segment is
renamed to a single line that is not empty.
-/

namespace Audience

open Title (IsLine)

namespace SavedSegment.Patch

theorem toJson_ofTitle (title : String) :
    (ofTitle title).toJson = .obj [("title", .str title)] := rfl

/-- What the schema of changes says to a new title alone. -/
theorem read_ofTitle (title : String) :
    read (ofTitle title).toJson =
      if Text.isEncodable title then
        if title = "" then .rejected [{ path := ["title"], flaw := .tooShort }]
        else .value (ofTitle title)
      else .rejected [{ path := ["title"], flaw := .notUnicode }] := by
  have alone : read (ofTitle title).toJson =
      Patch.mk <$> (((Reading.nonemptyText (.str title)).map some).map some).inside
        "title" <*> .value none <*> .value none := rfl
  rw [alone, Reading.nonemptyText, Reading.ofText]
  have empty : title.toList = [] ↔ title = "" := String.toList_eq_nil_iff
  cases Text.isEncodable title with
  | false => rfl
  | true =>
      simp only [empty]
      by_cases none : title = ""
      · simp only [none]
        rfl
      · simp only [none]
        rfl

/-- The schema of changes does not find a title too short. -/
def LongEnough (title : String) : Prop :=
  ∀ errors, read (ofTitle title).toJson = .rejected errors →
    ∀ error ∈ errors, error.flaw ≠ .tooShort

theorem longEnough_iff {title : String} : LongEnough title ↔ title ≠ "" := by
  constructor
  · rintro enough rfl
    exact enough [{ path := ["title"], flaw := .tooShort }] rfl _
      List.mem_cons_self rfl
  · intro given errors rejected error member
    rw [read_ofTitle, if_neg given] at rejected
    split at rejected
    · cases rejected
    · cases rejected
      obtain rfl := List.mem_singleton.mp member
      simp

end SavedSegment.Patch

namespace Suggesting

open SavedSegment (Patch)

variable {registry later : Registry} {said : List (Call × Reply)} {title : String}

/-- A title in an answer is what is left of a suggestion. -/
theorem isLine_of_readTitle {json : Json}
    (read : Client.readTitle json = .ok title) : title ≠ "" ∧ IsLine title := by
  unfold Client.readTitle at read
  cases found : Client.member "title" json with
  | error misuse => simp [found] at read
  | ok suggestion =>
      rw [found] at read
      dsimp only at read
      split at read
      · cases read
      · cases read
        exact ⟨by assumption, Title.isLine_ofJson suggestion⟩

/-- A suggestion that succeeds is a line that is not empty. -/
theorem isLine_of_exchanged {client : Client} {event : Option String}
    {body : Option Json}
    (exchanged : Client.Exchanged client event "saved-segments/suggest-title" "POST"
      body none Client.readTitle said (.ok (.ok title))) :
    title ≠ "" ∧ IsLine title := by
  obtain ⟨_, -, parses⟩ := exchanged.exists_reply
  obtain ⟨_, read⟩ := Client.exists_read_of_outcome parses
  exact isLine_of_readTitle read

/-- A new title that was sent is one that the schema of changes takes. -/
theorem read_of_sent {client : Client} {path : String} {call : Call}
    (given : title ≠ "")
    (made : client.call "PATCH" path (some (Patch.ofTitle title).toJson) = .ok call) :
    Patch.read (Patch.ofTitle title).toJson = .value (Patch.ofTitle title) := by
  have sent : (Patch.ofTitle title).toJson.ensureSendable = .ok () :=
    (Client.parts_of_call made).2.2
  have encodable : Text.isEncodable title = true := by
    have whole := (Client.ensureSendable_eq_ok_iff.mp sent).2
    simp only [Patch.toJson_ofTitle, Json.isEncodable, Json.fieldsEncodable,
      Bool.and_true, Bool.and_eq_true] at whole
    exact whole.2
  rw [Patch.read_ofTitle, if_pos encodable, if_neg given]

/-- A call that renames a segment: it sends a single line that is not empty, and that
the schema of changes takes. -/
def Renames (call : Call) : Prop :=
  ∃ title, call.body = some (Patch.ofTitle title).toJson ∧ title ≠ "" ∧
    IsLine title ∧ Patch.read (Patch.ofTitle title).toJson = .value (Patch.ofTitle title)

/-- However it is crossed, titling a segment sends no other `PATCH`. -/
theorem crossing_titleSaved (id : EngineId) (segment prompt : String)
    (root : Filter.Root) :
    (Engine.titleSaved id segment prompt root).Crossing (fun said _ _ =>
      ∀ exchange ∈ said, exchange.1.method = "PATCH" → Renames exchange.1)
      registry := by
  show Flow.Crossing _ (Flow.bind (Client.suggestTitle
    (some (registry.engine id).event) prompt (some root)) _) registry
  rw [Flow.crossing_bind]
  apply Client.crossing_suggestTitle
  intro said result later suggesting
  have post : ∀ exchange ∈ said, exchange.1.method ≠ "PATCH" := by
    intro exchange member
    rw [suggesting.methods exchange member, Client.upper_method (by simp)]
    decide
  obtain fault | problem | title := result
  · exact fun exchange member patch => absurd patch (post exchange member)
  · intro exchange member patch
    exact absurd patch (post exchange (by simpa using member))
  · have line := isLine_of_exchanged suggesting
    show Flow.Crossing _ (Flow.bind (Client.updateSaved
      (some (registry.engine id).event) segment (.ofTitle title)) _) later
    rw [Flow.crossing_bind]
    apply Client.crossing_updateSaved
    intro more updated last updating
    have renames : ∀ exchange ∈ said ++ more, exchange.1.method = "PATCH" →
        Renames exchange.1 := by
      intro exchange member patch
      obtain early | late := List.mem_append.mp member
      · exact absurd patch (post exchange early)
      · obtain ⟨name, -, made⟩ := updating.calls.2 exchange late
        exact ⟨title, (Client.parts_of_call made).2.1, line.1, line.2,
          read_of_sent line.1 made⟩
    obtain fault | problem | saved := updated
    · exact renames
    · intro exchange member
      exact renames exchange (by simpa using member)
    · intro exchange member
      exact renames exchange (by simpa using member)

/-- A normalized title is one line of limited length, whatever it was.  A title that
is suggested with success is such a line and not empty, so the schema of changes never
finds it too short; and every call that then renames the saved segment sends such a line,
which the schema takes. -/
theorem suggestions_are_lines :
    (∀ title, IsLine (Title.normalize title)) ∧
      (∀ event prompt ast registry said title later,
        (Client.suggestTitle event prompt ast).Crossed registry said
          (.ok (.ok title)) later →
        IsLine title ∧ title ≠ "" ∧ Patch.LongEnough title) ∧
      ∀ id segment prompt root registry said result later,
        (Engine.titleSaved id segment prompt root).Crossed registry said result
          later →
        ∀ exchange ∈ said, exchange.1.method = "PATCH" → Renames exchange.1 := by
  refine ⟨Title.isLine_normalize, ?_, ?_⟩
  · intro event prompt ast registry said title later crossed
    have crossing : (Client.suggestTitle event prompt ast).Crossing
        (fun _ result _ => ∀ title, result = .ok (.ok title) →
          title ≠ "" ∧ IsLine title) registry := by
      apply Client.crossing_suggestTitle
      rintro said _ later suggesting title rfl
      exact isLine_of_exchanged suggesting
    obtain ⟨given, line⟩ := crossing.crossed crossed title rfl
    exact ⟨line, given, Patch.longEnough_iff.mpr given⟩
  · intro id segment prompt root registry said result later crossed
    exact (crossing_titleSaved id segment prompt root).crossed crossed

section Trial

/-- A suggestion with quotes and blanks around its words. -/
def spaced : String := " \"Last\tMinute\n\u00a0buyers\" "

/-- A backend that suggests it and renames every segment. -/
def suggesting (call : Call) : Reply :=
  if call.method = "PATCH" then .response 200 (.json (Generating.rowOf ""))
  else .response 200 (.json (.obj [("title", .str spaced)]))

/-- A title was suggested, and a segment is renamed to it. -/
theorem suggestions_are_lines_of_spaced :
    IsLine (Title.normalize spaced) ∧
    (∃ said later, (Client.suggestTitle (some "event") "Everyone" none).Crossed
      Provenance.withNewEngine said (.ok (.ok "Last Minute buyers")) later ∧
      IsLine "Last Minute buyers" ∧ "Last Minute buyers" ≠ "" ∧
      Patch.LongEnough "Last Minute buyers") ∧
    ∃ said result later exchange,
      (Engine.titleSaved 0 "seg_1" "Everyone" default).Crossed
        Provenance.withNewEngine said result later ∧
      exchange ∈ said ∧ exchange.1.method = "PATCH" ∧ Renames exchange.1 := by
  refine ⟨suggestions_are_lines.1 spaced, ?_, ?_⟩
  · obtain ⟨said, result, later, crossed, good, -⟩ :=
      Flow.exists_crossed suggesting
        (Client.suggestTitle (some "event") "Everyone" none)
        Provenance.withNewEngine
        (fun _ result _ => result.toOption.any fun outcome =>
          outcome.toOption == some "Last Minute buyers") (by decide +kernel)
    obtain fault | problem | title := result
    · cases good
    · cases good
    · obtain rfl : title = "Last Minute buyers" := by
        simpa [Except.toOption] using good
      exact ⟨said, later, crossed,
        suggestions_are_lines.2.1 _ _ _ _ _ _ _ crossed⟩
  · obtain ⟨said, result, later, crossed, sent, -⟩ :=
      Flow.exists_crossed suggesting (Engine.titleSaved 0 "seg_1" "Everyone" default)
        Provenance.withNewEngine
        (fun said _ _ => said.any fun exchange => exchange.1.method == "PATCH")
        (by decide +kernel)
    obtain ⟨exchange, member, patch⟩ := List.any_eq_true.mp sent
    exact ⟨said, result, later, exchange, crossed, member, beq_iff_eq.mp patch,
      suggestions_are_lines.2.2 _ _ _ _ _ _ _ _ crossed exchange member
        (beq_iff_eq.mp patch)⟩

end Trial

end Suggesting
end Audience
