import Audience.Proofs.Client.Crossing
import Audience.Proofs.Engine.Rows
import Audience.Proofs.Text.Ends

/-!
# Prompts are lists of words

Of a prompt only its words matter when it is compared with another one, and a prompt
is refused before anything is sent exactly if it has none.  Every other prompt is
sent as it is, and no problem that comes of sending it is mistaken for one without
words.
-/

namespace Audience
namespace Client

variable {event : Option String} {prompt : String} {generation : Generation}
variable {registry later : Registry} {said : List (Call × Reply)}
variable {result : Except Fault (Outcome Generated)}

/-- A prompt is refused for want of words. -/
def Wordless (result : Except Fault (Outcome Generated)) : Prop :=
  ∃ problem, result = .ok (.error problem) ∧ problem.kind = .emptyPrompt

/-- The prompt is refused at once: nothing is said, and nothing changes. -/
def Refuses (event : Option String) (prompt : String) (generation : Generation)
    (registry : Registry) : Prop :=
  ∀ said result later,
    (generate event prompt generation).Crossed registry said result later ↔
      said = [] ∧ later = registry ∧
        result = .ok (.error (.emptyPrompt Problem.blankPromptDetail))

/-! ## Problems of calls -/

theorem kind_rejected_ne (missing : Option (String × String)) (status : Int)
    (payload : Payload) :
    (rejected missing status payload).kind ≠ .emptyPrompt := by
  unfold rejected
  split
  · dsimp only
    split
    · exact nofun
    · split <;> exact nofun
  · dsimp only
    split <;> exact nofun

/-- No reply means that a prompt has no words. -/
theorem kind_ne_of_valueOf {missing : Option (String × String)} {reply : Reply}
    {problem : Problem} (failed : valueOf missing reply = .error problem) :
    problem.kind ≠ .emptyPrompt := by
  cases reply with
  | timeout =>
      cases failed
      exact nofun
  | unreachable cause =>
      cases failed
      exact nofun
  | response status payload =>
      rw [valueOf] at failed
      split at failed
      · split at failed
        · cases failed
        · split at failed <;> cases failed
          exact nofun
      · cases failed
        exact kind_rejected_ne missing status payload

theorem kind_ne_of_ended {missing : Option (String × String)} {reply : Reply}
    {problem : Problem} (failed : ended missing reply = .error (.problem problem)) :
    problem.kind ≠ .emptyPrompt := by
  unfold ended at failed
  split at failed
  · cases failed
  · split at failed
    · cases failed
    · rename_i found
      cases failed
      exact kind_ne_of_valueOf found

/-- Nor does an answer that cannot be parsed. -/
theorem kind_ne_of_parse {α : Type} {model : String} {read : Reader α} {json : Json}
    {problem : Problem} (failed : parse model read json = .error (.problem problem)) :
    problem.kind ≠ .emptyPrompt := by
  unfold parse at failed
  split at failed <;> cases failed
  exact nofun

/-- What was asked is not refused for want of words. -/
theorem not_wordless_of_asking {client : Client} {settings : Settings}
    (asking : Asking client settings event prompt generation said result) :
    ¬ Wordless result := by
  rintro ⟨problem, rfl, kind⟩
  generalize ended : Except.ok (Except.error problem) = result at asking
  cases asking with
  | unnamed none =>
      cases ended
      cases kind
  | unsendable misuse named unsendable => cases ended
  | @answered _ _ reply named made sendable =>
      have failed := Flow.guarded_eq_problem_iff.mp ended.symm
      cases answered : Client.ended none reply with
      | error fault =>
          rw [answered] at failed
          cases failed
          exact kind_ne_of_ended answered kind
      | ok json =>
          rw [answered] at failed
          exact kind_ne_of_parse failed kind

/-! ## Prompts -/

/-- A prompt is blank exactly if it has no words. -/
theorem isBlankText_iff : Text.isBlankText prompt = true ↔
    Text.words prompt.toList = [] := by
  rw [Text.isBlankText, List.all_eq_true, Text.words_eq_nil_iff]

theorem generate_of_wordless (none : Text.words prompt.toList = []) :
    generate event prompt generation =
      .done (.error (.emptyPrompt Problem.blankPromptDetail)) :=
  if_pos (isBlankText_iff.mpr none)

/-- A prompt with words is asked, if it can be sent, and is not taken for one without
words. -/
theorem asked_of_words (given : Text.words prompt.toList ≠ [])
    (crossed : (generate event prompt generation).Crossed registry said result
      later) :
    ¬ Wordless result ∧
      (said.length = 1 ↔ ∃ name, Registry.nonempty? event = some name ∧
        Sendable registry.client (pathOf name "segments/generative")
          (some (generateBody registry.settings prompt generation))) := by
  have crossing : (generate event prompt generation).Crossing
      (fun said result _ => Asking registry.client registry.settings event prompt
        generation said result) registry := by
    apply crossing_generate
    · exact fun blank => absurd (isBlankText_iff.mp blank) given
    · exact fun said result later _ asking => asking
  have asking := crossing.crossed crossed
  exact ⟨not_wordless_of_asking asking, asking.length_eq_one_iff⟩

/-- A prompt is refused at once exactly if it has no words. -/
theorem refuses_iff : Refuses event prompt generation registry ↔
    Text.words prompt.toList = [] := by
  constructor
  · intro refuses
    by_contra given
    have refused := (refuses [] _ registry).mpr ⟨rfl, rfl, rfl⟩
    exact (asked_of_words given refused).1 ⟨_, rfl, rfl⟩
  · intro none said result later
    rw [generate_of_wordless none]
    constructor
    · rintro ⟨⟩
      exact ⟨rfl, rfl, rfl⟩
    · rintro ⟨rfl, rfl, rfl⟩
      exact .done

end Client

namespace Prompt

variable {prompt : String}

/-- The canonical form of a prompt is the line of its words. -/
theorem canonical_eq : canonical prompt =
    String.ofList (Text.line (Text.words prompt.toList)) := by
  rw [canonical, Text.oneLine_eq]

theorem canonical_canonical : canonical (canonical prompt) = canonical prompt := by
  simp only [canonical, String.toList_ofList, Text.oneLine_oneLine]

/-- A prompt is compared by its words: its canonical form is the line of them, and
stays as it is, and two prompts are the same exactly if their words are.  It is refused
before anything is sent exactly if it has none; every other prompt is sent if it can
be, and whatever then comes of it, it is not refused for want of words. -/
theorem prompts_are_words (first second : String) :
    canonical first = String.ofList (Text.line (Text.words first.toList)) ∧
      (sameWords first second = true ↔
        Text.words first.toList = Text.words second.toList) ∧
      canonical (canonical first) = canonical first ∧
      ∀ event generation registry,
        (Client.Refuses event first generation registry ↔
          Text.words first.toList = []) ∧
        (Text.words first.toList ≠ [] → ∀ said result later,
          (Client.generate event first generation).Crossed registry said result
            later →
          ¬ Client.Wordless result ∧
            (said.length = 1 ↔ ∃ name, Registry.nonempty? event = some name ∧
              Client.Sendable registry.client
                (Client.pathOf name "segments/generative")
                (some (Client.generateBody registry.settings first
                  generation)))) :=
  ⟨canonical_eq, sameWords_iff, canonical_canonical, fun _ _ _ =>
    ⟨Client.refuses_iff, fun given _ _ _ => Client.asked_of_words given⟩⟩

section Trial

/-- A prompt with blanks of several kinds around its words. -/
def scattered : String := "\u3000All\t \u0085men\x1f"

/-- It has the words of a plain one and is sent, and blanks alone are refused. -/
theorem prompts_are_words_of_scattered :
    canonical scattered = "All men" ∧ sameWords scattered "All men" = true ∧
    (∃ said result later, (Client.generate (some "event") scattered
        { temperature := none, includeContext := none, debug := false }).Crossed
        Provenance.withNewEngine said result later ∧
      said.length = 1 ∧ ¬ Client.Wordless result) ∧
    Client.Refuses (some "event") "\u2003\x1c"
      { temperature := none, includeContext := none, debug := false }
      Provenance.withNewEngine := by
  have words : Text.words scattered.toList = ["All".toList, "men".toList] := by
    decide +kernel
  obtain ⟨canonical, same, -, sends⟩ := prompts_are_words scattered "All men"
  refine ⟨?_, same.mpr (by decide +kernel), ?_, ?_⟩
  · rw [canonical, words]
    decide +kernel
  · obtain ⟨said, result, later, crossed, sent, -⟩ :=
      Flow.exists_crossed (fun _ => Provenance.everyone)
        (Client.generate (some "event") scattered
          { temperature := none, includeContext := none, debug := false })
        Provenance.withNewEngine (fun said _ _ => said.length == 1)
        (by decide +kernel)
    have asked := (sends _ _ _).2 (by simp [words]) _ _ _ crossed
    exact ⟨said, result, later, crossed, beq_iff_eq.mp sent, asked.1⟩
  · have wordless := (prompts_are_words "\u2003\x1c" "").2.2.2
    exact (wordless _ _ _).1.mpr (by decide +kernel)

end Trial

end Prompt
end Audience
