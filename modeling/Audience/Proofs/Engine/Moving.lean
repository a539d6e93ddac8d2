import Audience.Proofs.Engine.Paging

/-!
# Moves that run nothing

Moves of the table of an engine on which a segment is active follow one another;
each run fails or brings the page that was asked for.  A run that fails leaves the
table on its page with the rows of another one.  From then on a call that asks for
that page again does nothing, until the table is moved somewhere else.  Every
other call that runs nothing finds the rows of its page on screen.
-/

namespace Audience
namespace Moving

open Engine Paging

/-- The moves that were made and what came of them, the latest first. -/
abbrev History := List (Page × Except Fault (Option (Outcome Results)))

namespace History

/-- The page that the table is on, given the one at first. -/
def place (first : Page) : History → Page
  | [] => first
  | (page, _) :: _ => page

/-- The run for the page that the table is on failed.  Asking for that page again
makes no difference. -/
def InVain (first : Page) : History → Prop
  | [] => False
  | (page, result) :: earlier =>
      if page = place first earlier then InVain first earlier
      else ¬ Succeeds result

end History

variable {β : Type} {serves : β → Call → Reply → β → Prop} {server : β}
variable {id : EngineId} {registry : Registry} {page : Page}

/-- Moves were made one after the other. -/
inductive Reached (serves : β → Call → Reply → β → Prop) (id : EngineId)
    (start : Registry) (stored : β) : History → Registry → β → Prop where
  | start : Reached serves id start stored [] start stored
  | move {history : History} {registry later : Registry} {server after : β}
      {result : Except Fault (Option (Outcome Results))} (page : Page)
      (reached : Reached serves id start stored history registry server)
      (ran : (setPage id page).Ran serves registry server result later after) :
      Reached serves id start stored ((page, result) :: history) later after

/-- A segment is active, and the rows on screen are those of the page that the
table is on unless the run for it was in vain. -/
structure Shows (id : EngineId) (page : Page) (vain : Prop)
    (registry : Registry) : Prop where
  active : (registry.engine id).state.usesAi = true
  placed : (registry.engine id).table.page = page
  matching : (registry.engine id).resultPage = some page ↔ ¬ vain

section Runs

/-- The engine after a run: it counts the run, and shows the rows if there are
any. -/
def ranOnce (result : Except Fault (Outcome Results)) (engine : Engine) :
    Engine :=
  match result with
  | .ok (.ok results) =>
      { (counted engine).takeToken with
        state := { engine.state with results := some results } }
  | _ => (counted engine).takeToken

theorem ranOnce_of_failed {outcome : Except Fault (Outcome Results)}
    (failed : ∀ results, outcome ≠ .ok (.ok results)) (engine : Engine) :
    ranOnce outcome engine = (counted engine).takeToken := by
  obtain fault | problem | results := outcome
  · rfl
  · rfl
  · exact absurd rfl (failed results)

/-- A move succeeds whose run does. -/
theorem succeeds_map_some {outcome : Except Fault (Outcome Results)} :
    Succeeds (outcome.map some) ↔ ∃ results, outcome = .ok (.ok results) := by
  obtain fault | problem | results := outcome <;> simp [Succeeds, Except.map]

/-- A run that is made alone takes effect on the engine. -/
theorem alone_execute (active : (registry.engine id).state.usesAi = true) :
    (execute id page).Alone serves (fun result later _ =>
      later.engine id = ranOnce result (registry.engine id) ∧
        ∀ results, result = .ok (.ok results) → ∃ call reply before after,
          serves before call reply after ∧ Asks call page ∧
            Client.runOutcome reply = .ok (.ok results)) registry server := by
  have has := Registry.has_of_usesAi active
  have engine : (((registry.modifyEngine id counted).takeToken id).2.engine
      id) = (counted (registry.engine id)).takeToken := by
    rw [Registry.takeToken_snd, Registry.engine_modifyEngine_self (by simpa),
      Registry.engine_modifyEngine_self has]
  have token : ((registry.modifyEngine id counted).takeToken id).1 =
      (counted (registry.engine id)).takeToken.latestToken := by
    rw [Registry.takeToken_fst (by simpa),
      Registry.engine_modifyEngine_self has]
    rfl
  rw [execute_eq]
  simp only [Flow.Alone]
  rw [Flow.alone_bind]
  apply Client.alone_runSegment
  · intro result later unsuccessful place
    have still : later.engine id = (counted (registry.engine id)).takeToken := by
      obtain rfl | rfl := place
      · exact engine
      · exact engine
    obtain fault | problem | results := result
    · exact ⟨still, by simp⟩
    · exact ⟨still, by simp⟩
    · exact absurd rfl (unsuccessful results)
  · intro node call _ made reply after served
    have asks : Asks call page := asks_of_call made
    cases ended : Client.runOutcome reply with
    | error fault => exact ⟨engine, by simp⟩
    | ok outcome =>
        cases outcome with
        | error problem => exact ⟨engine, by simp⟩
        | ok results =>
            refine ⟨?_, fun found same => ?_⟩
            · show (Registry.updateResults id results _ _).2.engine id = _
              have current : ((((registry.modifyEngine id counted).takeToken
                  id).1 : Nat) : Int) = ((((registry.modifyEngine id
                    counted).takeToken id).2.opened.engine id).latestToken :
                      Int) := by
                rw [Registry.engine_opened, engine, token]
              have still : (((registry.modifyEngine id counted).takeToken
                  id).2.opened.engine id).state.usesAi = true := by
                rw [Registry.engine_opened, engine]
                exact active
              rw [Registry.updateResults, if_pos ⟨current, still⟩,
                Registry.engine_transition, Registry.engine_modifyEngine_self
                  (Registry.has_of_usesAi still), Registry.engine_opened, engine]
              rfl
            · cases same
              exact ⟨call, reply, _, after, served, asks, ended⟩

/-- How a move ends while a segment is active: it runs nothing, or the segment for
its page. -/
inductive Moved (serves : β → Call → Reply → β → Prop) (id : EngineId)
    (page : Page) (registry : Registry) (server : β) :
    Except Fault (Option (Outcome Results)) → Registry → β → Prop where
  | kept {later : Registry}
      (known : page = (registry.engine id).table.page ∨
        (registry.engine id).resultPage = some page)
      (engine : later.engine id = (registry.engine id).moveTo page) :
      Moved serves id page registry server (.ok none) later server
  | ran {later : Registry} {after : β} (outcome : Except Fault (Outcome Results))
      (away : page ≠ (registry.engine id).table.page)
      (other : (registry.engine id).resultPage ≠ some page)
      (engine : later.engine id =
        ranOnce outcome ((registry.engine id).moveTo page))
      (brought : ∀ results, outcome = .ok (.ok results) →
        ∃ call reply before after, serves before call reply after ∧
          Asks call page ∧ Client.runOutcome reply = .ok (.ok results)) :
      Moved serves id page registry server (outcome.map some) later after

theorem alone_setPage (active : (registry.engine id).state.usesAi = true) :
    (setPage id page).Alone serves (Moved serves id page registry server)
      registry server := by
  have has := Registry.has_of_usesAi active
  have engine := Registry.engine_modifyEngine_self has (Engine.moveTo page)
  rw [setPage_eq]
  simp only [Flow.Alone, active, Bool.not_true, Bool.false_eq_true, if_false]
  by_cases onPage : page.matches? (some (registry.engine id).table.page)
  · rw [if_pos onPage]
    have here : (registry.engine id).table.page = page := by
      simpa [Page.matches?] using onPage
    exact .kept (.inl here.symm) engine
  rw [if_neg onPage]
  by_cases onScreen : page.matches? (registry.engine id).resultPage
  · rw [if_pos onScreen]
    exact .kept (.inr (by simpa [Page.matches?] using onScreen)) engine
  rw [if_neg onScreen, Flow.alone_bind]
  have still : ((registry.modifyEngine id (Engine.moveTo page)).engine
      id).state.usesAi = true := by
    rw [engine]
    exact active
  apply (alone_execute still).mono
  rintro result later after ⟨ended, brought⟩
  rw [engine] at ended
  have ran : Moved serves id page registry server (result.map some) later
      after :=
    .ran result (fun same => onPage (by simp [Page.matches?, ← same]))
      (by simpa [Page.matches?] using onScreen) ended brought
  obtain fault | outcome := result
  · exact ran
  · exact ran

end Runs

section Histories

variable {vain : Prop}

/-- What a move shows: the table is on its page, with the rows of that page unless
the run failed, or had failed before when the table did not move. -/
theorem Shows.moved {result : Except Fault (Option (Outcome Results))}
    {place : Page} {later : Registry} {after : β}
    (shows : Shows id place vain registry)
    (echoes : ∀ before call reply after,
      serves before call reply after → Echoes call reply)
    (moved : Moved serves id page registry server result later after) :
    Shows id page (if page = place then vain else ¬ Succeeds result) later := by
  cases moved with
  | kept known engine =>
      refine ⟨?_, ?_, ?_⟩
      · rw [engine]
        exact shows.active
      · rw [engine]
        rfl
      · have same : (later.engine id).resultPage =
            (registry.engine id).resultPage := by
          rw [engine]
          rfl
        rw [same]
        split
        · rename_i here
          rw [here]
          exact shows.matching
        · rename_i away
          rw [shows.placed] at known
          simp [known.resolve_left away, Succeeds]
  | ran outcome away other engine brought =>
      rw [shows.placed] at away
      rw [if_neg away]
      by_cases succeeded : ∃ results, outcome = .ok (.ok results)
      · obtain ⟨results, rfl⟩ := succeeded
        obtain ⟨call, reply, before, after, served, asks, ended⟩ :=
          brought results rfl
        have ofPage := page_of_outcome asks (echoes _ _ _ _ served) ended
        have well := succeeds_map_some.mpr ⟨results, rfl⟩
        refine ⟨?_, ?_, ?_⟩
        · rw [engine]
          rfl
        · rw [engine]
          rfl
        · rw [engine]
          exact iff_of_true ofPage (not_not.mpr well)
      · rw [ranOnce_of_failed (not_exists.mp succeeded)] at engine
        refine ⟨?_, ?_, ?_⟩
        · rw [engine]
          exact shows.active
        · rw [engine]
          rfl
        · rw [engine]
          exact iff_of_false other
            (not_not.mpr (mt succeeds_map_some.mp succeeded))

/-- After any moves, the rows on screen are those of the page that the table is
on unless the run for it was in vain. -/
theorem shows_of_reached {start : Registry} {stored : β} {first : Page}
    {history : History} (active : (start.engine id).state.usesAi = true)
    (placed : (start.engine id).table.page = first)
    (matching : (start.engine id).resultPage = some first)
    (echoes : ∀ before call reply after,
      serves before call reply after → Echoes call reply)
    (reached : Reached serves id start stored history registry server) :
    Shows id (history.place first) (history.InVain first) registry := by
  induction reached with
  | start =>
      exact ⟨active, placed, by simp [History.InVain, History.place, matching]⟩
  | move page reached ran ih =>
      exact ih.moved echoes ((alone_setPage ih.active).ran ran)

/-- A segment is active at first with the rows of the page that the table is on.
Moves follow one another; each run fails or brings the page that was asked for.
Then a call that runs nothing shows the rows of its page exactly if it does not
ask for the page that the table is on after the run for that one was in vain.
Asking for the page that the table is on never runs anything and changes nothing,
whether its run failed or not. -/
theorem rows_match_iff_not_in_vain {start : Registry} {stored : β}
    {first : Page} {history : History}
    (active : (start.engine id).state.usesAi = true)
    (placed : (start.engine id).table.page = first)
    (matching : (start.engine id).resultPage = some first)
    (echoes : ∀ before call reply after,
      serves before call reply after → Echoes call reply)
    (reached : Reached serves id start stored history registry server) :
    (∀ page later after,
      (setPage id page).Ran serves registry server (.ok none) later after →
      ((later.engine id).resultPage = some page ↔
        ¬ (page = history.place first ∧ history.InVain first))) ∧
    ∀ result later after,
      (setPage id (history.place first)).Ran serves registry server result later
        after →
      result = .ok none ∧ after = server ∧
        later.engine id = registry.engine id := by
  have shows := shows_of_reached active placed matching echoes reached
  constructor
  · intro page later after ran
    have moved := (alone_setPage shows.active).ran ran
    rw [(shows.moved echoes moved).matching, not_iff_not]
    split
    · rename_i here
      simp [here]
    · rename_i away
      simp [away, Succeeds]
  · intro result later after ran
    have moved := (alone_setPage shows.active).ran ran
    cases moved with
    | kept known engine =>
        refine ⟨rfl, rfl, ?_⟩
        rw [engine, ← shows.placed]
        rfl
    | ran outcome away other engine brought =>
        exact absurd shows.placed.symm away

end Histories

section Timeouts

/-- A backend that never answers in time. -/
def silent (_ : Unit) (_ : Call) (reply : Reply) (_ : Unit) : Prop :=
  reply = .timeout

theorem echoes_of_silent (before : Unit) (call : Call) (reply : Reply)
    (after : Unit) (served : silent before call reply after) :
    Echoes call reply := by
  subst served
  intro json answered
  cases answered

/-- The run for the second page timed out. -/
def timedOut : History := [(secondPage, .ok (some (.error Client.timedOut)))]

/-- The table is on the second page, with the rows of the first. -/
theorem exists_timedOut :
    ∃ registry, Reached silent 0 onFirstPage () timedOut registry () ∧
      ∀ page, page = .standard ∨ page = secondPage →
        ∃ later, (setPage 0 page).Ran silent registry () (.ok none) later () ∧
          (later.engine 0).resultPage = some .standard := by
  refine ⟨_, .move secondPage .start (.inspect (.inspect (.update (.inspect
    (.update (.inspect (.inspect (.inspect (.update (.send rfl .done)))))))))), ?_⟩
  rintro page (rfl | rfl)
  · exact ⟨_, .inspect (.inspect (.update .done)), by decide +kernel⟩
  · exact ⟨_, .inspect (.inspect (.update .done)), by decide +kernel⟩

/-- On the way back to the first page, nothing is run and its rows are there. -/
theorem rows_match_iff_not_in_vain_at_way_back :
    ∃ registry later, Reached silent 0 onFirstPage () timedOut registry () ∧
      (setPage 0 .standard).Ran silent registry () (.ok none) later () ∧
      (later.engine 0).resultPage = some .standard := by
  obtain ⟨registry, reached, answered⟩ := exists_timedOut
  obtain ⟨later, ran, -⟩ := answered .standard (.inl rfl)
  have exactly := (rows_match_iff_not_in_vain (by decide) rfl (by decide)
    echoes_of_silent reached).1 .standard later () ran
  refine ⟨registry, later, reached, ran, exactly.mpr ?_⟩
  rintro ⟨same, -⟩
  exact absurd same (by decide)

/-- The second page is not asked for again. -/
theorem failed_page_is_not_run_again :
    (onFirstPage.engine 0).state.usesAi = true ∧
      (onFirstPage.engine 0).resultPage =
        some (onFirstPage.engine 0).table.page ∧
      ¬ ∀ history registry,
        Reached silent 0 onFirstPage () history registry () →
        ∀ page later,
          (setPage 0 page).Ran silent registry () (.ok none) later () →
          (later.engine 0).resultPage = some page := by
  refine ⟨by decide, by decide, fun always => ?_⟩
  obtain ⟨registry, reached, answered⟩ := exists_timedOut
  obtain ⟨later, ran, still⟩ := answered secondPage (.inr rfl)
  have same := always _ registry reached secondPage later ran
  rw [still] at same
  exact absurd same (by decide)

end Timeouts

end Moving
end Audience
