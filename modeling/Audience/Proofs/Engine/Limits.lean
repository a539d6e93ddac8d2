import Audience.Proofs.Engine.Rows
import Audience.Proofs.Number.Quotient

/-!
# Keeping the table inside its rows

Without a segment, a table whose number of rows is known is kept on one of the
pages that they fill.  While a segment is active it is left where it is.  What the
table shows is the page that it is on after that.
-/

namespace Audience
namespace Limits

open Engine

/-- A page of at least one row, with a number of at least one. -/
structure Proper (page : Page) : Prop where
  number : 1 ≤ page.number
  size : 1 ≤ page.size

/-- The table is on a page that its rows fill, as far as their number is known
and a double holds it exactly.  There is a first page even without rows. -/
def Fits (engine : Engine) : Prop :=
  ∀ total, engine.table.manualTotal = some total → total < 2 ^ 53 →
    1 ≤ engine.table.page.number ∧
      engine.table.page.number ≤
        max 1 ⌈(total : ℚ) / engine.table.page.size⌉

/-- The table of an engine was given proper pages and no negative number of
rows. -/
structure Sound (engine : Engine) : Prop where
  page : Proper engine.table.page
  firstPage : Proper engine.firstPage
  total : ∀ total, engine.table.manualTotal = some total → 0 ≤ total

section Bounds

variable {engine : Engine}

/-- The last page is the one that the last row is on. -/
theorem lastPage_eq {total size : Int} (known : 0 ≤ total)
    (small : total < 2 ^ 53) (positive : 1 ≤ size) :
    lastPage total size = .ok (max 1 ⌈(total : ℚ) / size⌉) := by
  obtain ⟨total, rfl⟩ := Int.eq_ofNat_of_zero_le known
  obtain ⟨size, rfl⟩ := Int.eq_ofNat_of_zero_le (by omega : 0 ≤ size)
  have small : total < 2 ^ 53 := by exact_mod_cast small
  have positive : 0 < size := by omega
  obtain ⟨-, -, -, finite⟩ := Double.exists_fraction small size
  have same := Double.max_one_ceiling_ofRatio small positive
  have plus : (decide ((total : Int) < 0) != decide ((size : Int) < 0)) =
      false := by
    rw [decide_eq_false (by omega), decide_eq_false (by omega)]
    rfl
  unfold lastPage
  rw [if_neg (by omega)]
  simp only [plus, Int.natAbs_natCast]
  -- The quotient is none of the infinities, which decides the match.
  simpa only [Int.cast_natCast] using congrArg Except.ok same

/-- There is always a first page. -/
theorem one_le_of_lastPage {total size last : Int}
    (ended : lastPage total size = .ok last) : 1 ≤ last := by
  unfold lastPage at ended
  split at ended
  · cases ended
  dsimp only at ended
  split at ended
  · cases ended
  · cases ended
    exact le_max_left 1 _

/-- Without a segment, the page is the last one at most. -/
theorem clampedPage_eq {total : Int} (manual : engine.state.usesAi = false)
    (known : engine.table.manualTotal = some total) :
    engine.clampedPage =
      (lastPage total engine.table.page.size).map fun last =>
        { engine.table.page with number := min last engine.table.page.number } := by
  unfold clampedPage
  simp only [known, manual, Bool.false_eq_true, if_false]
  cases lastPage total engine.table.page.size with
  | error misuse => rfl
  | ok last =>
      apply congrArg Except.ok
      dsimp only
      split
      · rename_i beyond
        rw [min_eq_left beyond.le]
      · rename_i within
        rw [min_eq_right (not_lt.mp within)]

/-- An engine whose table was kept inside the rows that there are, unless their
number is too large for that. -/
def clamped (engine : Engine) : Engine :=
  match engine.clampedPage with
  | .ok page => engine.moveTo page
  | .error _ => engine

/-- While a segment is active, the page is the one that the table is on. -/
theorem clampedPage_of_usesAi (active : engine.state.usesAi = true) :
    engine.clampedPage = .ok engine.table.page := by
  unfold clampedPage
  split
  · rfl
  · rw [if_pos active]

theorem clamped_of_usesAi (active : engine.state.usesAi = true) :
    clamped engine = engine := by
  unfold clamped
  rw [clampedPage_of_usesAi active]
  rfl

/-- Otherwise, it changes at most the number of the page. -/
theorem clamped_eq (sound : Sound engine) : ∃ number, 1 ≤ number ∧
    clamped engine = engine.moveTo { engine.table.page with number } := by
  have same : engine = engine.moveTo
      { engine.table.page with number := engine.table.page.number } := rfl
  cases active : engine.state.usesAi with
  | true => exact ⟨_, sound.page.number, by rw [clamped_of_usesAi active, ← same]⟩
  | false =>
      unfold clamped
      cases known : engine.table.manualTotal with
      | none =>
          unfold clampedPage
          rw [known]
          exact ⟨_, sound.page.number, rfl⟩
      | some total =>
          rw [clampedPage_eq active known]
          cases given : lastPage total engine.table.page.size with
          | error misuse => exact ⟨_, sound.page.number, rfl⟩
          | ok last =>
              exact ⟨_, le_min (one_le_of_lastPage given) sound.page.number, rfl⟩

/-- Without a segment, the table is then inside. -/
theorem fits_clamped (sound : Sound engine)
    (manual : engine.state.usesAi = false) : Fits (clamped engine) := by
  obtain ⟨number, positive, moved⟩ := clamped_eq sound
  intro total known small
  have given : engine.table.manualTotal = some total := by
    rw [moved] at known
    exact known
  unfold clamped
  rw [clampedPage_eq manual given,
    lastPage_eq (sound.total total given) small sound.page.size]
  exact ⟨le_min (le_max_left _ _) sound.page.number, min_le_left _ _⟩

/-- The number of rows is known to be too large for a last page, and no segment is
active. -/
def Overflows (engine : Engine) : Prop :=
  engine.state.usesAi = false ∧
    ∃ total, engine.table.manualTotal = some total ∧ 2 ^ 53 ≤ total

/-- Otherwise there is a page to keep the table on. -/
theorem clampedPage_isOk (sound : Sound engine) (moderate : ¬ Overflows engine) :
    ∃ page, engine.clampedPage = .ok page := by
  cases active : engine.state.usesAi with
  | true => exact ⟨_, clampedPage_of_usesAi active⟩
  | false =>
      cases known : engine.table.manualTotal with
      | none =>
          unfold clampedPage
          rw [known]
          exact ⟨_, rfl⟩
      | some total =>
          have small : total < 2 ^ 53 := by
            by_contra large
            exact moderate ⟨active, total, known, not_lt.mp large⟩
          rw [clampedPage_eq active known,
            lastPage_eq (sound.total total known) small sound.page.size]
          exact ⟨_, rfl⟩

end Bounds

section Calls

variable {β : Type} {serves : β → Call → Reply → β → Prop} {server : β}
variable {id : EngineId} {registry : Registry}

/-- A call ends with the given engine and asked nobody.  It gives a value if the
table can be kept inside. -/
structure Turns {α : Type} (id : EngineId) (engine : Engine) (server : β)
    (result : Except Fault α) (later : Registry) (after : β) : Prop where
  has : later.Has id
  kept : later.engine id = clamped engine
  asked : after = server
  gives : (∃ page, engine.clampedPage = .ok page) → ∃ value, result = .ok value

theorem alone_clamp (has : registry.Has id) :
    (clamp id).Alone serves (Turns id (registry.engine id) server) registry
      server := by
  rw [Provenance.clamp_eq]
  simp only [Flow.Alone]
  cases kept : (registry.engine id).clampedPage with
  | error misuse =>
      refine ⟨has, by rw [clamped, kept], rfl, ?_⟩
      rintro ⟨page, same⟩
      rw [kept] at same
      cases same
  | ok page =>
      refine ⟨by simpa using has, ?_, rfl, fun _ => ⟨(), rfl⟩⟩
      rw [Registry.engine_modifyEngine_self has, clamped, kept]

/-- An engine whose table has the given number of rows without a segment. -/
def withTotal (total : Option Int) (engine : Engine) : Engine :=
  { engine with table := { engine.table with manualTotal := total } }

theorem alone_setManualTotal (has : registry.Has id) (total : Option Int) :
    (setManualTotal id total).Alone serves
      (Turns id (withTotal total (registry.engine id)) server) registry
      server := by
  have counted := Registry.engine_modifyEngine_self has (withTotal total)
  show (clamp id).Alone serves _ (registry.modifyEngine id (withTotal total)) _
  rw [← counted]
  exact alone_clamp (by simpa using has)

/-- The number of rows that is given when the table is shown is another one. -/
def Recounts (total : Option Int) (engine : Engine) : Prop :=
  (total.isSome && total != engine.table.manualTotal) = true

instance (total : Option Int) (engine : Engine) :
    Decidable (Recounts total engine) :=
  inferInstanceAs (Decidable (_ = true))

/-- What an engine shows in the table. -/
def shownBy (rows : Json) (total : Option Int) (engine : Engine) : Shown :=
  match engine.state.results with
  | some results =>
      { rows := .arr (results.persons.map .obj)
        total := results.total
        page := engine.table.page }
  | none =>
      { rows := if rows.isFull then rows else .arr []
        total := total.getD 0
        page := engine.table.page }

theorem page_shownBy (rows : Json) (total : Option Int) (engine : Engine) :
    (shownBy rows total engine).page = engine.table.page := by
  unfold shownBy
  split <;> rfl

/-- Showing the table, in its parts. -/
theorem tableShown_eq (rows : Json) (total : Option Int) :
    tableShown id rows total = .inspect fun before : Registry =>
      if Recounts total (before.engine id) then
        (setManualTotal id total).bind fun _ =>
          .inspect fun registry : Registry =>
            .done (shownBy rows total (registry.engine id))
      else
        .inspect fun registry : Registry =>
          .done (shownBy rows total (registry.engine id)) := by
  have looks : (fun registry : Registry =>
      Flow.done (σ := Registry) (shownBy rows total (registry.engine id))) =
      fun registry : Registry =>
        match (registry.engine id).state.results with
        | some results =>
            .done { rows := .arr (results.persons.map .obj)
                    total := results.total
                    page := (registry.engine id).table.page }
        | none =>
            .done { rows := if rows.isFull then rows else .arr []
                    total := total.getD 0
                    page := (registry.engine id).table.page } := by
    funext registry
    unfold shownBy
    split <;> rfl
  rw [looks]
  rfl

/-- What the table shows is the page that it is on, after another number of rows
was taken in. -/
theorem alone_tableShown (has : registry.Has id) (rows : Json)
    (total : Option Int) :
    (tableShown id rows total).Alone serves (fun result later after =>
      (if Recounts total (registry.engine id) then
        Turns id (withTotal total (registry.engine id)) server result later after
      else later = registry ∧ after = server ∧ ∃ shown, result = .ok shown) ∧
      ∀ shown, result = .ok shown →
        shown.page = (later.engine id).table.page) registry server := by
  rw [tableShown_eq]
  simp only [Flow.Alone]
  split
  · apply Flow.alone_bind.mpr
    apply (alone_setManualTotal has total).mono
    intro result later after turns
    cases result with
    | error fault =>
        refine ⟨⟨turns.has, turns.kept, turns.asked, fun page => ?_⟩, by simp⟩
        obtain ⟨_, same⟩ := turns.gives page
        cases same
    | ok _ =>
        refine ⟨⟨turns.has, turns.kept, turns.asked, fun _ => ⟨_, rfl⟩⟩, ?_⟩
        rintro shown ⟨⟩
        exact page_shownBy rows total _
  · refine ⟨⟨rfl, rfl, _, rfl⟩, ?_⟩
    rintro shown ⟨⟩
    exact page_shownBy rows total _

end Calls

end Limits
end Audience
