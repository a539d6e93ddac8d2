import Audience.Proofs.Engine.FirstPage

/-!
# The table without a segment stays inside its rows

Every call that moves the table without a segment, or gives it another number of
rows, keeps it inside the rows.  While a segment is active none does, and the call
that takes the segment off the screen leaves the table where it is.  If that is
outside the rows, the table stays there until the next call that keeps it inside.
-/

namespace Audience
namespace Clamping

open Engine Limits
open FirstPage (Rests)

/-- A call of a user of the table, or one that brings a segment on screen or takes
it off. -/
inductive Task where
  | move (next : Move)
  | setTotal (total : Option Int)
  | showTable (rows : Json) (total : Option Int)
  | apply (change : Engine.Change)
  | clear
  | openPrompt (defaults : Defaults) (surface : Option Surface)
  | hydrate

namespace Task

/-- What is done. -/
def flow (id : EngineId) : Task → Flow Registry Unit
  | move next => (next.flow id).bind fun _ => .done ()
  | setTotal total => setManualTotal id total
  | showTable rows total => (tableShown id rows total).bind fun _ => .done ()
  | apply change => Engine.apply id change
  | clear => Engine.clear id
  | openPrompt defaults surface =>
      (Engine.openPrompt id defaults surface).bind fun _ => .done ()
  | hydrate =>
      ((Engine.hydrate id).serial Engine.restoring []).bind fun _ => .done ()

/-- It is given a proper page, and no negative number of rows. -/
def Proper : Task → Prop
  | move (.toPage page) => Limits.Proper page
  | setTotal total => ∀ number, total = some number → 0 ≤ number
  | showTable _ total => ∀ number, total = some number → 0 ≤ number
  | _ => True

/-- It keeps the table inside its rows, if no segment is active. -/
def Settles (engine : Engine) : Task → Prop
  | move next => ∃ page, next.target engine.table.page = .ok page
  | setTotal _ => True
  | showTable _ total => Recounts total engine
  | _ => False

/-- The table is overlooked outside its rows after the call, given whether it was
before: the segment was taken off the screen there, or the table was overlooked
before, and neither moved nor kept inside. -/
def overlooks (task : Task) (before after : Engine) (overlooked : Prop) : Prop :=
  after.state.usesAi = false ∧
    if before.state.usesAi then ¬ Fits after
    else overlooked ∧ ¬ task.Settles before ∧
      after.table.page = before.table.page

end Task

/-- What a call does to the table of an engine.  Without a segment it keeps the
table inside, or leaves it alone, or goes to the first page. -/
structure Steps (task : Task) (before after : Engine) : Prop where
  sound : Sound after
  settled : before.state.usesAi = false → after.state.usesAi = false →
    task.Settles before → Fits after
  kept : before.state.usesAi = false → after.state.usesAi = false →
    ¬ task.Settles before →
      after.table.manualTotal = before.table.manualTotal ∧
        (after.table.page = before.table.page ∨ after.table.page.number = 1)

section Drifting

variable {id : EngineId} {start before middle after : Registry}

/-- The table may go to a first page, which is one for a segment if it is of
another size, and a segment may come on screen. -/
structure Drifts (id : EngineId) (before after : Registry) : Prop where
  has : after.Has id ↔ before.Has id
  firstPage : (after.engine id).firstPage = (before.engine id).firstPage
  total : (after.engine id).table.manualTotal =
    (before.engine id).table.manualTotal
  active : (before.engine id).state.usesAi = true →
    (after.engine id).state.usesAi = true
  page : (after.engine id).state.usesAi = false →
    (after.engine id).table.page = (before.engine id).table.page ∨
      (after.engine id).table.page.number = 1
  proper : Proper (before.engine id).firstPage →
    Proper (before.engine id).table.page → Proper (after.engine id).table.page

theorem Drifts.trans (early : Drifts id before middle)
    (late : Drifts id middle after) : Drifts id before after where
  has := late.has.trans early.has
  firstPage := late.firstPage.trans early.firstPage
  total := late.total.trans early.total
  active := late.active ∘ early.active
  page := by
    intro manual
    have before : (middle.engine id).state.usesAi = false := by
      by_contra active
      rw [late.active (by simpa using active)] at manual
      cases manual
    obtain same | first := late.page manual
    · rw [same]
      exact early.page before
    · exact .inr first
  proper := by
    intro first page
    exact late.proper (early.firstPage ▸ first) (early.proper first page)

theorem drifts_of_rests (rests : Rests id before after) :
    Drifts id before after where
  has := rests.has
  firstPage := rests.firstPage
  total := by rw [rests.table]
  active := by simp only [AiState.usesAi, rests.results, imp_self]
  page _ := .inl (by rw [rests.table])
  proper _ page := by rwa [rests.table]

theorem Drifts.steps {task : Task} (drifts : Drifts id before after)
    (sound : Sound (before.engine id))
    (idle : ¬ task.Settles (before.engine id)) :
    Steps task (before.engine id) (after.engine id) where
  sound := by
    refine ⟨drifts.proper sound.firstPage sound.page, ?_, ?_⟩
    · rw [drifts.firstPage]
      exact sound.firstPage
    · rw [drifts.total]
      exact sound.total
  settled _ _ settles := absurd settles idle
  kept _ manual _ := ⟨drifts.total, drifts.page manual⟩

end Drifting

section Segments

variable {β : Type} {serves : β → Call → Reply → β → Prop} {server : β}
variable {α : Type} {id : EngineId} {start registry : Registry}

theorem leads_resting {flow : Flow Registry α} (along : Drifts id start registry)
    (rests : flow.Leads serves (fun _ later _ => Rests id registry later) registry
      server) :
    flow.Leads serves (fun _ later _ => Drifts id start later) registry server :=
  rests.mono fun _ _ _ rests => along.trans (drifts_of_rests rests)

/-- Bringing a segment on screen leaves the table alone. -/
theorem leads_apply (along : Drifts id start registry) (change : Engine.Change)
    {results : Results} (shows : change.results = some (some results)) :
    (apply id change).Leads serves (fun _ later _ => Drifts id start later)
      registry server := by
  have counted : Rests id registry (change.counted id registry) :=
    FirstPage.rests_of_alters (Provenance.alters_noted change registry)
      fun engine => by
        unfold Provenance.noted
        split <;> exact ⟨rfl, rfl, rfl, rfl, rfl⟩
  have along := along.trans (drifts_of_rests counted)
  show Flow.Leads serves (Flow.bind (Flow.ofNormal change.root) _) _
    (change.counted id registry) server
  cases change.root with
  | error misuse => exact along
  | ok root =>
      show Flow.Leads serves (persist id _) _ (change.shown id root registry) _
      refine leads_resting (along.trans ?_)
        (FirstPage.leads_quiet id (makes_persist id _ _))
      have alters : Registry.Alters id _ (change.counted id registry)
          (change.shown id root registry) := .of_transition (change.apply root)
      have engine := alters.engine id
      split at engine
      · refine ⟨alters.has id, ?_, ?_, fun _ => ?_, fun _ => .inl ?_, fun _ => ?_⟩
        · rw [engine]
        · rw [engine]
        · rw [engine, AiState.usesAi, Change.apply, shows]
          rfl
        · rw [engine]
        · rw [engine]
          exact fun page => page
      · exact drifts_of_rests ⟨alters.has id, by rw [engine], by rw [engine],
          by rw [engine], by rw [engine], by rw [engine]⟩

/-- So does bringing one on screen after going to a first page. -/
theorem leads_moveAndApply (along : Drifts id start registry) {page : Page}
    (first : page.number = 1)
    (proper : Proper (start.engine id).firstPage →
      Proper (start.engine id).table.page → Proper page)
    (change : Engine.Change) {results : Results}
    (shows : change.results = some (some results)) :
    (Flow.bind (Flow.modify fun registry : Registry =>
      registry.modifyEngine id (Engine.moveTo page)) fun _ =>
        (apply id change).bind fun _ => Flow.done (Except.ok ())).Leads serves
      (fun (_ : Except Fault (Outcome Unit)) later _ => Drifts id start later)
      registry server := by
  have alters : Registry.Alters id _ registry _ :=
    .of_modifyEngine (Engine.moveTo page)
  have moved : Drifts id start
      (registry.modifyEngine id (Engine.moveTo page)) := by
    have engine := alters.engine id
    split at engine
    · refine ⟨(alters.has id).trans along.has, ?_, ?_, fun active => ?_,
        fun _ => .inr ?_, fun start page => ?_⟩
      · rw [engine]
        exact along.firstPage
      · rw [engine]
        exact along.total
      · rw [engine]
        exact along.active active
      · rw [engine]
        exact first
      · rw [engine]
        exact proper start page
    · exact along.trans (drifts_of_rests ⟨alters.has id, by rw [engine],
        by rw [engine], by rw [engine], by rw [engine], by rw [engine]⟩)
  show Flow.Leads serves ((apply id change).bind _) _
    (registry.modifyEngine id (Engine.moveTo page)) server
  exact (leads_apply moved change shows).andThen fun _ _ _ drifts => drifts

/-- Running a saved segment again goes to its first page. -/
theorem leads_runSaved (along : Drifts id start registry)
    (segment : SavedSegment) :
    (runSaved id segment).Leads serves (fun _ later _ => Drifts id start later)
      registry server := by
  have proper (first : Proper (start.engine id).firstPage)
      (page : Proper (start.engine id).table.page) :
      Proper { (registry.engine id).table.page with number := 1 } :=
    ⟨le_rfl, (along.proper first page).size⟩
  show Flow.Leads serves (Flow.bind (Client.runSegment _
    (some segment.ast.filter) false _) _) _ registry server
  apply (leads_resting along (FirstPage.leads_sparing id (Restoring.makes_opening
    (Client.opens_runSegment _ _ false _ registry)))).andThen
  intro outcome between left along
  obtain problem | results := outcome
  · exact along
  apply (leads_resting along (FirstPage.leads_quiet id
    (Client.makes_markUsed _ segment.id between))).andThen
  intro used last ending along
  dsimp only
  split
  · apply (leads_resting along (FirstPage.leads_sparing id
      (Restoring.makes_dropSaved id last))).andThen
    intro _ dropped left along
    exact leads_moveAndApply along rfl proper _ rfl
  · exact leads_moveAndApply along rfl proper _ rfl

/-- Generating a segment leaves the table alone. -/
theorem leads_generate (along : Drifts id start registry) (prompt title : String)
    (debug : Bool) :
    (generate id prompt title debug).Leads serves
      (fun _ later _ => Drifts id start later) registry server := by
  show Flow.Leads serves (Flow.bind (Client.generate _ prompt _) _) _ registry
    server
  apply (leads_resting along (FirstPage.leads_sparing id (Restoring.makes_opening
    (Client.opens_generate _ prompt _ registry)))).andThen
  intro outcome between left along
  obtain problem | generated := outcome
  · exact along
  apply (leads_resting along (FirstPage.leads_sparing id
    (Restoring.makes_saveGenerated id prompt _ generated.segment
      between))).andThen
  intro saved last ending along
  exact (leads_apply along _ rfl).andThen fun _ _ _ drifts => drifts

/-- Opening the prompt does one or the other, or nothing. -/
theorem leads_openPrompt (along : Drifts id start registry) (defaults : Defaults)
    (surface : Option Surface) :
    (openPrompt id defaults surface).Leads serves
      (fun _ later _ => Drifts id start later) registry server := by
  rw [Failing.openPrompt_eq]
  apply (leads_resting along (FirstPage.leads_sparing id (Restoring.makes_opening
    (Provenance.opens_ask id surface registry)))).andThen
  intro given between left along
  obtain _ | submission := given
  · exact along
  refine Flow.Leads.andThen ?_ fun _ _ _ drifts => drifts
  unfold answerPrompt
  cases Registry.nonempty? submission.savedSegmentId with
  | none => exact leads_generate along _ _ _
  | some segment =>
      apply (leads_resting along (FirstPage.leads_sparing id
        (Restoring.makes_requireSaved id segment between))).andThen
      intro found last ending along
      obtain problem | saved := found
      · exact along
      · exact leads_runSaved along saved

/-- What the restoring of an engine may change. -/
theorem drifts_of_allowed {generation : Nat} {before after : Registry}
    (has : before.Has id) (allowed : Restoring.Allowed id generation before after) :
    Drifts id before after := by
  obtain spares | ⟨-, restored, restores⟩ := allowed.2 has
  · exact drifts_of_rests (FirstPage.rests_of_spares spares)
  have alters : Registry.Alters id _ before _ :=
    (Registry.Alters.of_modifyEngine fun engine : Engine =>
      engine.takeToken.moveTo engine.firstPage).trans
      (.of_transition restored.apply)
  have engine := alters.engine id
  rw [if_pos ⟨rfl, has⟩] at engine
  have filled : Rests id ((before.modifyEngine id fun engine =>
      engine.takeToken.moveTo engine.firstPage).transition id restored.apply)
        after := by
    rw [restores.transition]
    exact FirstPage.rests_of_spares (Restoring.spares_backfillPrompt _ id)
  have shown : (after.engine id).state.usesAi = true := by
    rw [AiState.usesAi, restores.results]
    rfl
  refine ⟨allowed.1.has id, ?_, ?_, fun _ => shown, fun manual => ?_,
    fun first _ => ?_⟩
  · rw [filled.firstPage, engine]
    rfl
  · rw [filled.table, engine]
    rfl
  · rw [shown] at manual
    cases manual
  · rwa [restores.page]

/-- Restoring an engine goes to the page that it starts on, with a segment. -/
theorem leads_hydrate (has : registry.Has id) :
    ((hydrate id).serial Engine.restoring []).Leads serves
      (fun _ later _ => Drifts id registry later) registry server := by
  show ((Engine.restoring id).finish _).Leads serves _ registry server
  rw [Flow.leads_finish]
  have makes : (Engine.restoring id).Makes
      (fun before after => before.Has id → Drifts id before after)
      (fun _ => True) registry :=
    (Restoring.makes_restoring id registry).relax fun _ _ allowed has =>
      drifts_of_allowed has allowed
  apply (makes.leads_along (fun _ _ => drifts_of_rests (.refl id _))
    fun early late has => (early has).trans
      (late ((early has).has.mpr has))).mono
  rintro result later after ⟨-, drifts⟩
  cases result <;> exact drifts has

end Segments

section Calls

variable {β : Type} {serves : β → Call → Reply → β → Prop} {server : β}
variable {id : EngineId} {registry : Registry} {engine : Engine}

theorem sound_moveTo (sound : Sound engine) {page : Page} (proper : Proper page) :
    Sound (engine.moveTo page) :=
  { sound with page := proper }

theorem sound_clamped (sound : Sound engine) : Sound (clamped engine) := by
  obtain ⟨number, positive, moved⟩ := clamped_eq sound
  rw [moved]
  exact sound_moveTo sound ⟨positive, sound.page.size⟩

theorem sound_withTotal (sound : Sound engine) {total : Option Int}
    (known : ∀ number, total = some number → 0 ≤ number) :
    Sound (withTotal total engine) :=
  { sound with total := known }

/-- A run changes neither the table, but for the count of runs, nor whether a
segment is active. -/
theorem sound_ranOnce (sound : Sound engine)
    (outcome : Except Fault (Outcome Results)) :
    Sound (Moving.ranOnce outcome engine) := by
  unfold Moving.ranOnce
  split
  · exact ⟨sound.page, sound.firstPage, sound.total⟩
  · exact ⟨sound.page, sound.firstPage, sound.total⟩

theorem usesAi_ranOnce (active : engine.state.usesAi = true)
    (outcome : Except Fault (Outcome Results)) :
    (Moving.ranOnce outcome engine).state.usesAi = true := by
  unfold Moving.ranOnce
  split
  · rfl
  · exact active

/-- A page in another order is the first one of the same size. -/
theorem first_of_read {size : Int} {orderBy order : Json} {page : Page}
    (read : Page.readFields [("page", .int 1), ("size", .int size),
      ("order_by", orderBy), ("order", order)] = .value page) :
    page.number = 1 ∧ page.size = size := by
  unfold Page.readFields at read
  simp only [Reading.seq_eq_value, Reading.map_eq_value] at read
  obtain ⟨_, _, ⟨_, _, ⟨_, sized, ⟨number, first, rfl⟩, same, rfl⟩, -, rfl⟩, -,
    rfl⟩ := read
  rw [Reading.optional_of_get rfl] at first same
  cases first
  cases same
  exact ⟨rfl, rfl⟩

/-- A move asks for a proper page, if it asks for one. -/
theorem proper_target {next : Move} {current page : Page}
    (proper : (Task.move next).Proper) (at_ : Proper current)
    (asks : next.target current = .ok page) : Proper page := by
  cases next with
  | toPage page =>
      cases asks
      exact proper
  | toNumber number =>
      simp only [Move.target] at asks
      split at asks
      · cases asks
        exact ⟨le_max_left 1 _, at_.size⟩
      · cases asks
  | toSize size =>
      simp only [Move.target] at asks
      split at asks
      · cases asks
        exact ⟨le_rfl, le_max_left 1 _⟩
      · cases asks
  | toOrder orderBy order =>
      simp only [Move.target] at asks
      cases read : Page.readFields [("page", .int 1),
          ("size", .int current.size), ("order_by", orderBy),
          ("order", order)] with
      | value found =>
          rw [read] at asks
          cases asks
          obtain ⟨number, size⟩ := first_of_read read
          exact ⟨number.ge, size ▸ at_.size⟩
      | _ =>
          rw [read] at asks
          cases asks

/-- A call that keeps the table of an engine inside. -/
theorem steps_clamped {task : Task} {before after : Engine}
    (sound : Sound after) (same : after.state.usesAi = before.state.usesAi)
    (settles : task.Settles before) : Steps task before (clamped after) where
  sound := sound_clamped sound
  settled manual _ _ := fits_clamped sound (same.trans manual)
  kept _ _ idle := absurd settles idle

/-- A call that ends with a segment on screen. -/
theorem steps_of_usesAi {task : Task} {before after : Engine}
    (sound : Sound after) (active : after.state.usesAi = true) :
    Steps task before after where
  sound := sound
  settled _ manual _ := by
    rw [active] at manual
    cases manual
  kept _ manual _ := by
    rw [active] at manual
    cases manual

theorem leads_setPage (has : registry.Has id) (sound : Sound (registry.engine id))
    {task : Task} {page : Page} (proper : Proper page)
    (settles : task.Settles (registry.engine id)) :
    (setPage id page).Leads serves (fun _ later _ => later.Has id ∧
      Steps task (registry.engine id) (later.engine id)) registry server := by
  apply Flow.Alone.leads
  have moved := sound_moveTo sound proper
  cases active : (registry.engine id).state.usesAi with
  | true =>
      have still : ((registry.engine id).moveTo page).state.usesAi = true :=
        active
      apply (Moving.alone_setPage active).mono
      intro result later after ended
      obtain ⟨shown, sound⟩ : (later.engine id).state.usesAi = true ∧
          Sound (later.engine id) := by
        cases ended with
        | kept known engine =>
            rw [engine]
            exact ⟨still, moved⟩
        | ran outcome away other engine brought =>
            rw [engine]
            exact ⟨usesAi_ranOnce still outcome, sound_ranOnce moved outcome⟩
      exact ⟨Registry.has_of_usesAi shown, steps_of_usesAi sound shown⟩
  | false =>
      rw [Paging.setPage_eq]
      simp only [Flow.Alone, active, Bool.not_false, if_true]
      apply Flow.alone_bind.mpr
      apply (alone_clamp (by simpa using has)).mono
      intro result later after turns
      have steps : Steps task (registry.engine id) (later.engine id) := by
        rw [turns.kept, Registry.engine_modifyEngine_self has]
        exact steps_clamped moved rfl settles
      cases result <;> exact ⟨turns.has, steps⟩

/-- A move leads where going to its page leads, unless it asks for none. -/
theorem leads_flow (next : Move)
    {ends : Except Fault (Option (Outcome Results)) → Registry → β → Prop}
    (refused : ∀ fault,
      next.target (registry.engine id).table.page = .error fault →
      ends (.error fault) registry server)
    (moves : ∀ page, next.target (registry.engine id).table.page = .ok page →
      (setPage id page).Leads serves ends registry server) :
    (next.flow id).Leads serves ends registry server := by
  cases next with
  | toPage page => exact moves page rfl
  | toNumber number =>
      show Flow.Leads serves ((Flow.ofNormal number.whole).bind _) ends _ _
      simp only [Move.target] at moves refused
      cases read : number.whole with
      | error misuse => exact refused _ (by simp only [read])
      | ok number => exact moves _ (by simp only [read])
  | toSize size =>
      show Flow.Leads serves ((Flow.ofNormal size.whole).bind _) ends _ _
      simp only [Move.target] at moves refused
      cases read : size.whole with
      | error misuse => exact refused _ (by simp only [read])
      | ok size => exact moves _ (by simp only [read])
  | toOrder orderBy order =>
      show Flow.Leads serves ((Flow.ofResult _).bind _) ends _ _
      rw [Flow.leads_bind, Flow.leads_ofResult]
      simp only [Move.target] at moves refused
      cases read : (Page.readFields
        [ ("page", .int 1), ("size", .int (registry.engine id).table.page.size),
          ("order_by", orderBy), ("order", order) ]).toExcept with
      | error fault => exact refused fault read
      | ok page => exact moves page read

/-- A call that leaves the table alone. -/
theorem steps_of_same {task : Task} {before after : Engine}
    (sound : Sound before) (idle : ¬ task.Settles before)
    (table : after.table = before.table)
    (firstPage : after.firstPage = before.firstPage) :
    Steps task before after where
  sound := by
    refine ⟨?_, ?_, ?_⟩
    · rw [table]
      exact sound.page
    · rw [firstPage]
      exact sound.firstPage
    · rw [table]
      exact sound.total
  settled _ _ settles := absurd settles idle
  kept _ _ _ := by
    rw [table]
    exact ⟨rfl, .inl rfl⟩

/-- Such as a change of what is on screen. -/
theorem steps_of_alters (has : registry.Has id)
    (sound : Sound (registry.engine id)) {task : Task}
    (idle : ¬ task.Settles (registry.engine id)) {change : Engine → Engine}
    {shown : Registry} (alters : Registry.Alters id change registry shown)
    (keeps : ∀ engine, (change engine).table = engine.table ∧
      (change engine).firstPage = engine.firstPage) {later : Registry}
    (rests : Rests id shown later) :
    later.Has id ∧ Steps task (registry.engine id) (later.engine id) := by
  have engine := alters.engine id
  rw [if_pos ⟨rfl, has⟩] at engine
  obtain ⟨table, firstPage⟩ := keeps (registry.engine id)
  rw [← engine] at table firstPage
  exact ⟨rests.has.mpr ((alters.has id).mpr has), steps_of_same sound idle
    (rests.table.trans table) (rests.firstPage.trans firstPage)⟩

/-- Every call takes its step. -/
theorem leads_task (has : registry.Has id) (sound : Sound (registry.engine id))
    {task : Task} (proper : task.Proper) :
    (task.flow id).Leads serves (fun _ later _ => later.Has id ∧
      Steps task (registry.engine id) (later.engine id)) registry server := by
  cases task with
  | move next =>
      refine Flow.Leads.andThen ?_ fun _ _ _ steps => steps
      refine leads_flow next (fun fault refused => ⟨has, ?_⟩) fun page asks => ?_
      · refine steps_of_same sound ?_ rfl rfl
        rintro ⟨page, asks⟩
        rw [refused] at asks
        cases asks
      · exact leads_setPage has sound (proper_target proper sound.page asks)
          ⟨page, asks⟩
  | setTotal total =>
      apply Flow.Alone.leads
      apply (alone_setManualTotal has total).mono
      intro result later after turns
      refine ⟨turns.has, ?_⟩
      rw [turns.kept]
      exact steps_clamped (sound_withTotal sound proper) rfl trivial
  | showTable rows total =>
      refine Flow.Leads.andThen ?_ fun _ _ _ steps => steps
      apply Flow.Alone.leads
      apply (alone_tableShown has rows total).mono
      rintro result later after ⟨ends, -⟩
      split at ends
      · rename_i recounts
        refine ⟨ends.has, ?_⟩
        rw [ends.kept]
        exact steps_clamped (sound_withTotal sound proper) rfl recounts
      · rename_i idle
        obtain ⟨rfl, -⟩ := ends
        exact ⟨has, steps_of_same sound idle rfl rfl⟩
  | apply change =>
      have counted : Registry.Alters id _ registry (change.counted id registry) :=
        Provenance.alters_noted change registry
      have keeps (engine : Engine) :
          (Provenance.noted change engine).table = engine.table ∧
            (Provenance.noted change engine).firstPage = engine.firstPage := by
        unfold Provenance.noted
        split <;> exact ⟨rfl, rfl⟩
      have idle : ¬ (Task.apply change).Settles (registry.engine id) := not_false
      show Flow.Leads serves (Flow.bind (Flow.ofNormal change.root) _) _
        (change.counted id registry) server
      cases change.root with
      | error misuse =>
          exact steps_of_alters has sound idle counted keeps (.refl id _)
      | ok root =>
          exact (FirstPage.leads_quiet id (makes_persist id _ _)).mono
            fun _ _ _ => steps_of_alters has sound idle
              (counted.trans (.of_transition (change.apply root))) keeps
  | clear =>
      have idle : ¬ Task.clear.Settles (registry.engine id) := not_false
      have wiped : Registry.Alters id _ registry (wiped id registry) :=
        ((Registry.Alters.of_modifyEngine Provenance.counted).trans
          (.of_modifyEngine Engine.takeToken)).trans (.of_transition cleared)
      exact (FirstPage.leads_quiet id (makes_persist id _ _)).mono
        fun _ _ _ => steps_of_alters has sound idle wiped fun _ => ⟨rfl, rfl⟩
  | openPrompt defaults surface =>
      refine Flow.Leads.andThen ?_ fun _ _ _ steps => steps
      apply (leads_openPrompt (drifts_of_rests (.refl id registry)) defaults
        surface).mono
      intro result later after drifts
      exact ⟨drifts.has.mpr has, drifts.steps sound not_false⟩
  | hydrate =>
      refine Flow.Leads.andThen ?_ fun _ _ _ steps => steps
      apply (leads_hydrate has).mono
      intro result later after drifts
      exact ⟨drifts.has.mpr has, drifts.steps sound not_false⟩

end Calls

section Histories

variable {β : Type} {serves : β → Call → Reply → β → Prop} {server stored : β}
variable {id : EngineId} {start registry : Registry} {overlooked : Prop}

/-- Calls were made one after the other, and end in some way.  The table is
overlooked outside its rows, or not. -/
inductive Reached (serves : β → Call → Reply → β → Prop) (id : EngineId)
    (start : Registry) (stored : β) : Prop → Registry → β → Prop where
  | start : Reached serves id start stored False start stored
  | step {overlooked : Prop} {registry later : Registry} {server after : β}
      {result : Except Fault Unit} (task : Task) (proper : task.Proper)
      (reached : Reached serves id start stored overlooked registry server)
      (ran : (task.flow id).Ran serves registry server result later after) :
      Reached serves id start stored (task.overlooks (registry.engine id)
        (later.engine id) overlooked) later after

theorem fits_of_first {engine : Engine}
    (first : engine.table.page.number = 1) : Fits engine := by
  intro total _ _
  rw [first]
  exact ⟨le_rfl, le_max_left 1 _⟩

theorem fits_congr {before after : Engine}
    (total : after.table.manualTotal = before.table.manualTotal)
    (page : after.table.page = before.table.page) : Fits after ↔ Fits before := by
  unfold Fits
  rw [total, page]

/-- One call: without a segment, the table is inside its rows exactly if it is not
overlooked. -/
theorem Steps.fits_iff {task : Task} {before after : Engine}
    (steps : Steps task before after)
    (known : before.state.usesAi = false → (Fits before ↔ ¬ overlooked))
    (manual : after.state.usesAi = false) :
    Fits after ↔ ¬ task.overlooks before after overlooked := by
  unfold Task.overlooks
  cases was : before.state.usesAi with
  | true => simp [manual]
  | false =>
      by_cases settles : task.Settles before
      · simp [settles, steps.settled was manual settles]
      · obtain ⟨total, same | first⟩ := steps.kept was manual settles
        · simp [manual, settles, same, fits_congr total same, known was]
        · refine iff_of_true (fits_of_first first) ?_
          rintro ⟨-, outside, -, same⟩
          exact (known was).mp (fits_of_first (same ▸ first)) outside

/-- Any calls. -/
theorem fits_of_reached (has : start.Has id) (sound : Sound (start.engine id))
    (fits : (start.engine id).state.usesAi = false → Fits (start.engine id))
    (reached : Reached serves id start stored overlooked registry server) :
    registry.Has id ∧ Sound (registry.engine id) ∧
      ((registry.engine id).state.usesAi = false →
        (Fits (registry.engine id) ↔ ¬ overlooked)) := by
  induction reached with
  | start => exact ⟨has, sound, fun manual => by simp [fits manual]⟩
  | step task proper reached ran ih =>
      obtain ⟨has, sound, known⟩ := ih
      obtain ⟨has, steps⟩ := (leads_task has sound proper).ran ran
      exact ⟨has, steps.sound, steps.fits_iff known⟩

/-- Calls of users of the table follow one another, and calls that bring segments
on screen or take them off.  Whenever no segment is active, the table is on a page
of its rows exactly if it is not overlooked: no segment was taken off the screen
while the table was outside its rows, or a call has moved the table since or kept
it inside.  So it is for the page that the table shows next. -/
theorem in_range_iff_not_overlooked (has : start.Has id)
    (sound : Sound (start.engine id))
    (fits : (start.engine id).state.usesAi = false → Fits (start.engine id))
    (reached : Reached serves id start stored overlooked registry server)
    (manual : (registry.engine id).state.usesAi = false) :
    (Fits (registry.engine id) ↔ ¬ overlooked) ∧
    ∀ rows total, (Task.showTable rows total).Proper →
      ∀ result later after,
        (tableShown id rows total).Ran serves registry server result later after →
        ((∀ number, total = some number → number < 2 ^ 53) →
          ∃ shown, result = .ok shown) ∧
        (∀ shown, result = .ok shown →
          shown.page = (later.engine id).table.page) ∧
        (Fits (later.engine id) ↔
          ¬ (overlooked ∧ ¬ Recounts total (registry.engine id))) := by
  obtain ⟨has, sound, known⟩ := fits_of_reached has sound fits reached
  refine ⟨known manual, ?_⟩
  intro rows total proper result later after shows
  obtain ⟨ends, page⟩ := (alone_tableShown has rows total).ran shows
  split at ends
  · rename_i recounts
    have counted := sound_withTotal sound proper
    refine ⟨fun small => ends.gives (clampedPage_isOk counted ?_), page, ?_⟩
    · rintro ⟨-, number, known, large⟩
      exact absurd (small number known) (not_lt.mpr large)
    · rw [ends.kept]
      exact iff_of_true (fits_clamped counted manual) fun still =>
        still.2 recounts
  · rename_i idle
    obtain ⟨rfl, -, given⟩ := ends
    exact ⟨fun _ => given, page, by simp [known manual, idle]⟩

end Histories

section NinthPage

/-- The table of a new engine was moved to the ninth page, with no number of rows
known. -/
def onNinthPage : Registry :=
  Reloading.withEngine.modifyEngine 0
    (Engine.moveTo { Page.standard with number := 9 })

theorem sound_onNinthPage : Sound (onNinthPage.engine 0) where
  page := ⟨by decide, by decide⟩
  firstPage := ⟨by decide, by decide⟩
  total := by
    intro total known
    cases known

theorem fits_onNinthPage : Fits (onNinthPage.engine 0) := by
  intro total known
  cases known

/-- No call is answered in time. -/
def noReply (_ : Unit) (_ : Call) : Reply × Unit := (.timeout, ())

/-- What calls lead to that are made one after the other. -/
def told : List Task → Registry → Option Registry
  | [], registry => some registry
  | task :: tasks, registry =>
      ((task.flow 0).computed noReply registry ()).bind fun ends =>
        told tasks ends.2.1

theorem reached_of_told {start : Registry} (tasks : List Task)
    (proper : ∀ task ∈ tasks, task.Proper) {overlooked : Prop}
    {registry later : Registry}
    (reached : Reached Moving.silent 0 start () overlooked registry ())
    (ended : told tasks registry = some later) :
    ∃ overlooked, Reached Moving.silent 0 start () overlooked later () := by
  induction tasks generalizing overlooked registry with
  | nil =>
      cases ended
      exact ⟨overlooked, reached⟩
  | cons task tasks ih =>
      obtain ⟨⟨result, between, after⟩, computed, rest⟩ :=
        Option.bind_eq_some_iff.mp ended
      exact ih (fun next member => proper next (List.mem_cons_of_mem _ member))
        (reached.step task (proper task (List.mem_cons_self ..))
          (Flow.ran_of_computed (fun _ _ => rfl) computed)) rest

/-- Sixty rows fill three pages, and the table goes to the third. -/
theorem in_range_iff_not_overlooked_at_sixty_rows :
    ∃ registry, Reached Moving.silent 0 onNinthPage ()
        ((Task.setTotal (some 60)).overlooks (onNinthPage.engine 0)
          (registry.engine 0) False) registry () ∧
      (registry.engine 0).state.usesAi = false ∧
      (registry.engine 0).table.manualTotal = some 60 ∧
      Fits (registry.engine 0) := by
  obtain ⟨result, later, after, ran, known⟩ :
      ∃ result later after, ((Task.setTotal (some 60)).flow 0).Ran Moving.silent
        onNinthPage () result later after ∧
        (!(later.engine 0).state.usesAi &&
          (later.engine 0).table.manualTotal == some 60) = true :=
    Flow.exists_ran noReply _ _ _
      (fun _ (later : Registry) _ => !(later.engine 0).state.usesAi &&
        (later.engine 0).table.manualTotal == some 60)
      (fun _ _ => rfl) (by decide +kernel)
  simp only [Bool.and_eq_true, Bool.not_eq_true', beq_iff_eq] at known
  have proper : (Task.setTotal (some 60)).Proper := by
    rintro number ⟨⟩
    decide
  have reached := Reached.start.step _ proper ran
  have exactly := (in_range_iff_not_overlooked (by decide) sound_onNinthPage
    (fun _ => fits_onNinthPage) reached known.1).1
  refine ⟨later, reached, known.1, known.2, exactly.mpr ?_⟩
  rintro ⟨-, still⟩
  exact still.1

/-- A segment comes on screen, the number of rows is given, and the screen is
cleared. -/
def clearing : List Task :=
  [ .apply { results := some (some default)
             savedId := none
             ast := none
             title := none
             prompt := none },
    .setTotal (some 60), .clear ]

theorem proper_clearing (task : Task) (member : task ∈ clearing) :
    task.Proper := by
  simp only [clearing, List.mem_cons, List.not_mem_nil, or_false] at member
  obtain rfl | rfl | rfl := member
  · trivial
  · rintro number ⟨⟩
    decide
  · trivial

/-- The table stays on the ninth page. -/
theorem cleared_table_stays_outside :
    onNinthPage.Has 0 ∧ Sound (onNinthPage.engine 0) ∧
      Fits (onNinthPage.engine 0) ∧
      ¬ ∀ overlooked registry,
        Reached Moving.silent 0 onNinthPage () overlooked registry () →
        (registry.engine 0).state.usesAi = false → Fits (registry.engine 0) := by
  refine ⟨by decide, sound_onNinthPage, fits_onNinthPage, fun always => ?_⟩
  obtain ⟨later, ended, known⟩ : ∃ later,
      told clearing onNinthPage = some later ∧
      (!(later.engine 0).state.usesAi &&
        (later.engine 0).table.manualTotal == some 60 &&
        (later.engine 0).table.page == { Page.standard with number := 9 }) =
          true :=
    (Option.any_eq_true _ _).mp (by decide +kernel)
  simp only [Bool.and_eq_true, Bool.not_eq_true', beq_iff_eq] at known
  obtain ⟨⟨manual, total⟩, page⟩ := known
  obtain ⟨overlooked, reached⟩ :=
    reached_of_told clearing proper_clearing .start ended
  have inside := (always overlooked later reached manual 60 total (by decide)).2
  have pages : ⌈((60 : Int) : ℚ) / Page.standard.size⌉ = 3 := by
    rw [Int.ceil_eq_iff]
    norm_num [Page.standard]
  rw [page, pages] at inside
  exact absurd inside (by decide)

end NinthPage

end Clamping
end Audience
