import Audience.Engine.Paging
import Audience.Proofs.Flow.Soundness
import Audience.Proofs.Reading
import Audience.Proofs.Registry

/-!
# Rows match the page under overlapping moves

Any number of calls move the table of an engine on which a segment is active.
Each of them either runs the segment again, or is answered by the page that the
table is on, or by the results on screen.  Once nothing is under way, the
results on screen are those that were asked for last.  They are those of the
page of the table exactly if that was asked for last, which can only fail when
a call was answered by the results on screen while a run was under way.
-/

namespace Audience
namespace Engine

/-- A call that moves the table. -/
inductive Move where
  | toPage (page : Page)
  | toNumber (number : Json)
  | toSize (size : Json)
  | toOrder (orderBy order : Json)

namespace Move

/-- What a move does. -/
def flow (id : EngineId) : Move → Flow Registry (Option (Outcome Results))
  | toPage page => setPage id page
  | toNumber number => setPageNumber id number
  | toSize size => setPageSize id size
  | toOrder orderBy order => setPageOrder id orderBy order

/-- The page that a move asks for when the table is on the given one. -/
def target (current : Page) : Move → Except Fault Page
  | toPage page => .ok page
  | toNumber number =>
      match number.whole with
      | .ok number => .ok { current with number := max 1 number }
      | .error misuse => .error (.misuse misuse)
  | toSize size =>
      match size.whole with
      | .ok size => .ok { current with size := max 1 size, number := 1 }
      | .error misuse => .error (.misuse misuse)
  | toOrder orderBy order =>
      (Page.readFields
        [ ("page", .int 1), ("size", .int current.size),
          ("order_by", orderBy), ("order", order) ]).toExcept

variable {contract : Contract Registry} {start : Registry}
variable {now : World Registry} {id : EngineId}
variable {ends : Except Fault (Option (Outcome Results)) → Registry →
  World Registry → Prop}

/-- A move upholds what moving to its page upholds, unless it asks for none. -/
theorem upholds_flow (move : Move)
    (refused : ∀ fault, ends (.error fault) start now)
    (moves : ∀ page,
      move.target (now.state.engine id).table.page = .ok page →
      (setPage id page).Upholds contract ends start now) :
    (move.flow id).Upholds contract ends start now := by
  cases move with
  | toPage page => exact moves page rfl
  | toNumber number =>
      show Flow.Upholds contract ((Flow.ofNormal number.whole).bind _) ends _ _
      simp only [target] at moves
      cases read : number.whole with
      | error misuse => exact refused _
      | ok number => exact moves _ (by simp only [read])
  | toSize size =>
      show Flow.Upholds contract ((Flow.ofNormal size.whole).bind _) ends _ _
      simp only [target] at moves
      cases read : size.whole with
      | error misuse => exact refused _
      | ok size => exact moves _ (by simp only [read])
  | toOrder orderBy order =>
      show Flow.Upholds contract ((Flow.ofResult _).bind _) ends _ _
      rw [Flow.upholds_bind, Flow.upholds_ofResult]
      simp only [target] at moves
      cases read : (Page.readFields
        [ ("page", .int 1), ("size", .int (now.state.engine id).table.page.size),
          ("order_by", orderBy), ("order", order) ]).toExcept with
      | error fault => exact refused _
      | ok page => exact moves page read

end Move
end Engine

namespace Paging

open Engine

/-- A call asks for a page. -/
def Asks (call : Call) (page : Page) : Prop :=
  (call.body.getD .null).get "pagination" = page.toJson

/-- A successful reply carries the page that was asked for. -/
def Echoes (call : Call) (reply : Reply) : Prop :=
  ∀ json, Client.ended none reply = .ok json →
    json.get "pagination" = (call.body.getD .null).get "pagination"

/-- A move ends well: it runs nothing, or its run succeeds. -/
def Succeeds (result : Except Fault (Option (Outcome Results))) : Prop :=
  result = .ok none ∨ ∃ results, result = .ok (some (.ok results))

/-- A fault is no success. -/
theorem not_succeeds_error {fault : Fault} : ¬ Succeeds (.error fault) := by
  rintro (same | ⟨results, same⟩) <;> cases same

/-- Neither is a problem. -/
theorem not_succeeds_problem {problem : Problem} :
    ¬ Succeeds (.ok (some (.error problem))) := by
  rintro (same | ⟨results, same⟩) <;> cases same

instance : DecidablePred Succeeds
  | .ok none => isTrue (.inl rfl)
  | .ok (some (.ok results)) => isTrue (.inr ⟨results, rfl⟩)
  | .ok (some (.error _)) => isFalse not_succeeds_problem
  | .error _ => isFalse not_succeeds_error

/-- The page was asked for last: by the call sent last, or, when none was sent,
by whatever put the results on screen. -/
def AskedLast (id : EngineId) (start : Registry) (world : World Registry)
    (page : Page) : Prop :=
  match world.sent.getLast? with
  | some (_, call) => Asks call page
  | none => (start.engine id).resultPage = some page

/-- The reply to the call sent last, if there is one, was delivered. -/
def Settled (world : World Registry) : Prop :=
  ∀ number, number + 1 = world.sent.length → world.Answered number

/-- A segment is active, every call took the next token, and the results are
those asked for last as soon as their reply is there.  `careful` stands for any
reason for which the table is always on the page that was asked for last. -/
structure Shows (id : EngineId) (start : Registry) (careful : Prop)
    (world : World Registry) : Prop where
  active : (world.state.engine id).state.usesAi = true
  tokens : (world.state.engine id).latestToken =
    (start.engine id).latestToken + world.sent.length
  known : ∀ number, world.Answered number → number < world.sent.length
  shown : Settled world → ∃ page, AskedLast id start world page ∧
    (world.state.engine id).resultPage = some page
  placed : careful →
    AskedLast id start world (world.state.engine id).table.page

/-- What moves of the same table rely on. -/
def contract (id : EngineId) (start : Registry) (careful : Prop) :
    Contract Registry where
  inv := Shows id start careful
  moves _ _ := True
  change _ _ := True
  replies := Echoes
  moves_refl _ := trivial
  moves_trans _ _ := trivial
  change_trans _ _ := trivial
  change_of_moves _ := trivial

/-- Only one page was asked for last. -/
theorem AskedLast.unique {id : EngineId} {start : Registry}
    {world : World Registry} {first second : Page}
    (one : AskedLast id start world first)
    (two : AskedLast id start world second) : first = second := by
  unfold AskedLast at one two
  cases last : world.sent.getLast? with
  | some entry =>
      simp only [last, Asks] at one two
      exact Page.toJson_injective (one.symm.trans two)
  | none =>
      simp only [last] at one two
      exact Option.some.inj (one.symm.trans two)

section Moves

variable {id : EngineId} {start : Registry} {careful : Prop}
variable {world : World Registry}

/-- Nothing that moves see depends on more than the engine of the table. -/
theorem Shows.of_engine {state : Registry}
    (shows : Shows id start careful world)
    (sameState : (state.engine id).state = (world.state.engine id).state)
    (sameToken : (state.engine id).latestToken =
      (world.state.engine id).latestToken)
    (placed : careful →
      AskedLast id start world (state.engine id).table.page) :
    Shows id start careful { world with state } := by
  refine ⟨?_, ?_, shows.known, ?_, fun care => placed care⟩
  · rw [sameState]
    exact shows.active
  · rw [sameToken]
    exact shows.tokens
  · intro settled
    obtain ⟨page, asked, shown⟩ := shows.shown settled
    refine ⟨page, asked, ?_⟩
    unfold resultPage at shown ⊢
    rw [sameState]
    exact shown

/-- Without care less is known. -/
theorem Shows.weaken (shows : Shows id start careful world) :
    Shows id start False world :=
  { shows with placed := False.elim }

/-- The page in the body of a run is the one that is asked for. -/
theorem asks_of_call {client : Client} {path : String} {node : Filter.Node}
    {debug : Bool} {page : Page} {call : Call}
    (made : client.call "POST" path
      (some (Client.runBody node debug (some page))) = .ok call) :
    Asks call page := by
  rw [Asks, Client.body_of_call made]
  rfl

/-- A run that succeeds brings results of the page that it was asked for. -/
theorem page_of_outcome {call : Call} {reply : Reply} {page : Page}
    {results : Results} (asks : Asks call page) (echoes : Echoes call reply)
    (ok : Client.runOutcome reply = .ok (.ok results)) :
    results.page = some page := by
  unfold Client.runOutcome Client.outcome at ok
  cases answered : Client.ended none reply with
  | error fault =>
      rw [answered] at ok
      cases fault <;> cases ok
  | ok json =>
      rw [answered] at ok
      simp only [Except.bind, Client.parse] at ok
      cases read : Results.read json with
      | value found =>
          simp only [read, Flow.guarded, Except.ok.injEq] at ok
          subst ok
          exact Results.page_of_read read ((echoes json answered).trans asks)
      | rejected errors => simp [read, Flow.guarded] at ok
      | misused misuse => simp [read, Flow.guarded] at ok

/-- When a run is sent, the page of the table is asked for last. -/
theorem Shows.send {before : Prop} {state : Registry} {call : Call}
    {page : Page} (shows : Shows id start before world) (asks : Asks call page)
    (sameState : (state.engine id).state = (world.state.engine id).state)
    (nextToken : (state.engine id).latestToken =
      (world.state.engine id).latestToken + 1)
    (onPage : (state.engine id).table.page = page) :
    Shows id start careful
      (({ world with state } : World Registry).send call) := by
  have last : AskedLast id start
      (({ world with state } : World Registry).send call) page := by
    unfold AskedLast World.send
    simpa using asks
  refine ⟨?_, ?_, ?_, ?_, ?_⟩
  · simp only [World.send, sameState]
    exact shows.active
  · simp only [World.send, nextToken, shows.tokens, List.length_append,
      List.length_singleton]
    omega
  · intro number answered
    have within := shows.known number answered
    simp only [World.send, List.length_append, List.length_singleton]
    omega
  · intro settled
    have within := shows.known world.sent.length
      (settled world.sent.length (by simp [World.send]))
    omega
  · intro _
    simpa only [World.send, onPage] using last

/-- A reply that was just delivered, or one delivered before. -/
theorem answered_deliver {number other : Nat} {reply : Reply} :
    (world.deliver number reply).Answered other ↔
      world.Answered other ∨ other = number := by
  unfold World.Answered World.deliver
  simp only [List.mem_append, List.mem_singleton, Prod.mk.injEq]
  constructor
  · rintro ⟨found, member | ⟨rfl, -⟩⟩
    · exact .inl ⟨found, member⟩
    · exact .inr rfl
  · rintro (⟨found, member⟩ | rfl)
    · exact ⟨found, .inl member⟩
    · exact ⟨reply, .inr ⟨rfl, rfl⟩⟩

/-- A late reply that is not accepted changes nothing. -/
theorem Shows.ignore {number : Nat} {reply : Reply}
    (shows : Shows id start careful world)
    (within : number < world.sent.length)
    (old : number + 1 ≠ world.sent.length) :
    Shows id start careful (world.deliver number reply) := by
  refine ⟨shows.active, shows.tokens, ?_, ?_, fun care => shows.placed care⟩
  · intro other answered
    obtain before | rfl := answered_deliver.mp answered
    · exact shows.known other before
    · exact within
  · intro settled
    apply shows.shown
    intro other last
    obtain before | rfl := answered_deliver.mp (settled other last)
    · exact before
    · exact absurd last old

/-- The reply to the call sent last puts the rows of its page on screen. -/
theorem Shows.accept {number : Nat} (reply : Reply) {page : Page}
    {results : Results} (shows : Shows id start careful world)
    (last : number + 1 = world.sent.length)
    (asked : AskedLast id start world page)
    (ofPage : results.page = some page) :
    Shows id start careful
      { world.deliver number reply with
        state := world.state.transition id fun state =>
          { state with results := some results } } := by
  have has := Registry.has_of_usesAi shows.active
  have engine : (world.state.transition id fun state =>
      { state with results := some results }).engine id =
        { world.state.engine id with
          state := { (world.state.engine id).state with
            results := some results } } := by
    rw [Registry.engine_transition, Registry.engine_modifyEngine_self has]
  refine ⟨?_, ?_, ?_, ?_, ?_⟩
  · simp [engine, AiState.usesAi]
  · rw [engine]
    exact shows.tokens
  · intro other answered
    obtain before | rfl := answered_deliver.mp answered
    · exact shows.known other before
    · show other < world.sent.length
      omega
  · intro _
    refine ⟨page, asked, ?_⟩
    simp [engine, resultPage, ofPage]
  · intro care
    rw [engine]
    exact shows.placed care

end Moves

section Runs

variable {id : EngineId} {start : Registry} {careful : Prop}
variable {world : World Registry}

/-- What a move may end with. -/
abbrev Ends (id : EngineId) (start : Registry) (careful : Prop)
    (result : Except Fault (Option (Outcome Results))) (began : Registry)
    (now : World Registry) : Prop :=
  Succeeds result → (contract id start careful).Turn began now

/-- One more run of the segment. -/
def counted (engine : Engine) : Engine :=
  { engine with
    table := { engine.table with executions := engine.table.executions + 1 } }

/-- What a run does with its outcome. -/
def landed (id : EngineId) (token : Nat) :
    Outcome Results → Flow Registry (Outcome Results)
  | .ok results => .inspect fun registry =>
      .update (registry.updateResults id results token).2
        (.done (.ok results))
  | .error problem => .done (.error problem)

/-- A run takes a token, sends its call and lands. -/
theorem execute_eq (page : Page) :
    execute id page = .inspect fun registry : Registry =>
      .update ((registry.modifyEngine id counted).takeToken id).2 <|
        .inspect fun taken : Registry =>
          (Client.runSegment (some (taken.engine id).event)
            ((taken.engine id).state.ast.map Filter.Root.filter) false
            (some page)).bind
              (landed id ((registry.modifyEngine id counted).takeToken id).1) :=
  rfl

/-- The end of a run upholds the contract: its rows are shown if no newer run
was sent, and dropped otherwise. -/
theorem upholds_landed {number : Nat} {call : Call} {reply : Reply}
    {page : Page} {outcome : Outcome Results} (shows : Shows id start careful
      world) (sent : ∃ state, world.sent[number]? = some (state, call))
    (asks : Asks call page) (echoes : Echoes call reply)
    (ended : Client.runOutcome reply = .ok outcome) :
    ((landed id ((start.engine id).latestToken + number + 1) outcome).bind
      fun outcome => Flow.done (some outcome)).Upholds
        (contract id start careful) (Ends id start careful) world.state
        (world.deliver number reply) := by
  obtain ⟨state, found⟩ := sent
  have within := (List.getElem?_eq_some_iff.mp found).1
  cases outcome with
  | error problem => exact fun succeeds => absurd succeeds not_succeeds_problem
  | ok results =>
      refine ⟨trivial, fun _ => ⟨?_, trivial⟩⟩
      show Shows id start careful
        { world.deliver number reply with
          state := (world.state.updateResults id results
            ((start.engine id).latestToken + number + 1 : Nat)).2 }
      by_cases last : number + 1 = world.sent.length
      · have latest : world.sent.getLast? = some (state, call) := by
          rw [List.getLast?_eq_getElem?, ← last]
          exact found
        have asked : AskedLast id start world page := by
          rw [AskedLast, latest]
          exact asks
        have accepted := shows.accept reply last asked
          (page_of_outcome asks echoes ended)
        have token : (((start.engine id).latestToken + number + 1 : Nat) : Int)
            = (world.state.engine id).latestToken := by
          rw [shows.tokens]
          omega
        rw [Registry.updateResults, if_pos ⟨token, shows.active⟩]
        exact accepted
      · have token : (((start.engine id).latestToken + number + 1 : Nat) : Int)
            ≠ (world.state.engine id).latestToken := by
          rw [shows.tokens]
          omega
        rw [Registry.updateResults, if_neg (fun both => token both.1)]
        exact shows.ignore within last

/-- Running the segment again for the page that the table is on upholds the
contract. -/
theorem upholds_execute {page : Page} {began : Registry}
    (shows : Shows id start False world)
    (onPage : (world.state.engine id).table.page = page) :
    ((execute id page).bind fun outcome => Flow.done (some outcome)).Upholds
      (contract id start careful) (Ends id start careful) began world := by
  have has := Registry.has_of_usesAi shows.active
  have engine : (((world.state.modifyEngine id counted).takeToken id).2.engine
      id) = (counted (world.state.engine id)).takeToken := by
    rw [Registry.takeToken_snd, Registry.engine_modifyEngine_self (by simpa),
      Registry.engine_modifyEngine_self has]
  have token : ((world.state.modifyEngine id counted).takeToken id).1 =
      (start.engine id).latestToken + world.sent.length + 1 := by
    rw [Registry.takeToken_fst (by simpa),
      Registry.engine_modifyEngine_self has, counted, shows.tokens]
  rw [Flow.upholds_bind, execute_eq]
  refine ⟨trivial, ?_⟩
  simp only [Flow.Upholds]
  rw [Flow.upholds_bind]
  apply Client.upholds_runSegment trivial
  · intro result unsuccessful
    obtain fault | problem | results := result
    · exact fun succeeds => absurd succeeds not_succeeds_error
    · exact fun succeeds => absurd succeeds not_succeeds_problem
    · exact absurd rfl (unsuccessful results)
  · exact fun misuse succeeds => absurd succeeds not_succeeds_error
  · intro node call _ made
    have asks : Asks call page := asks_of_call made
    refine ⟨⟨?_, trivial⟩, ?_⟩
    · exact shows.send asks (by rw [Registry.engine_opened, engine]; rfl)
        (by rw [Registry.engine_opened, engine]; rfl)
        (by rw [Registry.engine_opened, engine]; exact onPage)
    · intro reply later echoes moved
      rw [Flow.upholds_ofResult]
      cases ended : Client.runOutcome reply with
      | error fault => exact fun succeeds => absurd succeeds not_succeeds_error
      | ok outcome =>
          rw [token]
          exact Flow.upholds_bind.mp (upholds_landed moved.inv
            ⟨_, moved.grown.getElem? (World.getElem?_send _ _)⟩ asks echoes
            ended)

/-- Moving the table to a page, in its parts. -/
theorem setPage_eq (page : Page) :
    setPage id page = .inspect fun before : Registry =>
      .inspect fun registry : Registry =>
        .update (registry.modifyEngine id (Engine.moveTo page)) <|
          if !(before.engine id).state.usesAi then
            (clamp id).bind fun _ => .done none
          else if page.matches? (some (before.engine id).table.page) then
            .done none
          else if page.matches? (before.engine id).resultPage then .done none
          else (execute id page).bind fun outcome => .done (some outcome) :=
  rfl

/-- Moving the table upholds the contract, provided that nothing is under way
when the results on screen answer a careful call. -/
theorem upholds_setPage {page : Page} (shows : Shows id start careful world)
    (quiet : careful → (world.state.engine id).table.page ≠ page →
      (world.state.engine id).resultPage = some page → Settled world) :
    (setPage id page).Upholds (contract id start careful)
      (Ends id start careful) world.state world := by
  have has := Registry.has_of_usesAi shows.active
  have engine := Registry.engine_modifyEngine_self has (Engine.moveTo page)
  rw [setPage_eq]
  refine ⟨trivial, ?_⟩
  simp only [shows.active, Bool.not_true, Bool.false_eq_true, if_false]
  by_cases onPage : page.matches? (some (world.state.engine id).table.page)
  · rw [if_pos onPage]
    have same : (world.state.engine id).table.page = page := by
      simpa [Page.matches?] using onPage
    refine fun _ => ⟨shows.of_engine ?_ ?_ ?_, trivial⟩
    · rw [engine]; rfl
    · rw [engine]; rfl
    · intro care
      rw [engine]
      exact same ▸ shows.placed care
  rw [if_neg onPage]
  by_cases onScreen : page.matches? (world.state.engine id).resultPage
  · rw [if_pos onScreen]
    have same : (world.state.engine id).resultPage = some page := by
      simpa [Page.matches?] using onScreen
    refine fun _ => ⟨shows.of_engine ?_ ?_ ?_, trivial⟩
    · rw [engine]; rfl
    · rw [engine]; rfl
    · intro care
      have moved : (world.state.engine id).table.page ≠ page := by
        simpa [Page.matches?] using onPage
      obtain ⟨shown, asked, found⟩ := shows.shown (quiet care moved same)
      rw [engine]
      exact Option.some.inj (same.symm.trans found) ▸ asked
  · rw [if_neg onScreen]
    apply upholds_execute
    · exact shows.weaken.of_engine (by rw [engine]; rfl) (by rw [engine]; rfl)
        False.elim
    · rw [engine]
      rfl

end Runs

section Pools

variable {id : EngineId} {start : Registry} {careful : Prop}
variable {β : Type}

/-- A scene in which nothing runs but moves of one table. -/
def scene (id : EngineId)
    (admits : Pool Registry β (Option (Outcome Results)) → Move → Prop)
    (serves : β → Call → Reply → β → Prop) :
    Scene Registry β Move (Option (Outcome Results)) where
  flow := Move.flow id
  restoring _ := .done ()
  admits := admits
  serves := serves

/-- A call that would be answered by the results on screen waits until nothing
is under way. -/
def Careful (id : EngineId)
    (admits : Pool Registry β (Option (Outcome Results)) → Move → Prop) :
    Prop :=
  ∀ pool move page, admits pool move →
    move.target (pool.world.state.engine id).table.page = .ok page →
    (pool.world.state.engine id).table.page ≠ page →
    (pool.world.state.engine id).resultPage = some page →
    pool.waiting = []

variable {admits : Pool Registry β (Option (Outcome Results)) → Move → Prop}
variable {serves : β → Call → Reply → β → Prop}

/-- Moves of one table honour their contract. -/
theorem honoured (start : Registry) (cares : careful → Careful id admits)
    (echoes : ∀ before call reply after,
      serves before call reply after → Echoes call reply) :
    (contract id start careful).Honoured Succeeds (fun _ => True)
      (scene id admits serves) where
  tasks pool move accounted shows admitted := by
    apply Move.upholds_flow move
    · exact fun fault succeeds => absurd succeeds not_succeeds_error
    · intro page target
      apply upholds_setPage shows
      intro care moved onScreen number last
      exact accounted.answered
        (cares care pool move page admitted target moved onScreen) (by omega)
  restorings _ world shows := ⟨shows, trivial⟩
  replies _ call reply before after _ _ _ served :=
    ⟨echoes before call reply after served, trivial⟩

/-- At first, the results on screen are those asked for last. -/
theorem Shows.fresh (active : (start.engine id).state.usesAi = true)
    (matching : (start.engine id).resultPage =
      some (start.engine id).table.page) :
    Shows id start careful (.fresh start) where
  active := active
  tokens := rfl
  known := by simp [World.Answered, World.fresh]
  shown _ := ⟨_, matching, matching⟩
  placed _ := matching

/-- Moves overlap in any way, every run succeeds, and the backend echoes the
page asked for.  Once nothing is under way, the rows on screen are those of the
page of the table exactly if that page was asked for last; they always are when
no call is answered by the results on screen while a run is under way. -/
theorem rows_match_iff_asked_last {server : β}
    {pool : Pool Registry β (Option (Outcome Results))}
    (active : (start.engine id).state.usesAi = true)
    (matching : (start.engine id).resultPage =
      some (start.engine id).table.page)
    (echoes : ∀ before call reply after,
      serves before call reply after → Echoes call reply)
    (reached : (scene id admits serves).Reach (.fresh start server) pool)
    (quiet : pool.waiting = [])
    (succeed : ∀ result ∈ pool.results, Succeeds result) :
    ((pool.world.state.engine id).resultPage =
        some (pool.world.state.engine id).table.page ↔
      AskedLast id start pool.world
        (pool.world.state.engine id).table.page) ∧
      (Careful id admits →
        (pool.world.state.engine id).resultPage =
          some (pool.world.state.engine id).table.page) := by
  have kept := (honoured start (fun cares : Careful id admits => cares)
    echoes).kept (.fresh active matching) trivial reached succeed
  have settled : Settled pool.world := fun number last =>
    ((Pool.Accounted.fresh start server).of_reach reached).answered quiet
      (by omega)
  obtain ⟨page, asked, shown⟩ := kept.inv.shown settled
  have exactly : (pool.world.state.engine id).resultPage =
      some (pool.world.state.engine id).table.page ↔
        AskedLast id start pool.world
          (pool.world.state.engine id).table.page := by
    constructor
    · intro same
      exact Option.some.inj (shown.symm.trans same) ▸ asked
    · intro tableAsked
      exact asked.unique tableAsked ▸ shown
  exact ⟨exactly, fun careful => exactly.mpr (kept.inv.placed careful)⟩

end Pools

section LateReply

/-- Rows of a page. -/
def rowsOf (page : Page) : Results :=
  { persons := [], total := 0, page := some page, debug := none }

/-- The second page. -/
def secondPage : Page := { Page.standard with number := 2 }

/-- A registry with one engine that shows the first page of a segment. -/
def onFirstPage : Registry :=
  { Registry.initial .standard default ""
      { service := .ofService "http" "crm" "", token := none,
        instanceId := none, opened := false } with
    engines :=
      [{ Engine.initial "event" .standard none with
          state := { AiState.empty with
            results := some (rowsOf .standard)
            ast := some { filter := .empty } } }] }

/-- A backend that answers every run with the page that it was asked for. -/
def echo (_ : Unit) (call : Call) (reply : Reply) (_ : Unit) : Prop :=
  reply = .response 200 (.json (.obj
    [("pagination", (call.body.getD .null).get "pagination")]))

theorem echoes_of_echo (before : Unit) (call : Call) (reply : Reply)
    (after : Unit) (served : echo before call reply after) :
    Echoes call reply := by
  subst served
  intro json answered
  unfold Client.ended Reply.ensureSendable at answered
  cases sendable : Json.ensureSendable (.obj
      [("pagination", (call.body.getD .null).get "pagination")]) with
  | error misuse =>
      simp only [sendable] at answered
      cases answered
  | ok _ =>
      simp only [sendable] at answered
      cases answered
      rfl

/-- Moves of the first engine, which may start at any time. -/
abbrev anyMoves : Scene Registry Unit Move (Option (Outcome Results)) :=
  scene 0 (fun _ _ => True) echo

/-- The table moves to the second page and back before the rows of the second
page arrive: the way back is answered by the results on screen. -/
theorem exists_late_reply :
    ∃ pool, anyMoves.Reach (.fresh onFirstPage ()) pool ∧
      pool.waiting = [] ∧ (∀ result ∈ pool.results, Succeeds result) ∧
      (pool.world.state.engine 0).resultPage = some secondPage ∧
      (pool.world.state.engine 0).table.page = .standard := by
  refine ⟨_, .step (.step (.step (.step .refl
    (.start (.toPage secondPage) trivial))
    (.start (.toPage .standard) trivial))
    (.handle [] [] () rfl rfl))
    (.deliver [] [] rfl), List.isEmpty_iff.mp ?_, ?_⟩
  · decide +kernel
  · decide +kernel

/-- What is on screen is what was asked for last: the rows of the second page,
although the table is on the first. -/
theorem rows_match_iff_asked_last_at_late_reply :
    ∃ pool, anyMoves.Reach (.fresh onFirstPage ()) pool ∧
      pool.waiting = [] ∧
      (pool.world.state.engine 0).resultPage = some secondPage ∧
      ¬ AskedLast 0 onFirstPage pool.world
        (pool.world.state.engine 0).table.page := by
  obtain ⟨pool, reached, quiet, succeed, shown, placed⟩ := exists_late_reply
  have exactly := rows_match_iff_asked_last (by decide) (by decide)
    echoes_of_echo reached quiet succeed
  refine ⟨pool, reached, quiet, shown, fun asked => ?_⟩
  have same := exactly.1.mpr asked
  rw [shown, placed] at same
  exact absurd same (by decide)

/-- Moves that overlap can leave rows on screen that are not those of the page
of the table, although they were at first. -/
theorem late_rows_stay_on_screen :
    (onFirstPage.engine 0).state.usesAi = true ∧
      (onFirstPage.engine 0).resultPage =
        some (onFirstPage.engine 0).table.page ∧
      ¬ ∀ pool, anyMoves.Reach (.fresh onFirstPage ()) pool →
        pool.waiting = [] → (∀ result ∈ pool.results, Succeeds result) →
        (pool.world.state.engine 0).resultPage =
          some (pool.world.state.engine 0).table.page := by
  refine ⟨by decide, by decide, fun always => ?_⟩
  obtain ⟨pool, reached, quiet, succeed, shown, placed⟩ := exists_late_reply
  have same := always pool reached quiet succeed
  rw [shown, placed] at same
  exact absurd same (by decide)

end LateReply

end Paging
end Audience
