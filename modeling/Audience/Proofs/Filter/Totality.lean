import Audience.Proofs.Filter.Normalization

/-!
# The values that have a filter tree

Normalization reads a value as a node, and through it the conditions of a group
and the endpoints of a transition.  It gives a tree exactly when none of the
values that are read as nodes has an array or an object for its type.  Then a
value that names no kind of node leaves the neutral filter in its place, or the
plain participation where it decides the endpoint of a transition, and a value
that names no iteration leaves the current one.
-/

namespace Audience

/-- An array or an object. -/
def Json.isCompound : Json → Bool
  | arr _ => true
  | obj _ => true
  | _ => false

namespace Filter

open Json

/-! ## Places -/

/-- A step from a value that is read as a node to the next one. -/
inductive Step where
  /-- A condition of a group. -/
  | condition (index : Nat)
  /-- Where a transition comes from. -/
  | source
  /-- Where a transition leads to. -/
  | target
  deriving DecidableEq

/-- The value of an endpoint, if the value that has it is a transition. -/
def endpointIn? (key : String) (json : Json) : Option Json :=
  match json.get "type" with
  | .str "transition" => some (json.get key)
  | _ => none

namespace Step

/-- The value that a step leads to. -/
def inValue? : Step → Json → Option Json
  | condition index, json => (conditionItems json)[index]?
  | source, json => endpointIn? "from" json
  | target, json => endpointIn? "to" json

/-- The node that a step leads to.  An endpoint counts as a node. -/
def inTree? : Step → Node → Option Node
  | condition index, .group _ _ conditions => conditions[index]?
  | source, .transition one _ => some (.involvement one)
  | target, .transition _ two => some (.involvement two)
  | _, _ => none

/-- What a step makes of the node that it leads to. -/
def hold : Step → Node → Node
  | condition _, node => node
  | source, node => .involvement node.endpoint
  | target, node => .involvement node.endpoint

end Step

/-- The value at the end of a path. -/
def valueAt? : List Step → Json → Option Json
  | [], json => some json
  | step :: rest, json => (step.inValue? json).bind (valueAt? rest)

/-- The node at the end of a path. -/
def Node.at? : List Step → Node → Option Node
  | [], node => some node
  | step :: rest, node => (step.inTree? node).bind (Node.at? rest)

/-- The part of a path that the tree still has: an endpoint has no parts. -/
def shownPath : List Step → List Step
  | [] => []
  | .condition index :: rest => .condition index :: shownPath rest
  | .source :: _ => [.source]
  | .target :: _ => [.target]

/-- What stands at the end of a path for a value that is not understood. -/
def neutralAt : List Step → Node
  | [] => .empty
  | .condition _ :: rest => neutralAt rest
  | .source :: _ => .involvement .empty
  | .target :: _ => .involvement .empty

/-- No value that is read as a node has an array or an object for its type. -/
def PlainlyTyped (json : Json) : Prop :=
  ∀ path inner, valueAt? path json = some inner →
    (inner.get "type").isCompound = false

/-- The value names no kind of node. -/
def Untyped (json : Json) : Prop :=
  Kind.ofJson? (json.get "type") = .ok none

/-! ## Reading one value -/

theorem Kind.ofJson?_eq_ok_iff {tag : Json} :
    (∃ kind, Kind.ofJson? tag = .ok kind) ↔ tag.isCompound = false := by
  cases tag <;> simp [Kind.ofJson?, isCompound]

theorem Kind.eq_of_transition {tag : Json}
    (named : Kind.ofJson? tag = .ok (some .transition)) :
    tag = .str "transition" := by
  cases tag with
  | str text =>
      simp only [Kind.ofJson?, Except.ok.injEq] at named
      unfold Kind.ofText? at named
      split at named <;> simp_all
  | _ => simp [Kind.ofJson?] at named

/-- What comes after a computation is only run on its results. -/
theorem bind_congr_of_ok {ε α β : Type} {first : Except ε α}
    {next other : α → Except ε β}
    (same : ∀ value, first = .ok value → next value = other value) :
    first >>= next = first >>= other := by
  cases first with
  | error failure => rfl
  | ok value => exact same value rfl

theorem Node.conditionsOf_eq (fields : Fields) :
    Node.conditionsOf fields =
      Node.listOfJson (itemsOf (Fields.getD "conditions" fields)) := by
  induction fields with
  | nil => rfl
  | cons field rest ih =>
      obtain ⟨name, value⟩ := field
      rw [getD_cons]
      by_cases here : name = "conditions"
      · rw [if_pos here]
        cases value <;>
          simp [Node.conditionsOf, here, itemsOf, Node.listOfJson]
      · rw [if_neg here, ← ih, Node.conditionsOf.eq_def]
        exact if_neg here

theorem Node.endpointOf_eq (key : String) (fields : Fields) :
    Node.endpointOf key fields =
      (do return (← Node.ofJson (Fields.getD key fields)).endpoint) := by
  induction fields with
  | nil => rfl
  | cons field rest ih =>
      obtain ⟨name, value⟩ := field
      rw [Node.endpointOf, getD_cons]
      by_cases here : name = key
      · rw [if_pos here, if_pos here]
      · rw [if_neg here, if_neg here, ih]

/-- One reading, with the parts of the value as they are looked up. -/
theorem Node.ofJson_eq (json : Json) :
    Node.ofJson json = (do
      match ← Kind.ofJson? (json.get "type") with
      | some .group =>
          return .group (Combinator.ofJson (json.get "op"))
            (json.get "not").isFull (← Node.listOfJson (conditionItems json))
      | some .involvement =>
          return .involvement (Involvement.ofFields (json.fields?.getD []))
      | some .transition =>
          let source ← Node.ofJson (json.get "from")
          let target ← Node.ofJson (json.get "to")
          return .transition source.endpoint target.endpoint
      | some .upsell => return .upsell (Upsell.ofFields (json.fields?.getD []))
      | some .email => return .email (Email.ofFields (json.fields?.getD []))
      | none => return .empty) := by
  cases json with
  | obj fields =>
      rw [Node.ofJson]
      simp only [Json.get, Json.fields?, Option.getD_some,
        Node.conditionsOf_eq, Node.endpointOf_eq, bind_assoc, pure_bind]
      refine bind_congr_of_ok fun kind named => ?_
      obtain _ | kind := kind
      · rfl
      cases kind with
      | group => rw [conditionItems_of_group named]
      | involvement => rfl
      | transition => rfl
      | upsell => rfl
      | email => rfl
  | _ => rfl

/-! ## Along a path -/

theorem Node.getElem?_listOfJson : ∀ {items : List Json} {nodes : List Node},
    Node.listOfJson items = .ok nodes → ∀ {index : Nat} {item : Json},
      items[index]? = some item →
        ∃ node, nodes[index]? = some node ∧ Node.ofJson item = .ok node
  | first :: rest, _, read, index, item, listed => by
      obtain ⟨node, readFirst, others, readRest, rfl⟩ := by
        simpa only [Node.listOfJson, bind_eq_ok, pure, Except.pure,
          Except.ok.injEq] using read
      cases index with
      | zero =>
          cases listed
          exact ⟨node, rfl, readFirst⟩
      | succ index => exact Node.getElem?_listOfJson readRest listed

/-- A list of values is read when each of them is. -/
theorem Node.exists_listOfJson {items : List Json}
    (each : ∀ item ∈ items, ∃ node, Node.ofJson item = .ok node) :
    ∃ nodes, Node.listOfJson items = .ok nodes := by
  induction items with
  | nil => exact ⟨[], rfl⟩
  | cons item rest ih =>
      obtain ⟨node, read⟩ := each item (.head _)
      obtain ⟨nodes, readRest⟩ := ih fun other among =>
        each other (.tail _ among)
      exact ⟨node :: nodes, by rw [Node.listOfJson, read, readRest]; rfl⟩

/-- Only a group has conditions. -/
theorem type_of_conditionItems {json item : Json} {index : Nat}
    (listed : (conditionItems json)[index]? = some item) :
    json.get "type" = .str "group" := by
  unfold conditionItems at listed
  split at listed
  · assumption
  · cases listed

theorem endpointIn?_eq_some {key : String} {json value : Json} :
    endpointIn? key json = some value ↔
      json.get "type" = .str "transition" ∧ json.get key = value := by
  unfold endpointIn?
  split
  · simp_all
  · simp_all

/-- The tree has what is read from a part in the place of that part. -/
theorem Step.inTree?_ofJson {step : Step} {json part : Json} {node : Node}
    (read : Node.ofJson json = .ok node)
    (reached : step.inValue? json = some part) :
    ∃ child, Node.ofJson part = .ok child ∧
      step.inTree? node = some (step.hold child) := by
  rw [Node.ofJson_eq] at read
  cases step with
  | condition index =>
      rw [type_of_conditionItems reached] at read
      obtain ⟨nodes, readItems, rfl⟩ := by
        simpa only [Kind.ofJson?, Kind.ofText?, bind_eq_ok, pure, Except.pure,
          Except.ok.injEq, exists_eq_left'] using read
      obtain ⟨child, among, readChild⟩ :=
        Node.getElem?_listOfJson readItems reached
      exact ⟨child, readChild, among⟩
  | source =>
      obtain ⟨named, rfl⟩ := endpointIn?_eq_some.mp reached
      rw [named] at read
      obtain ⟨one, readOne, two, readTwo, rfl⟩ := by
        simpa only [Kind.ofJson?, Kind.ofText?, bind_eq_ok, pure, Except.pure,
          Except.ok.injEq, exists_eq_left'] using read
      exact ⟨one, readOne, rfl⟩
  | target =>
      obtain ⟨named, rfl⟩ := endpointIn?_eq_some.mp reached
      rw [named] at read
      obtain ⟨one, readOne, two, readTwo, rfl⟩ := by
        simpa only [Kind.ofJson?, Kind.ofText?, bind_eq_ok, pure, Except.pure,
          Except.ok.injEq, exists_eq_left'] using read
      exact ⟨two, readTwo, rfl⟩

/-- A value is read when its type is plain and its parts are read. -/
theorem Node.exists_ofJson_of_parts {json : Json}
    (plain : (json.get "type").isCompound = false)
    (parts : ∀ step part, Step.inValue? step json = some part →
      ∃ node, Node.ofJson part = .ok node) :
    ∃ node, Node.ofJson json = .ok node := by
  obtain ⟨kind, named⟩ := Kind.ofJson?_eq_ok_iff.mpr plain
  rw [Node.ofJson_eq, named]
  match kind, named with
  | some .group, _ =>
      obtain ⟨nodes, read⟩ := Node.exists_listOfJson fun item among => by
        obtain ⟨index, found⟩ := List.getElem?_of_mem among
        exact parts (.condition index) item found
      exact ⟨_, by rw [read]; rfl⟩
  | some .transition, named =>
      have tag := Kind.eq_of_transition named
      obtain ⟨one, readOne⟩ :=
        parts .source _ (endpointIn?_eq_some.mpr ⟨tag, rfl⟩)
      obtain ⟨two, readTwo⟩ :=
        parts .target _ (endpointIn?_eq_some.mpr ⟨tag, rfl⟩)
      exact ⟨_, by rw [readOne, readTwo]; rfl⟩
  | some .involvement, _ => exact ⟨_, rfl⟩
  | some .upsell, _ => exact ⟨_, rfl⟩
  | some .email, _ => exact ⟨_, rfl⟩
  | none, _ => exact ⟨_, rfl⟩

theorem sizeOf_getD_lt (key : String) (fields : Fields) :
    sizeOf (Fields.getD key fields) < sizeOf (Json.obj fields) := by
  induction fields with
  | nil => simp [Fields.getD, Keyed.get?]
  | cons field rest ih =>
      obtain ⟨name, value⟩ := field
      rw [getD_cons]
      split
      · simp
        omega
      · simp at ih ⊢
        omega

theorem sizeOf_get_lt {key : String} {json : Json}
    (typed : json.get "type" ≠ .null) : sizeOf (json.get key) < sizeOf json := by
  cases json with
  | obj fields => exact sizeOf_getD_lt key fields
  | _ => exact absurd rfl typed

/-- The parts of a value are smaller than it. -/
theorem Step.sizeOf_inValue?_lt {step : Step} {json part : Json}
    (reached : step.inValue? json = some part) : sizeOf part < sizeOf json := by
  cases step with
  | condition index =>
      have named := type_of_conditionItems reached
      have inner : sizeOf (json.get "conditions") < sizeOf json :=
        sizeOf_get_lt (by simp [named])
      simp only [inValue?, conditionItems, named] at reached
      cases listed : json.get "conditions" with
      | arr items =>
          rw [listed] at reached inner
          have among : part ∈ items := List.mem_of_getElem? reached
          have smaller := List.sizeOf_lt_of_mem among
          simp at inner
          omega
      | _ =>
          rw [listed] at reached
          cases reached
  | source =>
      obtain ⟨named, rfl⟩ := endpointIn?_eq_some.mp reached
      exact sizeOf_get_lt (by simp [named])
  | target =>
      obtain ⟨named, rfl⟩ := endpointIn?_eq_some.mp reached
      exact sizeOf_get_lt (by simp [named])

@[simp] theorem valueAt?_cons (step : Step) (rest : List Step) (json : Json) :
    valueAt? (step :: rest) json =
      (step.inValue? json).bind (valueAt? rest) := rfl

@[simp] theorem Node.at?_cons (step : Step) (rest : List Step) (node : Node) :
    node.at? (step :: rest) = (step.inTree? node).bind (Node.at? rest) := rfl

/-- Whatever a read value leads to is read as well. -/
theorem Node.exists_ofJson_at {path : List Step} {json inner : Json}
    {node : Node} (read : Node.ofJson json = .ok node)
    (reached : valueAt? path json = some inner) :
    ∃ child, Node.ofJson inner = .ok child := by
  induction path generalizing json node with
  | nil =>
      cases reached
      exact ⟨node, read⟩
  | cons step rest ih =>
      obtain ⟨part, first, later⟩ := Option.bind_eq_some_iff.mp reached
      obtain ⟨child, readPart, -⟩ := Step.inTree?_ofJson read first
      exact ih readPart later

theorem PlainlyTyped.of_read {json : Json} {node : Node}
    (read : Node.ofJson json = .ok node) : PlainlyTyped json := by
  intro path inner reached
  obtain ⟨child, readInner⟩ := Node.exists_ofJson_at read reached
  rw [Node.ofJson_eq, bind_eq_ok] at readInner
  obtain ⟨kind, named, -⟩ := readInner
  exact Kind.ofJson?_eq_ok_iff.mp ⟨kind, named⟩

/-- A plainly typed value is read, by induction on its size. -/
theorem PlainlyTyped.exists_ofJson {json : Json} (plain : PlainlyTyped json) :
    ∃ node, Node.ofJson json = .ok node :=
  Node.exists_ofJson_of_parts (plain [] json rfl) fun step part reached =>
    have : sizeOf part < sizeOf json := Step.sizeOf_inValue?_lt reached
    PlainlyTyped.exists_ofJson fun path inner found =>
      plain (step :: path) inner (by rw [valueAt?_cons, reached]; exact found)
termination_by sizeOf json

theorem Node.exists_ofJson_iff {json : Json} :
    (∃ node, Node.ofJson json = .ok node) ↔ PlainlyTyped json :=
  ⟨fun ⟨_, read⟩ => .of_read read, PlainlyTyped.exists_ofJson⟩

theorem Root.exists_ofJson_iff {json : Json} :
    (∃ root, Root.ofJson json = .ok root) ↔
      PlainlyTyped (Root.source json) := by
  rw [← Node.exists_ofJson_iff, Root.ofJson_eq]
  constructor
  · rintro ⟨root, read⟩
    obtain ⟨node, readNode, -⟩ := bind_eq_ok.mp read
    exact ⟨node, readNode⟩
  · rintro ⟨node, read⟩
    exact ⟨⟨node⟩, by rw [read]; rfl⟩

/-! ## What stands in for a value that is not understood -/

theorem Node.ofJson_of_untyped {json : Json} (untyped : Untyped json) :
    Node.ofJson json = .ok .empty := by
  rw [Node.ofJson_eq, show Kind.ofJson? (json.get "type") = _ from untyped]
  rfl

/-- A node with parts is no involvement. -/
theorem Step.endpoint_of_inTree? {step : Step} {node child : Node}
    (reached : step.inTree? node = some child) : node.endpoint = .empty := by
  cases node with
  | involvement found => cases step <;> cases reached
  | _ => rfl

/-- A value that is not understood, at or inside an endpoint, makes the plain
participation of that endpoint. -/
theorem Node.endpoint_of_untyped {path : List Step} {json inner : Json}
    {node : Node} (read : Node.ofJson json = .ok node)
    (reached : valueAt? path json = some inner) (untyped : Untyped inner) :
    node.endpoint = .empty := by
  cases path with
  | nil =>
      cases reached
      rw [Node.ofJson_of_untyped untyped] at read
      cases read
      rfl
  | cons step rest =>
      obtain ⟨part, first, -⟩ := Option.bind_eq_some_iff.mp reached
      obtain ⟨child, -, held⟩ := Step.inTree?_ofJson read first
      exact Step.endpoint_of_inTree? held

/-- The tree has a place for every value that is read as a node, up to the
endpoint of a transition. -/
theorem Node.exists_at?_shownPath {path : List Step} {json inner : Json}
    {node : Node} (read : Node.ofJson json = .ok node)
    (reached : valueAt? path json = some inner) :
    ∃ child, node.at? (shownPath path) = some child := by
  induction path generalizing json node with
  | nil => exact ⟨node, rfl⟩
  | cons step rest ih =>
      obtain ⟨part, first, later⟩ := Option.bind_eq_some_iff.mp reached
      obtain ⟨child, readPart, held⟩ := Step.inTree?_ofJson read first
      cases step with
      | condition index =>
          rw [shownPath, Node.at?_cons, held]
          exact ih readPart later
      | source => exact ⟨_, by rw [shownPath, Node.at?_cons, held]; rfl⟩
      | target => exact ⟨_, by rw [shownPath, Node.at?_cons, held]; rfl⟩

theorem Node.at?_shownPath {path : List Step} {json inner : Json} {node : Node}
    (read : Node.ofJson json = .ok node)
    (reached : valueAt? path json = some inner) (untyped : Untyped inner) :
    node.at? (shownPath path) = some (neutralAt path) := by
  induction path generalizing json node with
  | nil =>
      cases reached
      rw [Node.ofJson_of_untyped untyped] at read
      cases read
      rfl
  | cons step rest ih =>
      obtain ⟨part, first, later⟩ := Option.bind_eq_some_iff.mp reached
      obtain ⟨child, readPart, held⟩ := Step.inTree?_ofJson read first
      cases step with
      | condition index =>
          rw [shownPath, Node.at?_cons, held]
          exact ih readPart later
      | source =>
          have plain := Node.endpoint_of_untyped readPart later untyped
          rw [shownPath, Node.at?_cons, held, Step.hold, plain]
          rfl
      | target =>
          have plain := Node.endpoint_of_untyped readPart later untyped
          rw [shownPath, Node.at?_cons, held, Step.hold, plain]
          rfl

/-- The iteration that a node asks for. -/
def Node.iteration? : Node → Option Iteration
  | .involvement found => some found.iteration
  | .upsell found => some found.iteration
  | _ => none

/-- The value names no iteration. -/
def Untimed (json : Json) : Prop :=
  ∀ iteration : Iteration, json.get "type" ≠ .str iteration.tag

theorem Iteration.ofJson_of_untimed {json : Json} (untimed : Untimed json) :
    Iteration.ofJson json = .current := by
  cases json with
  | obj fields =>
      simp only [Iteration.ofJson]
      split
      · exact absurd ‹_› (untimed .previous)
      · exact absurd ‹_› (untimed (.specific none))
      · exact absurd ‹_› (untimed (.year none))
      · exact absurd ‹_› (untimed (.name none))
      · rfl
  | _ => rfl

theorem Node.iteration?_ofJson {json : Json} {node : Node}
    {period : Iteration} (read : Node.ofJson json = .ok node)
    (asked : node.iteration? = some period) :
    period = Iteration.ofJson (json.get "iteration") := by
  rw [Node.ofJson_eq, bind_eq_ok] at read
  obtain ⟨kind, named, read⟩ := read
  have fields : kind ≠ none → json = .obj (json.fields?.getD []) := by
    intro given
    cases json with
    | obj fields => rfl
    | _ => cases named; exact absurd rfl given
  match kind, read with
  | some .group, read =>
      obtain ⟨nodes, -, rfl⟩ := by
        simpa only [bind_eq_ok, pure, Except.pure, Except.ok.injEq] using read
      cases asked
  | some .involvement, read =>
      cases read
      cases asked
      rw [fields (by simp)]
      rfl
  | some .transition, read =>
      obtain ⟨one, -, two, -, rfl⟩ := by
        simpa only [bind_eq_ok, pure, Except.pure, Except.ok.injEq] using read
      cases asked
  | some .upsell, read =>
      cases read
      cases asked
      rw [fields (by simp)]
      rfl
  | some .email, read => cases read; cases asked
  | none, read => cases read; cases asked

/-- What a path leads to in the tree is what the value at its end is read as,
or the endpoint that this makes. -/
theorem Node.at?_ofJson {path : List Step} {json inner : Json}
    {node child : Node} (read : Node.ofJson json = .ok node)
    (reached : valueAt? path json = some inner)
    (found : node.at? path = some child) :
    ∃ made, Node.ofJson inner = .ok made ∧
      (child = made ∨ child = .involvement made.endpoint) := by
  induction path generalizing json node with
  | nil =>
      cases reached
      cases found
      exact ⟨_, read, .inl rfl⟩
  | cons step rest ih =>
      obtain ⟨part, first, later⟩ := Option.bind_eq_some_iff.mp reached
      obtain ⟨made, readPart, held⟩ := Step.inTree?_ofJson read first
      rw [Node.at?_cons, held, Option.bind_some] at found
      cases step with
      | condition index => exact ih readPart later found
      | source =>
          cases rest with
          | nil =>
              cases later
              cases found
              exact ⟨made, readPart, .inr rfl⟩
          | cons next more => cases next <;> cases found
      | target =>
          cases rest with
          | nil =>
              cases later
              cases found
              exact ⟨made, readPart, .inr rfl⟩
          | cons next more => cases next <;> cases found

theorem Node.iteration?_endpoint {node : Node} {period : Iteration}
    (asked : (Node.involvement node.endpoint).iteration? = some period) :
    node.iteration? = some period ∨ period = .current := by
  cases node with
  | involvement found => exact .inl asked
  | _ => cases asked; exact .inr rfl

/-- Where the iteration of a value is not understood, the tree has the current
one. -/
theorem Node.iteration?_of_untimed {path : List Step} {json inner : Json}
    {node child : Node} {period : Iteration}
    (read : Node.ofJson json = .ok node)
    (reached : valueAt? path json = some inner)
    (untimed : Untimed (inner.get "iteration"))
    (found : node.at? path = some child)
    (asked : child.iteration? = some period) : period = .current := by
  obtain ⟨made, readInner, same⟩ := Node.at?_ofJson read reached found
  have current : made.iteration? = some period → period = .current := by
    intro own
    rw [Node.iteration?_ofJson readInner own]
    exact Iteration.ofJson_of_untimed untimed
  rcases same with rfl | rfl
  · exact current asked
  · rcases Node.iteration?_endpoint asked with own | plain
    · exact current own
    · exact plain

/-! ## Totality -/

/-- A value, and likewise the value of a segment, has a tree exactly when
nothing in it that is read as a node has an array or an object for its type.
Then each value that is read as a node has its place in the tree, which holds
the neutral filter, or the plain participation of an endpoint, if the value
names no kind of node, and the current iteration if it names no iteration. -/
theorem read_iff_plainlyTyped (json : Json) :
    ((∃ node, Node.ofJson json = .ok node) ↔ PlainlyTyped json) ∧
      ((∃ root, Root.ofJson json = .ok root) ↔
        PlainlyTyped (Root.source json)) ∧
      (∀ root, Root.ofJson json = .ok root →
        Node.ofJson (Root.source json) = .ok root.filter) ∧
      (∀ node, Node.ofJson json = .ok node →
        ∀ path inner, valueAt? path json = some inner →
          ∃ child, node.at? (shownPath path) = some child ∧
            (Untyped inner → child = neutralAt path) ∧
            (Untimed (inner.get "iteration") → shownPath path = path →
              ∀ period, child.iteration? = some period →
                period = .current)) ∧
      (Untimed json → Iteration.ofJson json = .current) := by
  refine ⟨Node.exists_ofJson_iff, Root.exists_ofJson_iff, ?_, ?_,
    Iteration.ofJson_of_untimed⟩
  · intro root read
    rw [Root.ofJson_eq, bind_eq_ok] at read
    obtain ⟨node, readNode, same⟩ := read
    cases same
    exact readNode
  · intro node read path inner reached
    obtain ⟨child, found⟩ := Node.exists_at?_shownPath read reached
    refine ⟨child, found, ?_, ?_⟩
    · intro untyped
      rw [Node.at?_shownPath read reached untyped] at found
      exact (Option.some.inj found).symm
    · intro untimed whole period asked
      rw [whole] at found
      exact Node.iteration?_of_untimed read reached untimed found asked

/-- A group of a transition without a usable endpoint, a list in the place of a
condition, and an upsell with a list for the type of its iteration. -/
def garbled : Json :=
  .obj
    [ ("type", .str "group"), ("conditions", .arr
        [ .obj [("type", .str "transition"), ("from", .int 3)],
          .arr [],
          .obj
            [ ("type", .str "upsell"),
              ("iteration", .obj [("type", .arr [])]) ] ]) ]

/-- The tree of `garbled`. -/
def ungarbled : Node :=
  .group .all false
    [ .transition .empty .empty, .empty,
      .upsell
        { iteration := .current, holds := true, itemId := none,
          itemName := none } ]

theorem read_iff_plainlyTyped_of_garbled :
    PlainlyTyped garbled ∧ Node.ofJson garbled = .ok ungarbled ∧
      ungarbled.at? [.condition 0, .source] = some (.involvement .empty) ∧
      ungarbled.at? [.condition 1] = some .empty ∧
      Iteration.ofJson (.obj [("type", .arr [])]) = .current := by
  have read : Node.ofJson garbled = .ok ungarbled := by rfl
  have places := (read_iff_plainlyTyped garbled).2.2.2.1 ungarbled read
  refine ⟨(read_iff_plainlyTyped garbled).1.mp ⟨_, read⟩, read, ?_, ?_, ?_⟩
  · obtain ⟨child, found, plain, -⟩ :=
      places [.condition 0, .source] (.int 3) (by rfl)
    rw [show child = _ from plain (by rfl)] at found
    exact found
  · obtain ⟨child, found, plain, -⟩ := places [.condition 1] (.arr []) (by rfl)
    rw [show child = _ from plain (by rfl)] at found
    exact found
  · exact (read_iff_plainlyTyped _).2.2.2.2 fun iteration same => by cases same

/-- A list in the place of a type has no tree, whether as a node, in a segment
or deep inside one. -/
theorem listed_type_has_no_tree :
    Node.ofJson (.obj [("type", .arr [])]) = .error .wrongType ∧
      Root.ofJson (.obj [("type", .arr [])]) = .error .wrongType ∧
      Root.ofJson (.arr [.obj
        [ ("type", .str "transition"),
          ("to", .obj [("type", .obj [])]) ]]) = .error .wrongType := by
  refine ⟨?_, ?_, ?_⟩ <;> rfl

end Filter
end Audience
