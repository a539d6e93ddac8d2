import Audience.Proofs.Filter.Canonical

/-!
# The normal form of a filter tree

What normalization gives, whatever it is given.  The tree is canonical at every
depth, its wire form has neither a null nor an empty text in it, and a group
has one child for each condition that the value lists, in the order of the
list.  The canonical trees are the ones that normalization leaves as they are,
so that normalizing once more, with or without a detour over the wire form,
changes nothing.
-/

namespace Audience

/-! ## Values without gaps -/

namespace Json

mutual

/-- No null and no empty text anywhere inside. -/
def isGapless : Json → Bool
  | null => false
  | str text => text != ""
  | arr items => itemsGapless items
  | obj fields => fieldsGapless fields
  | _ => true

/-- All items are without gaps. -/
def itemsGapless : List Json → Bool
  | [] => true
  | item :: rest => isGapless item && itemsGapless rest

/-- All field values are without gaps. -/
def fieldsGapless : Fields → Bool
  | [] => true
  | (_, value) :: rest => isGapless value && fieldsGapless rest

end

@[simp] theorem fieldsGapless_append (front back : Fields) :
    fieldsGapless (front ++ back) =
      (fieldsGapless front && fieldsGapless back) := by
  induction front with
  | nil => rfl
  | cons field rest ih =>
      obtain ⟨name, value⟩ := field
      simp [fieldsGapless, ih, Bool.and_assoc]

end Json

theorem Number.isGapless_toJson (number : Number) :
    number.toJson.isGapless = true := by
  cases number <;> rfl

namespace Filter

open Json

@[simp] theorem fieldsGapless_textField {key : String} {text : Option String}
    (filled : Filled text) : fieldsGapless (textField key text) = true := by
  cases text with
  | none => rfl
  | some text =>
      have given : text ≠ "" := fun empty => filled (by rw [empty])
      simp [textField, fieldsGapless, isGapless, given]

@[simp] theorem fieldsGapless_integerField (key : String)
    (value : Option Int) : fieldsGapless (integerField key value) = true := by
  cases value <;> rfl

theorem Iteration.isGapless_toJson {iteration : Iteration}
    (canonical : iteration.Canonical) :
    iteration.toJson.isGapless = true := by
  cases iteration with
  | current => rfl
  | previous => rfl
  | specific instanceId =>
      have filled : Filled instanceId := canonical
      simp [toJson, tag, isGapless, fieldsGapless, filled]
  | year number => simp [toJson, tag, isGapless, fieldsGapless]
  | name label =>
      have filled : Filled label := canonical
      simp [toJson, tag, isGapless, fieldsGapless, filled]

theorem ParticipantFilter.isGapless_toJson {filter : ParticipantFilter}
    (canonical : filter.Canonical) : filter.toJson.isGapless = true := by
  simp [toJson, isGapless, canonical.tierId, canonical.tierName,
    canonical.periodId, canonical.periodName, canonical.createdFrom,
    canonical.createdTo]

theorem VolunteerFilter.isGapless_toJson {filter : VolunteerFilter}
    (canonical : filter.Canonical) : filter.toJson.isGapless = true := by
  simp [toJson, isGapless, canonical.createdFrom, canonical.createdTo]

theorem Involvement.isGapless_toJson {involvement : Involvement}
    (canonical : involvement.Canonical) :
    involvement.toJson.isGapless = true := by
  obtain ⟨role, iteration, holds, participant, volunteer⟩ := involvement
  have period := Iteration.isGapless_toJson canonical.iteration
  have named : (role.text != "") = true := by cases role <;> rfl
  have first : ∀ filter, participant = some filter →
      filter.toJson.isGapless = true := fun filter given =>
    ParticipantFilter.isGapless_toJson (canonical.participant filter given).2
  have second : ∀ filter, volunteer = some filter →
      filter.toJson.isGapless = true := fun filter given =>
    VolunteerFilter.isGapless_toJson (canonical.volunteer filter given).2
  cases participant <;> cases volunteer <;>
    simp_all [toJson, isGapless, fieldsGapless, Kind.text]

theorem Upsell.isGapless_toJson {upsell : Upsell}
    (canonical : upsell.Canonical) : upsell.toJson.isGapless = true := by
  have period := Iteration.isGapless_toJson canonical.iteration
  simp [toJson, isGapless, fieldsGapless, Kind.text, period, canonical.itemId,
    canonical.itemName]

theorem Email.isGapless_toJson (email : Email) :
    email.toJson.isGapless = true := by
  have days := Number.isGapless_toJson email.withinDays
  have named : (email.direction.text != "") = true := by
    cases email.direction <;> rfl
  simp_all [toJson, isGapless, fieldsGapless, Kind.text]

mutual

/-- The wire form of a canonical tree has no gaps. -/
theorem Node.isGapless_toJson : ∀ {node : Node}, node.Canonical →
    node.toJson.isGapless = true
  | .group combinator negated conditions, canonical => by
      have children := Node.itemsGapless_listToJson canonical
      have named : (combinator.text != "") = true := by
        cases combinator <;> rfl
      cases negated <;>
        simp_all [toJson, isGapless, fieldsGapless, Kind.text]
  | .involvement _, canonical => Involvement.isGapless_toJson canonical
  | .transition _ _, ⟨⟨one, _⟩, two, _⟩ => by
      have source := Involvement.isGapless_toJson one
      have target := Involvement.isGapless_toJson two
      simp [toJson, isGapless, fieldsGapless, Kind.text, source, target]
  | .upsell _, canonical => Upsell.isGapless_toJson canonical
  | .email condition, _ => Email.isGapless_toJson condition

theorem Node.itemsGapless_listToJson : ∀ {nodes : List Node},
    Node.ListCanonical nodes →
      itemsGapless (Node.listToJson nodes) = true
  | [], _ => rfl
  | node :: rest, ⟨first, others⟩ => by
      rw [Node.listToJson, itemsGapless, Node.isGapless_toJson first,
        Node.itemsGapless_listToJson others]
      rfl

end

/-! ## One child for each condition -/

/-- The items of an array; none for any other value. -/
def itemsOf : Json → List Json
  | .arr items => items
  | _ => []

/-- The conditions that a value lists as a group; none for a value that is not
a group. -/
def conditionItems (json : Json) : List Json :=
  match json.get "type" with
  | .str "group" => itemsOf (json.get "conditions")
  | _ => []

mutual

/-- The groups of a tree, wherever one is reached from the top through groups,
have a child for each condition that their value lists, made from that
condition, in the order of the list. -/
def Node.Mirrors : Node → Json → Prop
  | .group _ _ conditions, json =>
      Node.ListMirrors conditions (conditionItems json)
  | _, _ => True

/-- One tree for each value, in order. -/
def Node.ListMirrors : List Node → List Json → Prop
  | [], [] => True
  | node :: nodes, item :: items =>
      (Node.ofJson item = .ok node ∧ Node.Mirrors node item) ∧
        Node.ListMirrors nodes items
  | _, _ => False

end

/-- A value that names the kind of a group has the tag of a group. -/
theorem Kind.eq_of_group {json : Json}
    (named : Kind.ofJson? json = .ok (some .group)) : json = .str "group" := by
  cases json with
  | str text =>
      simp only [Kind.ofJson?, Except.ok.injEq] at named
      unfold Kind.ofText? at named
      split at named <;> simp_all
  | _ => simp [Kind.ofJson?] at named

/-- A group lists what is under `conditions`. -/
theorem conditionItems_of_group {fields : Fields}
    (named : Kind.ofJson? (Fields.getD "type" fields) = .ok (some .group)) :
    conditionItems (.obj fields) =
      itemsOf (Fields.getD "conditions" fields) := by
  simp [conditionItems, Json.get, Kind.eq_of_group named]

/-- What names no kind of node lists no conditions. -/
theorem conditionItems_of_unnamed {fields : Fields}
    (named : Kind.ofJson? (Fields.getD "type" fields) = .ok none) :
    conditionItems (.obj fields) = [] := by
  unfold conditionItems
  split
  · rename_i tag
    have group : Fields.getD "type" fields = .str "group" := tag
    rw [group] at named
    cases named
  · rfl

mutual

/-- A tree mirrors the value that it is read from. -/
theorem Node.mirrors_ofJson : ∀ {json : Json} {node : Node},
    Node.ofJson json = .ok node → node.Mirrors json
  | .obj fields, node, normal => by
      rw [Node.ofJson, bind_eq_ok] at normal
      obtain ⟨kind, named, normal⟩ := normal
      match kind, named, normal with
      | some .group, named, normal =>
          obtain ⟨conditions, read, rfl⟩ := by
            simpa only [bind_eq_ok, pure, Except.pure, Except.ok.injEq]
              using normal
          rw [Node.Mirrors, conditionItems_of_group named]
          exact Node.listMirrors_conditionsOf read
      | some .involvement, _, normal => cases normal; trivial
      | some .transition, _, normal =>
          obtain ⟨source, -, target, -, rfl⟩ := by
            simpa only [bind_eq_ok, pure, Except.pure, Except.ok.injEq]
              using normal
          trivial
      | some .upsell, _, normal => cases normal; trivial
      | some .email, _, normal => cases normal; trivial
      | none, named, normal =>
          cases normal
          rw [Node.empty, Node.Mirrors, conditionItems_of_unnamed named]
          trivial
  | .null, _, normal => by cases normal; trivial
  | .bool _, _, normal => by cases normal; trivial
  | .int _, _, normal => by cases normal; trivial
  | .double _, _, normal => by cases normal; trivial
  | .str _, _, normal => by cases normal; trivial
  | .arr _, _, normal => by cases normal; trivial

theorem Node.listMirrors_conditionsOf : ∀ {fields : Fields}
    {nodes : List Node}, Node.conditionsOf fields = .ok nodes →
      Node.ListMirrors nodes (itemsOf (Fields.getD "conditions" fields))
  | [], _, normal => by cases normal; trivial
  | (name, value) :: rest, nodes, normal => by
      rw [getD_cons]
      by_cases here : name = "conditions"
      · rw [if_pos here]
        cases value with
        | arr items =>
            rw [Node.conditionsOf, if_pos here] at normal
            exact Node.listMirrors_listOfJson normal
        | _ =>
            simp only [Node.conditionsOf, if_pos here] at normal
            cases normal
            trivial
      · have later : Node.conditionsOf rest = .ok nodes := by
          unfold Node.conditionsOf at normal
          rwa [if_neg here] at normal
        rw [if_neg here]
        exact Node.listMirrors_conditionsOf later

theorem Node.listMirrors_listOfJson : ∀ {items : List Json}
    {nodes : List Node}, Node.listOfJson items = .ok nodes →
      Node.ListMirrors nodes items
  | [], _, normal => by cases normal; trivial
  | item :: rest, nodes, normal => by
      obtain ⟨node, read, others, readRest, rfl⟩ := by
        simpa only [Node.listOfJson, bind_eq_ok, pure, Except.pure,
          Except.ok.injEq] using normal
      exact ⟨⟨read, Node.mirrors_ofJson read⟩,
        Node.listMirrors_listOfJson readRest⟩

end

/-- The value that the tree of a segment is read from: a list stands for an
`and` group of its items. -/
def Root.source (json : Json) : Json :=
  match json with
  | .arr items => groupOf items
  | .obj fields =>
      match Fields.getD "filter" fields with
      | .arr items => groupOf items
      | .obj inner => .obj inner
      | _ => json
  | _ => json
where
  /-- A value that lists items as the conditions of a group. -/
  groupOf (items : List Json) : Json :=
    .obj [("type", .str Kind.group.text), ("conditions", .arr items)]

theorem Node.ofJson_groupOf (items : List Json) :
    Node.ofJson (Root.source.groupOf items) = Node.allOf items := by
  rfl

/-- The tree of a segment is the tree of its source. -/
theorem Root.ofJson_eq (json : Json) :
    Root.ofJson json = do return { filter := ← Node.ofJson (source json) } := by
  cases json with
  | arr items => simp [ofJson, source, Node.ofJson_groupOf]
  | obj fields =>
      cases inner : Fields.getD "filter" fields <;>
        simp [ofJson, source, inner, Node.ofJson_groupOf]
  | _ => rfl

/-! ## Every normal form -/

/-- A tree is what normalization makes of a value: canonical at every depth,
without gaps in its wire form, and with a child for each listed condition. -/
structure Node.NormalFormOf (node : Node) (json : Json) : Prop where
  canonical : node.Canonical
  gapless : node.toJson.isGapless = true
  mirrors : node.Mirrors json

theorem Node.normalFormOf_ofJson {json : Json} {node : Node}
    (normal : Node.ofJson json = .ok node) : node.NormalFormOf json where
  canonical := Node.canonical_ofJson normal
  gapless := Node.isGapless_toJson (Node.canonical_ofJson normal)
  mirrors := Node.mirrors_ofJson normal

theorem Root.normalFormOf_ofJson {json : Json} {root : Root}
    (normal : Root.ofJson json = .ok root) :
    root.filter.NormalFormOf (source json) := by
  rw [Root.ofJson_eq, bind_eq_ok] at normal
  obtain ⟨node, read, same⟩ := normal
  cases same
  exact Node.normalFormOf_ofJson read

/-- Normalizing a segment normalizes its tree. -/
theorem Root.normalize_eq_ok {given root : Root} :
    given.normalize = .ok root ↔
      Node.ofJson given.filter.toJson = .ok root.filter := by
  obtain ⟨node⟩ := root
  rw [Root.normalize, bind_eq_ok]
  constructor
  · rintro ⟨found, read, same⟩
    cases same
    exact read
  · intro read
    exact ⟨node, read, rfl⟩

/-- Whatever a tree is read from, a value, a tree, the value of a segment or a
segment, the outcome is a normal form of it: canonical at every depth, gapless,
and with the listed conditions as children. -/
theorem normal_at_every_depth :
    (∀ json node, Node.ofJson json = .ok node → node.NormalFormOf json) ∧
      (∀ given node : Node, given.normalize = .ok node →
        node.NormalFormOf given.toJson) ∧
      (∀ json root, Root.ofJson json = .ok root →
        root.filter.NormalFormOf (Root.source json)) ∧
      (∀ given root : Root, given.normalize = .ok root →
        root.filter.NormalFormOf given.filter.toJson) := by
  refine ⟨?_, ?_, ?_, ?_⟩
  · intro json node normal
    exact Node.normalFormOf_ofJson normal
  · intro given node normal
    exact Node.normalFormOf_ofJson normal
  · intro json root normal
    exact Root.normalFormOf_ofJson normal
  · intro given root normal
    exact Node.normalFormOf_ofJson (Root.normalize_eq_ok.mp normal)

/-- A group with a condition of every sort: a volunteer with an empty name and
two whole shifts, a transition from a group, a number of days that is a whole
double, an upsell with a number for a name, and a null. -/
def untidy : Json :=
  .obj
    [ ("type", .str "group"), ("op", .str "or"), ("not", .int 1),
      ("conditions", .arr
        [ .obj
            [ ("type", .str "involvement"), ("role", .str "volunteer"),
              ("participant", .obj [("tierId", .str "t_1")]),
              ("volunteer", .obj
                [ ("minShifts", .double (.finite false 1 1)),
                  ("createdAtGte", .str "") ]) ],
          .obj
            [ ("type", .str "transition"),
              ("from", .obj [("type", .str "group")]),
              ("to", .obj
                [ ("type", .str "involvement"), ("exists", .bool false),
                  ("iteration", .obj
                    [("type", .str "specific"), ("instanceId", .str "")]) ]) ],
          .obj
            [ ("type", .str "email"),
              ("withinDays", .double (.finite false 7 0)) ],
          .obj [("type", .str "upsell"), ("upsellItemName", .int 5)],
          .null ]) ]

/-- What the conditions of `untidy` become. -/
def tidied : List Node :=
  [ .involvement
      { Involvement.ofRole .volunteer with
        volunteer := some ⟨some 2, none, none⟩ },
    .transition .empty { Involvement.empty with iteration := .specific none },
    .email { direction := .outbound, withinDays := .int 7, holds := true },
    .upsell
      { iteration := .current, holds := true, itemId := none,
        itemName := some "5" },
    .empty ]

/-- A transition from an involvement that is said not to hold and that has an
empty constraint of the other role. -/
def misfit : Node :=
  .transition
    { Involvement.empty with
      holds := false
      volunteer := some ⟨none, none, none⟩ }
    .empty

theorem normal_at_every_depth_of_untidy :
    (Node.ofJson untidy = .ok (.group .any true tidied) ∧
      (Node.group .any true tidied).NormalFormOf untidy) ∧
      (misfit.normalize = .ok (.transition .empty .empty) ∧
        (Node.transition .empty .empty).NormalFormOf misfit.toJson) ∧
      (Root.ofJson (.arr [untidy]) =
          .ok ⟨.group .all false [.group .any true tidied]⟩ ∧
        (Node.group .all false [.group .any true tidied]).NormalFormOf
          (Root.source (.arr [untidy]))) ∧
      Root.normalize ⟨misfit⟩ = .ok ⟨.transition .empty .empty⟩ ∧
        (Node.transition .empty .empty).NormalFormOf misfit.toJson := by
  have ofValue : Node.ofJson untidy = .ok (.group .any true tidied) := by rfl
  have ofTree : misfit.normalize = .ok (.transition .empty .empty) := by rfl
  have ofList : Root.ofJson (.arr [untidy]) =
      .ok ⟨.group .all false [.group .any true tidied]⟩ := by rfl
  have ofRoot : Root.normalize ⟨misfit⟩ =
      .ok ⟨.transition .empty .empty⟩ := by rfl
  exact ⟨⟨ofValue, normal_at_every_depth.1 _ _ ofValue⟩,
    ⟨ofTree, normal_at_every_depth.2.1 _ _ ofTree⟩,
    ⟨ofList, normal_at_every_depth.2.2.1 _ _ ofList⟩,
    ofRoot, normal_at_every_depth.2.2.2 _ _ ofRoot⟩

/-! ## The fixed points of normalization -/

theorem Node.ofJson_toJson_iff (node : Node) :
    Node.ofJson node.toJson = .ok node ↔ node.Canonical :=
  ⟨Node.canonical_ofJson, Node.ofJson_toJson⟩

theorem Root.ofJson_toJson_iff (root : Root) :
    Root.ofJson root.toJson = .ok root ↔ root.Canonical :=
  ⟨Root.canonical_ofJson, Root.ofJson_toJson⟩

/-- What has been read stays the same under a step that keeps canonical
results. -/
theorem bind_eq_self {ε α : Type} {first : Except ε α} {next : α → Except ε α}
    (keeps : ∀ value, first = .ok value → next value = .ok value) :
    first >>= next = first := by
  cases first with
  | error failure => rfl
  | ok value => exact keeps value rfl

/-- Normalization, directly and over the wire form, leaves exactly the
canonical trees and segments as they are.  So it is idempotent on whatever a
tree or a segment is read from. -/
theorem fixed_iff_canonical :
    (∀ node : Node,
      (node.normalize = .ok node ∧ Node.ofJson node.toJson = .ok node) ↔
        node.Canonical) ∧
      (∀ root : Root,
        (root.normalize = .ok root ∧ Root.ofJson root.toJson = .ok root) ↔
          root.Canonical) ∧
      (∀ json,
        (Node.ofJson json >>= Node.normalize) = Node.ofJson json ∧
          (Node.ofJson json >>= fun node => Node.ofJson node.toJson) =
            Node.ofJson json) ∧
      (∀ json,
        (Root.ofJson json >>= Root.normalize) = Root.ofJson json ∧
          (Root.ofJson json >>= fun root => Root.ofJson root.toJson) =
            Root.ofJson json) := by
  have normalized (root : Root) : root.normalize = .ok root ↔ root.Canonical :=
    Root.normalize_eq_ok.trans (Node.ofJson_toJson_iff root.filter)
  refine ⟨?_, ?_, ?_, ?_⟩
  · intro node
    exact (and_self_iff).trans (Node.ofJson_toJson_iff node)
  · intro root
    rw [normalized, Root.ofJson_toJson_iff, and_self_iff]
  · intro json
    have keeps : ∀ node, Node.ofJson json = .ok node →
        Node.ofJson node.toJson = .ok node := fun node read =>
      Node.ofJson_toJson (Node.canonical_ofJson read)
    exact ⟨bind_eq_self keeps, bind_eq_self keeps⟩
  · intro json
    constructor
    · exact bind_eq_self fun root read =>
        (normalized root).mpr (Root.canonical_ofJson read)
    · exact bind_eq_self fun root read =>
        Root.ofJson_toJson (Root.canonical_ofJson read)

end Filter
end Audience
