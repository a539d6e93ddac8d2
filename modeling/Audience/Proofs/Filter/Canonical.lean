import Audience.Filter.Normalize

/-!
# Canonical filter trees

A tree is canonical when normalization has nothing left to do: no part of it is
empty, constraints are those of the role at hand, endpoints of a transition
hold, and a whole number of days is an integer.  Normalizing gives canonical
trees only, and a canonical tree survives its wire form.
-/

namespace Audience
namespace Filter

/-- An optional text that is not the empty one. -/
def Filled (text : Option String) : Prop := text ≠ some ""

/-- The names in an iteration are not empty. -/
def Iteration.Canonical : Iteration → Prop
  | specific instanceId => Filled instanceId
  | name label => Filled label
  | _ => True

/-- There is a constraint, and no text in it is empty. -/
structure ParticipantFilter.Canonical (filter : ParticipantFilter) : Prop where
  tierId : Filled filter.tierId
  tierName : Filled filter.tierName
  periodId : Filled filter.periodId
  periodName : Filled filter.periodName
  createdFrom : Filled filter.createdFrom
  createdTo : Filled filter.createdTo
  some_ : filter ≠ ⟨none, none, none, none, none, none⟩

/-- There is a constraint, no text in it is empty and no count negative. -/
structure VolunteerFilter.Canonical (filter : VolunteerFilter) : Prop where
  minShifts : ∀ count, filter.minShifts = some count → 0 ≤ count
  createdFrom : Filled filter.createdFrom
  createdTo : Filled filter.createdTo
  some_ : filter ≠ ⟨none, none, none⟩

/-- Only the role at hand is constrained. -/
structure Involvement.Canonical (involvement : Involvement) : Prop where
  iteration : involvement.iteration.Canonical
  participant : ∀ filter, involvement.participant = some filter →
    involvement.role = .participant ∧ filter.Canonical
  volunteer : ∀ filter, involvement.volunteer = some filter →
    involvement.role = .volunteer ∧ filter.Canonical

/-- No name of an item is empty. -/
structure Upsell.Canonical (upsell : Upsell) : Prop where
  iteration : upsell.iteration.Canonical
  itemId : Filled upsell.itemId
  itemName : Filled upsell.itemName

/-- A finite number, whole only as an integer. -/
def CanonicalNumber : Number → Prop
  | .int _ => True
  | .double number => number.isFinite = true ∧ number.isIntegral = false

mutual

/-- A tree in normal form. -/
def Node.Canonical : Node → Prop
  | .group _ _ conditions => Node.ListCanonical conditions
  | .involvement found => found.Canonical
  | .transition source target =>
      (source.Canonical ∧ source.holds = true) ∧
        target.Canonical ∧ target.holds = true
  | .upsell condition => condition.Canonical
  | .email condition => CanonicalNumber condition.withinDays

/-- Trees in normal form. -/
def Node.ListCanonical : List Node → Prop
  | [] => True
  | node :: rest => node.Canonical ∧ Node.ListCanonical rest

end

/-- A segment in normal form. -/
def Root.Canonical (root : Root) : Prop := root.filter.Canonical

/-! ## Normalizing gives canonical trees -/

theorem toString_ne_empty (value : Int) : toString value ≠ "" := by
  rw [Int.toString_eq_repr, Int.repr_eq_if]
  split
  · exact Nat.repr_ne_empty
  · exact fun empty => Nat.repr_ne_empty (String.append_eq_empty_iff.mp empty).2

theorem filled_textOf (json : Json) : Filled (textOf json) := by
  unfold Filled textOf
  cases json with
  | int value => simpa using toString_ne_empty value
  | str text => by_cases empty : text = "" <;> simp [empty]
  | _ => simp

theorem Iteration.canonical_ofJson (json : Json) :
    (Iteration.ofJson json).Canonical := by
  unfold Iteration.ofJson
  cases json with
  | obj fields =>
      dsimp only
      split
      · trivial
      · exact filled_textOf _
      · trivial
      · exact filled_textOf _
      · trivial
  | _ => trivial

theorem ParticipantFilter.canonical_ofJson {json : Json}
    {filter : ParticipantFilter}
    (normal : ParticipantFilter.ofJson json = some filter) :
    filter.Canonical := by
  unfold ParticipantFilter.ofJson at normal
  dsimp only at normal
  split at normal
  · cases normal
  · rename_i given
    cases normal
    exact ⟨filled_textOf _, filled_textOf _, filled_textOf _, filled_textOf _,
      filled_textOf _, filled_textOf _, given⟩

theorem countOf_nonneg {json : Json} {count : Int}
    (found : countOf json = some count) : 0 ≤ count := by
  unfold countOf at found
  split at found
  · rename_i value _
    by_cases negative : value < 0
    · simp [negative] at found
    · simp only [negative, if_false, Option.some.injEq] at found
      omega
  · cases found

theorem VolunteerFilter.canonical_ofJson {json : Json}
    {filter : VolunteerFilter}
    (normal : VolunteerFilter.ofJson json = some filter) :
    filter.Canonical := by
  unfold VolunteerFilter.ofJson at normal
  dsimp only at normal
  split at normal
  · cases normal
  · rename_i given
    cases normal
    exact ⟨fun count found => countOf_nonneg found, filled_textOf _,
      filled_textOf _, given⟩

theorem Involvement.canonical_ofFields (fields : Fields) :
    (Involvement.ofFields fields).Canonical := by
  refine ⟨Iteration.canonical_ofJson _, ?_, ?_⟩
  · intro filter found
    simp only [Involvement.ofFields] at found ⊢
    cases role : Role.ofJson (Fields.getD "role" fields) with
    | participant =>
        simp only [role] at found
        exact ⟨rfl, ParticipantFilter.canonical_ofJson found⟩
    | volunteer => simp [role] at found
  · intro filter found
    simp only [Involvement.ofFields] at found ⊢
    cases role : Role.ofJson (Fields.getD "role" fields) with
    | participant => simp [role] at found
    | volunteer =>
        simp only [role] at found
        exact ⟨rfl, VolunteerFilter.canonical_ofJson found⟩

theorem Upsell.canonical_ofFields (fields : Fields) :
    (Upsell.ofFields fields).Canonical :=
  ⟨Iteration.canonical_ofJson _, filled_textOf _, filled_textOf _⟩

theorem canonicalNumber_numberOf {json : Json} {number : Number}
    (found : numberOf json = some number) : CanonicalNumber number := by
  unfold numberOf at found
  cases json with
  | int value =>
      cases found
      trivial
  | double value =>
      by_cases finite : value.isFinite
      · by_cases whole : value.isIntegral
        · simp only [finite, whole, if_true] at found
          cases found
          trivial
        · simp only [finite, whole, if_true] at found
          cases found
          exact ⟨finite, by simpa using whole⟩
      · simp [finite] at found
  | _ => cases found

/-- A result of two computations in a row comes from results of both. -/
theorem bind_eq_ok {ε α β : Type} {first : Except ε α}
    {next : α → Except ε β} {result : β} :
    first >>= next = .ok result ↔
      ∃ middle, first = .ok middle ∧ next middle = .ok result := by
  cases first <;> simp [bind, Except.bind]

theorem Email.canonical_ofFields (fields : Fields) :
    CanonicalNumber (Email.ofFields fields).withinDays := by
  simp only [Email.ofFields]
  cases found : numberOf (Fields.getD "withinDays" fields) with
  | none => trivial
  | some number => exact canonicalNumber_numberOf found

/-- The endpoint of a transition that a canonical tree becomes. -/
theorem Node.canonical_endpoint {node : Node} (canonical : node.Canonical) :
    node.endpoint.Canonical ∧ node.endpoint.holds = true := by
  cases node with
  | involvement found =>
      exact ⟨⟨canonical.iteration, canonical.participant, canonical.volunteer⟩,
        rfl⟩
  | _ => exact ⟨⟨trivial, by simp [endpoint, Involvement.empty,
      Involvement.ofRole], by simp [endpoint, Involvement.empty,
      Involvement.ofRole]⟩, rfl⟩

mutual

/-- Whatever a tree is read from, it is canonical. -/
theorem Node.canonical_ofJson : ∀ {json : Json} {node : Node},
    Node.ofJson json = .ok node → node.Canonical
  | .obj fields, node, normal => by
      rw [Node.ofJson, bind_eq_ok] at normal
      obtain ⟨kind, -, normal⟩ := normal
      match kind, normal with
      | some .group, normal =>
          obtain ⟨conditions, read, rfl⟩ := by
            simpa only [bind_eq_ok, pure, Except.pure, Except.ok.injEq]
              using normal
          exact Node.canonical_conditionsOf read
      | some .involvement, normal =>
          cases normal
          exact Involvement.canonical_ofFields fields
      | some .transition, normal =>
          obtain ⟨source, fromRead, target, toRead, rfl⟩ := by
            simpa only [bind_eq_ok, pure, Except.pure, Except.ok.injEq]
              using normal
          exact ⟨Node.canonical_endpointOf fromRead,
            Node.canonical_endpointOf toRead⟩
      | some .upsell, normal =>
          cases normal
          exact Upsell.canonical_ofFields fields
      | some .email, normal =>
          cases normal
          exact Email.canonical_ofFields fields
      | none, normal =>
          cases normal
          trivial
  | .null, _, normal => by cases normal; trivial
  | .bool _, _, normal => by cases normal; trivial
  | .int _, _, normal => by cases normal; trivial
  | .double _, _, normal => by cases normal; trivial
  | .str _, _, normal => by cases normal; trivial
  | .arr _, _, normal => by cases normal; trivial

theorem Node.canonical_conditionsOf : ∀ {fields : Fields} {nodes : List Node},
    Node.conditionsOf fields = .ok nodes → Node.ListCanonical nodes
  | [], _, normal => by cases normal; trivial
  | (name, value) :: rest, nodes, normal => by
      by_cases here : name = "conditions"
      · cases value with
        | arr items =>
            rw [Node.conditionsOf, if_pos here] at normal
            exact Node.canonical_listOfJson normal
        | _ =>
            simp only [Node.conditionsOf, if_pos here] at normal
            cases normal
            trivial
      · have later : Node.conditionsOf rest = .ok nodes := by
          unfold Node.conditionsOf at normal
          rwa [if_neg here] at normal
        exact Node.canonical_conditionsOf later

theorem Node.canonical_endpointOf : ∀ {key : String} {fields : Fields}
    {found : Involvement}, Node.endpointOf key fields = .ok found →
      found.Canonical ∧ found.holds = true
  | _, [], _, normal => by
      cases normal
      exact Node.canonical_endpoint (show Node.Canonical .empty from trivial)
  | key, (name, value) :: rest, found, normal => by
      rw [Node.endpointOf] at normal
      by_cases here : name = key
      · rw [if_pos here, bind_eq_ok] at normal
        obtain ⟨node, read, same⟩ := normal
        cases same
        exact Node.canonical_endpoint (Node.canonical_ofJson read)
      · rw [if_neg here] at normal
        exact Node.canonical_endpointOf normal

theorem Node.canonical_listOfJson : ∀ {items : List Json} {nodes : List Node},
    Node.listOfJson items = .ok nodes → Node.ListCanonical nodes
  | [], _, normal => by cases normal; trivial
  | item :: rest, nodes, normal => by
      obtain ⟨node, read, others, readRest, rfl⟩ := by
        simpa only [Node.listOfJson, bind_eq_ok, pure, Except.pure,
          Except.ok.injEq] using normal
      exact ⟨Node.canonical_ofJson read, Node.canonical_listOfJson readRest⟩

end

theorem Node.canonical_allOf {items : List Json} {node : Node}
    (normal : Node.allOf items = .ok node) : node.Canonical := by
  obtain ⟨nodes, read, rfl⟩ := by
    simpa only [Node.allOf, bind_eq_ok, pure, Except.pure, Except.ok.injEq]
      using normal
  exact Node.canonical_listOfJson read

/-- Whatever a segment is read from, it is canonical. -/
theorem Root.canonical_ofJson {json : Json} {root : Root}
    (normal : Root.ofJson json = .ok root) : root.Canonical := by
  unfold Root.ofJson at normal
  split at normal
  · obtain ⟨node, read, rfl⟩ := by
      simpa only [bind_eq_ok, pure, Except.pure, Except.ok.injEq] using normal
    exact Node.canonical_allOf read
  · split at normal
    · obtain ⟨node, read, rfl⟩ := by
        simpa only [bind_eq_ok, pure, Except.pure, Except.ok.injEq] using normal
      exact Node.canonical_allOf read
    · obtain ⟨node, read, rfl⟩ := by
        simpa only [bind_eq_ok, pure, Except.pure, Except.ok.injEq] using normal
      exact Node.canonical_ofJson read
    · obtain ⟨node, read, rfl⟩ := by
        simpa only [bind_eq_ok, pure, Except.pure, Except.ok.injEq] using normal
      exact Node.canonical_ofJson read
  · cases normal
    trivial

/-! ## Canonical trees survive their wire form -/

section OptionalFields

variable {key name : String} {rest : Fields}

@[simp] theorem getD_nil : Fields.getD key [] = .null := rfl

theorem getD_cons (value : Json) :
    Fields.getD key ((name, value) :: rest) =
      if name = key then value else Fields.getD key rest := by
  by_cases same : name = key <;> simp [Fields.getD, Keyed.get?, same]

/-- Looking up a key passes over an optional field of another name. -/
@[simp] theorem getD_textField_of_ne (ne : name ≠ key)
    (text : Option String) :
    Fields.getD key (textField name text ++ rest) = Fields.getD key rest := by
  cases text with
  | none => rfl
  | some text => simp [textField, Fields.getD, Keyed.get?, ne]

/-- It passes over an optional integer as well. -/
@[simp] theorem getD_integerField_of_ne (ne : name ≠ key)
    (value : Option Int) :
    Fields.getD key (integerField name value ++ rest) =
      Fields.getD key rest := by
  cases value with
  | none => rfl
  | some value => simp [integerField, Fields.getD, Keyed.get?, ne]

/-- An optional text is read back from its field when nothing after it has its
name. -/
theorem textOf_textField {text : Option String} (filled : Filled text)
    (absent : Fields.getD key rest = .null) :
    textOf (Fields.getD key (textField key text ++ rest)) = text := by
  cases text with
  | none => simp [textField, absent, textOf]
  | some text =>
      have given : text ≠ "" := fun empty => filled (by rw [empty])
      simp [textField, Fields.getD, Keyed.get?, textOf, given]

/-- The last field may be an optional text as well. -/
theorem textOf_lastTextField (key : String) {text : Option String}
    (filled : Filled text) :
    textOf (Fields.getD key (textField key text)) = text := by
  rw [← List.append_nil (textField key text)]
  exact textOf_textField filled rfl

@[simp] theorem getD_lastTextField_of_ne (ne : name ≠ key)
    (text : Option String) :
    Fields.getD key (textField name text) = .null := by
  rw [← List.append_nil (textField name text)]
  exact getD_textField_of_ne ne text

/-- An optional count is read back from its field when nothing after it has its
name. -/
theorem countOf_integerField {value : Option Int}
    (counts : ∀ count, value = some count → 0 ≤ count)
    (absent : Fields.getD key rest = .null) :
    countOf (Fields.getD key (integerField key value ++ rest)) = value := by
  cases value with
  | none => simp [integerField, absent, countOf, integerOf]
  | some value =>
      have bound : ¬ value < 0 := by
        have := counts value rfl
        omega
      simp [integerField, Fields.getD, Keyed.get?, countOf, integerOf, bound]

end OptionalFields

/-- An iteration is read back from its wire form. -/
theorem Iteration.ofJson_toJson {iteration : Iteration}
    (canonical : iteration.Canonical) :
    Iteration.ofJson iteration.toJson = iteration := by
  cases iteration with
  | current => rfl
  | previous => rfl
  | specific instanceId =>
      have read := textOf_lastTextField "instanceId" canonical
      simpa [ofJson, toJson, tag, Fields.getD, Keyed.get?] using read
  | year number => cases number <;> rfl
  | name label =>
      have read := textOf_lastTextField "name" canonical
      simpa [ofJson, toJson, tag, Fields.getD, Keyed.get?] using read

/-- Constraints of a participant are read back from their wire form. -/
theorem ParticipantFilter.ofJson_toJson {filter : ParticipantFilter}
    (canonical : filter.Canonical) :
    ParticipantFilter.ofJson filter.toJson = some filter := by
  have fields : ParticipantFilter.mk
      (textOf (filter.toJson.get "tierId"))
      (textOf (filter.toJson.get "tierName"))
      (textOf (filter.toJson.get "periodId"))
      (textOf (filter.toJson.get "periodName"))
      (textOf (filter.toJson.get "createdAtGte"))
      (textOf (filter.toJson.get "createdAtLte")) = filter := by
    simp [toJson, Json.get, textOf_textField, textOf_lastTextField,
      canonical.tierId, canonical.tierName, canonical.periodId,
      canonical.periodName, canonical.createdFrom, canonical.createdTo]
  unfold ParticipantFilter.ofJson
  rw [fields]
  exact if_neg canonical.some_

/-- Constraints of a volunteer are read back from their wire form. -/
theorem VolunteerFilter.ofJson_toJson {filter : VolunteerFilter}
    (canonical : filter.Canonical) :
    VolunteerFilter.ofJson filter.toJson = some filter := by
  have fields : VolunteerFilter.mk
      (countOf (filter.toJson.get "minShifts"))
      (textOf (filter.toJson.get "createdAtGte"))
      (textOf (filter.toJson.get "createdAtLte")) = filter := by
    simp [toJson, Json.get, textOf_textField, textOf_lastTextField,
      countOf_integerField canonical.minShifts, canonical.createdFrom,
      canonical.createdTo]
  unfold VolunteerFilter.ofJson
  rw [fields]
  exact if_neg canonical.some_

theorem Direction.ofJson_text (direction : Direction) :
    Direction.ofJson (.str direction.text) = direction := by
  cases direction <;> rfl

theorem Combinator.ofJson_text (combinator : Combinator) :
    Combinator.ofJson (.str combinator.text) = combinator := by
  cases combinator <;> rfl

theorem holdsOf_bool (holds : Bool) : holdsOf (.bool holds) = holds := by
  cases holds <;> rfl

theorem numberOf_toJson {number : Number} (canonical : CanonicalNumber number) :
    numberOf number.toJson = some number := by
  cases number with
  | int value => rfl
  | double value =>
      obtain ⟨finite, fractional⟩ := canonical
      simp [numberOf, Number.toJson, finite, fractional]

/-- An involvement is read back from its wire form. -/
theorem Involvement.ofFields_toJson {involvement : Involvement}
    (canonical : involvement.Canonical) {fields : Fields}
    (wire : involvement.toJson = .obj fields) :
    Involvement.ofFields fields = involvement := by
  obtain ⟨role, iteration, holds, participant, volunteer⟩ := involvement
  have read := Iteration.ofJson_toJson canonical.iteration
  cases wire
  cases role with
  | participant =>
      have unconstrained : volunteer = none := by
        cases volunteer with
        | none => rfl
        | some filter => cases (canonical.volunteer filter rfl).1
      subst unconstrained
      cases participant with
      | none =>
          simp [ofFields, Fields.getD, Keyed.get?, Role.text, Role.ofJson, read,
            holdsOf_bool]
          rfl
      | some filter =>
          have constraints :=
            ParticipantFilter.ofJson_toJson (canonical.participant filter rfl).2
          simp [ofFields, Fields.getD, Keyed.get?, Role.text, Role.ofJson, read,
            holdsOf_bool, constraints]
  | volunteer =>
      have unconstrained : participant = none := by
        cases participant with
        | none => rfl
        | some filter => cases (canonical.participant filter rfl).1
      subst unconstrained
      cases volunteer with
      | none =>
          simp [ofFields, Fields.getD, Keyed.get?, Role.text, Role.ofJson, read,
            holdsOf_bool]
          rfl
      | some filter =>
          have constraints :=
            VolunteerFilter.ofJson_toJson (canonical.volunteer filter rfl).2
          simp [ofFields, Fields.getD, Keyed.get?, Role.text, Role.ofJson, read,
            holdsOf_bool, constraints]

/-- An upsell condition is read back from its wire form. -/
theorem Upsell.ofFields_toJson {upsell : Upsell}
    (canonical : upsell.Canonical) {fields : Fields}
    (wire : upsell.toJson = .obj fields) : Upsell.ofFields fields = upsell := by
  have read := Iteration.ofJson_toJson canonical.iteration
  cases wire
  simp [ofFields, getD_cons, read, holdsOf_bool, textOf_textField,
    textOf_lastTextField, canonical.itemId, canonical.itemName]

/-- An email condition is read back from its wire form. -/
theorem Email.ofFields_toJson {email : Email}
    (canonical : CanonicalNumber email.withinDays) {fields : Fields}
    (wire : email.toJson = .obj fields) : Email.ofFields fields = email := by
  cases wire
  simp [ofFields, getD_cons, holdsOf_bool, numberOf_toJson canonical,
    Direction.ofJson_text]

/-- A condition is read back as a node of its kind. -/
theorem Node.ofJson_involvement {involvement : Involvement}
    (canonical : involvement.Canonical) :
    Node.ofJson involvement.toJson = .ok (.involvement involvement) := by
  obtain ⟨fields, wire⟩ : ∃ fields, involvement.toJson = .obj fields :=
    ⟨_, rfl⟩
  have kind : Kind.ofJson? (Fields.getD "type" fields) =
      .ok (some .involvement) := by
    cases wire
    rfl
  rw [wire, Node.ofJson, kind]
  show Except.ok _ = _
  rw [Involvement.ofFields_toJson canonical wire]

/-- An endpoint that holds is read back from its wire form. -/
theorem Node.endpointOf_toJson {key : String} {involvement : Involvement}
    (canonical : involvement.Canonical) (holds : involvement.holds = true)
    (rest : Fields) :
    Node.endpointOf key ((key, involvement.toJson) :: rest) =
      .ok involvement := by
  rw [Node.endpointOf, if_pos rfl, Node.ofJson_involvement canonical]
  obtain ⟨role, iteration, held, participant, volunteer⟩ := involvement
  cases holds
  rfl

mutual

/-- A canonical tree is read back from its wire form. -/
theorem Node.ofJson_toJson : ∀ {node : Node}, node.Canonical →
    Node.ofJson node.toJson = .ok node
  | .group combinator negated conditions, canonical => by
      have read := Node.listOfJson_listToJson canonical
      rw [Node.toJson, Node.ofJson]
      cases negated with
      | false =>
          simp [getD_cons, Kind.text, Kind.ofJson?, Kind.ofText?, read,
            Node.conditionsOf, Combinator.ofJson_text, Json.isFull, bind,
            Except.bind, pure, Except.pure]
      | true =>
          simp [getD_cons, Kind.text, Kind.ofJson?, Kind.ofText?, read,
            Node.conditionsOf, Combinator.ofJson_text, Json.isFull, bind,
            Except.bind, pure, Except.pure]
  | .involvement found, canonical => Node.ofJson_involvement canonical
  | .transition source target, ⟨⟨one, oneHolds⟩, two, twoHolds⟩ => by
      rw [Node.toJson, Node.ofJson]
      have readSource : Node.endpointOf "from"
          [ ("type", .str Kind.transition.text), ("from", source.toJson),
            ("to", target.toJson) ] = .ok source := by
        rw [Node.endpointOf, if_neg (by decide)]
        exact Node.endpointOf_toJson one oneHolds _
      have readTarget : Node.endpointOf "to"
          [ ("type", .str Kind.transition.text), ("from", source.toJson),
            ("to", target.toJson) ] = .ok target := by
        rw [Node.endpointOf, if_neg (by decide), Node.endpointOf,
          if_neg (by decide)]
        exact Node.endpointOf_toJson two twoHolds _
      simp [getD_cons, Kind.text, Kind.ofJson?, Kind.ofText?, bind,
        Except.bind, pure, Except.pure] at readSource readTarget ⊢
      rw [readSource, readTarget]
  | .upsell condition, canonical => by
      obtain ⟨fields, wire⟩ : ∃ fields, condition.toJson = .obj fields :=
        ⟨_, rfl⟩
      have kind : Kind.ofJson? (Fields.getD "type" fields) =
          .ok (some .upsell) := by
        cases wire
        rfl
      rw [Node.toJson, wire, Node.ofJson, kind]
      show Except.ok _ = _
      rw [Upsell.ofFields_toJson canonical wire]
  | .email condition, canonical => by
      obtain ⟨fields, wire⟩ : ∃ fields, condition.toJson = .obj fields :=
        ⟨_, rfl⟩
      have kind : Kind.ofJson? (Fields.getD "type" fields) =
          .ok (some .email) := by
        cases wire
        rfl
      rw [Node.toJson, wire, Node.ofJson, kind]
      show Except.ok _ = _
      rw [Email.ofFields_toJson canonical wire]

theorem Node.listOfJson_listToJson : ∀ {nodes : List Node},
    Node.ListCanonical nodes →
      Node.listOfJson (Node.listToJson nodes) = .ok nodes
  | [], _ => rfl
  | node :: rest, ⟨first, others⟩ => by
      rw [Node.listToJson, Node.listOfJson, Node.ofJson_toJson first,
        Node.listOfJson_listToJson others]
      rfl

end

/-- A canonical segment is read back from its wire form. -/
theorem Root.ofJson_toJson {root : Root} (canonical : root.Canonical) :
    Root.ofJson root.toJson = .ok root := by
  obtain ⟨node⟩ := root
  have read : Node.ofJson node.toJson = .ok node :=
    Node.ofJson_toJson canonical
  obtain ⟨fields, wire⟩ : ∃ fields, node.toJson = .obj fields := by
    cases node <;> exact ⟨_, rfl⟩
  rw [Root.toJson, Root.ofJson]
  simp only [getD_cons, if_true, wire]
  rw [← wire, read]
  rfl

end Filter
end Audience
