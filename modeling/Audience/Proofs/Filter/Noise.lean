import Audience.Proofs.Filter.Totality
import Mathlib.Tactic.MkIffOfInductiveProp

/-!
# Noise around a filter tree

Whoever writes the value of a tree may leave parts out, write a name as a number,
put something unusable where nothing is meant, or add what nobody asked for.  What
such a value stands for is said here part by part, without reading it.  The values
that stand for a canonical tree are exactly those with known tags that are read
as this tree.
-/

namespace Audience

theorem Double.signed_eq_mul_iff {negative : Bool} {magnitude factor : Nat}
    {value : Int} (positive : 0 < factor) :
    signed negative magnitude = value * factor ↔
      magnitude % factor = 0 ∧ signed negative (magnitude / factor) = value := by
  have split := Nat.div_add_mod magnitude factor
  constructor
  · intro equal
    have divides : (factor : Int) ∣ magnitude := by
      have scaled : (factor : Int) ∣ signed negative magnitude :=
        ⟨value, by rw [equal, Int.mul_comm]⟩
      cases negative
      · exact scaled
      · exact Int.dvd_neg.mp scaled
    obtain ⟨quotient, rfl⟩ := Int.natCast_dvd_natCast.mp divides
    rw [Nat.mul_mod_right, Nat.mul_div_cancel_left _ positive]
    refine ⟨rfl, ?_⟩
    have cancel : signed negative quotient * factor = value * factor := by
      rw [← equal]
      cases negative <;> simp [signed, Int.mul_comm, Int.mul_neg]
    exact Int.eq_of_mul_eq_mul_right (by omega) cancel
  · rintro ⟨whole, rfl⟩
    rw [whole, Nat.add_zero] at split
    rw [← split, Nat.mul_div_cancel_left _ positive]
    cases negative <;> simp [signed, Int.mul_comm, Int.mul_neg]

/-- A double has the value of an integer if and only if it is whole and the
integer is its integer part. -/
theorem Double.sameValueAsInt_iff_whole {number : Double} {value : Int} :
    number.sameValueAsInt value = true ↔
      number.isIntegral = true ∧ number.truncate = value := by
  cases number with
  | nan => simp [sameValueAsInt, isIntegral]
  | infinity negative => simp [sameValueAsInt, isIntegral]
  | finite negative significand exponent =>
      by_cases whole : 0 ≤ exponent
      · simp [sameValueAsInt, fraction, isIntegral, truncate, whole]
      · have positive : 0 < 2 ^ (-exponent).toNat := Nat.two_pow_pos _
        simpa [sameValueAsInt, fraction, isIntegral, truncate, whole] using
          signed_eq_mul_iff positive

theorem Double.isFinite_of_isIntegral {number : Double}
    (whole : number.isIntegral = true) : number.isFinite = true := by
  cases number <;> simp_all [isIntegral, isFinite]

namespace Filter

/-! ## What a value stands for -/

section Scalars

/-- A choice is selected by what spells it, and the default also by anything that
spells no choice. -/
def Selects {α : Type} (spelling : α → Json) (default choice : α) (json : Json) :
    Prop :=
  json = spelling choice ∨ choice = default ∧ ∀ other, json ≠ spelling other

/-- A text that is not empty, or the integer that spells it, stands for the text.
Nothing stands for no text, and neither do values without a text. -/
inductive EncodesText : Option String → Json → Prop where
  | same {text : String} (given : text ≠ "") :
      EncodesText (some text) (.str text)
  | digits (value : Int) : EncodesText (some (toString value)) (.int value)
  | null : EncodesText none .null
  | empty : EncodesText none (.str "")
  | bool (value : Bool) : EncodesText none (.bool value)
  | double (value : Double) : EncodesText none (.double value)
  | arr (items : List Json) : EncodesText none (.arr items)
  | obj (fields : Fields) : EncodesText none (.obj fields)

/-- A value is the integer, or a double that equals it. -/
inductive Amounts (value : Int) : Json → Prop where
  | int : Amounts value (.int value)
  | double {number : Double} (equal : number.sameValueAsInt value = true) :
      Amounts value (.double number)

/-- What amounts to an admissible integer stands for it, and everything else for
none. -/
inductive EncodesInteger (admissible : Int → Prop) : Option Int → Json → Prop where
  | given {value : Int} {json : Json} (fits : admissible value)
      (amounts : Amounts value json) :
      EncodesInteger admissible (some value) json
  | absent {json : Json} (unfit : ∀ value, Amounts value json →
      ¬ admissible value) : EncodesInteger admissible none json

/-- A finite number. -/
def IsFiniteNumber : Json → Prop
  | .int _ => True
  | .double number => number.isFinite = true
  | _ => False

/-- An equal number stands for a number of days, and for the default also
everything that is no finite number.  A double that is not whole equals no other
double and no integer. -/
inductive EncodesDays : Number → Json → Prop where
  | whole {value : Int} {json : Json} (amounts : Amounts value json) :
      EncodesDays (.int value) json
  | fractional {number : Double} (finite : number.isFinite = true)
      (fraction : number.isIntegral = false) :
      EncodesDays (.double number) (.double number)
  | missing {json : Json} (other : ¬ IsFiniteNumber json) :
      EncodesDays defaultWithinDays json

end Scalars

/-- What stands for an iteration.  Without one of the other tags it is the current
one. -/
def Iteration.EncodedBy (json : Json) : Iteration → Prop
  | current => ∀ other : Iteration, other ≠ .current →
      json.get "type" ≠ .str other.tag
  | previous => json.get "type" = .str "previous"
  | specific instanceId => json.get "type" = .str "specific" ∧
      EncodesText instanceId (json.get "instanceId")
  | year number => json.get "type" = .str "year" ∧
      EncodesInteger (fun _ => True) number (json.get "year")
  | name label => json.get "type" = .str "name" ∧
      EncodesText label (json.get "name")

/-- No constraint on the registration of a participant. -/
def ParticipantFilter.unconstrained : ParticipantFilter :=
  ⟨none, none, none, none, none, none⟩

/-- What stands for constraints on the registration of a participant.  For none it
is missing, no object, or an object in which every one of them is absent. -/
@[mk_iff]
structure ParticipantFilter.EncodedBy (json : Json) (filter : ParticipantFilter) :
    Prop where
  tierId : EncodesText filter.tierId (json.get "tierId")
  tierName : EncodesText filter.tierName (json.get "tierName")
  periodId : EncodesText filter.periodId (json.get "periodId")
  periodName : EncodesText filter.periodName (json.get "periodName")
  createdFrom : EncodesText filter.createdFrom (json.get "createdAtGte")
  createdTo : EncodesText filter.createdTo (json.get "createdAtLte")

/-- No constraint on the registration of a volunteer. -/
def VolunteerFilter.unconstrained : VolunteerFilter := ⟨none, none, none⟩

/-- What stands for constraints on the registration of a volunteer. -/
@[mk_iff]
structure VolunteerFilter.EncodedBy (json : Json) (filter : VolunteerFilter) :
    Prop where
  minShifts : EncodesInteger (0 ≤ ·) filter.minShifts (json.get "minShifts")
  createdFrom : EncodesText filter.createdFrom (json.get "createdAtGte")
  createdTo : EncodesText filter.createdTo (json.get "createdAtLte")

/-- What stands for an involvement, whether it holds or not.  What is said about
the other role does not matter. -/
structure Involvement.EncodedBy (json : Json) (found : Involvement) : Prop where
  tag : json.get "type" = .str Kind.involvement.text
  role : Selects (fun role : Role => .str role.text) .participant found.role
    (json.get "role")
  iteration : found.iteration.EncodedBy (json.get "iteration")
  participant : found.role = .participant →
    (found.participant.getD .unconstrained).EncodedBy (json.get "participant")
  volunteer : found.role = .volunteer →
    (found.volunteer.getD .unconstrained).EncodedBy (json.get "volunteer")

/-- What says whether a condition holds: everything but false says that it
does. -/
abbrev EncodesHolds (holds : Bool) (json : Json) : Prop :=
  Selects .bool true holds json

/-- What stands for an upsell condition. -/
@[mk_iff]
structure Upsell.EncodedBy (json : Json) (condition : Upsell) : Prop where
  tag : json.get "type" = .str Kind.upsell.text
  iteration : condition.iteration.EncodedBy (json.get "iteration")
  holds : EncodesHolds condition.holds (json.get "exists")
  itemId : EncodesText condition.itemId (json.get "upsellItemId")
  itemName : EncodesText condition.itemName (json.get "upsellItemName")

/-- What stands for an email condition. -/
@[mk_iff]
structure Email.EncodedBy (json : Json) (condition : Email) : Prop where
  tag : json.get "type" = .str Kind.email.text
  direction : Selects (fun direction : Direction => .str direction.text)
    .outbound condition.direction (json.get "direction")
  withinDays : EncodesDays condition.withinDays (json.get "withinDays")
  holds : EncodesHolds condition.holds (json.get "exists")

mutual

/-- What stands for a node.  Further fields do not matter, and whether the endpoints
of a transition are said to hold does not either. -/
def Node.EncodedBy (json : Json) : Node → Prop
  | .group combinator negated conditions =>
      json.get "type" = .str Kind.group.text ∧
        Selects (fun combinator : Combinator => .str combinator.text) .all
          combinator (json.get "op") ∧
        (json.get "not").isFull = negated ∧
        Node.ListEncodedBy (itemsOf (json.get "conditions")) conditions
  | .involvement found =>
      found.EncodedBy json ∧ EncodesHolds found.holds (json.get "exists")
  | .transition source target =>
      json.get "type" = .str Kind.transition.text ∧
        source.EncodedBy (json.get "from") ∧ target.EncodedBy (json.get "to")
  | .upsell condition => condition.EncodedBy json
  | .email condition => condition.EncodedBy json

/-- One value for each node, in order. -/
def Node.ListEncodedBy : List Json → List Node → Prop
  | [], [] => True
  | item :: items, node :: nodes =>
      node.EncodedBy item ∧ Node.ListEncodedBy items nodes
  | _, _ => False

end

/-! ## What is read of a value -/

section Scalars

variable {json : Json}

theorem textOf_eq_iff {text : Option String} :
    textOf json = text ↔ EncodesText text json := by
  constructor
  · rintro rfl
    cases json with
    | null => exact .null
    | bool value => exact .bool value
    | int value => exact .digits value
    | double value => exact .double value
    | str text =>
        by_cases empty : text = ""
        · subst empty
          exact .empty
        · simpa [textOf, empty] using EncodesText.same empty
    | arr items => exact .arr items
    | obj fields => exact .obj fields
  · intro encodes
    cases encodes with
    | same given => simp [textOf, given]
    | _ => rfl

theorem amounts_iff {value : Int} :
    Amounts value json ↔ integerOf json = some value := by
  constructor
  · intro amounts
    cases amounts with
    | int => rfl
    | double equal =>
        obtain ⟨whole, rfl⟩ := Double.sameValueAsInt_iff_whole.mp equal
        simp [integerOf, whole]
  · intro found
    cases json with
    | int other =>
        cases found
        exact .int
    | double number =>
        by_cases whole : number.isIntegral
        · simp only [integerOf, whole, if_true, Option.some.injEq] at found
          exact .double (Double.sameValueAsInt_iff_whole.mpr ⟨whole, found⟩)
        · simp [integerOf, whole] at found
    | _ => cases found

theorem unamounted (unread : integerOf json = none) (value : Int) :
    ¬ Amounts value json := by
  intro amounts
  rw [amounts_iff, unread] at amounts
  cases amounts

theorem integerOf_eq_iff {number : Option Int} :
    integerOf json = number ↔ EncodesInteger (fun _ => True) number json := by
  constructor
  · rintro rfl
    cases found : integerOf json with
    | none =>
        exact .absent fun value amounts => absurd amounts (unamounted found value)
    | some value => exact .given trivial (amounts_iff.mpr found)
  · intro encodes
    cases encodes with
    | given _ amounts => exact amounts_iff.mp amounts
    | absent unfit =>
        cases found : integerOf json with
        | none => rfl
        | some value =>
            exact absurd trivial (unfit value (amounts_iff.mpr found))

theorem countOf_eq_iff {number : Option Int} :
    countOf json = number ↔ EncodesInteger (0 ≤ ·) number json := by
  unfold countOf
  constructor
  · rintro rfl
    cases found : integerOf json with
    | none =>
        exact .absent fun value amounts => absurd amounts (unamounted found value)
    | some value =>
        have amounts := amounts_iff.mpr found
        by_cases negative : value < 0
        · simp only [negative, if_true]
          refine .absent fun other also => ?_
          rw [amounts_iff, found] at also
          cases also
          omega
        · simp only [negative, if_false]
          exact .given (by omega) amounts
  · intro encodes
    cases encodes with
    | given fits amounts =>
        simp only [amounts_iff.mp amounts]
        exact if_neg (by omega)
    | absent unfit =>
        cases found : integerOf json with
        | none => rfl
        | some value =>
            have negative := unfit value (amounts_iff.mpr found)
            exact if_pos (by omega)

theorem numberOf_eq_none_iff : numberOf json = none ↔ ¬ IsFiniteNumber json := by
  cases json with
  | double number =>
      by_cases finite : number.isFinite
      · by_cases whole : number.isIntegral <;>
          simp [numberOf, IsFiniteNumber, finite, whole]
      · simp [numberOf, IsFiniteNumber, finite]
  | _ => simp [numberOf, IsFiniteNumber]

theorem numberOf_eq_int_iff {value : Int} :
    numberOf json = some (.int value) ↔ Amounts value json := by
  rw [amounts_iff]
  cases json with
  | double number =>
      by_cases whole : number.isIntegral
      · simp [numberOf, integerOf, whole, Double.isFinite_of_isIntegral whole]
      · by_cases finite : number.isFinite <;>
          simp [numberOf, integerOf, whole, finite]
  | _ => simp [numberOf, integerOf]

theorem numberOf_eq_double_iff {number : Double} :
    numberOf json = some (.double number) ↔
      json = .double number ∧ number.isFinite = true ∧
        number.isIntegral = false := by
  cases json with
  | double other =>
      by_cases finite : other.isFinite
      · by_cases whole : other.isIntegral <;> simp [numberOf, finite, whole] <;>
          grind
      · simp [numberOf, finite]
        grind
  | _ => simp [numberOf]

theorem withinDays_eq_iff {number : Number} :
    (numberOf json).getD defaultWithinDays = number ↔
      EncodesDays number json := by
  constructor
  · rintro rfl
    cases found : numberOf json with
    | none => exact .missing (numberOf_eq_none_iff.mp found)
    | some number =>
        cases number with
        | int value => exact .whole (numberOf_eq_int_iff.mp found)
        | double number =>
            obtain ⟨rfl, finite, fraction⟩ := numberOf_eq_double_iff.mp found
            exact .fractional finite fraction
  · intro encodes
    cases encodes with
    | whole amounts => rw [numberOf_eq_int_iff.mpr amounts]; rfl
    | fractional finite fraction =>
        rw [numberOf_eq_double_iff.mpr ⟨rfl, finite, fraction⟩]
        rfl
    | missing other => rw [numberOf_eq_none_iff.mpr other]; rfl

/-- A choice that is read from its spelling, and the default from what spells no
choice, is read from exactly what selects it. -/
theorem selects_iff {α : Type} {spelling : α → Json} {default choice : α}
    {read : Json → α} (spelled : ∀ choice, read (spelling choice) = choice)
    (otherwise : (∀ other, json ≠ spelling other) → read json = default) :
    read json = choice ↔ Selects spelling default choice json := by
  constructor
  · rintro rfl
    by_cases spells : ∃ other, json = spelling other
    · obtain ⟨other, rfl⟩ := spells
      exact .inl (by rw [spelled])
    · have unspelled : ∀ other, json ≠ spelling other :=
        fun other same => spells ⟨other, same⟩
      exact .inr ⟨otherwise unspelled, unspelled⟩
  · rintro (rfl | ⟨rfl, unspelled⟩)
    · exact spelled choice
    · exact otherwise unspelled

theorem Role.ofJson_eq_iff {role : Role} :
    Role.ofJson json = role ↔
      Selects (fun role : Role => .str role.text) .participant role json := by
  refine selects_iff (fun role => by cases role <;> rfl) fun unspelled => ?_
  unfold Role.ofJson
  split
  · exact absurd rfl (unspelled .volunteer)
  · rfl

theorem Direction.ofJson_eq_iff {direction : Direction} :
    Direction.ofJson json = direction ↔
      Selects (fun direction : Direction => .str direction.text) .outbound
        direction json := by
  refine selects_iff Direction.ofJson_text fun unspelled => ?_
  unfold Direction.ofJson
  split
  · exact absurd rfl (unspelled .inbound)
  · exact absurd rfl (unspelled .either)
  · rfl

theorem Combinator.ofJson_eq_iff {combinator : Combinator} :
    Combinator.ofJson json = combinator ↔
      Selects (fun combinator : Combinator => .str combinator.text) .all
        combinator json := by
  refine selects_iff Combinator.ofJson_text fun unspelled => ?_
  unfold Combinator.ofJson
  split
  · exact absurd rfl (unspelled .any)
  · rfl

theorem holdsOf_eq_iff {holds : Bool} :
    holdsOf json = holds ↔ EncodesHolds holds json := by
  refine selects_iff holdsOf_bool fun unspelled => ?_
  unfold holdsOf
  split
  · exact absurd rfl (unspelled false)
  · rfl

end Scalars

section Conditions

variable {json : Json}

@[simp] theorem getD_fields (json : Json) (key : String) :
    Fields.getD key (json.fields?.getD []) = json.get key := by
  cases json <;> rfl

/-- An iteration is read from what stands for it, and from nothing else. -/
theorem Iteration.ofJson_eq_iff {iteration : Iteration} :
    Iteration.ofJson json = iteration ↔ iteration.EncodedBy json := by
  have looked : Iteration.ofJson json =
      Iteration.ofJson (.obj (json.fields?.getD [])) := by
    cases json <;> rfl
  rw [looked, Iteration.ofJson]
  simp only [getD_fields]
  constructor
  · rintro rfl
    split
    · assumption
    · exact ⟨‹_›, textOf_eq_iff.mp rfl⟩
    · exact ⟨‹_›, integerOf_eq_iff.mp rfl⟩
    · exact ⟨‹_›, textOf_eq_iff.mp rfl⟩
    · intro other timely
      cases other with
      | current => exact absurd rfl timely
      | _ => assumption
  · intro encoded
    cases iteration with
    | current =>
        split
        · exact absurd ‹_› (encoded .previous (by simp))
        · exact absurd ‹_› (encoded (.specific none) (by simp))
        · exact absurd ‹_› (encoded (.year none) (by simp))
        · exact absurd ‹_› (encoded (.name none) (by simp))
        · rfl
    | previous =>
        have named : json.get "type" = .str "previous" := encoded
        simp only [named]
    | specific instanceId =>
        simp only [encoded.1, textOf_eq_iff.mpr encoded.2]
    | year number => simp only [encoded.1, integerOf_eq_iff.mpr encoded.2]
    | name label => simp only [encoded.1, textOf_eq_iff.mpr encoded.2]

/-- What is dropped when it says nothing is read as its constraints, if any. -/
theorem kept_eq_iff {α : Type} [DecidableEq α] {free read : α}
    {filter : Option α} (constrained : filter ≠ some free) :
    (if read = free then none else some read) = filter ↔
      read = filter.getD free := by
  cases filter with
  | none => simp
  | some filter =>
      rw [Option.getD_some]
      constructor
      · intro kept
        split at kept
        · cases kept
        · exact Option.some.inj kept
      · rintro rfl
        exact if_neg fun same => constrained (by rw [same])

theorem ParticipantFilter.ofJson_eq_iff {filter : Option ParticipantFilter}
    (constrained : filter ≠ some .unconstrained) :
    ParticipantFilter.ofJson json = filter ↔
      (filter.getD .unconstrained).EncodedBy json := by
  rw [ParticipantFilter.ofJson, ← unconstrained, kept_eq_iff constrained]
  obtain ⟨tierId, tierName, periodId, periodName, createdFrom, createdTo⟩ :=
    filter.getD .unconstrained
  simp only [mk.injEq, textOf_eq_iff, encodedBy_iff]

theorem VolunteerFilter.ofJson_eq_iff {filter : Option VolunteerFilter}
    (constrained : filter ≠ some .unconstrained) :
    VolunteerFilter.ofJson json = filter ↔
      (filter.getD .unconstrained).EncodedBy json := by
  rw [VolunteerFilter.ofJson, ← unconstrained, kept_eq_iff constrained]
  obtain ⟨minShifts, createdFrom, createdTo⟩ := filter.getD .unconstrained
  simp only [mk.injEq, countOf_eq_iff, textOf_eq_iff, encodedBy_iff]

/-- An involvement is read from what stands for it, up to whether it holds. -/
theorem Involvement.encodedBy_iff {found : Involvement}
    (canonical : found.Canonical) :
    found.EncodedBy json ↔
      json.get "type" = .str Kind.involvement.text ∧
        { ofFields (json.fields?.getD []) with holds := found.holds } =
          found := by
  have registered : found.participant ≠ some .unconstrained := fun free =>
    (canonical.participant _ free).2.some_ rfl
  have enlisted : found.volunteer ≠ some .unconstrained := fun free =>
    (canonical.volunteer _ free).2.some_ rfl
  have played := canonical.participant
  have worked := canonical.volunteer
  obtain ⟨role, iteration, holds, participant, volunteer⟩ := found
  simp only at registered enlisted played worked
  simp only [ofFields, getD_fields, mk.injEq, true_and]
  constructor
  · rintro ⟨tag, part, time, asParticipant, asVolunteer⟩
    simp only at part time asParticipant asVolunteer
    refine ⟨tag, Role.ofJson_eq_iff.mpr part, Iteration.ofJson_eq_iff.mpr time,
      ?_⟩
    rw [Role.ofJson_eq_iff.mpr part]
    cases role with
    | participant =>
        refine ⟨(ParticipantFilter.ofJson_eq_iff registered).mpr
          (asParticipant rfl), ?_⟩
        cases volunteer with
        | none => rfl
        | some filter => cases (worked filter rfl).1
    | volunteer =>
        refine ⟨?_, (VolunteerFilter.ofJson_eq_iff enlisted).mpr
          (asVolunteer rfl)⟩
        cases participant with
        | none => rfl
        | some filter => cases (played filter rfl).1
  · rintro ⟨tag, rfl, time, asParticipant, asVolunteer⟩
    refine ⟨tag, Role.ofJson_eq_iff.mp rfl, Iteration.ofJson_eq_iff.mp time,
      fun part => ?_, fun part => ?_⟩
    · simp only at part
      rw [part] at asParticipant
      exact (ParticipantFilter.ofJson_eq_iff registered).mp asParticipant
    · simp only at part
      rw [part] at asVolunteer
      exact (VolunteerFilter.ofJson_eq_iff enlisted).mp asVolunteer

theorem Upsell.encodedBy_iff_read {condition : Upsell} :
    condition.EncodedBy json ↔
      json.get "type" = .str Kind.upsell.text ∧
        ofFields (json.fields?.getD []) = condition := by
  obtain ⟨iteration, holds, itemId, itemName⟩ := condition
  simp only [ofFields, getD_fields, mk.injEq, Iteration.ofJson_eq_iff,
    holdsOf_eq_iff, textOf_eq_iff, encodedBy_iff]

theorem Email.encodedBy_iff_read {condition : Email} :
    condition.EncodedBy json ↔
      json.get "type" = .str Kind.email.text ∧
        ofFields (json.fields?.getD []) = condition := by
  obtain ⟨direction, withinDays, holds⟩ := condition
  simp only [ofFields, getD_fields, mk.injEq, Direction.ofJson_eq_iff,
    withinDays_eq_iff, holdsOf_eq_iff, encodedBy_iff]

end Conditions

/-! ## Tagged values -/

theorem Kind.text_injective {one two : Kind} (same : one.text = two.text) :
    one = two := by
  cases one <;> cases two <;> simp_all [text]

/-- The kind of node that has such parts. -/
def Step.owner : Step → Kind
  | condition _ => .group
  | source => .transition
  | target => .transition

theorem Step.named_of_inValue? {step : Step} {json part : Json}
    (reached : step.inValue? json = some part) :
    json.get "type" = .str step.owner.text := by
  cases step with
  | condition index => exact type_of_conditionItems reached
  | source => exact (endpointIn?_eq_some.mp reached).1
  | target => exact (endpointIn?_eq_some.mp reached).1

/-- Every value that is read as a node has the tag of a kind, and the endpoint of
a transition that of an involvement. -/
def Tagged (json : Json) : Prop :=
  ∀ path inner, valueAt? path json = some inner →
    ∃ kind : Kind, inner.get "type" = .str kind.text ∧
      ∀ step, path.getLast? = some step → step.owner = .transition →
        kind = .involvement

section Tags

variable {json : Json}

theorem Step.owner_eq {step : Step} {kind : Kind} {part : Json}
    (named : json.get "type" = .str kind.text)
    (reached : step.inValue? json = some part) : step.owner = kind := by
  have tag := Step.named_of_inValue? reached
  rw [named, Json.str.injEq] at tag
  exact (Kind.text_injective tag).symm

/-- Tags are a matter of the value itself and of its parts. -/
theorem tagged_iff :
    Tagged json ↔
      (∃ kind : Kind, json.get "type" = .str kind.text) ∧
        ∀ step part, Step.inValue? step json = some part →
          Tagged part ∧ (step.owner = .transition →
            part.get "type" = .str Kind.involvement.text) := by
  constructor
  · intro tagged
    refine ⟨?_, fun step part reached => ⟨fun path inner found => ?_, ?_⟩⟩
    · obtain ⟨kind, named, -⟩ := tagged [] json rfl
      exact ⟨kind, named⟩
    · obtain ⟨kind, named, ends⟩ := tagged (step :: path) inner (by
        rw [valueAt?_cons, reached]
        exact found)
      refine ⟨kind, named, fun last closing => ends last ?_⟩
      cases path with
      | nil => cases closing
      | cons next rest => exact closing
    · intro endpoint
      obtain ⟨kind, named, ends⟩ := tagged [step] part (by
        rw [valueAt?_cons, reached]
        rfl)
      rw [named, ends step rfl endpoint]
  · rintro ⟨⟨kind, named⟩, parts⟩ path inner reached
    cases path with
    | nil =>
        cases reached
        exact ⟨kind, named, fun _ closing => by cases closing⟩
    | cons step rest =>
        obtain ⟨part, first, later⟩ := Option.bind_eq_some_iff.mp reached
        obtain ⟨tagged, endpoint⟩ := parts step part first
        cases rest with
        | nil =>
            cases later
            obtain ⟨kind, named, -⟩ := tagged [] inner rfl
            refine ⟨kind, named, fun last closing ends => ?_⟩
            cases closing
            have tag := endpoint ends
            rw [named, Json.str.injEq] at tag
            exact Kind.text_injective tag
        | cons next more => exact tagged (next :: more) inner later

theorem tagged_of_group (named : json.get "type" = .str Kind.group.text) :
    Tagged json ↔ ∀ item ∈ itemsOf (json.get "conditions"), Tagged item := by
  have listed : conditionItems json = itemsOf (json.get "conditions") := by
    simp [conditionItems, named, Kind.text]
  rw [tagged_iff, ← listed]
  constructor
  · rintro ⟨-, parts⟩ item among
    obtain ⟨index, found⟩ := List.getElem?_of_mem among
    exact (parts (.condition index) item found).1
  · refine fun each => ⟨⟨.group, named⟩, fun step part reached => ?_⟩
    have owner := Step.owner_eq named reached
    cases step with
    | condition index =>
        refine ⟨each part (List.mem_of_getElem? reached), fun endpoint => ?_⟩
        cases endpoint
    | source => cases owner
    | target => cases owner

/-- What is neither a group nor a transition has no parts. -/
theorem tagged_of_leaf {kind : Kind} (named : json.get "type" = .str kind.text)
    (bare : kind ≠ .group) (still : kind ≠ .transition) : Tagged json := by
  refine tagged_iff.mpr ⟨⟨kind, named⟩, fun step part reached => ?_⟩
  have owner := Step.owner_eq named reached
  cases step with
  | condition index => exact absurd owner.symm bare
  | source => exact absurd owner.symm still
  | target => exact absurd owner.symm still

theorem tagged_of_transition
    (named : json.get "type" = .str Kind.transition.text) :
    Tagged json ↔
      (json.get "from").get "type" = .str Kind.involvement.text ∧
        (json.get "to").get "type" = .str Kind.involvement.text := by
  rw [tagged_iff]
  constructor
  · rintro ⟨-, parts⟩
    exact ⟨(parts .source _ (endpointIn?_eq_some.mpr ⟨named, rfl⟩)).2 rfl,
      (parts .target _ (endpointIn?_eq_some.mpr ⟨named, rfl⟩)).2 rfl⟩
  · rintro ⟨one, two⟩
    refine ⟨⟨.transition, named⟩, fun step part reached => ?_⟩
    cases step with
    | condition index => cases Step.owner_eq named reached
    | source =>
        obtain ⟨-, rfl⟩ := endpointIn?_eq_some.mp reached
        exact ⟨tagged_of_leaf one (by simp) (by simp), fun _ => one⟩
    | target =>
        obtain ⟨-, rfl⟩ := endpointIn?_eq_some.mp reached
        exact ⟨tagged_of_leaf two (by simp) (by simp), fun _ => two⟩

end Tags

/-! ## Reading what stands for a tree -/

section Reading

variable {json : Json}

theorem Kind.ofJson?_text (kind : Kind) :
    Kind.ofJson? (.str kind.text) = .ok (some kind) := by
  cases kind <;> rfl

/-- A value with a known tag is read as a node of this kind. -/
theorem Node.kind_ofJson {kind : Kind} {node : Node}
    (named : json.get "type" = .str kind.text)
    (read : Node.ofJson json = .ok node) : node.kind = kind := by
  rw [Node.ofJson_eq, named, Kind.ofJson?_text] at read
  cases kind with
  | group =>
      obtain ⟨nodes, -, rfl⟩ := by
        simpa only [bind_eq_ok, pure, Except.pure, Except.ok.injEq,
          exists_eq_left'] using read
      rfl
  | transition =>
      obtain ⟨one, -, two, -, rfl⟩ := by
        simpa only [bind_eq_ok, pure, Except.pure, Except.ok.injEq,
          exists_eq_left'] using read
      rfl
  | _ =>
      cases read
      rfl

theorem Node.ofJson_of_involvement
    (named : json.get "type" = .str Kind.involvement.text) :
    Node.ofJson json =
      .ok (.involvement (Involvement.ofFields (json.fields?.getD []))) := by
  rw [Node.ofJson_eq, named]
  rfl

/-- An endpoint is read from what stands for it. -/
theorem Node.endpoint_encodedBy_iff {found : Involvement}
    (canonical : found.Canonical) (holds : found.holds = true) :
    found.EncodedBy json ↔
      json.get "type" = .str Kind.involvement.text ∧
        ∃ node, Node.ofJson json = .ok node ∧ node.endpoint = found := by
  rw [Involvement.encodedBy_iff canonical, holds]
  refine and_congr_right fun named => ?_
  rw [Node.ofJson_of_involvement named]
  simp [Node.endpoint]

/-- What stands for a node has the tag of its kind. -/
theorem Node.EncodedBy.named {node : Node} (encoded : node.EncodedBy json) :
    json.get "type" = .str node.kind.text := by
  cases node with
  | group combinator negated conditions => exact encoded.1
  | involvement found => exact encoded.1.tag
  | transition source target => exact encoded.1
  | upsell condition => exact encoded.tag
  | email condition => exact encoded.tag

theorem Node.ofJson_group_iff {combinator : Combinator} {negated : Bool}
    {conditions : List Node}
    (named : json.get "type" = .str Kind.group.text) :
    Node.ofJson json = .ok (.group combinator negated conditions) ↔
      Selects (fun combinator : Combinator => .str combinator.text) .all
          combinator (json.get "op") ∧
        (json.get "not").isFull = negated ∧
        Node.listOfJson (itemsOf (json.get "conditions")) = .ok conditions := by
  have listed : conditionItems json = itemsOf (json.get "conditions") := by
    simp [conditionItems, named, Kind.text]
  rw [Node.ofJson_eq, named, Kind.ofJson?_text, listed,
    ← Combinator.ofJson_eq_iff]
  cases Node.listOfJson (itemsOf (json.get "conditions")) <;>
    simp [bind, Except.bind, pure, Except.pure]

theorem Node.ofJson_transition_iff {source target : Involvement}
    (named : json.get "type" = .str Kind.transition.text) :
    Node.ofJson json = .ok (.transition source target) ↔
      (∃ node, Node.ofJson (json.get "from") = .ok node ∧
        node.endpoint = source) ∧
      ∃ node, Node.ofJson (json.get "to") = .ok node ∧
        node.endpoint = target := by
  rw [Node.ofJson_eq, named, Kind.ofJson?_text]
  cases Node.ofJson (json.get "from") <;>
    cases Node.ofJson (json.get "to") <;>
      simp [bind, Except.bind, pure, Except.pure]

theorem Node.ofJson_upsell_iff {condition : Upsell}
    (named : json.get "type" = .str Kind.upsell.text) :
    Node.ofJson json = .ok (.upsell condition) ↔
      Upsell.ofFields (json.fields?.getD []) = condition := by
  rw [Node.ofJson_eq, named, Kind.ofJson?_text]
  simp [bind, Except.bind, pure, Except.pure]

theorem Node.ofJson_email_iff {condition : Email}
    (named : json.get "type" = .str Kind.email.text) :
    Node.ofJson json = .ok (.email condition) ↔
      Email.ofFields (json.fields?.getD []) = condition := by
  rw [Node.ofJson_eq, named, Kind.ofJson?_text]
  simp [bind, Except.bind, pure, Except.pure]

theorem Node.listOfJson_cons_iff {item : Json} {items : List Json} {node : Node}
    {nodes : List Node} :
    Node.listOfJson (item :: items) = .ok (node :: nodes) ↔
      Node.ofJson item = .ok node ∧ Node.listOfJson items = .ok nodes := by
  rw [Node.listOfJson]
  cases Node.ofJson item <;> cases Node.listOfJson items <;>
    simp [bind, Except.bind, pure, Except.pure]

theorem Node.listOfJson_eq_nil_iff {items : List Json} :
    Node.listOfJson items = .ok [] ↔ items = [] := by
  cases items with
  | nil => simp [Node.listOfJson, pure, Except.pure]
  | cons item rest =>
      rw [Node.listOfJson]
      cases Node.ofJson item <;> cases Node.listOfJson rest <;>
        simp [bind, Except.bind, pure, Except.pure]

/-- Either way the value has the tag of the node. -/
theorem Node.encodedBy_iff_of_named {node : Node}
    (same : json.get "type" = .str node.kind.text →
      (node.EncodedBy json ↔ Tagged json ∧ Node.ofJson json = .ok node)) :
    node.EncodedBy json ↔ Tagged json ∧ Node.ofJson json = .ok node := by
  constructor
  · intro encoded
    exact (same encoded.named).mp encoded
  · rintro ⟨tagged, read⟩
    obtain ⟨kind, named, -⟩ := tagged [] json rfl
    have own := Node.kind_ofJson named read
    exact (same (by rw [own, named])).mpr ⟨tagged, read⟩

mutual

/-- What stands for a canonical node is what is tagged and read as it, by
induction on the node. -/
theorem Node.encodedBy_iff : ∀ {node : Node}, node.Canonical →
    ∀ {json : Json},
      (node.EncodedBy json ↔ Tagged json ∧ Node.ofJson json = .ok node)
  | .group combinator negated conditions, canonical, json => by
      refine Node.encodedBy_iff_of_named fun named => ?_
      rw [tagged_of_group named, Node.ofJson_group_iff named, Node.EncodedBy,
        Node.listEncodedBy_iff canonical]
      exact ⟨fun ⟨_, chosen, negates, tagged, read⟩ =>
          ⟨tagged, chosen, negates, read⟩,
        fun ⟨tagged, chosen, negates, read⟩ =>
          ⟨named, chosen, negates, tagged, read⟩⟩
  | .involvement found, canonical, json => by
      refine Node.encodedBy_iff_of_named fun named => ?_
      have leaf : Tagged json := tagged_of_leaf named (by simp [Node.kind])
        (by simp [Node.kind])
      rw [Node.EncodedBy, Involvement.encodedBy_iff canonical, ← holdsOf_eq_iff,
        Node.ofJson_of_involvement named, Except.ok.injEq,
        Node.involvement.injEq]
      constructor
      · rintro ⟨⟨-, rest⟩, holds⟩
        refine ⟨leaf, ?_⟩
        rw [← rest]
        simp [Involvement.ofFields, ← holds]
      · rintro ⟨-, rfl⟩
        exact ⟨⟨named, rfl⟩, by simp [Involvement.ofFields]⟩
  | .transition source target, ⟨⟨one, oneHolds⟩, two, twoHolds⟩, json => by
      refine Node.encodedBy_iff_of_named fun named => ?_
      rw [Node.EncodedBy, tagged_of_transition named,
        Node.ofJson_transition_iff named,
        Node.endpoint_encodedBy_iff one oneHolds,
        Node.endpoint_encodedBy_iff two twoHolds]
      exact ⟨fun ⟨_, ⟨one, source⟩, two, target⟩ =>
          ⟨⟨one, two⟩, source, target⟩,
        fun ⟨⟨one, two⟩, source, target⟩ =>
          ⟨named, ⟨one, source⟩, two, target⟩⟩
  | .upsell condition, _, json => by
      refine Node.encodedBy_iff_of_named fun named => ?_
      have leaf : Tagged json := tagged_of_leaf named (by simp [Node.kind])
        (by simp [Node.kind])
      rw [Node.EncodedBy, Upsell.encodedBy_iff_read, Node.ofJson_upsell_iff named]
      exact and_congr_left fun _ => ⟨fun _ => leaf, fun _ => named⟩
  | .email condition, _, json => by
      refine Node.encodedBy_iff_of_named fun named => ?_
      have leaf : Tagged json := tagged_of_leaf named (by simp [Node.kind])
        (by simp [Node.kind])
      rw [Node.EncodedBy, Email.encodedBy_iff_read, Node.ofJson_email_iff named]
      exact and_congr_left fun _ => ⟨fun _ => leaf, fun _ => named⟩

theorem Node.listEncodedBy_iff : ∀ {nodes : List Node},
    Node.ListCanonical nodes → ∀ {items : List Json},
      (Node.ListEncodedBy items nodes ↔
        (∀ item ∈ items, Tagged item) ∧ Node.listOfJson items = .ok nodes)
  | [], _, [] => by
      simp [Node.ListEncodedBy, Node.listOfJson_eq_nil_iff]
  | [], _, item :: items => by
      simp [Node.ListEncodedBy, Node.listOfJson_eq_nil_iff]
  | node :: nodes, _, [] => by
      simp [Node.ListEncodedBy, Node.listOfJson, pure, Except.pure]
  | node :: nodes, ⟨first, others⟩, item :: items => by
      rw [Node.ListEncodedBy, Node.encodedBy_iff first,
        Node.listEncodedBy_iff others, List.forall_mem_cons,
        Node.listOfJson_cons_iff]
      exact and_and_and_comm

end

end Reading

/-! ## The wire form -/

mutual

/-- The wire form of a tree has known tags. -/
theorem Node.tagged_toJson : ∀ node : Node, Tagged node.toJson
  | .group combinator negated conditions => by
      have named : (Node.toJson (.group combinator negated conditions)).get
          "type" = .str Kind.group.text := by
        cases negated <;> simp [Node.toJson, Json.get, getD_cons]
      have listed : (Node.toJson (.group combinator negated conditions)).get
          "conditions" = .arr (Node.listToJson conditions) := by
        cases negated <;> simp [Node.toJson, Json.get, getD_cons]
      rw [tagged_of_group named, listed]
      exact Node.tagged_listToJson conditions
  | .involvement found => by
      have named : (Node.toJson (.involvement found)).get "type" =
          .str Kind.involvement.text := rfl
      exact tagged_of_leaf named (by simp) (by simp)
  | .transition source target => (tagged_of_transition rfl).mpr ⟨rfl, rfl⟩
  | .upsell condition => by
      have named : (Node.toJson (.upsell condition)).get "type" =
          .str Kind.upsell.text := rfl
      exact tagged_of_leaf named (by simp) (by simp)
  | .email condition => by
      have named : (Node.toJson (.email condition)).get "type" =
          .str Kind.email.text := rfl
      exact tagged_of_leaf named (by simp) (by simp)

theorem Node.tagged_listToJson :
    ∀ nodes : List Node, ∀ item ∈ Node.listToJson nodes, Tagged item
  | [], _, among => nomatch among
  | node :: nodes, item, among => by
      rw [Node.listToJson, List.mem_cons] at among
      rcases among with rfl | among
      · exact Node.tagged_toJson node
      · exact Node.tagged_listToJson nodes item among

end

/-- The wire form of a canonical tree stands for it. -/
theorem Node.encodedBy_toJson {node : Node} (canonical : node.Canonical) :
    node.EncodedBy node.toJson :=
  (Node.encodedBy_iff canonical).mpr
    ⟨Node.tagged_toJson node, Node.ofJson_toJson canonical⟩

/-! ## Insensitivity to noise -/

/-- What stands for a canonical tree, as its wire form does, is read as this tree,
on its own and as a segment, and nothing else whose nodes have a known tag is.
Likewise an iteration is read from just what stands for it. -/
theorem encoded_iff_tagged_and_read {node : Node} (canonical : node.Canonical) :
    node.EncodedBy node.toJson ∧
      (∀ json, node.EncodedBy json ↔
        Tagged json ∧ Node.ofJson json = .ok node) ∧
      (∀ json, node.EncodedBy (Root.source json) →
        Root.ofJson json = .ok { filter := node }) ∧
      ∀ (iteration : Iteration) (json : Json),
        iteration.EncodedBy json ↔ Iteration.ofJson json = iteration := by
  refine ⟨Node.encodedBy_toJson canonical,
    fun json => Node.encodedBy_iff canonical, fun json encoded => ?_,
    fun iteration json => Iteration.ofJson_eq_iff.symm⟩
  rw [Root.ofJson_eq, ((Node.encodedBy_iff canonical).mp encoded).2]
  rfl

/-- A group that does not say how it combines: a volunteer with the constraints of
a participant, a count that is a double and a number for a text; a transition whose
endpoints are said not to hold; an email condition with a text for its days; and an
upsell of a year that is a double. -/
def noisy : Json :=
  .obj
    [ ("type", .str "group"), ("op", .str "xor"), ("not", .int 0),
      ("comment", .arr [.null]), ("conditions", .arr
        [ .obj
            [ ("type", .str "involvement"), ("role", .str "volunteer"),
              ("exists", .int 0), ("iteration", .str "previous"),
              ("participant", .obj [("tierId", .str "t")]),
              ("volunteer", .obj
                [ ("minShifts", .double (.finite false 1 1)),
                  ("createdAtGte", .int 2024), ("createdAtLte", .str "") ]) ],
          .obj
            [ ("type", .str "transition"),
              ("from", .obj
                [("type", .str "involvement"), ("exists", .bool false)]),
              ("to", .obj
                [ ("type", .str "involvement"), ("role", .bool true),
                  ("participant", .obj [("tierName", .bool true)]) ]) ],
          .obj [("type", .str "email"), ("withinDays", .str "soon")],
          .obj
            [ ("type", .str "upsell"), ("exists", .bool false),
              ("upsellItemId", .double (.finite false 1 1)),
              ("iteration", .obj
                [ ("type", .str "year"),
                  ("year", .double (.finite false 2025 0)) ]) ] ]) ]

/-- The tree that `noisy` stands for. -/
def quiet : Node :=
  .group .all false
    [ .involvement
        { Involvement.ofRole .volunteer with
          volunteer := some
            { minShifts := some 2, createdFrom := some "2024",
              createdTo := none } },
      .transition .empty .empty, Node.emptyOfKind .email,
      .upsell
        { iteration := .year (some 2025), holds := false, itemId := none,
          itemName := none } ]

theorem quiet_read_from_noisy :
    quiet.Canonical ∧ quiet.EncodedBy noisy ∧
      Node.ofJson noisy = .ok quiet ∧
      Root.ofJson (.obj [("filter", noisy)]) = .ok { filter := quiet } := by
  have canonical : quiet.Canonical := by
    refine ⟨⟨trivial, nofun, ?_⟩, ⟨⟨⟨trivial, nofun, nofun⟩, rfl⟩,
      ⟨trivial, nofun, nofun⟩, rfl⟩, trivial, ⟨trivial, nofun, nofun⟩, trivial⟩
    rintro _ ⟨⟩
    exact ⟨rfl, by rintro _ ⟨⟩; decide, by simp [Filled], nofun, by decide⟩
  have current : ∀ json : Json, json.get "type" = .null →
      Iteration.current.EncodedBy json := by
    intro json untyped other _ named
    rw [untyped] at named
    cases named
  have holds : ∀ json : Json, json ≠ .bool false → EncodesHolds true json := by
    rintro json unsaid
    by_cases said : json = .bool true
    · exact .inl said
    · exact .inr ⟨rfl, by rintro (_ | _) <;> assumption⟩
  have constraints : (⟨some 2, some "2024", none⟩ : VolunteerFilter).EncodedBy
      (.obj [ ("minShifts", .double (.finite false 1 1)),
        ("createdAtGte", .int 2024), ("createdAtLte", .str "") ]) :=
    ⟨.given (by decide) (.double rfl), .digits 2024, .empty⟩
  have participation : ∀ json : Json,
      json.get "type" = .str Kind.involvement.text →
      json.get "iteration" = .null → (∀ text, json.get "role" ≠ .str text) →
      ParticipantFilter.unconstrained.EncodedBy (json.get "participant") →
      Involvement.empty.EncodedBy json := by
    intro json named untimed unnamed free
    exact ⟨named, .inr ⟨rfl, fun _ => unnamed _⟩,
      current _ (by rw [untimed]; rfl), fun _ => free, nofun⟩
  have encoded : quiet.EncodedBy noisy := by
    refine ⟨rfl, .inr ⟨rfl, ?_⟩, rfl,
      ⟨⟨rfl, .inl rfl, current _ rfl, nofun, fun _ => constraints⟩,
        holds _ nofun⟩,
      ⟨rfl, participation _ rfl rfl nofun ?_,
        participation _ rfl rfl nofun ?_⟩,
      ⟨rfl, .inr ⟨rfl, nofun⟩, .missing id, holds _ nofun⟩,
      ⟨rfl, ⟨rfl, .given trivial (.double rfl)⟩, .inl rfl, .double _, .null⟩,
      trivial⟩
    · rintro (_ | _) same <;> exact absurd (Json.str.inj same) (by decide)
    · exact ⟨.null, .null, .null, .null, .null, .null⟩
    · exact ⟨.null, .bool true, .null, .null, .null, .null⟩
  obtain ⟨-, read, segment, -⟩ := encoded_iff_tagged_and_read canonical
  exact ⟨canonical, encoded, ((read noisy).mp encoded).2,
    segment (.obj [("filter", noisy)]) encoded⟩

end Filter
end Audience
