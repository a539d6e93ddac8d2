import Audience.Proofs.Json.Parts
import Audience.Proofs.Number.Magnitude

/-!
# Values that correspond

Two values correspond if they are built alike: arrays in order, objects in any
order of their keys, down to scalars that are alike in a given sense.  Values are
equal if and only if they correspond with scalars that are worth the same, and they
are written alike if and only if these are of one kind besides.
-/

namespace Audience
/-- A double is written with a minus sign. -/
def Double.isNegative : Double → Bool
  | nan => false
  | infinity negative => negative
  | finite negative _ _ => negative

namespace Json

/-- Two values are built alike down to their scalars, which are alike. -/
inductive Corresponds (alike : Json → Json → Prop) : Json → Json → Prop where
  | scalar {first second : Json} (left : first.isScalar = true)
      (right : second.isScalar = true) (same : alike first second) :
      Corresponds alike first second
  | arr {firsts seconds : List Json} (length : firsts.length = seconds.length)
      (items : ∀ (index : Nat) (first second : Json),
        firsts[index]? = some first → seconds[index]? = some second →
          Corresponds alike first second) :
      Corresponds alike (.arr firsts) (.arr seconds)
  | obj {firsts seconds : Fields}
      (keys : ∀ key, (Keyed.get? key firsts).isSome =
        (Keyed.get? key seconds).isSome)
      (fields : ∀ (key : String) (first second : Json),
        Keyed.get? key firsts = some first →
          Keyed.get? key seconds = some second →
            Corresponds alike first second) :
      Corresponds alike (.obj firsts) (.obj seconds)

namespace Corresponds

variable {alike other : Json → Json → Prop} {first second third : Json}

theorem symm (flip : ∀ one two, alike one two → alike two one)
    (corresponds : Corresponds alike first second) :
    Corresponds alike second first := by
  induction corresponds with
  | scalar left right same => exact .scalar right left (flip _ _ same)
  | arr length items ih =>
      exact .arr length.symm fun index first second left right =>
        ih index second first right left
  | obj keys fields ih =>
      exact .obj (fun key => (keys key).symm) fun key first second left right =>
        ih key second first right left

theorem trans
    (join : ∀ one two three, alike one two → alike two three → alike one three)
    (corresponds : Corresponds alike first second)
    (next : Corresponds alike second third) : Corresponds alike first third := by
  induction corresponds generalizing third with
  | scalar left right same =>
      cases next with
      | scalar middle last like => exact .scalar left last (join _ _ _ same like)
      | arr => cases right
      | obj => cases right
  | @arr firsts seconds length items ih =>
      cases next with
      | scalar middle => cases middle
      | @arr _ thirds length' items' =>
          refine .arr (length.trans length') fun index one three left right => ?_
          have inside : index < seconds.length :=
            length ▸ (List.getElem?_eq_some_iff.mp left).1
          have between := List.getElem?_eq_getElem inside
          exact ih index one _ left between (items' index _ three between right)
  | @obj firsts seconds keys fields ih =>
      cases next with
      | scalar middle => cases middle
      | @obj _ thirds keys' fields' =>
          refine .obj (fun key => (keys key).trans (keys' key))
            fun key one three left right => ?_
          obtain ⟨two, between⟩ : ∃ two, Keyed.get? key seconds = some two := by
            rw [← Option.isSome_iff_exists, ← keys, left]
            rfl
          exact ih key one two left between (fields' key two three between right)

/-- A value corresponds to itself if each scalar inside is like itself. -/
theorem refl
    (selves : ∀ part, Within part first → part.isScalar = true →
      alike part part) : Corresponds alike first first := by
  induction first using parts_induction with
  | scalar json scalar => exact .scalar scalar scalar (selves json .self scalar)
  | arr items ih =>
      refine .arr rfl fun index one two left right => ?_
      obtain rfl := Option.some.inj (left.symm.trans right)
      have among := List.mem_of_getElem? left
      exact ih one among fun part within => selves part (.item among within)
  | obj fields ih =>
      refine .obj (fun _ => rfl) fun key one two left right => ?_
      obtain rfl := Option.some.inj (left.symm.trans right)
      have among := Keyed.mem_of_get? left
      exact ih _ among fun part within => selves part (.field among within)

/-- Scalars may be compared in two senses at once. -/
theorem and (corresponds : Corresponds alike first second)
    (too : Corresponds other first second) :
    Corresponds (fun one two => alike one two ∧ other one two) first second := by
  induction corresponds with
  | scalar left right same =>
      cases too with
      | scalar _ _ like => exact .scalar left right ⟨same, like⟩
      | arr => cases left
      | obj => cases left
  | arr length items ih =>
      cases too with
      | scalar left => cases left
      | arr _ items' =>
          exact .arr length fun index one two left right =>
            ih index one two left right (items' index one two left right)
  | obj keys fields ih =>
      cases too with
      | scalar left => cases left
      | obj _ fields' =>
          exact .obj keys fun key one two left right =>
            ih key one two left right (fields' key one two left right)

theorem mono
    (weaker : ∀ one two, one.isScalar = true → two.isScalar = true →
      alike one two → other one two)
    (corresponds : Corresponds alike first second) :
    Corresponds other first second := by
  induction corresponds with
  | scalar left right same =>
      exact .scalar left right (weaker _ _ left right same)
  | arr length items ih => exact .arr length ih
  | obj keys fields ih => exact .obj keys ih

end Corresponds

section Worth

/-- What a scalar is worth. -/
inductive Worth where
  | nothing
  | number (point : Magnitude)
  | text (text : String)

/-- What a scalar is worth.  A NaN is worth nothing that could be compared. -/
def worth? : Json → Option Worth
  | null => some .nothing
  | str text => some (.text text)
  | json => (json.number?.bind Number.magnitude?).map .number

/-- Two scalars are worth the same. -/
def SameWorth (first second : Json) : Prop :=
  ∃ worth, first.worth? = some worth ∧ second.worth? = some worth

theorem SameWorth.symm {first second : Json} (same : SameWorth first second) :
    SameWorth second first := by
  obtain ⟨worth, left, right⟩ := same
  exact ⟨worth, right, left⟩

theorem SameWorth.trans {first second third : Json}
    (same : SameWorth first second) (next : SameWorth second third) :
    SameWorth first third := by
  obtain ⟨worth, left, right⟩ := same
  obtain ⟨other, left', right'⟩ := next
  obtain rfl := Option.some.inj (right.symm.trans left')
  exact ⟨worth, left, right'⟩

/-- Scalars are equal if and only if they are worth the same. -/
theorem sameValue_iff_sameWorth {first second : Json}
    (left : first.isScalar = true) (right : second.isScalar = true) :
    first.sameValue second = true ↔ SameWorth first second := by
  have numbers (one two : Number) : one.sameValue two = true ↔
      ∃ worth, (one.magnitude?.map Worth.number) = some worth ∧
        (two.magnitude?.map Worth.number) = some worth := by
    rw [Number.sameValue_iff]
    cases one.magnitude? <;> cases two.magnitude? <;> simp
  cases first <;> cases second <;>
    simp [sameValue, SameWorth, worth?, number?, numbers, isScalar]
      at left right ⊢
  exact eq_comm

/-- A scalar is worth the same as itself unless it is a NaN. -/
theorem sameWorth_self {json : Json} (scalar : json.isScalar = true)
    (number : json ≠ .double .nan) : SameWorth json json := by
  have some : json.worth?.isSome = true := by
    cases json with
    | double value =>
        cases value with
        | nan => exact absurd rfl number
        | _ => rfl
    | arr items => cases scalar
    | obj fields => cases scalar
    | _ => rfl
  obtain ⟨worth, found⟩ := Option.isSome_iff_exists.mp some
  exact ⟨worth, found, found⟩

end Worth

section Equality

/-- Arrays are equal if they are of one length and equal item by item. -/
theorem sameItems_iff {firsts seconds : List Json} :
    sameItems firsts seconds = true ↔ firsts.length = seconds.length ∧
      ∀ (index : Nat) (first second : Json), firsts[index]? = some first →
        seconds[index]? = some second → first.sameValue second = true := by
  induction firsts generalizing seconds with
  | nil => cases seconds <;> simp [sameItems]
  | cons first firsts ih =>
      cases seconds with
      | nil => simp [sameItems]
      | cons second seconds =>
          simp only [sameItems, Bool.and_eq_true, ih, List.length_cons,
            Nat.add_right_cancel_iff]
          constructor
          · rintro ⟨same, length, items⟩
            refine ⟨length, fun index one two left right => ?_⟩
            cases index with
            | zero =>
                cases left
                cases right
                exact same
            | succ index => exact items index one two left right
          · rintro ⟨length, items⟩
            exact ⟨items 0 first second rfl rfl, length,
              fun index => items (index + 1)⟩

/-- Fields are equal to others if each has an equal one under its key. -/
theorem sameFields_iff {firsts seconds : Fields} :
    sameFields firsts seconds = true ↔ ∀ field ∈ firsts, ∃ second,
      Keyed.get? field.1 seconds = some second ∧
        field.2.sameValue second = true := by
  induction firsts with
  | nil => simp [sameFields]
  | cons first firsts ih =>
      obtain ⟨name, value⟩ := first
      simp only [sameFields, Bool.and_eq_true, ih, List.forall_mem_cons]
      cases Keyed.get? name seconds <;> simp

/-- Objects of as many fields have the same keys if those of one are among those of
the other. -/
theorem keys_eq_of_subset {firsts seconds : Fields}
    (distinct : firsts.Distinct) (length : firsts.length = seconds.length)
    (subset : firsts.map Prod.fst ⊆ seconds.map Prod.fst) (key : String) :
    (Keyed.get? key firsts).isSome = (Keyed.get? key seconds).isSome := by
  have permuted : (firsts.map Prod.fst).Perm (seconds.map Prod.fst) :=
    (distinct.subperm subset).perm_of_length_le (by simp [length])
  rw [Bool.eq_iff_iff, Keyed.isSome_get?_iff, Keyed.isSome_get?_iff,
    permuted.mem_iff]

/-- Objects with the same keys have as many fields. -/
theorem length_eq_of_keys {firsts seconds : Fields}
    (distinct : firsts.Distinct) (distinct' : seconds.Distinct)
    (keys : ∀ key, (Keyed.get? key firsts).isSome =
      (Keyed.get? key seconds).isSome) : firsts.length = seconds.length := by
  have permuted : (firsts.map Prod.fst).Perm (seconds.map Prod.fst) := by
    rw [List.perm_ext_iff_of_nodup distinct distinct']
    intro key
    rw [← Keyed.isSome_get?_iff, keys, Keyed.isSome_get?_iff]
  simpa using permuted.length_eq

/-- Only values of one shape are equal. -/
theorem scalar_sameValue {first second : Json} (scalar : first.isScalar = true)
    (same : first.sameValue second = true) : second.isScalar = true := by
  cases first <;> cases second <;>
    simp [sameValue, number?, isScalar] at scalar same ⊢

theorem arr_sameValue {items : List Json} {second : Json} :
    (arr items).sameValue second = true ↔
      ∃ others, second = .arr others ∧ sameItems items others = true := by
  cases second <;> simp [sameValue, number?]

theorem obj_sameValue {fields : Fields} {second : Json} :
    (obj fields).sameValue second = true ↔ ∃ others, second = .obj others ∧
      fields.length = others.length ∧ sameFields fields others = true := by
  cases second <;> simp [sameValue, number?]

/-- Scalars are equal if and only if they correspond. -/
theorem scalar_sameValue_iff {first second : Json}
    (scalar : first.isScalar = true) :
    first.sameValue second = true ↔ Corresponds SameWorth first second := by
  constructor
  · intro same
    have other := scalar_sameValue scalar same
    exact .scalar scalar other ((sameValue_iff_sameWorth scalar other).mp same)
  · intro corresponds
    cases corresponds with
    | scalar _ other same => exact (sameValue_iff_sameWorth scalar other).mpr same
    | arr => cases scalar
    | obj => cases scalar

/-- So are arrays if their items are. -/
theorem arr_sameValue_iff {items : List Json} {second : Json}
    (each : ∀ item ∈ items, ∀ {other : Json}, other.WellKeyed →
      (item.sameValue other = true ↔ Corresponds SameWorth item other))
    (keyed : second.WellKeyed) :
    (arr items).sameValue second = true ↔
      Corresponds SameWorth (arr items) second := by
  rw [arr_sameValue]
  constructor
  · rintro ⟨others, rfl, same⟩
    rw [wellKeyed_arr] at keyed
    obtain ⟨length, equal⟩ := sameItems_iff.mp same
    refine .arr length fun index one two left right => ?_
    exact (each one (List.mem_of_getElem? left)
      (keyed two (List.mem_of_getElem? right))).mp (equal index one two left right)
  · intro corresponds
    cases corresponds with
    | scalar left => cases left
    | @arr _ others length alike =>
        rw [wellKeyed_arr] at keyed
        refine ⟨others, rfl, sameItems_iff.mpr ⟨length, ?_⟩⟩
        intro index one two left right
        exact (each one (List.mem_of_getElem? left)
          (keyed two (List.mem_of_getElem? right))).mpr
          (alike index one two left right)

/-- So are objects if their fields are, since no key stands twice in either. -/
theorem obj_sameValue_iff {fields : Fields} {second : Json}
    (each : ∀ field ∈ fields, ∀ {other : Json}, other.WellKeyed →
      (field.2.sameValue other = true ↔ Corresponds SameWorth field.2 other))
    (distinct : fields.Distinct) (keyed : second.WellKeyed) :
    (obj fields).sameValue second = true ↔
      Corresponds SameWorth (obj fields) second := by
  rw [obj_sameValue]
  constructor
  · rintro ⟨others, rfl, length, same⟩
    rw [sameFields_iff] at same
    have subset : fields.map Prod.fst ⊆ others.map Prod.fst := by
      intro key among
      obtain ⟨field, there, rfl⟩ := List.mem_map.mp among
      obtain ⟨second, found, -⟩ := same field there
      rw [← Keyed.isSome_get?_iff, found]
      rfl
    refine .obj (keys_eq_of_subset distinct length subset)
      fun key one two left right => ?_
    have among := Keyed.mem_of_get? left
    obtain ⟨second, found, equal⟩ := same _ among
    obtain rfl := Option.some.inj (found.symm.trans right)
    exact (each _ among (keyed.of_get? right)).mp equal
  · intro corresponds
    cases corresponds with
    | scalar left => cases left
    | @obj _ others keys alike =>
        have distinct' := (wellKeyed_obj.mp keyed).1
        refine ⟨others, rfl, length_eq_of_keys distinct distinct' keys,
          sameFields_iff.mpr fun field among => ?_⟩
        have left : Keyed.get? field.1 fields = some field.2 :=
          distinct.get?_eq among
        obtain ⟨second, right⟩ :
            ∃ second, Keyed.get? field.1 others = some second := by
          rw [← Option.isSome_iff_exists, ← keys, left]
          rfl
        exact ⟨second, right, (each _ among (keyed.of_get? right)).mpr
          (alike _ _ _ left right)⟩

/-- Values are equal if and only if they correspond with scalars that are worth the
same. -/
theorem sameValue_iff {first second : Json} (keyed : first.WellKeyed)
    (keyed' : second.WellKeyed) :
    first.sameValue second = true ↔ Corresponds SameWorth first second := by
  induction first using parts_induction generalizing second with
  | scalar json scalar => exact scalar_sameValue_iff scalar
  | arr items ih =>
      rw [wellKeyed_arr] at keyed
      exact arr_sameValue_iff
        (fun item among _ => ih item among (keyed item among)) keyed'
  | obj fields ih =>
      obtain ⟨distinct, inner⟩ := wellKeyed_obj.mp keyed
      exact obj_sameValue_iff
        (fun field among _ => ih field among (inner field among)) distinct keyed'

/-- Equality of values is symmetric. -/
theorem sameValue_symm {first second : Json} (keyed : first.WellKeyed)
    (keyed' : second.WellKeyed) (same : first.sameValue second = true) :
    second.sameValue first = true :=
  (sameValue_iff keyed' keyed).mpr
    (((sameValue_iff keyed keyed').mp same).symm fun _ _ => SameWorth.symm)

/-- Equality of values is transitive. -/
theorem sameValue_trans {first second third : Json} (keyed : first.WellKeyed)
    (keyed' : second.WellKeyed) (keyed'' : third.WellKeyed)
    (same : first.sameValue second = true)
    (next : second.sameValue third = true) : first.sameValue third = true :=
  (sameValue_iff keyed keyed'').mpr
    (((sameValue_iff keyed keyed').mp same).trans
      (fun _ _ _ => SameWorth.trans) ((sameValue_iff keyed' keyed'').mp next))

/-- A value without a NaN inside equals itself. -/
theorem sameValue_self {json : Json} (keyed : json.WellKeyed)
    (numbers : ¬ Within (.double .nan) json) : json.sameValue json = true := by
  rw [sameValue_iff keyed keyed]
  apply Corresponds.refl
  rintro part within scalar
  apply sameWorth_self scalar
  rintro rfl
  exact numbers within

end Equality

section Kinds

/-- Two scalars are of one kind.  The zeros of either sign are two kinds. -/
def SameKind : Json → Json → Prop
  | null, null => True
  | bool _, bool _ => True
  | int _, int _ => True
  | double first, double second => first.isNegative = second.isNegative
  | str _, str _ => True
  | _, _ => False

/-- Two scalars are written alike. -/
def Identical : Json → Json → Prop
  | null, null => True
  | bool first, bool second => first = second
  | int first, int second => first = second
  | double first, double second =>
      first.sameValue second = true ∧ first.isNegative = second.isNegative
  | str first, str second => first = second
  | _, _ => False

/-- Scalars are written alike if and only if they are worth the same and of one
kind. -/
theorem identical_iff {first second : Json} (left : first.isScalar = true)
    (right : second.isScalar = true) : Identical first second ↔
      SameWorth first second ∧ SameKind first second := by
  rw [← sameValue_iff_sameWorth left right]
  cases first <;> cases second <;>
    simp [Identical, SameKind, sameValue, number?, Number.sameValue]
  case bool.bool one two => cases one <;> cases two <;> decide

/-- A scalar is written like itself unless it is a NaN. -/
theorem identical_self {json : Json} (scalar : json.isScalar = true)
    (number : json ≠ .double .nan) : Identical json json := by
  refine (identical_iff scalar scalar).mpr ⟨sameWorth_self scalar number, ?_⟩
  cases json with
  | arr items => cases scalar
  | obj fields => cases scalar
  | double value => rfl
  | _ => trivial

/-- Equal values are written alike if and only if the scalars that correspond are of
one kind. -/
theorem corresponds_identical_iff {first second : Json} :
    Corresponds Identical first second ↔
      Corresponds SameWorth first second ∧ Corresponds SameKind first second := by
  constructor
  · intro corresponds
    exact ⟨corresponds.mono fun _ _ left right same =>
        ((identical_iff left right).mp same).1,
      corresponds.mono fun _ _ left right same =>
        ((identical_iff left right).mp same).2⟩
  · rintro ⟨worth, kinds⟩
    exact (worth.and kinds).mono fun _ _ left right =>
      (identical_iff left right).mpr

end Kinds

end Json
end Audience
