import Audience.Backend.Message

/-!
# The parts of a value

A value is made of scalars, arrays and objects, and everything about it can be
proved by induction on its parts.  In a value that was read from text no object
has two fields of one key, and the wire form of a value keeps it so.
-/

namespace Audience

namespace Keyed

variable {κ α : Type} [DecidableEq κ]

/-- No key stands twice. -/
def Distinct (map : Keyed κ α) : Prop := (map.map Prod.fst).Nodup

/-- A value that is found under a key stands there. -/
theorem mem_of_get? {key : κ} {value : α} {map : Keyed κ α}
    (found : get? key map = some value) : (key, value) ∈ map := by
  induction map with
  | nil => cases found
  | cons entry rest ih =>
      obtain ⟨name, other⟩ := entry
      rw [get?] at found
      split at found
      · rename_i same
        obtain rfl := Option.some.inj found
        exact same ▸ List.mem_cons_self ..
      · exact List.mem_cons_of_mem _ (ih found)

/-- A key that stands anywhere has a value. -/
theorem isSome_get?_iff {key : κ} {map : Keyed κ α} :
    (get? key map).isSome = true ↔ key ∈ map.map Prod.fst := by
  induction map with
  | nil => simp
  | cons entry rest ih =>
      obtain ⟨name, value⟩ := entry
      by_cases same : name = key
      · simp [get?, same]
      · simp [get?, same, Ne.symm same, ih]

/-- Where no key stands twice, whatever stands under a key is its value. -/
theorem Distinct.get?_eq {key : κ} {value : α} {map : Keyed κ α}
    (distinct : map.Distinct) (among : (key, value) ∈ map) :
    get? key map = some value := by
  induction map with
  | nil => cases among
  | cons entry rest ih =>
      obtain ⟨name, other⟩ := entry
      obtain ⟨apart, distinct⟩ := List.nodup_cons.mp distinct
      obtain same | among := List.mem_cons.mp among
      · cases same
        simp [get?]
      · have different : name ≠ key := by
          rintro rfl
          exact apart (List.mem_map.mpr ⟨_, among, rfl⟩)
        rw [get?, if_neg different, ih distinct among]

/-- The keys after setting one. -/
theorem mem_keys_put {key other : κ} {value : α} {map : Keyed κ α} :
    other ∈ (put key value map).map Prod.fst ↔
      other = key ∨ other ∈ map.map Prod.fst := by
  simp only [← isSome_get?_iff]
  by_cases same : other = key
  · simp [same]
  · simp [same, get?_put_of_ne same]

/-- Setting a key makes no key stand twice. -/
theorem Distinct.put {map : Keyed κ α} (distinct : map.Distinct) (key : κ)
    (value : α) : (put key value map).Distinct := by
  induction map with
  | nil => exact List.nodup_cons.mpr ⟨by simp, List.nodup_nil⟩
  | cons entry rest ih =>
      obtain ⟨name, other⟩ := entry
      have ⟨apart, later⟩ := List.nodup_cons.mp distinct
      by_cases same : name = key
      · rw [Keyed.put, if_pos same]
        exact distinct
      · rw [Keyed.put, if_neg same]
        refine List.nodup_cons.mpr ⟨fun among => ?_, ih later⟩
        obtain found | among := mem_keys_put.mp among
        · exact same found
        · exact apart among

/-- A value that stands in a map after setting a key was set or stood there. -/
theorem mem_of_mem_put {key : κ} {value : α} {entry : κ × α}
    {map : Keyed κ α} (among : entry ∈ put key value map) :
    entry = (key, value) ∨ entry ∈ map := by
  induction map with
  | nil => simpa [put] using among
  | cons first rest ih =>
      obtain ⟨name, other⟩ := first
      by_cases same : name = key
      · rw [put, if_pos same, List.mem_cons] at among
        rw [List.mem_cons, ← same]
        exact among.imp_right Or.inr
      · rw [put, if_neg same, List.mem_cons] at among
        rw [List.mem_cons]
        obtain here | later := among
        · exact .inr (.inl here)
        · exact (ih later).imp_right Or.inr

end Keyed

namespace Json

/-- A value other than an array or an object. -/
def isScalar : Json → Bool
  | arr _ => false
  | obj _ => false
  | _ => true

/-- What holds of the scalars, and of a value if it holds of its parts, holds of
every value. -/
@[elab_as_elim]
theorem parts_induction {motive : Json → Prop}
    (scalar : ∀ json, json.isScalar = true → motive json)
    (arr : ∀ items, (∀ item ∈ items, motive item) → motive (.arr items))
    (obj : ∀ fields, (∀ field ∈ fields, motive field.2) → motive (.obj fields))
    (json : Json) : motive json := by
  match json with
  | .arr items => exact arr items fun item _ => parts_induction scalar arr obj item
  | .obj fields =>
      exact obj fields fun field among =>
        parts_induction scalar arr obj field.2
  | .null | .bool _ | .int _ | .double _ | .str _ => exact scalar _ rfl
termination_by sizeOf json
decreasing_by
  · have smaller := List.sizeOf_lt_of_mem ‹_›
    simp
    omega
  · have smaller := List.sizeOf_lt_of_mem among
    obtain ⟨name, value⟩ := field
    simp at smaller ⊢
    omega

/-- A value is a part of another one, at any depth. -/
inductive Within (part : Json) : Json → Prop where
  | self : Within part part
  | item {item : Json} {items : List Json} (among : item ∈ items)
      (within : Within part item) : Within part (.arr items)
  | field {field : String × Json} {fields : Fields} (among : field ∈ fields)
      (within : Within part field.2) : Within part (.obj fields)

/-- No object inside has two fields of one key. -/
def WellKeyed (json : Json) : Prop :=
  ∀ fields, Within (.obj fields) json → Keyed.Distinct fields

theorem wellKeyed_of_isScalar {json : Json} (scalar : json.isScalar = true) :
    json.WellKeyed := by
  intro fields within
  cases within with
  | self => cases scalar
  | item => cases scalar
  | field => cases scalar

theorem wellKeyed_arr {items : List Json} :
    (arr items).WellKeyed ↔ ∀ item ∈ items, item.WellKeyed := by
  constructor
  · exact fun keyed item among fields within => keyed fields (.item among within)
  · intro keyed fields within
    cases within with
    | item among within => exact keyed _ among fields within

theorem wellKeyed_obj {fields : Fields} :
    (obj fields).WellKeyed ↔
      fields.Distinct ∧ ∀ field ∈ fields, field.2.WellKeyed := by
  constructor
  · exact fun keyed => ⟨keyed fields .self,
      fun field among inner within => keyed inner (.field among within)⟩
  · rintro ⟨distinct, keyed⟩ inner within
    cases within with
    | self => exact distinct
    | field among within => exact keyed _ among inner within

/-- The value of a key of such an object is one as well. -/
theorem WellKeyed.of_get? {fields : Fields} {key : String} {json : Json}
    (keyed : (obj fields).WellKeyed) (found : Keyed.get? key fields = some json) :
    json.WellKeyed :=
  (wellKeyed_obj.mp keyed).2 _ (Keyed.mem_of_get? found)

theorem WellKeyed.getD {fields : Fields} (keyed : (obj fields).WellKeyed)
    (key : String) : (Fields.getD key fields).WellKeyed := by
  unfold Fields.getD
  cases found : Keyed.get? key fields with
  | none => exact wellKeyed_of_isScalar rfl
  | some json => exact keyed.of_get? found

section Wire

theorem keys_fieldsOnWire (fields : Fields) :
    (fieldsOnWire fields).map Prod.fst = fields.map Prod.fst := by
  induction fields with
  | nil => rfl
  | cons field rest ih =>
      obtain ⟨name, value⟩ := field
      simp [fieldsOnWire, ih]

theorem exists_of_itemsOnWire {item : Json} {items : List Json}
    (among : item ∈ itemsOnWire items) :
    ∃ other ∈ items, item = other.onWire := by
  induction items with
  | nil => cases among
  | cons first rest ih =>
      obtain rfl | among := List.mem_cons.mp among
      · exact ⟨first, List.mem_cons_self .., rfl⟩
      · obtain ⟨other, later, same⟩ := ih among
        exact ⟨other, List.mem_cons_of_mem _ later, same⟩

theorem exists_of_fieldsOnWire {field : String × Json} {fields : Fields}
    (among : field ∈ fieldsOnWire fields) :
    ∃ other ∈ fields, field = (other.1, other.2.onWire) := by
  induction fields with
  | nil => cases among
  | cons first rest ih =>
      obtain ⟨name, value⟩ := first
      obtain rfl | among := List.mem_cons.mp among
      · exact ⟨(name, value), List.mem_cons_self .., rfl⟩
      · obtain ⟨other, later, same⟩ := ih among
        exact ⟨other, List.mem_cons_of_mem _ later, same⟩

/-- The wire form keeps the keys of all objects. -/
theorem WellKeyed.onWire {json : Json} (keyed : json.WellKeyed) :
    json.onWire.WellKeyed := by
  induction json using parts_induction with
  | scalar json scalar =>
      apply wellKeyed_of_isScalar
      cases json with
      | double number =>
          simp only [Json.onWire]
          split <;> rfl
      | arr items => cases scalar
      | obj fields => cases scalar
      | _ => rfl
  | arr items ih =>
      rw [Json.onWire, wellKeyed_arr]
      intro item among
      obtain ⟨other, there, rfl⟩ := exists_of_itemsOnWire among
      exact ih other there (wellKeyed_arr.mp keyed other there)
  | obj fields ih =>
      obtain ⟨distinct, inner⟩ := wellKeyed_obj.mp keyed
      rw [Json.onWire, wellKeyed_obj]
      refine ⟨?_, fun field among => ?_⟩
      · rw [Keyed.Distinct, keys_fieldsOnWire]
        exact distinct
      · obtain ⟨other, there, rfl⟩ := exists_of_fieldsOnWire among
        exact ih other there (inner other there)

end Wire

section Text

open Reader

/-- Reading a number gives a scalar. -/
theorem isScalar_of_number {chars rest : List Char} {json : Json}
    (read : Reader.number chars = .ok (json, rest)) : json.isScalar = true := by
  unfold Reader.number at read
  dsimp only at read
  repeat' split at read
  all_goals cases read <;> rfl

/-- One more item or field. -/
theorem wellKeyed_concat {before : List Json} {json : Json}
    (keyed : (arr before).WellKeyed) (last : json.WellKeyed) :
    (arr (before ++ [json])).WellKeyed := by
  rw [wellKeyed_arr] at keyed ⊢
  intro item among
  obtain among | among := List.mem_append.mp among
  · exact keyed item among
  · exact List.mem_singleton.mp among ▸ last

theorem wellKeyed_put {before : Fields} {name : String} {json : Json}
    (keyed : (obj before).WellKeyed) (last : json.WellKeyed) :
    (obj (Keyed.put name json before)).WellKeyed := by
  rw [wellKeyed_obj] at keyed ⊢
  refine ⟨keyed.1.put name json, fun field among => ?_⟩
  obtain rfl | among := Keyed.mem_of_mem_put among
  · exact last
  · exact keyed.2 field among

/-- What is read with so much fuel has no object with two fields of one key, if
that holds of the items and fields that were read before. -/
theorem wellKeyed_of_reader (fuel : Nat) :
    (∀ chars json rest, Reader.value fuel chars = .ok (json, rest) →
      json.WellKeyed) ∧
    (∀ before chars json rest, (arr before).WellKeyed →
      Reader.item fuel before chars = .ok (json, rest) → json.WellKeyed) ∧
    (∀ before chars json rest, (obj before).WellKeyed →
      Reader.field fuel before chars = .ok (json, rest) → json.WellKeyed) := by
  -- The three readers call one another with less fuel, so one induction has all.
  induction fuel with
  | zero => exact ⟨nofun, nofun, nofun⟩
  | succ fuel ih =>
      obtain ⟨values, items, fields⟩ := ih
      have empty : (arr []).WellKeyed := wellKeyed_arr.mpr nofun
      have blank : (obj []).WellKeyed :=
        wellKeyed_obj.mpr ⟨List.nodup_nil, nofun⟩
      refine ⟨fun chars json rest read => ?_,
        fun before chars json rest keyed read => ?_,
        fun before chars json rest keyed read => ?_⟩
      · unfold Reader.value at read
        split at read
        · rename_i opened
          cases found : Reader.string ('"' :: opened).length opened with
          | error halt =>
              rw [found] at read
              cases read
          | ok taken =>
              rw [found] at read
              cases read
              exact wellKeyed_of_isScalar rfl
        · split at read
          · cases read
            exact blank
          · exact fields _ _ _ _ blank read
        · split at read
          · cases read
            exact empty
          · exact items _ _ _ _ empty read
        iterate 6
          · cases read
            exact wellKeyed_of_isScalar rfl
        · exact wellKeyed_of_isScalar (isScalar_of_number read)
      · unfold Reader.item at read
        split at read
        · cases read
        rename_i item after found
        have last := values _ _ _ found
        split at read
        · cases read
          exact wellKeyed_concat keyed last
        · exact items _ _ _ _ (wellKeyed_concat keyed last) read
        · cases read
      · unfold Reader.field at read
        split at read
        · split at read
          · cases read
          split at read
          · split at read
            · cases read
            rename_i item after found
            have last := values _ _ _ found
            dsimp only at read
            split at read
            · cases read
              exact wellKeyed_put keyed last
            · exact fields _ _ _ _ (wellKeyed_put keyed last) read
            · cases read
          · cases read
        · cases read

/-- What is read from a text has no object with two fields of one key. -/
theorem wellKeyed_of_readChars {chars : List Char} {json : Json}
    (read : readChars chars = .ok json) : json.WellKeyed := by
  unfold readChars at read
  split at read
  · cases read
  · cases read
  · rename_i found
    split at read
    · cases read
      exact (wellKeyed_of_reader _).1 _ _ _ found
    · cases read

end Text

end Json

/-- No object in a payload has two fields of one key.  A text need not be asked
for that. -/
def Payload.WellKeyed (payload : Payload) : Prop :=
  ∀ value, payload = .json value → value.WellKeyed

/-- What is read from such a payload is the same. -/
theorem Payload.WellKeyed.of_json? {payload : Payload} {json : Json}
    (keyed : payload.WellKeyed) (read : payload.json? = some json) :
    json.WellKeyed := by
  cases payload with
  | empty => cases read
  | json value =>
      cases read
      exact keyed json rfl
  | text body =>
      simp only [Payload.json?, Json.readSent] at read
      split at read
      · rename_i chars said
        cases found : Json.readChars chars with
        | error refusal =>
            rw [found] at read
            cases read
        | ok value =>
            rw [found] at read
            cases read
            exact Json.wellKeyed_of_readChars found
      · cases read

/-- A reply carries such a payload, if it carries any. -/
def Reply.WellKeyed (reply : Reply) : Prop :=
  ∀ status payload, reply = .response status payload → payload.WellKeyed

end Audience
