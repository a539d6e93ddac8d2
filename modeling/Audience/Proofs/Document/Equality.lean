import Audience.Document.Manual
import Audience.Proofs.Document.Wire
import Audience.Proofs.Json.Correspondence

/-!
# Equal manual filters

Manual filters are equal if and only if their wire forms are equal as values, and so
equality of them is symmetric and transitive, and reflexive unless a NaN is among
the values.  Filters that were read from a value in which no key stands twice
have no such value among theirs.
-/

namespace Audience

namespace Json

theorem isScalar_ofText? (text : Option String) :
    (ofText? text).isScalar = true := by
  cases text <;> rfl

theorem sameValue_ofText? (first second : Option String) :
    (ofText? first).sameValue (ofText? second) = (first == second) := by
  cases first <;> cases second <;> simp [ofText?, sameValue, number?]

/-- The items of a value in which no key stands twice. -/
theorem wellKeyed_elements {json : Json} {items : List Json}
    (found : json.elements = .ok items) (keyed : json.WellKeyed) :
    ∀ item ∈ items, item.WellKeyed := by
  have scalars {α : Type} (write : α → String) (list : List α) :
      ∀ item ∈ list.map fun part => str (write part), item.WellKeyed := by
    intro item among
    obtain ⟨part, -, rfl⟩ := List.mem_map.mp among
    exact wellKeyed_of_isScalar rfl
  unfold elements at found
  split at found
  · cases found
    exact wellKeyed_arr.mp keyed
  · cases found
    exact scalars _ _
  · cases found
    exact scalars _ _
  · split at found
    · cases found
    · cases found
      exact nofun

theorem fieldsFinite_iff (fields : Fields) :
    fieldsFinite fields ↔ ∀ field ∈ fields, field.2.isFinite := by
  induction fields with
  | nil => simp [fieldsFinite]
  | cons field rest ih => simp [fieldsFinite, ih]

/-- The parts of a finite value are finite. -/
theorem isFinite_of_within {part json : Json} (within : Within part json)
    (finite : json.isFinite) : part.isFinite := by
  induction within with
  | self => exact finite
  | item among _ ih => exact ih ((itemsFinite_iff _).mp finite _ among)
  | field among _ ih => exact ih ((fieldsFinite_iff _).mp finite _ among)

end Json

namespace ManualFilter

/-- Filters are equal if they are equal in their wire form. -/
theorem same_eq (first second : ManualFilter) :
    first.same second = first.toJson.sameValue second.toJson := by
  simp [same, toJson, Json.sameValue, Json.sameFields, Keyed.get?,
    Json.sameValue_ofText?, Bool.and_assoc]

/-- No key stands twice in the value of a filter. -/
theorem wellKeyed_toJson {filter : ManualFilter} :
    filter.toJson.WellKeyed ↔ filter.value.WellKeyed := by
  have distinct : Keyed.Distinct
      [ ("label", Json.str filter.label),
        ("operation", Json.ofText? filter.operation),
        ("value", filter.value) ] := by
    simp [Keyed.Distinct]
  have operation : (Json.ofText? filter.operation).WellKeyed :=
    Json.wellKeyed_of_isScalar (Json.isScalar_ofText? _)
  have label : (Json.str filter.label).WellKeyed :=
    Json.wellKeyed_of_isScalar rfl
  rw [toJson, Json.wellKeyed_obj]
  simp [distinct, operation, label]

/-- A filter that was read from such a value is one. -/
theorem wellKeyed_of_readFields {fields : Fields} {filter : ManualFilter}
    (found : readFields fields = .value filter)
    (keyed : (Json.obj fields).WellKeyed) : filter.toJson.WellKeyed := by
  obtain ⟨_, value, others, atValue, rfl⟩ := Reading.seq_eq_value.mp found
  obtain ⟨_, operation, first, _, rfl⟩ := Reading.seq_eq_value.mp others
  obtain ⟨label, _, rfl⟩ := Reading.map_eq_value.mp first
  rw [wellKeyed_toJson]
  obtain rfl | ⟨key, part, present, same⟩ := Reading.of_optional atValue
  · exact Json.wellKeyed_of_isScalar rfl
  · cases same
    exact keyed.of_get? present

theorem wellKeyed_of_read {json : Json} {filter : ManualFilter}
    (found : read json = .value filter) (keyed : json.WellKeyed) :
    filter.toJson.WellKeyed := by
  obtain ⟨fields, rfl, parts⟩ := Reading.model_eq_value.mp found
  exact wellKeyed_of_readFields parts keyed

/-- So is one of the table. -/
theorem wellKeyed_of_ofTable {json : Json} {filter : ManualFilter}
    (found : ofTable json = .value filter) (keyed : json.WellKeyed) :
    filter.toJson.WellKeyed := by
  cases json with
  | obj fields =>
      refine wellKeyed_of_readFields found (Json.wellKeyed_obj.mpr ⟨?_, ?_⟩)
      · simp [Keyed.Distinct]
      · refine List.forall_mem_cons.mpr ⟨?_, by simp [keyed.getD]⟩
        have column := keyed.getD "field"
        dsimp only
        split
        · rename_i inner same
          rw [same] at column
          exact column.getD "label"
        · exact keyed.getD "label"
  | _ =>
      cases found
      exact wellKeyed_toJson.mpr (Json.wellKeyed_of_isScalar rfl)

theorem wellKeyed_of_ofTableList {items : List Json}
    {filters : List ManualFilter} (found : ofTableList items = .value filters)
    (keyed : ∀ item ∈ items, item.WellKeyed) :
    ∀ filter ∈ filters, filter.toJson.WellKeyed := by
  induction items generalizing filters with
  | nil =>
      cases found
      exact nofun
  | cons item rest ih =>
      obtain ⟨first, others⟩ := List.forall_mem_cons.mp keyed
      rw [ofTableList] at found
      cases atFirst : ofTable item with
      | value filter =>
          cases later : ofTableList rest with
          | value filters' =>
              rw [atFirst, later] at found
              cases found
              exact List.forall_mem_cons.mpr
                ⟨wellKeyed_of_ofTable atFirst first, ih later others⟩
          | rejected errors =>
              rw [atFirst, later] at found
              cases found
          | misused misuse =>
              rw [atFirst, later] at found
              cases found
      | rejected errors =>
          rw [atFirst] at found
          cases found
      | misused misuse =>
          rw [atFirst] at found
          cases found

end ManualFilter

namespace ManualState

/-- No key stands twice in the values of the filters. -/
def WellKeyed (state : ManualState) : Prop := state.toJson.WellKeyed

theorem wellKeyed_iff {state : ManualState} :
    state.WellKeyed ↔ ∀ filter ∈ state.filters, filter.toJson.WellKeyed := by
  have distinct : Keyed.Distinct
      [ ("search", Json.str state.search),
        ("filters", .arr (state.filters.map ManualFilter.toJson)) ] := by
    simp [Keyed.Distinct]
  have search : (Json.str state.search).WellKeyed :=
    Json.wellKeyed_of_isScalar rfl
  rw [WellKeyed, toJson, Json.wellKeyed_obj]
  simp [distinct, search, Json.wellKeyed_arr]

theorem wellKeyed_empty : empty.WellKeyed := wellKeyed_iff.mpr nofun

/-- Manual filters are equal if they are equal in their wire form. -/
theorem same_eq (first second : ManualState) :
    first.same second = first.toJson.sameValue second.toJson := by
  have filters (firsts seconds : List ManualFilter) :
      sameFilters firsts seconds = Json.sameItems
        (firsts.map ManualFilter.toJson) (seconds.map ManualFilter.toJson) := by
    induction firsts generalizing seconds with
    | nil => cases seconds <;> rfl
    | cons filter rest ih =>
        cases seconds with
        | nil => rfl
        | cons other others =>
            simp [sameFilters, Json.sameItems, ManualFilter.same_eq, ih]
  simp [same, toJson, Json.sameValue, Json.sameFields, Keyed.get?, filters]

section Equivalence

variable {first second third : ManualState}

theorem same_iff (keyed : first.WellKeyed) (keyed' : second.WellKeyed) :
    first.same second = true ↔
      Json.Corresponds Json.SameWorth first.toJson second.toJson := by
  rw [same_eq, Json.sameValue_iff keyed keyed']

theorem same_symm (keyed : first.WellKeyed) (keyed' : second.WellKeyed)
    (same : first.same second = true) : second.same first = true := by
  rw [same_eq] at same ⊢
  exact Json.sameValue_symm keyed keyed' same

theorem same_trans (keyed : first.WellKeyed) (keyed' : second.WellKeyed)
    (keyed'' : third.WellKeyed) (same : first.same second = true)
    (next : second.same third = true) : first.same third = true := by
  rw [same_eq] at same next ⊢
  exact Json.sameValue_trans keyed keyed' keyed'' same next

theorem same_self (keyed : first.WellKeyed)
    (numbers : ¬ Json.Within (.double .nan) first.toJson) :
    first.same first = true := by
  rw [same_eq]
  exact Json.sameValue_self keyed numbers

/-- Filters that equal others are equal to the same filters as these. -/
theorem same_congr (keyed : first.WellKeyed) (keyed' : second.WellKeyed)
    (keyed'' : third.WellKeyed) (same : second.same third = true) :
    first.same third = true ↔ first.same second = true :=
  ⟨fun next => same_trans keyed keyed'' keyed' next
      (same_symm keyed' keyed'' same),
    fun next => same_trans keyed keyed' keyed'' next same⟩

end Equivalence

/-- Manual filters that were read from a value in which no key stands twice. -/
theorem wellKeyed_of_read {json : Json} {state : ManualState}
    (found : read json = .value state) (keyed : json.WellKeyed) :
    state.WellKeyed := by
  obtain ⟨fields, rfl, parts⟩ := Reading.model_eq_value.mp found
  obtain ⟨_, filters, first, atFilters, rfl⟩ := Reading.seq_eq_value.mp parts
  obtain ⟨search, _, rfl⟩ := Reading.map_eq_value.mp first
  rw [wellKeyed_iff]
  obtain rfl | ⟨key, part, present, read⟩ := Reading.of_optional atFilters
  · exact nofun
  have inner := keyed.of_get? present
  cases part with
  | arr items =>
      intro filter member
      obtain ⟨item, among, same⟩ := Reading.exists_of_items read filter member
      exact ManualFilter.wellKeyed_of_read same
        (Json.wellKeyed_arr.mp inner item among)
  | _ =>
      cases read
      exact nofun

/-- Their wire form is as well. -/
theorem WellKeyed.onWire {state : ManualState} (keyed : state.WellKeyed) :
    state.onWire.WellKeyed :=
  wellKeyed_of_read (read_onWire state) (Json.WellKeyed.onWire keyed)

/-- Manual filters of the table. -/
theorem wellKeyed_of_ofTable {search filters : Json} {state : ManualState}
    (found : ofTable search filters = .value state)
    (keyed : filters.WellKeyed) : state.WellKeyed := by
  unfold ofTable at found
  cases listed : filters.elements with
  | error misuse =>
      rw [listed] at found
      cases found
  | ok items =>
      rw [listed] at found
      have keyed := Json.wellKeyed_elements listed keyed
      cases reduced : ManualFilter.ofTableList items with
      | value manual =>
          simp only [Reading.ofExcept, Reading.andThen, reduced] at found
          obtain ⟨text, -, rfl⟩ := Reading.map_eq_value.mp found
          exact wellKeyed_iff.mpr
            (ManualFilter.wellKeyed_of_ofTableList reduced keyed)
      | rejected errors =>
          simp only [Reading.ofExcept, Reading.andThen, reduced] at found
          cases found
      | misused misuse =>
          simp only [Reading.ofExcept, Reading.andThen, reduced] at found
          cases found

end ManualState

namespace Document

theorem wellKeyed_unwrapFields {json : Json} (keyed : json.WellKeyed) :
    (Json.obj (unwrapFields json)).WellKeyed := by
  have blank : (Json.obj []).WellKeyed :=
    Json.wellKeyed_obj.mpr ⟨List.nodup_nil, nofun⟩
  cases json with
  | obj fields =>
      have wrapped := keyed.getD "filters"
      unfold unwrapFields
      dsimp only
      split
      · rename_i inner same
        rw [same] at wrapped
        exact wrapped
      · exact keyed
  | _ => exact blank

/-- The manual filters of a document that was read from fields in whose manual
block no key stands twice. -/
theorem wellKeyed_of_read {fields : Fields} {document : Document}
    (found : read (.obj fields) = .value document)
    (keyed : ∀ json, Keyed.get? "manual" fields = some json → json.WellKeyed) :
    document.manual.WellKeyed := by
  have part := (read_eq_value.mp found).1
  cases present : Keyed.get? "manual" fields with
  | none =>
      simp only [manualIn, Reading.optional, Reading.pick, present,
        Reading.value.injEq] at part
      rw [← part]
      exact ManualState.wellKeyed_empty
  | some json =>
      rw [manualIn, Reading.optional_of_get present,
        Reading.inside_eq_value] at part
      have inner := keyed json present
      cases json with
      | null =>
          exact ManualState.wellKeyed_of_read part
            (Json.wellKeyed_obj.mpr ⟨List.nodup_nil, by simp⟩)
      | _ => exact ManualState.wellKeyed_of_read part inner

theorem wellKeyed_of_ofStored {json : Json} {document : Document}
    (found : ofStored json = .ok document) (keyed : json.WellKeyed) :
    document.manual.WellKeyed :=
  wellKeyed_of_read (ofStored_eq_ok.mp found) fun _ =>
    (wellKeyed_unwrapFields keyed).of_get?

end Document
end Audience
