import Audience.Segment.Results

/-!
# What a successful reading says

A reading gives a value only if each of its parts does.  The lemmas here take
a reading apart, and read pages back from their wire form.
-/

namespace Audience
namespace Reading

variable {α β : Type}

theorem map_eq_value {change : α → β} {reading : Reading α} {result : β} :
    change <$> reading = .value result ↔
      ∃ part, reading = .value part ∧ change part = result := by
  show Reading.map change reading = _ ↔ _
  cases reading <;> simp [Reading.map]

theorem seq_eq_value {change : Reading (α → β)} {reading : Reading α}
    {result : β} :
    change <*> reading = .value result ↔
      ∃ function part, change = .value function ∧ reading = .value part ∧
        function part = result := by
  show Reading.both change reading = _ ↔ _
  cases change <;> cases reading <;> simp [Reading.both]

@[simp] theorem map_value (change : α → β) (part : α) :
    change <$> (value part : Reading α) = value (change part) := rfl

@[simp] theorem seq_value (function : α → β) (part : α) :
    (value function : Reading (α → β)) <*> (value part : Reading α) =
      value (function part) := rfl

@[simp] theorem inside_value (key : String) (part : α) :
    (value part).inside key = value part := rfl

theorem inside_eq_value {key : String} {reading : Reading α} {part : α} :
    reading.inside key = .value part ↔ reading = .value part := by
  cases reading <;> simp [inside]

theorem toExcept_eq_ok {reading : Reading α} {part : α} :
    reading.toExcept = .ok part ↔ reading = .value part := by
  cases reading <;> simp [toExcept]

/-- A field that is there under the first of its names is read. -/
theorem optional_of_get {name : String} {names : List String} {json : Json}
    {fields : Fields} (present : Keyed.get? name fields = some json)
    (default : α) (read : Reader α) :
    optional (name :: names) default read fields = (read json).inside name := by
  simp [optional, pick, present]

/-- A field that must be there was read from something. -/
theorem exists_of_required {names : List String} {read : Reader α}
    {fields : Fields} {part : α}
    (found : required names read fields = .value part) :
    ∃ json, read json = .value part := by
  unfold required at found
  cases picked : pick names fields with
  | none => simp [picked, fail, inside] at found
  | some entry =>
      simp only [picked] at found
      exact ⟨entry.2, inside_eq_value.mp found⟩

/-- An object is read by its fields. -/
theorem model_eq_value {name : String} {read : Fields → Reading α}
    {json : Json} {part : α} :
    model name read json = .value part ↔
      ∃ fields, json = .obj fields ∧ read fields = .value part := by
  cases json <;> simp [model, fail]

end Reading

namespace Page

/-- The direction of a sort order can be read back from its name. -/
@[simp] theorem ofJson_text (order : SortOrder) :
    SortOrder.ofJson (.str order.text) = order := by
  cases order <;> decide

/-- A page can be read back from its wire form. -/
@[simp] theorem readFields_wire (page : Page) :
    readFields
      [ ("page", .int page.number), ("size", .int page.size),
        ("orderBy", .str page.orderBy), ("order", .str page.order.text) ] =
        .value page := by
  simp [readFields, Reading.optional, Reading.pick, Keyed.get?,
    Reading.integer, Reading.text]

/-- The page of a result is read back from its wire form. -/
@[simp] theorem readPage_toJson (page : Page) :
    Results.readPage page.toJson = .value (some page) := by
  simp only [toJson, Results.readPage]
  rw [if_pos (by simp [Fields.getD, Keyed.get?, Results.isWhole]),
    readFields_wire]
  rfl

/-- Different pages have different wire forms. -/
theorem toJson_injective {first second : Page}
    (same : first.toJson = second.toJson) : first = second := by
  have read : Results.readPage first.toJson = Results.readPage second.toJson :=
    congrArg _ same
  simpa using read

end Page

namespace Results

/-- A result that was read under a page has that page. -/
theorem page_of_read {json : Json} {results : Results} {page : Page}
    (read : Results.read json = .value results)
    (under : json.get "pagination" = page.toJson) :
    results.page = some page := by
  obtain ⟨fields, rfl, parts⟩ := Reading.model_eq_value.mp read
  have present : Keyed.get? "pagination" fields = some page.toJson := by
    simp only [Json.get, Fields.getD] at under
    cases found : Keyed.get? "pagination" fields with
    | none => simp [found, Page.toJson] at under
    | some json => simpa [found] using under
  obtain ⟨_, debug, upToPage, _, rfl⟩ := Reading.seq_eq_value.mp parts
  obtain ⟨_, pageRead, upToTotal, atPage, rfl⟩ :=
    Reading.seq_eq_value.mp upToPage
  obtain ⟨_, total, personsRead, _, rfl⟩ := Reading.seq_eq_value.mp upToTotal
  obtain ⟨persons, _, rfl⟩ := Reading.map_eq_value.mp personsRead
  rw [Reading.optional_of_get present, Page.readPage_toJson,
    Reading.inside_value] at atPage
  exact (Reading.value.inj atPage).symm

end Results
end Audience
