import Audience.Proofs.Filter.Totality
import Audience.Proofs.Reading
import Audience.Segment.Saved

/-!
# Readings that stop

A reading gives a value or refuses the value with field errors, unless it meets
a part that it cannot look at.  The parts are read independently, so that a
reading stops as soon as one of its parts does, whatever the others say.  In
what the backend sends, the filter trees are the only such parts.
-/

namespace Audience
namespace Reading

variable {α β : Type}

/-- The reading stops at a misuse. -/
def isMisused : Reading α → Bool
  | misused _ => true
  | _ => false

/-- The schema gives a value or field errors, whatever is read. -/
def Total (read : Reader α) : Prop :=
  ∀ json, (read json).isMisused = false

/-! ## Parts of a reading -/

@[simp] theorem isMisused_value (part : α) :
    (value part).isMisused = false := rfl

@[simp] theorem isMisused_fail (flaw : Flaw) :
    (fail flaw : Reading α).isMisused = false := rfl

@[simp] theorem isMisused_map (change : α → β) (reading : Reading α) :
    (change <$> reading).isMisused = reading.isMisused := by
  cases reading <;> rfl

@[simp] theorem isMisused_seq (change : Reading (α → β))
    (reading : Reading α) :
    (change <*> reading).isMisused =
      (change.isMisused || reading.isMisused) := by
  cases change <;> cases reading <;> rfl

@[simp] theorem isMisused_inside (key : String) (reading : Reading α) :
    (reading.inside key).isMisused = reading.isMisused := by
  cases reading <;> rfl

theorem isMisused_optional {names : List String} {default : α}
    {read : Reader α} (total : Total read) (fields : Fields) :
    (optional names default read fields).isMisused = false := by
  unfold optional
  split
  · rw [isMisused_inside, total]
  · rfl

theorem isMisused_ofExcept {result : Except Misuse α} :
    (Reading.ofExcept result).isMisused = false ↔
      ∃ part, result = .ok part := by
  cases result <;> simp [Reading.ofExcept, isMisused]

/-- A field that must be there stops the reading only if its value does. -/
theorem isMisused_required (name : String) (read : Reader α) (fields : Fields) :
    (required [name] read fields).isMisused =
      ((Keyed.get? name fields).map read).any isMisused := by
  cases present : Keyed.get? name fields <;> simp [required, pick, present]

theorem isMisused_required_of_total {name : String} {read : Reader α}
    (total : Total read) (fields : Fields) :
    (required [name] read fields).isMisused = false := by
  rw [isMisused_required]
  cases Keyed.get? name fields with
  | none => rfl
  | some json => exact total json

/-! ## Schemas that never stop -/

theorem total_model {name : String} {read : Fields → Reading α}
    (parts : ∀ fields, (read fields).isMisused = false) :
    Total (model name read) := by
  intro json
  cases json with
  | obj fields => exact parts fields
  | _ => rfl

theorem total_nullable {read : Reader α} (total : Total read) :
    Total (nullable read) := by
  intro json
  cases json with
  | null => rfl
  | _ => exact (isMisused_map some _).trans (total _)

theorem isMisused_items {read : Reader α} (total : Total read)
    (items : List Json) (position : Nat) :
    (Reading.items read position items).isMisused = false := by
  induction items generalizing position with
  | nil => rfl
  | cons json rest ih =>
      show ((List.cons <$> (read json).inside (toString position)) <*>
        Reading.items read (position + 1) rest).isMisused = false
      simp [total json, ih]

theorem total_list {read : Reader α} (total : Total read) :
    Total (list read) := by
  intro json
  cases json with
  | arr items => exact isMisused_items total items 0
  | _ => rfl

theorem total_object : Total object := by
  intro json
  cases json <;> rfl

theorem total_text : Total text := by
  intro json
  cases json <;> rfl

theorem total_looseText : Total looseText := by
  intro json
  unfold looseText
  split
  · rfl
  · exact total_text json

theorem isMisused_ofText (read : List Char → Except Flaw α) (text : String) :
    (ofText read text).isMisused = false := by
  unfold ofText
  split
  · rfl
  · cases read text.toList <;> rfl

theorem total_nonemptyText : Total nonemptyText := by
  intro json
  cases json with
  | str text =>
      simp only [nonemptyText]
      exact isMisused_ofText _ text
  | _ => rfl

theorem isMisused_flagOfInteger (number : Int) :
    (flagOfInteger number).isMisused = false := by
  unfold flagOfInteger
  split
  · rfl
  · split <;> rfl

theorem total_flag : Total flag := by
  intro json
  cases json with
  | int number =>
      simp only [flag]
      split
      · exact isMisused_flagOfInteger number
      · rfl
  | double number =>
      simp only [flag]
      cases wholeNumber number with
      | ok whole => exact isMisused_flagOfInteger whole
      | error flaw => rfl
  | str text => exact isMisused_ofText _ text
  | _ => rfl

theorem total_integer : Total integer := by
  intro json
  cases json with
  | double number =>
      simp only [integer]
      cases wholeNumber number <;> rfl
  | str text => exact isMisused_ofText _ text
  | _ => rfl

end Reading

open Reading

theorem Page.isMisused_readFields (fields : Fields) :
    (Page.readFields fields).isMisused = false := by
  have order : Total fun json => Reading.value (SortOrder.ofJson json) :=
    fun _ => rfl
  simp [Page.readFields, isMisused_optional total_integer,
    isMisused_optional total_text, isMisused_optional order]

theorem Page.total_read : Total Page.read :=
  total_model Page.isMisused_readFields

theorem Results.total_readPage : Total Results.readPage := by
  intro json
  cases json with
  | obj fields =>
      simp only [readPage]
      split
      · exact (isMisused_map some _).trans (Page.isMisused_readFields fields)
      · rfl
  | _ =>
      simp only [readPage]
      exact total_nullable Page.total_read _

/-- The results of a segment are read or refused. -/
theorem Results.total_read : Total Results.read := by
  apply total_model
  intro fields
  simp [isMisused_optional (total_list total_object),
    isMisused_optional total_integer, isMisused_optional total_readPage,
    isMisused_optional (total_nullable total_object)]

theorem Timestamp.total_read : Total Timestamp.read := by
  have orFlaw (time : Option Timestamp) :
      (Timestamp.orFlaw time).isMisused = false := by
    cases time <;> rfl
  intro json
  cases json with
  | str text => exact isMisused_ofText _ text
  | int time => exact orFlaw _
  | double time => exact orFlaw _
  | _ => rfl

theorem SavedSegment.isMisused_readTime (names : List String)
    (fields : Fields) : (readTime names fields).isMisused = false :=
  isMisused_optional (total_nullable Timestamp.total_read) fields

namespace SavedSegment.Patch

theorem isMisused_given {α : Type} {names : List String} {read : Reader α}
    (total : Total read) (fields : Fields) :
    (given names read fields).isMisused = false :=
  isMisused_optional
    (fun json => (isMisused_map some _).trans (total_nullable total json))
    fields

/-- Changes of a segment are read or refused. -/
theorem total_read : Total Patch.read := by
  apply total_model
  intro fields
  simp [readFields, isMisused_given total_nonemptyText,
    isMisused_given total_flag, isMisused_given Timestamp.total_read]

end SavedSegment.Patch

/-! ## Schemas with a filter tree -/

theorem Filter.Root.isMisused_read {json : Json} :
    (Filter.Root.read json).isMisused = false ↔
      Filter.PlainlyTyped (Filter.Root.source json) := by
  rw [← Filter.Root.exists_ofJson_iff]
  exact isMisused_ofExcept

/-- A tree that must be there stops the reading unless it is plainly typed; one
that is missing is refused. -/
theorem Filter.Root.isMisused_required {name : String} {fields : Fields} :
    (required [name] Filter.Root.read fields).isMisused = false ↔
      Filter.PlainlyTyped (Filter.Root.source (Fields.getD name fields)) := by
  rw [← Filter.Root.isMisused_read, Reading.isMisused_required, Fields.getD]
  cases Keyed.get? name fields with
  | none => exact iff_of_true rfl rfl
  | some json => rfl

/-- What is no object is refused, and has no tree that could stop the
reading. -/
theorem isMisused_model {α : Type} {model name : String}
    {read : Fields → Reading α} {json : Json}
    (parts : ∀ fields, (read fields).isMisused = false ↔
      Filter.PlainlyTyped (Filter.Root.source (Fields.getD name fields))) :
    (Reading.model model read json).isMisused = false ↔
      Filter.PlainlyTyped (Filter.Root.source (json.get name)) := by
  cases json with
  | obj fields => exact parts fields
  | _ => exact iff_of_true rfl (Filter.Root.isMisused_read.mp rfl)

/-- A generated segment is read or refused if its tree is plainly typed. -/
theorem Generated.isMisused_read {json : Json} :
    (Generated.read json).isMisused = false ↔
      Filter.PlainlyTyped (Filter.Root.source (json.get "segment")) := by
  apply isMisused_model
  intro fields
  simp [isMisused_required_of_total Results.total_read,
    Filter.Root.isMisused_required]

/-- A saved segment is read or refused if its tree is plainly typed. -/
theorem SavedSegment.isMisused_read {json : Json} :
    (SavedSegment.read json).isMisused = false ↔
      Filter.PlainlyTyped (Filter.Root.source (json.get "ast")) := by
  apply isMisused_model
  intro fields
  simp [isMisused_required_of_total total_text,
    isMisused_optional total_looseText, isMisused_optional total_flag,
    isMisused_readTime, Filter.Root.isMisused_required]

end Audience
