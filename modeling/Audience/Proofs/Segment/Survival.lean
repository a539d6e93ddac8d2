import Audience.Proofs.Filter.Finite
import Audience.Proofs.Timestamp.Written
import Audience.Segment.Saved

/-!
# Saved segments survive their wire form

A saved segment that was read has a canonical tree and times that there are.  Such
a segment is written without loss: what is sent of it is read as the same segment,
and so on any number of times.
-/

namespace Audience
namespace SavedSegment

/-! ## Segments that are written without loss -/

/-- The tree is canonical, and all times are times that there are. -/
structure Lasting (segment : SavedSegment) : Prop where
  ast : segment.ast.Canonical
  lastUsed : ∀ time, segment.lastUsed = some time → time.Real
  createdAt : ∀ time, segment.createdAt = some time → time.Real
  updatedAt : ∀ time, segment.updatedAt = some time → time.Real

theorem looseText_str (text : String) :
    Reading.looseText (.str text) = .value text := by
  by_cases empty : text = ""
  · simp [Reading.looseText, Json.isHollow, Json.isFull, empty]
  · simp [Reading.looseText, Json.isHollow, Json.isFull, empty, Reading.text]

theorem read_root {root : Filter.Root} (canonical : root.Canonical) :
    Filter.Root.read root.toJson = .value root := by
  rw [Filter.Root.read, Filter.Root.ofJson_toJson canonical]
  rfl

theorem nullable_timeJson {moment : Option Timestamp}
    (real : ∀ time, moment = some time → time.Real) :
    Reading.nullable Timestamp.read (timeJson moment) = .value moment := by
  cases moment with
  | none => rfl
  | some time =>
      have same := (real time rfl).read_toJson
      rw [Timestamp.toJson] at same
      rw [timeJson, Timestamp.toJson, Reading.nullable, same]
      · rfl
      · rintro ⟨⟩

/-- A segment that lasts is read back from its wire form. -/
theorem Lasting.read_toJson {segment : SavedSegment} (lasting : segment.Lasting) :
    read segment.toJson = .value segment := by
  simp [toJson, read, Reading.model, readTime, Reading.required,
    Reading.optional, Reading.pick, Keyed.get?, Reading.text, Reading.flag,
    looseText_str, read_root lasting.ast, nullable_timeJson lasting.lastUsed,
    nullable_timeJson lasting.createdAt, nullable_timeJson lasting.updatedAt]

theorem onWire_timeJson (moment : Option Timestamp) :
    (timeJson moment).onWire = timeJson moment := by
  cases moment <;> rfl

/-- Nothing of it is lost on the wire. -/
theorem Lasting.onWire_toJson {segment : SavedSegment}
    (lasting : segment.Lasting) : segment.toJson.onWire = segment.toJson := by
  simp [toJson, Json.onWire, Json.fieldsOnWire, onWire_timeJson,
    Filter.Root.onWire_toJson lasting.ast]

/-! ## Segments that were read -/

theorem canonical_of_read {json : Json} {root : Filter.Root}
    (found : Filter.Root.read json = .value root) : root.Canonical := by
  unfold Filter.Root.read at found
  cases normal : Filter.Root.ofJson json with
  | error misuse => simp [normal, Reading.ofExcept] at found
  | ok tree =>
      simp only [normal, Reading.ofExcept, Reading.value.injEq] at found
      obtain rfl := found
      exact Filter.Root.canonical_ofJson normal

theorem real_of_readTime {names : List String} {fields : Fields}
    {moment : Option Timestamp}
    (found : readTime names fields = .value moment) :
    ∀ time, moment = some time → time.Real := by
  rintro time rfl
  obtain absent | ⟨_, json, -, read⟩ := Reading.of_optional found
  · cases absent
  · cases json with
    | null => cases read
    | _ =>
        obtain ⟨_, read, same⟩ := Reading.map_eq_value.mp read
        cases same
        exact Timestamp.real_of_read read

/-- A segment that was read lasts. -/
theorem lasting_of_read {json : Json} {segment : SavedSegment}
    (found : read json = .value segment) : segment.Lasting := by
  obtain ⟨fields, rfl, parts⟩ := Reading.model_eq_value.mp found
  obtain ⟨_, updatedAt, upToCreated, updated, rfl⟩ := Reading.seq_eq_value.mp parts
  obtain ⟨_, createdAt, upToUsed, created, rfl⟩ :=
    Reading.seq_eq_value.mp upToCreated
  obtain ⟨_, lastUsed, upToFavorite, used, rfl⟩ := Reading.seq_eq_value.mp upToUsed
  obtain ⟨_, favorite, upToAst, -, rfl⟩ := Reading.seq_eq_value.mp upToFavorite
  obtain ⟨_, root, upToPrompt, ast, rfl⟩ := Reading.seq_eq_value.mp upToAst
  obtain ⟨_, prompt, upToTitle, -, rfl⟩ := Reading.seq_eq_value.mp upToPrompt
  obtain ⟨_, title, first, -, rfl⟩ := Reading.seq_eq_value.mp upToTitle
  obtain ⟨id, -, rfl⟩ := Reading.map_eq_value.mp first
  obtain ⟨_, ast⟩ := Reading.exists_of_required ast
  exact
    { ast := canonical_of_read ast
      lastUsed := real_of_readTime used
      createdAt := real_of_readTime created
      updatedAt := real_of_readTime updated }

/-- Exactly the segments that last are read back from their wire form. -/
theorem read_toJson_iff (segment : SavedSegment) :
    read segment.toJson = .value segment ↔ segment.Lasting :=
  ⟨lasting_of_read, Lasting.read_toJson⟩

end SavedSegment
end Audience
