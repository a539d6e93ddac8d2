import Audience.Backend.Memory
import Audience.Document.Cache
import Audience.Proofs.Reading

/-!
# Blocks of filter documents

A document is read block by block, and a write replaces whole blocks, in the
backend as well as in the cache.  So what a block is read as depends on the
block alone, and the blocks that a write does not carry stay what they were.
-/

namespace Audience
namespace Reading

/-- What an optional field is read as depends on that field alone. -/
theorem optional_congr {α : Type} {name : String} {first second : Fields}
    (same : Keyed.get? name first = Keyed.get? name second) (default : α)
    (read : Reader α) :
    optional [name] default read first = optional [name] default read second := by
  simp [optional, pick, same]

end Reading

namespace Document

/-- The manual block among the fields of a document. -/
def manualIn (fields : Fields) : Reading ManualState :=
  Reading.optional ["manual"] .empty (block ManualState.read) fields

/-- The AI block among the fields of a document. -/
def aiIn (fields : Fields) : Reading AiBlock :=
  Reading.optional ["ai"] .cleared (block AiBlock.read) fields

/-- A document is read as its two blocks. -/
theorem read_eq_value {fields : Fields} {document : Document} :
    read (.obj fields) = .value document ↔
      manualIn fields = .value document.manual ∧
        aiIn fields = .value document.ai := by
  obtain ⟨manual, ai⟩ := document
  show Document.mk <$> manualIn fields <*> aiIn fields = _ ↔ _
  cases manualIn fields <;> cases aiIn fields <;>
    simp [Functor.map, Seq.seq, Reading.map, Reading.both]

theorem ofStored_eq_ok {json : Json} {document : Document} :
    ofStored json = .ok document ↔
      read (.obj (unwrapFields json)) = .value document := by
  unfold ofStored
  cases read (.obj (unwrapFields json)) <;> simp

/-- The fields of a document that does not look like a wrapped one. -/
def Plain (fields : Fields) : Prop :=
  ∀ inner, Fields.getD "filters" fields ≠ .obj inner

theorem Plain.unwrapFields {fields : Fields} (plain : Plain fields) :
    unwrapFields (.obj fields) = fields := by
  unfold Document.unwrapFields
  dsimp only
  split
  · rename_i inner wrapped
    exact absurd wrapped (plain inner)
  · rfl

end Document

namespace Memory

/-- Merging takes a block from the body if it is there, and keeps all else. -/
theorem get?_mergeBlocks (body document : Fields) (key : String)
    (keys : List String) :
    Keyed.get? key (mergeBlocks (.obj body) document keys) =
      if key ∈ keys then (Keyed.get? key body).or (Keyed.get? key document)
      else Keyed.get? key document := by
  induction keys generalizing document with
  | nil => rfl
  | cons name rest ih =>
      unfold mergeBlocks
      dsimp only
      cases given : Keyed.get? name body with
      | none =>
          dsimp only
          rw [ih]
          by_cases same : key = name
          · subst same
            simp [given]
          · simp [same]
      | some block =>
          dsimp only
          rw [ih]
          by_cases same : key = name
          · subst same
            simp [given]
          · simp [same, Keyed.get?_put_of_ne same]

end Memory

namespace Change

variable (change : Change)

@[simp] theorem get?_manual_wireFields :
    Keyed.get? "manual" change.wireFields =
      change.manual.map (wireBlock ManualState.toJson) := by
  obtain ⟨manual, ai⟩ := change
  cases manual <;> cases ai <;> simp [wireFields, Keyed.get?]

@[simp] theorem get?_ai_wireFields :
    Keyed.get? "ai" change.wireFields =
      change.ai.map (wireBlock AiBlock.toJson) := by
  obtain ⟨manual, ai⟩ := change
  cases manual <;> cases ai <;> simp [wireFields, Keyed.get?]

/-- Staging takes the blocks of the change, and keeps those that were known. -/
theorem get?_manual_mergedFields (previous : Document) :
    Keyed.get? "manual" (change.mergedFields previous) =
      some ((change.manual.map (wireBlock ManualState.toJson)).getD
        previous.manual.toJson.onWire) := by
  obtain ⟨manual, ai⟩ := change
  cases manual <;> cases ai <;>
    simp [mergedFields, wireFields, Keyed.put, Keyed.get?]

theorem get?_ai_mergedFields (previous : Document) :
    Keyed.get? "ai" (change.mergedFields previous) =
      some ((change.ai.map (wireBlock AiBlock.toJson)).getD
        previous.ai.toJson.onWire) := by
  obtain ⟨manual, ai⟩ := change
  cases manual <;> cases ai <;>
    simp [mergedFields, wireFields, Keyed.put, Keyed.get?]

/-- The fields of a document after a write. -/
def written (fields : Fields) : Fields :=
  Memory.mergeBlocks change.wire fields Memory.blocks

theorem get?_written (key : String) (fields : Fields) :
    Keyed.get? key (change.written fields) =
      if key ∈ Memory.blocks then
        (Keyed.get? key change.wireFields).or (Keyed.get? key fields)
      else Keyed.get? key fields :=
  Memory.get?_mergeBlocks _ _ _ _

/-- A write that carries a block leaves a document with fields. -/
theorem written_ne_nil (carries : change.manual.isSome ∨ change.ai.isSome)
    (fields : Fields) : change.written fields ≠ [] := by
  intro empty
  obtain given | given := carries
  · have found := change.get?_written "manual" fields
    obtain ⟨block, given⟩ := Option.isSome_iff_exists.mp given
    simp [empty, Memory.blocks, given] at found
  · have found := change.get?_written "ai" fields
    obtain ⟨block, given⟩ := Option.isSome_iff_exists.mp given
    simp [empty, Memory.blocks, given] at found

/-- A write does not make a document look like a wrapped one. -/
theorem plain_written {fields : Fields} (plain : Document.Plain fields) :
    Document.Plain (change.written fields) := by
  intro inner
  unfold Fields.getD
  rw [change.get?_written, if_neg (by decide)]
  exact plain inner

/-- The manual filters after a write are those that it carries, or those that
were there. -/
theorem manualIn_written (fields : Fields) :
    Document.manualIn (change.written fields) =
      if change.manual.isSome then Document.manualIn change.wireFields
      else Document.manualIn fields := by
  have found := change.get?_written "manual" fields
  split
  · rename_i given
    apply Reading.optional_congr
    obtain ⟨block, given⟩ := Option.isSome_iff_exists.mp given
    simp [found, Memory.blocks, given]
  · rename_i missing
    apply Reading.optional_congr
    simp [found, Memory.blocks, Option.not_isSome_iff_eq_none.mp missing]

/-- The same of the AI block. -/
theorem aiIn_written (fields : Fields) :
    Document.aiIn (change.written fields) =
      if change.ai.isSome then Document.aiIn change.wireFields
      else Document.aiIn fields := by
  have found := change.get?_written "ai" fields
  split
  · rename_i given
    apply Reading.optional_congr
    obtain ⟨block, given⟩ := Option.isSome_iff_exists.mp given
    simp [found, Memory.blocks, given]
  · rename_i missing
    apply Reading.optional_congr
    simp [found, Memory.blocks, Option.not_isSome_iff_eq_none.mp missing]

/-- A document after a write has the blocks of the write and its own others. -/
theorem read_written {fields : Fields} {stored own : Document}
    (known : Document.read (.obj fields) = .value stored)
    (given : Document.read change.wire = .value own) :
    Document.read (.obj (change.written fields)) = .value
      { manual := if change.manual.isSome then own.manual else stored.manual
        ai := if change.ai.isSome then own.ai else stored.ai } := by
  rw [Document.read_eq_value] at known
  obtain ⟨ownManual, ownAi⟩ := Document.read_eq_value.mp given
  rw [Document.read_eq_value, manualIn_written, aiIn_written]
  constructor
  · split
    · exact ownManual
    · exact known.1
  · split
    · exact ownAi
    · exact known.2

end Change
end Audience
