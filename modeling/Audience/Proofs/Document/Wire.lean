import Audience.Proofs.Document

/-!
# Reading documents back from the wire

A document is written as JSON and read back when a change is tried.  What comes
back is the document itself, except that the wire has neither NaN nor infinities
in the values of table filters and in the tree.
-/

namespace Audience

namespace Json

theorem itemsOnWire_eq_map (items : List Json) :
    itemsOnWire items = items.map onWire := by
  induction items with
  | nil => rfl
  | cons item rest ih => rw [itemsOnWire, ih, List.map_cons]

theorem itemsFinite_iff (items : List Json) :
    itemsFinite items ↔ ∀ item ∈ items, item.isFinite := by
  induction items with
  | nil => simp [itemsFinite]
  | cons item rest ih => simp [itemsFinite, ih]

mutual

/-- Finite values are on the wire as they are. -/
theorem onWire_of_isFinite (json : Json) (finite : json.isFinite) :
    json.onWire = json := by
  cases json with
  | double value =>
      simp only [isFinite] at finite
      simp [onWire, finite]
  | arr items =>
      rw [onWire, itemsOnWire_of_finite items finite]
  | obj fields =>
      rw [onWire, fieldsOnWire_of_finite fields finite]
  | _ => rfl

theorem itemsOnWire_of_finite (items : List Json) (finite : itemsFinite items) :
    itemsOnWire items = items := by
  cases items with
  | nil => rfl
  | cons item rest =>
      simp only [itemsFinite, Bool.and_eq_true] at finite
      rw [itemsOnWire, onWire_of_isFinite item finite.1,
        itemsOnWire_of_finite rest finite.2]

theorem fieldsOnWire_of_finite (fields : Fields)
    (finite : fieldsFinite fields) : fieldsOnWire fields = fields := by
  cases fields with
  | nil => rfl
  | cons field rest =>
      obtain ⟨name, value⟩ := field
      simp only [fieldsFinite, Bool.and_eq_true] at finite
      rw [fieldsOnWire, onWire_of_isFinite value finite.1,
        fieldsOnWire_of_finite rest finite.2]

end

mutual

/-- What is on the wire is finite. -/
theorem isFinite_onWire (json : Json) : json.onWire.isFinite := by
  cases json with
  | double value =>
      by_cases finite : value.isFinite
      · simp [onWire, finite, isFinite]
      · simp [onWire, finite, isFinite]
  | arr items => exact itemsFinite_onWire items
  | obj fields => exact fieldsFinite_onWire fields
  | _ => rfl

theorem itemsFinite_onWire (items : List Json) :
    itemsFinite (itemsOnWire items) := by
  cases items with
  | nil => rfl
  | cons item rest =>
      simp only [itemsOnWire, itemsFinite, Bool.and_eq_true]
      exact ⟨isFinite_onWire item, itemsFinite_onWire rest⟩

theorem fieldsFinite_onWire (fields : Fields) :
    fieldsFinite (fieldsOnWire fields) := by
  cases fields with
  | nil => rfl
  | cons field rest =>
      obtain ⟨name, value⟩ := field
      simp only [fieldsOnWire, fieldsFinite, Bool.and_eq_true]
      exact ⟨isFinite_onWire value, fieldsFinite_onWire rest⟩

end

/-- A field of a finite object is finite. -/
theorem isFinite_of_get? {fields : Fields} {key : String} {value : Json}
    (finite : fieldsFinite fields) (found : Keyed.get? key fields = some value) :
    value.isFinite := by
  induction fields with
  | nil => cases found
  | cons field rest ih =>
      obtain ⟨name, other⟩ := field
      simp only [fieldsFinite, Bool.and_eq_true] at finite
      by_cases same : name = key
      · rw [Keyed.get?, if_pos same] at found
        cases found
        exact finite.1
      · rw [Keyed.get?, if_neg same] at found
        exact ih finite.2 found

@[simp] theorem onWire_ofText? (text : Option String) :
    (ofText? text).onWire = ofText? text := by
  cases text <;> rfl

@[simp] theorem nullable_ofText? (text : Option String) :
    Reading.nullable Reading.text (ofText? text) = .value text := by
  cases text <;> rfl

end Json

/-- No field holds NaN or an infinity. -/
def Fields.AllFinite (fields : Fields) : Prop :=
  ∀ key json, Keyed.get? key fields = some json → json.isFinite

/-- A field with a default is the default, or is read from a field. -/
theorem Reading.of_optional {α : Type} {names : List String} {default : α}
    {read : Reader α} {fields : Fields} {part : α}
    (found : optional names default read fields = .value part) :
    part = default ∨ ∃ key json, Keyed.get? key fields = some json ∧
      read json = .value part := by
  unfold optional at found
  induction names with
  | nil =>
      cases found
      exact .inl rfl
  | cons first rest ih =>
      cases present : Keyed.get? first fields with
      | none =>
          simp only [pick, present] at found
          exact ih found
      | some json =>
          simp only [pick, present] at found
          exact .inr ⟨first, json, present, inside_eq_value.mp found⟩

/-- Items that can be read one by one can be read as a list. -/
theorem Reading.items_map {α β : Type} {read : Reader β} {write : α → Json}
    {result : α → β} (each : ∀ item, read (write item) = .value (result item))
    (position : Nat) (list : List α) :
    items read position (list.map write) = .value (list.map result) := by
  induction list generalizing position with
  | nil => rfl
  | cons item rest ih =>
      simp [items, each, ih, Reading.map, both]

/-- Every item of a list that was read was read from an item. -/
theorem Reading.exists_of_items {α : Type} {read : Reader α} {position : Nat}
    {items' : List Json} {results : List α}
    (found : items read position items' = .value results) :
    ∀ result ∈ results, ∃ item ∈ items', read item = .value result := by
  induction items' generalizing position results with
  | nil =>
      cases found
      simp
  | cons item rest ih =>
      obtain ⟨function, tail, first, later, rfl⟩ :=
        Reading.seq_eq_value.mp (show Seq.seq _ (fun _ => _) = _ from found)
      obtain ⟨head, atHead, rfl⟩ := Reading.map_eq_value.mp first
      intro result member
      obtain rfl | member := List.mem_cons.mp member
      · exact ⟨item, List.mem_cons_self .., Reading.inside_eq_value.mp atHead⟩
      · obtain ⟨other, among, same⟩ := ih later result member
        exact ⟨other, List.mem_cons_of_mem _ among, same⟩

namespace ManualFilter

/-- What remains of a filter on the wire. -/
def onWire (filter : ManualFilter) : ManualFilter :=
  { filter with value := filter.value.onWire }

/-- A filter is read back from the wire. -/
theorem read_onWire (filter : ManualFilter) :
    read filter.toJson.onWire = .value filter.onWire := by
  simp [toJson, Json.onWire, Json.fieldsOnWire, read, Reading.model, readFields,
    Reading.optional, Reading.pick, Keyed.get?, plain, Json.plainText,
    Reading.anything, onWire]

/-- A finite filter stays as it is on the wire. -/
theorem onWire_of_isFinite {filter : ManualFilter}
    (finite : filter.toJson.isFinite) : filter.onWire = filter := by
  simp only [toJson, Json.isFinite, Json.fieldsFinite, Bool.and_eq_true]
    at finite
  have same : filter.value.onWire = filter.value :=
    Json.onWire_of_isFinite filter.value finite.2.2.1
  rw [onWire, same]

/-- A filter that was read from a finite value stays as it is on the wire. -/
theorem onWire_of_read {json : Json} {filter : ManualFilter}
    (found : read json = .value filter) (finite : json.isFinite) :
    filter.onWire = filter := by
  obtain ⟨fields, rfl, parts⟩ := Reading.model_eq_value.mp found
  obtain ⟨_, value, others, atValue, rfl⟩ := Reading.seq_eq_value.mp parts
  obtain ⟨_, operation, first, _, rfl⟩ := Reading.seq_eq_value.mp others
  obtain ⟨label, _, rfl⟩ := Reading.map_eq_value.mp first
  have same : value.onWire = value := by
    obtain rfl | ⟨key, part, present, same⟩ := Reading.of_optional atValue
    · rfl
    · cases same
      exact Json.onWire_of_isFinite value
        (Json.isFinite_of_get? finite present)
  simp [onWire, same]

end ManualFilter

namespace ManualState

/-- What remains of manual filters on the wire. -/
def onWire (state : ManualState) : ManualState :=
  { state with filters := state.filters.map ManualFilter.onWire }

/-- Manual filters are read back from the wire. -/
theorem read_onWire (state : ManualState) :
    read state.toJson.onWire = .value state.onWire := by
  have filters : readFilters (.arr (Json.itemsOnWire
      (state.filters.map ManualFilter.toJson))) =
        .value (state.filters.map ManualFilter.onWire) := by
    rw [Json.itemsOnWire_eq_map, List.map_map]
    exact Reading.items_map ManualFilter.read_onWire 0 state.filters
  simp [toJson, Json.onWire, Json.fieldsOnWire, read, Reading.model,
    Reading.optional, Reading.pick, Keyed.get?, ManualFilter.plain,
    Json.plainText, filters, onWire]

/-- Finite manual filters stay as they are on the wire. -/
theorem onWire_of_isFinite {state : ManualState}
    (finite : state.toJson.isFinite) : state.onWire = state := by
  obtain ⟨search, filters⟩ := state
  have each : ∀ filter ∈ filters, filter.toJson.isFinite := by
    simpa [toJson, Json.isFinite, Json.fieldsFinite, Json.itemsFinite_iff]
      using finite
  have same : filters.map ManualFilter.onWire = filters.map id :=
    List.map_congr_left fun filter listed =>
      ManualFilter.onWire_of_isFinite (each filter listed)
  rw [onWire, same, List.map_id]

/-- Manual filters that were read from a finite value stay as they are on the
wire. -/
theorem onWire_of_read {json : Json} {state : ManualState}
    (found : read json = .value state) (finite : json.isFinite) :
    state.onWire = state := by
  obtain ⟨fields, rfl, parts⟩ := Reading.model_eq_value.mp found
  obtain ⟨_, filters, first, atFilters, rfl⟩ := Reading.seq_eq_value.mp parts
  obtain ⟨search, _, rfl⟩ := Reading.map_eq_value.mp first
  have same : filters.map ManualFilter.onWire = filters := by
    obtain rfl | ⟨key, part, present, read⟩ := Reading.of_optional atFilters
    · rfl
    have finite := Json.isFinite_of_get? finite present
    cases part with
    | arr items =>
        refine (List.map_congr_left fun filter member => ?_).trans
          (List.map_id filters)
        obtain ⟨item, among, same⟩ := Reading.exists_of_items read filter member
        exact ManualFilter.onWire_of_read same
          ((Json.itemsFinite_iff items).mp finite item among)
    | _ =>
        cases read
        rfl
  simp [onWire, same]

end ManualState

namespace AiBlock

/-- What remains of an AI block on the wire. -/
def onWire (block : AiBlock) : AiBlock :=
  { block with
    ast :=
      match (block.ast.getD .null).onWire with
      | .obj fields => some (.obj fields)
      | .arr items => some (.arr items)
      | _ => none }

/-- An AI block is read back from the wire. -/
theorem read_onWire (block : AiBlock) :
    read block.toJson.onWire = .value block.onWire := by
  have title : readTitle (.str block.title) = .value block.title := by
    by_cases empty : block.title = ""
    · simp [readTitle, Json.isHollow, Json.isFull, empty]
    · simp [readTitle, Json.isHollow, Json.isFull, empty, Reading.text]
  have ast : readAst (block.ast.getD .null).onWire =
      .value block.onWire.ast := by
    unfold onWire
    cases (block.ast.getD .null).onWire <;> rfl
  simp [toJson, Json.onWire, Json.fieldsOnWire, read, Reading.model,
    Reading.optional, Reading.pick, Keyed.get?, Reading.flag, title, ast]
  rfl

/-- A block that was read has no tree, or the one in a part of what was read. -/
theorem ast_of_read {json : Json} {block : AiBlock}
    (found : read json = .value block) :
    block.ast = none ∨ ∃ fields key part, json = .obj fields ∧
      Keyed.get? key fields = some part ∧ readAst part = .value block.ast := by
  obtain ⟨fields, rfl, parts⟩ := Reading.model_eq_value.mp found
  obtain ⟨_, title, upToAst, _, rfl⟩ := Reading.seq_eq_value.mp parts
  obtain ⟨_, ast, upToSaved, atAst, rfl⟩ := Reading.seq_eq_value.mp upToAst
  obtain ⟨_, savedId, first, _, rfl⟩ := Reading.seq_eq_value.mp upToSaved
  obtain ⟨enabled, _, rfl⟩ := Reading.map_eq_value.mp first
  obtain rfl | ⟨key, part, present, read⟩ := Reading.of_optional atAst
  · exact .inl rfl
  · exact .inr ⟨fields, key, part, rfl, present, read⟩

/-- An AI block that was read from a finite value stays as it is on the wire. -/
theorem onWire_of_read {json : Json} {block : AiBlock}
    (found : read json = .value block) (finite : json.isFinite) :
    block.onWire = block := by
  obtain ⟨enabled, savedId, ast, title⟩ := block
  obtain rfl | ⟨fields, key, part, rfl, present, read⟩ := ast_of_read found
  · rfl
  have finite := Json.isFinite_of_get? finite present
  have same := Json.onWire_of_isFinite part finite
  cases part with
  | arr items =>
      cases read
      simp only [onWire, Option.getD_some, same]
  | obj fields =>
      cases read
      simp only [onWire, Option.getD_some, same]
  | _ =>
      cases read
      rfl

end AiBlock

namespace Document

/-- What remains of a document on the wire. -/
def onWire (document : Document) : Document :=
  { manual := document.manual.onWire, ai := document.ai.onWire }

/-- A document is read back from the wire. -/
theorem read_onWire (document : Document) :
    read document.toJson.onWire = .value document.onWire := by
  let fields : Fields :=
    [ ("manual", document.manual.toJson.onWire),
      ("ai", document.ai.toJson.onWire) ]
  have manual : Keyed.get? "manual" fields =
      some document.manual.toJson.onWire := rfl
  have ai : Keyed.get? "ai" fields = some document.ai.toJson.onWire := rfl
  refine read_eq_value.mpr ⟨?_, ?_⟩
  · rw [manualIn]
    refine (Reading.optional_of_get manual _ _).trans ?_
    exact Reading.inside_eq_value.mpr (ManualState.read_onWire document.manual)
  · rw [aiIn]
    refine (Reading.optional_of_get ai _ _).trans ?_
    exact Reading.inside_eq_value.mpr (AiBlock.read_onWire document.ai)

/-- A block that may be null is read from an object in its place. -/
theorem of_block {α : Type} {read : Reader α} {json : Json} {part : α}
    (found : block read json = .value part) (finite : json.isFinite) :
    ∃ inner : Json, inner.isFinite ∧ read inner = .value part := by
  cases json with
  | null => exact ⟨.obj [], rfl, found⟩
  | _ => exact ⟨_, finite, found⟩

/-- A document that was read from finite fields stays as it is on the wire. -/
theorem onWire_of_read {fields : Fields} {document : Document}
    (found : read (.obj fields) = .value document)
    (finite : Fields.AllFinite fields) : document.onWire = document := by
  obtain ⟨manual, ai⟩ := document
  obtain ⟨atManual, atAi⟩ := read_eq_value.mp found
  have sameManual : manual.onWire = manual := by
    obtain rfl | ⟨key, json, present, part⟩ := Reading.of_optional atManual
    · rfl
    · obtain ⟨inner, whole, same⟩ :=
        of_block part (finite key json present)
      exact ManualState.onWire_of_read same whole
  have sameAi : ai.onWire = ai := by
    obtain rfl | ⟨key, json, present, part⟩ := Reading.of_optional atAi
    · rfl
    · obtain ⟨inner, whole, same⟩ :=
        of_block part (finite key json present)
      exact AiBlock.onWire_of_read same whole
  simp [onWire, sameManual, sameAi]

end Document

namespace Change

variable (change : Change) (previous : Document)

/-- The manual filters of a change that is tried are those that it carries, or
the known ones. -/
theorem manualIn_mergedFields :
    Document.manualIn (change.mergedFields previous) =
      if change.manual.isSome then Document.manualIn change.wireFields
      else .value previous.manual.onWire := by
  have found := change.get?_manual_mergedFields previous
  split
  · rename_i given
    apply Reading.optional_congr
    obtain ⟨block, given⟩ := Option.isSome_iff_exists.mp given
    simp [found, given]
  · rename_i missing
    rw [Option.not_isSome_iff_eq_none.mp missing] at found
    rw [Document.manualIn, Reading.optional_of_get found, Reading.inside_eq_value]
    exact ManualState.read_onWire previous.manual

/-- The same of the AI block. -/
theorem aiIn_mergedFields :
    Document.aiIn (change.mergedFields previous) =
      if change.ai.isSome then Document.aiIn change.wireFields
      else .value previous.ai.onWire := by
  have found := change.get?_ai_mergedFields previous
  split
  · rename_i given
    apply Reading.optional_congr
    obtain ⟨block, given⟩ := Option.isSome_iff_exists.mp given
    simp [found, given]
  · rename_i missing
    rw [Option.not_isSome_iff_eq_none.mp missing] at found
    rw [Document.aiIn, Reading.optional_of_get found, Reading.inside_eq_value]
    exact AiBlock.read_onWire previous.ai

/-- A block that a change does not carry is read as the empty one. -/
theorem manualIn_wireFields (missing : change.manual.isSome = false) :
    Document.manualIn change.wireFields = .value .empty := by
  rw [Option.isSome_eq_false_iff, Option.isNone_iff_eq_none] at missing
  simp [Document.manualIn, Reading.optional, Reading.pick, missing]

theorem aiIn_wireFields (missing : change.ai.isSome = false) :
    Document.aiIn change.wireFields = .value .cleared := by
  rw [Option.isSome_eq_false_iff, Option.isNone_iff_eq_none] at missing
  simp [Document.aiIn, Reading.optional, Reading.pick, missing]

/-- A block that is carried or known can be read if it can be when carried. -/
theorem ite_eq_value {α : Type} {carried : Bool} {reading : Reading α}
    {known default staged : α}
    (absent : carried = false → reading = .value default) :
    (if carried then reading else .value known) = .value staged ↔
      ∃ own, reading = .value own ∧
        staged = if carried then own else known := by
  cases carried with
  | false =>
      constructor
      · intro found
        exact ⟨default, absent rfl, (Reading.value.inj found).symm⟩
      · rintro ⟨own, _, same⟩
        exact congrArg Reading.value same.symm
  | true =>
      constructor
      · exact fun found => ⟨staged, found, rfl⟩
      · rintro ⟨own, found, same⟩
        exact same ▸ found

/-- What is tried can be read if and only if the blocks of the change can, and
is made of them and of the known ones. -/
theorem read_mergedFields {staged : Document} :
    Document.read (.obj (change.mergedFields previous)) = .value staged ↔
      ∃ document, Document.read change.wire = .value document ∧
        staged.manual = (if change.manual.isSome then document.manual
          else previous.manual.onWire) ∧
        staged.ai = (if change.ai.isSome then document.ai
          else previous.ai.onWire) := by
  unfold wire
  simp only [Document.read_eq_value, manualIn_mergedFields, aiIn_mergedFields]
  rw [ite_eq_value change.manualIn_wireFields,
    ite_eq_value change.aiIn_wireFields]
  constructor
  · rintro ⟨⟨manual, foundManual, sameManual⟩, ai, foundAi, sameAi⟩
    exact ⟨⟨manual, ai⟩, ⟨foundManual, foundAi⟩, sameManual, sameAi⟩
  · rintro ⟨document, ⟨foundManual, foundAi⟩, sameManual, sameAi⟩
    exact ⟨⟨_, foundManual, sameManual⟩, _, foundAi, sameAi⟩

/-- A write of finite blocks leaves finite fields finite. -/
theorem allFinite_written {fields : Fields}
    (carried : Fields.AllFinite change.wireFields)
    (known : Fields.AllFinite fields) :
    Fields.AllFinite (change.written fields) := by
  intro key json found
  rw [change.get?_written] at found
  split at found
  · cases given : Keyed.get? key change.wireFields with
    | none =>
        rw [given] at found
        exact known key json found
    | some block =>
        rw [given] at found
        cases found
        exact carried key json given
  · exact known key json found

/-- Own blocks are finite on the wire. -/
theorem allFinite_ofManual (manual : ManualState) :
    Fields.AllFinite (ofManual manual).wireFields := by
  intro key json found
  by_cases same : "manual" = key
  · rw [wireFields, ofManual] at found
    simp only [List.append_nil, Keyed.get?, if_pos same,
      Option.some.injEq] at found
    exact found ▸ Json.isFinite_onWire _
  · rw [wireFields, ofManual] at found
    simp [Keyed.get?, same] at found

theorem allFinite_ofAi (ai : AiBlock) :
    Fields.AllFinite (ofAi ai).wireFields := by
  intro key json found
  by_cases same : "ai" = key
  · rw [wireFields, ofAi] at found
    simp only [List.nil_append, Keyed.get?, if_pos same,
      Option.some.injEq] at found
    exact found ▸ Json.isFinite_onWire _
  · rw [wireFields, ofAi] at found
    simp [Keyed.get?, same] at found

/-- Own manual filters can always be read back. -/
theorem read_ofManual (manual : ManualState) :
    Document.read (ofManual manual).wire =
      .value { manual := manual.onWire, ai := .cleared } := by
  refine Document.read_eq_value.mpr
    ⟨?_, (ofManual manual).aiIn_wireFields rfl⟩
  rw [Document.manualIn, Reading.optional_of_get
    ((ofManual manual).get?_manual_wireFields), Reading.inside_eq_value]
  exact ManualState.read_onWire manual

/-- So can an own AI block. -/
theorem aiIn_ofAi (ai : AiBlock) :
    Document.aiIn (ofAi ai).wireFields = .value ai.onWire := by
  rw [Document.aiIn, Reading.optional_of_get ((ofAi ai).get?_ai_wireFields),
    Reading.inside_eq_value]
  exact AiBlock.read_onWire ai

theorem read_ofAi (ai : AiBlock) :
    Document.read (ofAi ai).wire =
      .value { manual := .empty, ai := ai.onWire } :=
  Document.read_eq_value.mpr ⟨(ofAi ai).manualIn_wireFields rfl, aiIn_ofAi ai⟩

/-- What is read after a write of an own AI block has that block. -/
theorem ai_of_written {ai : AiBlock} {fields : Fields} {document : Document}
    (found : Document.read (.obj ((ofAi ai).written fields)) =
      .value document) : document.ai = ai.onWire := by
  have read := (Document.read_eq_value.mp found).2
  rw [aiIn_written, if_pos (show (ofAi ai).ai.isSome from rfl),
    aiIn_ofAi] at read
  exact (Reading.value.inj read).symm

end Change

/-- Own manual filters can always be tried. -/
theorem PendingWrite.exists_stage_ofManual (event : String)
    (manual : ManualState) (cache : Cache) :
    ∃ pending, stage event (.ofManual manual) cache = .ok pending := by
  have merged : Document.read (.obj ((Change.ofManual manual).mergedFields
      (cache.document event))) =
        .value ⟨manual.onWire, (cache.document event).ai.onWire⟩ :=
    (Change.read_mergedFields _ _).mpr
      ⟨_, Change.read_ofManual manual, rfl, rfl⟩
  unfold stage
  dsimp only
  rw [merged]
  exact ⟨_, rfl⟩

/-- So can an own AI block. -/
theorem PendingWrite.exists_stage_ofAi (event : String) (ai : AiBlock)
    (cache : Cache) :
    ∃ pending, stage event (.ofAi ai) cache = .ok pending := by
  have merged : Document.read (.obj ((Change.ofAi ai).mergedFields
      (cache.document event))) =
        .value ⟨(cache.document event).manual.onWire, ai.onWire⟩ :=
    (Change.read_mergedFields _ _).mpr ⟨_, Change.read_ofAi ai, rfl, rfl⟩
  unfold stage
  dsimp only
  rw [merged]
  exact ⟨_, rfl⟩

end Audience
