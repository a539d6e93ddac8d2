import Audience.Proofs.Store.Deduplication

/-!
# Saving what is shown

The table may send the filters that it was given in its own shape, with the
definition of the column and whatever else it keeps.  They are reduced to what
was given.  So saving them again is skipped right after a call that noted them;
it is not if the document was taken from the cache and its filters came into it
in another way.
-/

namespace Audience
namespace Resaving

open Store Noting
open Persistence (Task Succeeded)

section Presenting

/-- A filter of the table presents a stored one: reduced, or with the definition
of the column under `field`.  More fields may stand beside. -/
inductive Presents (filter : ManualFilter) : Json → Prop where
  | reduced {fields : Fields}
      (bare : ∀ column, Fields.getD "field" fields ≠ .obj column)
      (label : Fields.getD "label" fields = .str filter.label)
      (operation : Fields.getD "operation" fields =
        Json.ofText? filter.operation)
      (value : Fields.getD "value" fields = filter.value) :
      Presents filter (.obj fields)
  | shaped {fields column : Fields}
      (defined : Fields.getD "field" fields = .obj column)
      (label : Fields.getD "label" column = .str filter.label)
      (operation : Fields.getD "operation" fields =
        Json.ofText? filter.operation)
      (value : Fields.getD "value" fields = filter.value) :
      Presents filter (.obj fields)

/-- Reading the parts of a filter gives it back. -/
theorem readFields_parts (filter : ManualFilter) :
    ManualFilter.readFields
      [ ("label", .str filter.label),
        ("operation", Json.ofText? filter.operation),
        ("value", filter.value) ] = .value filter := by
  simp [ManualFilter.readFields, Reading.optional, Reading.pick, Keyed.get?,
    ManualFilter.plain, Json.plainText, Reading.anything]

/-- What presents a filter is reduced to it. -/
theorem Presents.ofTable {filter : ManualFilter} {item : Json}
    (presents : Presents filter item) :
    ManualFilter.ofTable item = .value filter := by
  cases presents with
  | @reduced fields bare label operation value =>
      unfold ManualFilter.ofTable
      dsimp only
      split
      · rename_i column found
        exact absurd found (bare column)
      · rw [label, operation, value, readFields_parts]
  | shaped defined label operation value =>
      simp only [ManualFilter.ofTable, defined, label, operation, value,
        readFields_parts]

/-- A list that presents filters is reduced to them. -/
theorem ofTableList_of_presents {filters : List ManualFilter}
    {items : List Json} (presented : List.Forall₂ Presents filters items) :
    ManualFilter.ofTableList items = .value filters := by
  induction presented with
  | nil => rfl
  | cons presents _ ih =>
      rw [ManualFilter.ofTableList, presents.ofTable, ih]
      rfl

theorem ofTable_of_presents {manual : ManualState} {items : List Json}
    (presented : List.Forall₂ Presents manual.filters items) :
    (ManualState.ofTable (.str manual.search) (.arr items)).toExcept =
      .ok manual := by
  have reduced := ofTableList_of_presents presented
  simp only [ManualState.ofTable, Json.elements, Reading.ofExcept,
    Reading.andThen, reduced]
  rfl

end Presenting

section Calls

variable {event : String} {start registry later : Registry}
variable {noted : ManualState} {task : Task} {document : Document}
variable {said : Talk} {items : List Json}

/-- A call notes manual filters if it asks the backend. -/
def Notes : Task → Bool
  | .read _ => true
  | .write change => change.manual.isSome
  | .writeManual _ _ => true
  | .forget => false

/-- Such a call returns what is shown of the document. -/
theorem document_after_call (notes : Notes task = true)
    (recalls : Recalls event noted registry) (proper : Proper task)
    (ran : (task.flow event).Ran talks registry [] (.ok (.ok document)) later
      said) : later.cache.document event = document := by
  have of_known {other : Document}
      (known : Keyed.get? event later.cache.documents = some other) :
      later.cache.document event = other := by
    rw [Cache.document, known]
    rfl
  cases task with
  | read refresh =>
      have alone : ((Task.read refresh).flow event).Alone talks
          (fun result later _ => ∀ document, result = .ok (.ok document) →
            Keyed.get? event later.cache.documents = some document)
          registry [] := by
        apply Flow.alone_bind.mpr
        apply (alone_read refresh).mono
        rintro result later said (loaded | ⟨document, known, rfl, rfl, rfl⟩)
        · cases loaded with
          | brought asked known =>
              rintro document ⟨⟩
              exact known
          | stopped => rintro document ⟨⟩
        · rintro document ⟨⟩
          exact known
      exact of_known (alone.ran ran document rfl)
  | write change =>
      cases (alone_write proper recalls.shown).ran ran with
      | confirmed tried answer known => exact of_known known
  | writeManual search filters =>
      cases normal : (ManualState.ofTable search filters).toExcept with
      | error fault =>
          have fails : Store.writeTable event search filters = .fail fault := by
            unfold Store.writeTable
            rw [normal]
            rfl
          have ran : (Store.writeTable event search filters).Ran talks registry []
              (.ok (.ok document)) later said := ran
          rw [fails] at ran
          cases ran
      | ok manual =>
          have keyed := ManualState.wellKeyed_of_ofTable
            (Reading.toExcept_eq_ok.mp normal) proper
          obtain ⟨-, same, rfl, -⟩ | ⟨-, sent⟩ :=
            (alone_writeTable normal keyed recalls.shown).ran ran
          · cases same
            rfl
          · cases sent with
            | confirmed tried answer known => exact of_known known
  | forget => cases notes

/-- A call that notes manual filters, and asks the backend, notes those that it
shows then. -/
theorem noted?_of_asked (notes : Notes task = true) (asked : said ≠ []) :
    noted? event said (.ok (.ok document)) later task =
      some (shown event later) := by
  cases task with
  | read refresh => simp [noted?, Succeeded, asked]
  | write change => simp [noted?, Succeeded, show change.manual.isSome from notes]
  | writeManual search filters => simp [noted?, asked]
  | forget => rfl

/-- Calls on the document of an event of which nothing was known do not overlap
and the backend answers as it likes.  The last of them reads the document or
writes manual filters and succeeds, and there is no NaN among the filters of the
document.  A list that presents them is then saved without a request and without
a change if and only if they equal those that were noted last; so it is if the
last call asked the backend. -/
theorem resaving_is_skipped_iff_noted
    (unread : Keyed.get? event start.cache.documents = none)
    (unwritten : Keyed.get? event start.cache.lastManual = none)
    (reached : Reached event start noted registry) (proper : Proper task)
    (notes : Notes task = true)
    (ran : (task.flow event).Ran talks registry [] (.ok (.ok document)) later
      said)
    (numbers : ¬ Json.Within (.double .nan) document.manual.toJson)
    (presented : List.Forall₂ Presents document.manual.filters items) :
    later.cache.document event = document ∧
      (Skips event later (.str document.manual.search) (.arr items) ↔
        ((noted? event said (.ok (.ok document)) later task).getD noted).same
          document.manual = true) ∧
      (said ≠ [] →
        Skips event later (.str document.manual.search) (.arr items)) := by
  have before := reached.recalls unread unwritten
  have same := document_after_call notes before proper ran
  have recalls := (alone_task before proper).ran ran
  have keyed : document.manual.WellKeyed := same ▸ recalls.shown
  have skips : Skips event later (.str document.manual.search) (.arr items) ↔
      (later.cache.manual event).same document.manual = true :=
    skips_iff (ofTable_of_presents presented) keyed recalls.shown
  rw [recalls.manual] at skips
  refine ⟨same, skips, fun asked => skips.mpr ?_⟩
  rw [noted?_of_asked notes asked, Option.getD_some, shown, same]
  exact ManualState.same_self keyed numbers

end Calls

section Tables

/-- A filter as a table keeps it, with an identifier and the definition of its
column. -/
def shaped (filter : ManualFilter) : Json :=
  .obj
    [ ("id", .int 7),
      ("field", .obj [("id", .str "col_7"), ("label", .str filter.label)]),
      ("operation", Json.ofText? filter.operation), ("value", filter.value) ]

theorem presents_shaped (filter : ManualFilter) :
    Presents filter (shaped filter) :=
  .shaped rfl rfl rfl rfl

theorem presents_map_shaped (filters : List ManualFilter) :
    List.Forall₂ Presents filters (filters.map shaped) := by
  rw [List.forall₂_map_right_iff, List.forall₂_same]
  exact fun filter _ => presents_shaped filter

theorem not_within_of_isFinite {manual : ManualState}
    (finite : manual.toJson.isFinite = true) :
    ¬ Json.Within (.double .nan) manual.toJson := fun within =>
  Bool.false_ne_true (Json.isFinite_of_within within finite)

/-- Whether filters came that can be written. -/
def showsFilters : Except Fault (Outcome Document) → Bool
  | .ok (.ok document) =>
      !document.manual.filters.isEmpty && document.manual.toJson.isFinite
  | _ => false

/-- What was read is shown in a table, and saved again without a request. -/
theorem resaving_is_skipped_iff_noted_after_read :
    ∃ document later said,
      ((Task.read false).flow "event").Ran talks Coherence.unread []
        (.ok (.ok document)) later said ∧ document.manual.filters ≠ [] ∧
      Skips "event" later (.str document.manual.search)
        (.arr (document.manual.filters.map shaped)) := by
  have keyed : (sharing (Deduplication.filtered (.int 1))).WellKeyed :=
    wellKeyed_sharing
      (Deduplication.wellKeyed_filtered (Json.wellKeyed_of_isScalar rfl))
  obtain ⟨result, later, said, ran, good⟩ := Flow.exists_ran
    (telling (sharing (Deduplication.filtered (.int 1))))
    ((Task.read false).flow "event") Coherence.unread []
    (fun result _ said => !said.isEmpty && showsFilters result)
    (fun _ _ => talks_telling keyed _ _) (by decide +kernel)
  obtain fault | problem | document := result
  · simp [showsFilters] at good
  · simp [showsFilters] at good
  simp only [showsFilters, Bool.and_eq_true, Bool.not_eq_true',
    List.isEmpty_eq_false_iff] at good
  obtain ⟨asked, some, finite⟩ := good
  obtain ⟨-, -, skips⟩ := resaving_is_skipped_iff_noted
    rfl rfl .start (show Proper (.read false) from trivial) rfl ran
    (not_within_of_isFinite finite) (presents_map_shaped _)
  exact ⟨document, later, said, ran, some, skips asked⟩

/-- A document that is known is read without a request. -/
theorem ran_read_of_known {event : String} {registry : Registry}
    {document : Document}
    (known : Keyed.get? event registry.cache.documents = some document) :
    ((Task.read false).flow event).Ran talks registry [] (.ok (.ok document))
      registry [] := by
  refine .acquire (.inspect ?_)
  dsimp only
  rw [known]
  exact .release .done

/-- A search of another client that came with the reply to a write of the other
block is shown, and sent when it is saved again. -/
theorem search_of_others_is_sent_back :
    ¬ ∀ noted registry refresh document later said items,
      Reached "event" Coherence.unread noted registry →
      ((Task.read refresh).flow "event").Ran talks registry []
        (.ok (.ok document)) later said →
      ¬ Json.Within (.double .nan) document.manual.toJson →
      List.Forall₂ Presents document.manual.filters items →
      Skips "event" later (.str document.manual.search) (.arr items) := by
  intro always
  obtain ⟨noted, registry, reached, good⟩ := exists_reached "event"
    Coherence.unread [(.write enabling, sharing (searching "ada"))]
    (fun noted registry =>
      (Keyed.get? "event" registry.cache.documents).any fun document =>
        document.manual.toJson.isFinite && !noted.same document.manual)
    (by
      rw [List.forall_mem_singleton]
      exact ⟨nofun, wellKeyed_sharing (wellKeyed_searching _)⟩)
    (by decide +kernel)
  obtain ⟨document, known, good⟩ := (Option.any_eq_true _ _).mp good
  simp only [Bool.and_eq_true, Bool.not_eq_true'] at good
  obtain ⟨finite, differs⟩ := good
  have recalls := reached.recalls rfl rfl
  have presented := presents_map_shaped document.manual.filters
  have skips := always noted registry false document registry [] _ reached
    (ran_read_of_known known) (not_within_of_isFinite finite) presented
  have keyed : document.manual.WellKeyed :=
    shown_of_known known ▸ recalls.shown
  have same := (skips_iff (ofTable_of_presents presented) keyed
    recalls.shown).mp skips
  rw [recalls.manual, differs] at same
  cases same

end Tables

end Resaving
end Audience
