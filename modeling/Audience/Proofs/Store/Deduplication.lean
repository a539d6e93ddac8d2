import Audience.Proofs.Store.Noting

/-!
# Manual filters that are not written again

Manual filters that equal those of the last confirmed write are not sent again.
They are compared as values, so that true counts as 1 and 1 as 1.0, whereas what
is sent tells them apart.  Filters are therefore sent whenever a scalar among
them is worth something else, but not when it only is of another kind.
-/

namespace Audience
namespace Deduplication

open Store Noting

section Wire

/-- Manual filters are sent in the same way: arrays in order, objects in any order
of their keys, and scalars alike. -/
def SameWire (first second : ManualState) : Prop :=
  Json.Corresponds Json.Identical first.toJson.onWire second.toJson.onWire

/-- What is sent for them is equal as values are. -/
def SameOnWire (first second : ManualState) : Prop :=
  Json.Corresponds Json.SameWorth first.toJson.onWire second.toJson.onWire

/-- What is sent for them has scalars of one kind in each place. -/
def SameKinds (first second : ManualState) : Prop :=
  Json.Corresponds Json.SameKind first.toJson.onWire second.toJson.onWire

/-- The same filters are sent in the same way. -/
theorem sameWire_self (manual : ManualState) : SameWire manual manual := by
  refine .refl fun part within scalar => ?_
  apply Json.identical_self scalar
  rintro rfl
  have finite := Json.isFinite_of_within within
    (Json.isFinite_onWire manual.toJson)
  cases finite

theorem sameWire_iff {first second : ManualState} :
    SameWire first second ↔ SameOnWire first second ∧ SameKinds first second :=
  Json.corresponds_identical_iff

end Wire

section Confirming

variable {event : String} {manual : ManualState} {pending : PendingWrite}
variable {cache : Cache} {json : Json}

/-- A reply confirms manual filters: it tells nothing of the document, or has a
document with them. -/
def Echoes (manual : ManualState) (json : Json) : Prop :=
  Document.unwrapFields json = [] ∨
    Document.Plain (Document.unwrapFields json) ∧
      Keyed.get? "manual" (Document.unwrapFields json) =
        some manual.toJson.onWire

/-- Manual filters that are tried are shown in their wire form. -/
theorem manual_staged
    (tried : PendingWrite.stage event (.ofManual manual) cache = .ok pending) :
    pending.staged.manual = manual.onWire := by
  obtain ⟨-, -, read⟩ := PendingWrite.staged_of_stage tried
  obtain ⟨own, found, same, -⟩ :=
    (Change.read_mergedFields _ _).mp read
  obtain rfl := Reading.value.inj (found.symm.trans (Change.read_ofManual manual))
  exact same

/-- So they are once a reply confirms them. -/
theorem manual_confirmed
    (tried : PendingWrite.stage event (.ofManual manual) cache = .ok pending)
    (echoes : Echoes manual json) :
    (pending.confirmed json).manual = manual.onWire := by
  rw [← confirmed_eq]
  obtain nothing | ⟨plain, carried⟩ := echoes
  · rw [confirmed_of_nil nothing, manual_staged tried]
  unfold Store.confirmed
  split
  · exact manual_staged tried
  cases stored : Document.ofStored (.obj (Document.unwrapFields json)) with
  | error problem => exact manual_staged tried
  | ok document =>
      rw [Document.ofStored_eq_ok, plain.unwrapFields] at stored
      have read := (Document.read_eq_value.mp stored).1
      rw [Document.manualIn, Reading.optional_of_get carried,
        Reading.inside_eq_value] at read
      exact Reading.value.inj (read.symm.trans (ManualState.read_onWire manual))

end Confirming

section Writes

variable {event : String} {registry later : Registry}
variable {search filters search' filters' : Json} {first second : ManualState}
variable {document : Document} {said : Talk}

/-- What was noted after a write that succeeded equals what was written, whether
it was sent or skipped. -/
theorem noted_after_write (recalled : (registry.cache.manual event).WellKeyed)
    (shows : (shown event registry).WellKeyed) (keyed : first.WellKeyed)
    (finite : first.toJson.isFinite)
    (normal : (ManualState.ofTable search filters).toExcept = .ok first)
    (ran : (Store.writeTable event search filters).Ran talks registry []
      (.ok (.ok document)) later said)
    (echoed : ∀ exchange ∈ said, ∃ json,
      Client.ended none exchange.2 = .ok json ∧ Echoes first json) :
    (later.cache.manual event).WellKeyed ∧ (shown event later).WellKeyed ∧
      (later.cache.manual event).same first = true := by
  obtain ⟨same, -, rfl, -⟩ | ⟨-, sent⟩ :=
    (alone_writeTable normal keyed shows).ran ran
  · exact ⟨recalled, shows, same⟩
  cases sent with
  | confirmed tried answer known noted kept =>
      obtain ⟨json, answer', echoes⟩ := echoed _ (List.mem_singleton_self _)
      obtain rfl := Except.ok.inj (answer.symm.trans answer')
      have own := manual_confirmed tried echoes
      rw [ManualState.onWire_of_isFinite finite] at own
      rw [noted, shown_of_known known, own]
      exact ⟨keyed, keyed, ManualState.same_self keyed fun within =>
        Bool.false_ne_true (Json.isFinite_of_within within finite)⟩

/-- After a write of finite manual filters that succeeded, and that the backend
confirmed if it was sent, other filters are skipped if and only if what would be
sent equals, as values are, what was written.  It is then the same that would be
sent if and only if the scalars in each place are of one kind. -/
theorem skipped_iff_equal_and_same_iff_one_kind
    (recalled : (registry.cache.manual event).WellKeyed)
    (shows : (shown event registry).WellKeyed)
    (keyed : filters.WellKeyed) (keyed' : filters'.WellKeyed)
    (normal : (ManualState.ofTable search filters).toExcept = .ok first)
    (normal' : (ManualState.ofTable search' filters').toExcept = .ok second)
    (finite : first.toJson.isFinite) (finite' : second.toJson.isFinite)
    (ran : (Store.writeTable event search filters).Ran talks registry []
      (.ok (.ok document)) later said)
    (echoed : ∀ exchange ∈ said, ∃ json,
      Client.ended none exchange.2 = .ok json ∧ Echoes first json) :
    (Skips event later search' filters' ↔ SameOnWire first second) ∧
      (SameWire first second ↔
        Skips event later search' filters' ∧ SameKinds first second) := by
  have own := ManualState.wellKeyed_of_ofTable
    (Reading.toExcept_eq_ok.mp normal) keyed
  have other := ManualState.wellKeyed_of_ofTable
    (Reading.toExcept_eq_ok.mp normal') keyed'
  obtain ⟨noted, shows, same⟩ :=
    noted_after_write recalled shows own finite normal ran echoed
  have equal : SameOnWire first second ↔ first.same second = true := by
    rw [ManualState.same_iff own other, SameOnWire,
      Json.onWire_of_isFinite _ finite, Json.onWire_of_isFinite _ finite']
  have skips : Skips event later search' filters' ↔ SameOnWire first second := by
    rw [skips_iff normal' other shows, equal]
    exact ⟨ManualState.same_trans own noted other
        (ManualState.same_symm noted own same),
      ManualState.same_trans noted own other same⟩
  refine ⟨skips, ?_⟩
  rw [skips, sameWire_iff]

end Writes

section Kinds

/-- One filter of the table, with that value. -/
def filtering (value : Json) : Json :=
  .arr
    [ .obj
        [ ("label", .str "Attended"), ("operation", .str "is"),
          ("value", value) ] ]

/-- Its stored form. -/
def filtered (value : Json) : ManualState :=
  { search := ""
    filters :=
      [{ label := "Attended", operation := some "is", value }] }

theorem ofTable_filtering (value : Json) :
    (ManualState.ofTable (.str "") (filtering value)).toExcept =
      .ok (filtered value) := by
  rfl

theorem wellKeyed_filtering {value : Json} (keyed : value.WellKeyed) :
    (filtering value).WellKeyed := by
  have label : (Json.str "Attended").WellKeyed := Json.wellKeyed_of_isScalar rfl
  have operation : (Json.str "is").WellKeyed := Json.wellKeyed_of_isScalar rfl
  rw [filtering, Json.wellKeyed_arr, List.forall_mem_singleton,
    Json.wellKeyed_obj]
  simp [Keyed.Distinct, label, operation, keyed]

theorem wellKeyed_filtered {value : Json} (keyed : value.WellKeyed) :
    (filtered value).WellKeyed :=
  ManualState.wellKeyed_of_ofTable
    (Reading.toExcept_eq_ok.mp (ofTable_filtering value))
    (wellKeyed_filtering keyed)

theorem recalled_unread :
    (Coherence.unread.cache.manual "event").WellKeyed :=
  ManualState.wellKeyed_empty

theorem shown_unread : (shown "event" Coherence.unread).WellKeyed :=
  ManualState.wellKeyed_empty

/-- A reply that tells nothing confirms every write. -/
def confirms (exchange : Call × Reply) : Bool :=
  (Client.ended none exchange.2).toOption.any fun json =>
    (Document.unwrapFields json).isEmpty

theorem echoes_of_confirms {exchange : Call × Reply} (manual : ManualState)
    (told : confirms exchange = true) :
    ∃ json, Client.ended none exchange.2 = .ok json ∧ Echoes manual json := by
  obtain ⟨json, answer, nothing⟩ := (Option.any_eq_true _ _).mp told
  refine ⟨json, ?_, .inl (List.isEmpty_iff.mp nothing)⟩
  cases ended : Client.ended none exchange.2 with
  | error fault =>
      rw [ended] at answer
      cases answer
  | ok json =>
      rw [ended] at answer
      cases answer
      rfl

/-- A filter for the value 1 is sent and confirmed. -/
theorem exists_written :
    ∃ document later said,
      (Store.writeTable "event" (.str "") (filtering (.int 1))).Ran talks
        Coherence.unread [] (.ok (.ok document)) later said ∧ said ≠ [] ∧
      ∀ exchange ∈ said, ∃ json, Client.ended none exchange.2 = .ok json ∧
        Echoes (filtered (.int 1)) json := by
  have keyed : (Reply.response 200 .empty).WellKeyed := by
    rintro status payload ⟨⟩ value ⟨⟩
  obtain ⟨result, later, said, ran, good⟩ := Flow.exists_ran
    (telling (.response 200 .empty))
    (Store.writeTable "event" (.str "") (filtering (.int 1))) Coherence.unread []
    (fun result _ said =>
      Persistence.Succeeded result && !said.isEmpty && said.all confirms)
    (fun _ _ => talks_telling keyed _ _) (by decide +kernel)
  simp only [Bool.and_eq_true, Bool.not_eq_true', List.isEmpty_eq_false_iff,
    List.all_eq_true, Persistence.succeeded_iff] at good
  obtain ⟨⟨⟨document, rfl⟩, asked⟩, told⟩ := good
  exact ⟨document, later, said, ran, asked, fun exchange among =>
    echoes_of_confirms _ (told exchange among)⟩

/-- The same filter is skipped afterwards. -/
theorem skipped_iff_equal_and_same_iff_one_kind_of_one :
    ∃ document later said,
      (Store.writeTable "event" (.str "") (filtering (.int 1))).Ran talks
        Coherence.unread [] (.ok (.ok document)) later said ∧ said ≠ [] ∧
      Skips "event" later (.str "") (filtering (.int 1)) := by
  obtain ⟨document, later, said, ran, asked, echoed⟩ := exists_written
  have keyed : (filtering (.int 1)).WellKeyed :=
    wellKeyed_filtering (Json.wellKeyed_of_isScalar rfl)
  obtain ⟨-, same⟩ := skipped_iff_equal_and_same_iff_one_kind
    recalled_unread shown_unread keyed keyed
    (ofTable_filtering _) (ofTable_filtering _) rfl rfl ran echoed
  exact ⟨document, later, said, ran, asked, (same.mp (sameWire_self _)).1⟩

/-- The value true is sent otherwise than 1. -/
theorem not_sameWire_true :
    ¬ SameWire (filtered (.int 1)) (filtered (.bool true)) := by
  intro same
  cases same with
  | scalar left => cases left
  | obj _ fields =>
      cases fields "filters" _ _ rfl rfl with
      | scalar left => cases left
      | arr _ items =>
          cases items 0 _ _ rfl rfl with
          | scalar left => cases left
          | obj _ fields =>
              cases fields "value" _ _ rfl rfl with
              | scalar _ _ alike => exact alike

/-- A filter for true is not sent after one for 1. -/
theorem true_is_skipped_after_one :
    ¬ ∀ registry search filters first search' filters' second document later
        said,
      (registry.cache.manual "event").WellKeyed →
      (shown "event" registry).WellKeyed → filters.WellKeyed →
      filters'.WellKeyed →
      (ManualState.ofTable search filters).toExcept = .ok first →
      (ManualState.ofTable search' filters').toExcept = .ok second →
      first.toJson.isFinite → second.toJson.isFinite →
      (Store.writeTable "event" search filters).Ran talks registry []
        (.ok (.ok document)) later said →
      (∀ exchange ∈ said, ∃ json,
        Client.ended none exchange.2 = .ok json ∧ Echoes first json) →
      Skips "event" later search' filters' → SameWire first second := by
  intro always
  obtain ⟨document, later, said, ran, -, echoed⟩ := exists_written
  have one : (Json.int 1).WellKeyed := Json.wellKeyed_of_isScalar rfl
  have yes : (Json.bool true).WellKeyed := Json.wellKeyed_of_isScalar rfl
  have keyed := wellKeyed_filtering one
  have keyed' := wellKeyed_filtering yes
  have own := wellKeyed_filtered one
  have other := wellKeyed_filtered yes
  obtain ⟨noted, shows, same⟩ := noted_after_write recalled_unread
    shown_unread own rfl (ofTable_filtering _) ran echoed
  have equal : (filtered (.int 1)).same (filtered (.bool true)) = true := by
    decide +kernel
  have skips : Skips "event" later (.str "") (filtering (.bool true)) :=
    (skips_iff (ofTable_filtering _) other shows).mpr
      (ManualState.same_trans noted own other same equal)
  exact not_sameWire_true (always Coherence.unread (.str "") _ _ (.str "") _ _
    document later said recalled_unread shown_unread keyed keyed'
    (ofTable_filtering _) (ofTable_filtering _) rfl rfl ran echoed
    skips)

end Kinds

end Deduplication
end Audience
