import Audience.Client

/-!
# Paths of calls

The identifiers of an event and of a saved segment are put into a path as they are.
The path ends at the first question mark or hash, so a mark in an identifier cuts
off what comes after it: then the path of another resource is the same.
-/

namespace Audience
namespace Client

open Address (Reference)

/-! ## Text up to a mark -/

/-- What stands before the first mark that ends a path. -/
def untilMark (text : List Char) : List Char :=
  text.takeWhile fun char => !Reference.endsPath char

/-- There is a mark that ends a path. -/
def Marked (text : List Char) : Prop :=
  text.any Reference.endsPath = true

instance (text : List Char) : Decidable (Marked text) :=
  inferInstanceAs (Decidable (_ = true))

variable {front back text : List Char}

theorem untilMark_append (unmarked : ¬ Marked front) :
    untilMark (front ++ back) = front ++ untilMark back := by
  apply List.takeWhile_append_of_pos
  intro char member
  simpa using fun ends => unmarked (List.any_eq_true.mpr ⟨char, member, ends⟩)

theorem untilMark_append_of_marked (marked : Marked front) :
    untilMark (front ++ back) = untilMark front := by
  induction front with
  | nil => simp [Marked] at marked
  | cons char rest ih =>
      by_cases ends : Reference.endsPath char = true
      · simp [untilMark, ends]
      · have later : Marked rest := by simpa [Marked, ends] using marked
        simpa [untilMark, ends] using ih later

theorem untilMark_eq_self (unmarked : ¬ Marked text) : untilMark text = text := by
  have whole := @untilMark_append _ [] unmarked
  rwa [List.append_nil, show untilMark [] = [] from rfl, List.append_nil] at whole

/-- A text without a slash has none before a mark either. -/
theorem untilMark_ne {rest : List Char} (plain : '/' ∉ text) :
    untilMark text ≠ front ++ '/' :: rest := by
  intro same
  apply plain
  apply List.takeWhile_subset fun char => !Reference.endsPath char
  rw [← untilMark, same]
  simp

/-- Texts without a slash are found again before the first one. -/
theorem append_slash_inj {first second rest rest' : List Char}
    (plain : '/' ∉ first) (plain' : '/' ∉ second) :
    first ++ '/' :: rest = second ++ '/' :: rest' ↔
      first = second ∧ rest = rest' := by
  have before {text more : List Char} (plain : '/' ∉ text) :
      (text ++ '/' :: more).takeWhile (· ≠ '/') = text := by
    rw [List.takeWhile_append_of_pos]
    · simp
    · intro char member
      simp only [decide_eq_true_eq]
      rintro rfl
      exact plain member
  constructor
  · intro same
    have fronts : first = second := by
      rw [← @before first rest plain, same, before plain']
    subst fronts
    simpa using same
  · rintro ⟨rfl, rfl⟩
    rfl

/-! ## Paths -/

theorem toList_pathOf (event suffix : String) :
    (pathOf event suffix).toList =
      "/events/".toList ++ (event.toList ++ ("/crm/".toList ++ suffix.toList)) := by
  simp [pathOf]

/-- The path that is seen of a text. -/
def seen (text : String) : List Char := untilMark text.toList

theorem seen_pathOf (event suffix : String) :
    seen (pathOf event suffix) =
      "/events/".toList ++
        if Marked event.toList then untilMark event.toList
        else event.toList ++ '/' :: ("crm/".toList ++ untilMark suffix.toList) := by
  rw [seen, toList_pathOf, untilMark_append (by decide)]
  congr 1
  split
  · exact untilMark_append_of_marked (by assumption)
  · rw [untilMark_append (by assumption), untilMark_append (by decide)]
    rfl

theorem seen_segmentSuffix (segment : String) :
    seen (segmentSuffix segment) =
      "saved-segments/".toList ++ untilMark segment.toList := by
  rw [seen, segmentSuffix, String.toList_append, untilMark_append (by decide)]

/-- Two paths are seen as the same if and only if the events are the same up to a
mark, both with or both without one, and without one so are the suffixes. -/
theorem seen_pathOf_eq_iff {event event' : String} (plain : '/' ∉ event.toList)
    (plain' : '/' ∉ event'.toList) (suffix suffix' : String) :
    seen (pathOf event suffix) = seen (pathOf event' suffix') ↔
      untilMark event.toList = untilMark event'.toList ∧
        (Marked event.toList ↔ Marked event'.toList) ∧
        (¬ Marked event.toList → seen suffix = seen suffix') := by
  rw [seen_pathOf, seen_pathOf, List.append_cancel_left_eq]
  by_cases marked : Marked event.toList <;>
    by_cases marked' : Marked event'.toList
  · simp [marked, marked']
  · simp [marked, marked', untilMark_ne plain]
  · simp [marked, marked', (untilMark_ne plain').symm]
  · rw [if_neg marked, if_neg marked', append_slash_inj plain plain',
      untilMark_eq_self marked, untilMark_eq_self marked']
    simp [marked, marked', seen]

/-! ## Calls -/

theorem parse_pathOf {event suffix : String} {reference : Reference}
    (parsed : Reference.parse (pathOf event suffix) = .ok reference) :
    reference.isFull = false ∧
      reference.path = Address.encode Address.isPathChar
        (seen (pathOf event suffix)) := by
  obtain ⟨rest, chars⟩ : ∃ rest,
      (pathOf event suffix).toList = '/' :: 'e' :: rest := by
    rw [toList_pathOf]
    exact ⟨_, rfl⟩
  have scheme : Reference.splitScheme ('/' :: 'e' :: rest) =
      ([], '/' :: 'e' :: rest) := by
    simp [Reference.splitScheme, Reference.isSchemeChar]
  have authority : Reference.splitAuthority ('/' :: 'e' :: rest) =
      ([], '/' :: 'e' :: rest) := by
    rfl
  have nobody : Reference.splitAtLast '@' [] = ([], []) := rfl
  have nowhere : Reference.splitNumber [] = ([], []) := rfl
  have unnumbered : Reference.number? [] [] = .ok none := rfl
  simp only [Reference.parse, chars, scheme, authority, nobody, nowhere, unnumbered,
    List.isEmpty_nil, if_true, Bool.not_true, Bool.or_self, Option.isSome_none,
    Bool.not_false, Bool.true_and, bind, Except.bind, throw, throwThe,
    MonadExceptOf.throw, pure, Except.pure, Bool.false_eq_true, if_false] at parsed
  split at parsed
  · cases parsed
  · split at parsed
    · cases parsed
    · split at parsed
      · cases parsed
      · cases parsed
        rw [seen, untilMark, chars]
        exact ⟨rfl, rfl⟩

/-- The path below a service that an escaped path leads to. -/
def below (service : Address) (path : List Char) : String :=
  Address.seenPath (Address.resolveDots
    (service.path.toList ++ '/' ::
      (Address.encode Address.isPathChar path).dropWhile (· == '/')))

theorem path_of_resolve {service address : Address} {event suffix : String}
    (resolved : service.resolve (pathOf event suffix) = .ok address) :
    address.path = below service (seen (pathOf event suffix)) := by
  unfold Address.resolve at resolved
  cases parsed : Reference.parse (pathOf event suffix) with
  | error misuse =>
      rw [parsed] at resolved
      cases resolved
  | ok reference =>
      obtain ⟨relative, path⟩ := parse_pathOf parsed
      rw [parsed] at resolved
      simp only [bind, Except.bind, relative, path, Bool.false_eq_true, if_false,
        throw, throwThe, MonadExceptOf.throw, pure, Except.pure] at resolved
      split at resolved
      · cases resolved
      · cases resolved
        rfl

/-- Where a call goes depends on its path up to a mark alone. -/
theorem path_of_call {client : Client} {method event suffix : String}
    {body : Option Json} {call : Call}
    (made : client.call method (pathOf event suffix) body = .ok call) :
    call.path = below client.service (seen (pathOf event suffix)) := by
  unfold Client.call at made
  cases resolved : client.service.resolve (pathOf event suffix) with
  | error misuse =>
      rw [resolved] at made
      cases made
  | ok address =>
      rw [resolved] at made
      cases sendable : body.forM Json.ensureSendable with
      | error misuse =>
          simp only [bind, Except.bind, sendable] at made
          cases made
      | ok _ =>
          simp only [bind, Except.bind, sendable] at made
          cases made
          exact path_of_resolve resolved

/-! ## Identifiers -/

/-- A text without a mark is all that is seen of it. -/
theorem untilMark_inj {first second : String} (unmarked : ¬ Marked first.toList)
    (unmarked' : ¬ Marked second.toList) :
    untilMark first.toList = untilMark second.toList ↔ first = second := by
  rw [untilMark_eq_self unmarked, untilMark_eq_self unmarked', String.toList_inj]

/-- The events have no slash in them.  The paths of two of their resources of one
name are seen as the same if and only if the events are the same up to a mark, both
with or both without one; so are those of two saved segments, which besides have to
be the same up to a mark if there is none in the events.  Without any mark the paths
tell events and segments apart.  Calls whose paths are seen as the same go to the
same place. -/
theorem paths_meet_iff {event event' : String} (plain : '/' ∉ event.toList)
    (plain' : '/' ∉ event'.toList) :
    (∀ suffix, seen (pathOf event suffix) = seen (pathOf event' suffix) ↔
      untilMark event.toList = untilMark event'.toList ∧
        (Marked event.toList ↔ Marked event'.toList)) ∧
    (∀ segment segment',
      seen (pathOf event (segmentSuffix segment)) =
          seen (pathOf event' (segmentSuffix segment')) ↔
        untilMark event.toList = untilMark event'.toList ∧
          (Marked event.toList ↔ Marked event'.toList) ∧
          (¬ Marked event.toList →
            untilMark segment.toList = untilMark segment'.toList)) ∧
    (¬ Marked event.toList → ¬ Marked event'.toList →
      (∀ suffix, seen (pathOf event suffix) = seen (pathOf event' suffix) ↔
        event = event') ∧
      ∀ segment segment', ¬ Marked segment.toList → ¬ Marked segment'.toList →
        (seen (pathOf event (segmentSuffix segment)) =
            seen (pathOf event' (segmentSuffix segment')) ↔
          event = event' ∧ segment = segment')) ∧
    ∀ (client : Client) method method' suffix suffix' body body' call call',
      client.call method (pathOf event suffix) body = .ok call →
      client.call method' (pathOf event' suffix') body' = .ok call' →
      seen (pathOf event suffix) = seen (pathOf event' suffix') →
        call.path = call'.path := by
  have resources (suffix : String) :
      seen (pathOf event suffix) = seen (pathOf event' suffix) ↔
        untilMark event.toList = untilMark event'.toList ∧
          (Marked event.toList ↔ Marked event'.toList) := by
    rw [seen_pathOf_eq_iff plain plain']
    simp
  have segments (segment segment' : String) :
      seen (pathOf event (segmentSuffix segment)) =
          seen (pathOf event' (segmentSuffix segment')) ↔
        untilMark event.toList = untilMark event'.toList ∧
          (Marked event.toList ↔ Marked event'.toList) ∧
          (¬ Marked event.toList →
            untilMark segment.toList = untilMark segment'.toList) := by
    rw [seen_pathOf_eq_iff plain plain', seen_segmentSuffix, seen_segmentSuffix,
      List.append_cancel_left_eq]
  refine ⟨resources, segments, fun unmarked unmarked' => ⟨?_, ?_⟩, ?_⟩
  · intro suffix
    rw [resources, untilMark_inj unmarked unmarked']
    simp [unmarked, unmarked']
  · intro segment segment' bare bare'
    rw [segments, untilMark_inj unmarked unmarked', untilMark_inj bare bare']
    simp [unmarked, unmarked']
  · intro client method method' suffix suffix' body body' call call' made made' same
    rw [path_of_call made, path_of_call made', same]

/-- Two events have paths of their own, and so have their segments of one name. -/
theorem paths_meet_iff_of_two_events :
    ('/' ∉ "evt_1".toList ∧ '/' ∉ "evt_2".toList) ∧
      seen (pathOf "evt_1" "filters") ≠ seen (pathOf "evt_2" "filters") ∧
      seen (pathOf "evt_1" (segmentSuffix "seg_1")) ≠
        seen (pathOf "evt_2" (segmentSuffix "seg_1")) := by
  have plain : '/' ∉ "evt_1".toList ∧ '/' ∉ "evt_2".toList := by decide
  obtain ⟨-, -, apart, -⟩ := paths_meet_iff plain.1 plain.2
  obtain ⟨resources, segments⟩ := apart (by decide) (by decide)
  refine ⟨plain, ?_, ?_⟩
  · rw [ne_eq, resources]
    decide
  · rw [ne_eq, segments _ _ (by decide) (by decide)]
    decide

/-- A question mark in the identifier of a segment cuts off the rest of it. -/
theorem marked_segment_meets_another :
    ¬ ∀ event event' segment segment' : String,
      event ≠ "" → event' ≠ "" → segment ≠ "" → segment' ≠ "" →
      '/' ∉ event.toList → '/' ∉ event'.toList →
      '/' ∉ segment.toList → '/' ∉ segment'.toList →
      seen (pathOf event (segmentSuffix segment)) =
        seen (pathOf event' (segmentSuffix segment')) →
      event = event' ∧ segment = segment' := by
  intro always
  have same := always "evt_1" "evt_1" "seg_1?x" "seg_1" (by decide) (by decide)
    (by decide) (by decide) (by decide) (by decide) (by decide) (by decide)
    (by decide)
  exact absurd same.2 (by decide)

end Client
end Audience
