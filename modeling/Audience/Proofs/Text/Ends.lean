import Audience.Proofs.Prompt

/-!
# The ends of a text

Trimming takes characters off both ends of a text, and putting a text on one line
changes only its blanks.  So what has no blanks begins or ends the line exactly if it
begins or ends the trimmed text.
-/

namespace Audience
namespace Text

variable {drop : Char → Bool} {chars part : List Char}

/-! ## Trimming -/

/-- Neither the first nor the last character is one to be dropped. -/
structure Trimmed (drop : Char → Bool) (chars : List Char) : Prop where
  first : ∀ char ∈ chars.head?, drop char = false
  last : ∀ char ∈ chars.getLast?, drop char = false

/-- It is enough to know one character at each end. -/
theorem trimmed_of_ends {first last : Char} (begins : [first] <+: chars)
    (ends : [last] <:+ chars) (keepsFirst : drop first = false)
    (keepsLast : drop last = false) : Trimmed drop chars := by
  rw [List.singleton_prefix_iff_head?_eq_some] at begins
  rw [List.singleton_suffix_iff_getLast?_eq_some] at ends
  constructor
  · intro char found
    rw [begins] at found
    cases found
    exact keepsFirst
  · intro char found
    rw [ends] at found
    cases found
    exact keepsLast

theorem trimBy_sublist (drop : Char → Bool) (chars : List Char) :
    (trimBy drop chars).Sublist chars :=
  (List.rdropWhile_prefix drop _).sublist.trans (List.dropWhile_sublist drop)

theorem trimmed_trimBy (drop : Char → Bool) (chars : List Char) :
    Trimmed drop (trimBy drop chars) := by
  show Trimmed drop ((chars.dropWhile drop).rdropWhile drop)
  constructor
  · intro char first
    have begins : [char] <+: (chars.dropWhile drop).rdropWhile drop :=
      List.singleton_prefix_iff_head?_eq_some.mpr first
    have kept := List.singleton_prefix_iff_head?_eq_some.mp
      (begins.trans (List.rdropWhile_prefix drop _))
    have stopped := List.head?_dropWhile_not drop chars
    rwa [kept] at stopped
  · intro char last
    obtain ⟨nonempty, rfl⟩ := List.mem_getLast?_eq_getLast last
    simpa using List.rdropWhile_last_not drop _ nonempty

theorem trimBy_eq_self_iff : trimBy drop chars = chars ↔ Trimmed drop chars := by
  constructor
  · intro same
    exact same ▸ trimmed_trimBy drop chars
  · rintro ⟨first, last⟩
    have front : chars.dropWhile drop = chars := by
      cases chars with
      | nil => rfl
      | cons char rest =>
          exact List.dropWhile_cons_of_neg (by simp [first char rfl])
    show (chars.dropWhile drop).rdropWhile drop = chars
    rw [front, List.rdropWhile_eq_self_iff]
    intro nonempty
    simp [last _ (List.getLast?_eq_some_getLast nonempty)]

theorem rdropWhile_append_of_pos {back : List Char}
    (after : ∀ char ∈ back, drop char = true) :
    (chars ++ back).rdropWhile drop = chars.rdropWhile drop := by
  induction back using List.reverseRecOn with
  | nil => rw [List.append_nil]
  | append_singleton back final ih =>
      rw [← List.append_assoc,
        List.rdropWhile_concat_pos _ _ _ (after final (by simp))]
      exact ih fun char member => after char (by simp [member])

/-- What is to be dropped around a text is dropped. -/
theorem trimBy_append {front back : List Char}
    (before : ∀ char ∈ front, drop char = true)
    (after : ∀ char ∈ back, drop char = true) :
    trimBy drop (front ++ (chars ++ back)) = trimBy drop chars := by
  show ((front ++ (chars ++ back)).dropWhile drop).rdropWhile drop =
    (chars.dropWhile drop).rdropWhile drop
  rw [List.dropWhile_append_of_pos before, List.dropWhile_append]
  split
  case isTrue empty =>
    rw [List.isEmpty_iff.mp empty, List.dropWhile_eq_nil_iff.mpr after]
  case isFalse => exact rdropWhile_append_of_pos after

/-- What holds none of the dropped characters begins what is left of a text whose
end is trimmed exactly if it begins the text. -/
theorem prefix_rdropWhile_iff (plain : ∀ char ∈ part, drop char = false) :
    part <+: chars.rdropWhile drop ↔ part <+: chars := by
  refine ⟨fun begins => begins.trans (List.rdropWhile_prefix drop _), ?_⟩
  induction chars using List.reverseRecOn with
  | nil => exact id
  | append_singleton front char ih =>
      intro begins
      cases dropped : drop char with
      | false => rwa [List.rdropWhile_concat_neg _ _ _ (by simp [dropped])]
      | true =>
          rw [List.rdropWhile_concat_pos _ _ _ dropped]
          obtain rfl | shorter := List.prefix_concat_iff.mp begins
          · simp [plain char (by simp)] at dropped
          · exact ih shorter

/-! ## One line -/

theorem words_dropWhile (chars : List Char) :
    words (chars.dropWhile isBlank) = words chars := by
  induction chars with
  | nil => rfl
  | cons char rest ih =>
      cases blank : isBlank char with
      | false => rw [List.dropWhile_cons_of_neg (by simp [blank])]
      | true =>
          rw [List.dropWhile_cons_of_pos blank, ih]
          simpa using (@words_append_cons [] rest char blank).symm

theorem words_rdropWhile (chars : List Char) :
    words (chars.rdropWhile isBlank) = words chars := by
  induction chars using List.reverseRecOn with
  | nil => rfl
  | append_singleton front char ih =>
      cases blank : isBlank char with
      | false => rw [List.rdropWhile_concat_neg _ _ _ (by simp [blank])]
      | true =>
          rw [List.rdropWhile_concat_pos _ _ _ blank, ih,
            words_append_cons blank, words_nil, List.append_nil]

/-- Trimming leaves the words. -/
theorem words_trim (chars : List Char) : words (trim chars) = words chars := by
  show words ((chars.dropWhile isBlank).rdropWhile isBlank) = words chars
  rw [words_rdropWhile, words_dropWhile]

/-- What is trimmed away entirely is blank. -/
theorem trim_eq_nil_iff :
    trim chars = [] ↔ ∀ char ∈ chars, isBlank char = true := by
  show (chars.dropWhile isBlank).rdropWhile isBlank = [] ↔ _
  rw [List.rdropWhile_eq_nil_iff]
  constructor
  · intro blank
    have none : chars.dropWhile isBlank = [] := by
      by_contra some
      have stopped := List.head_dropWhile_not isBlank some
      simp [blank _ (List.head_mem some)] at stopped
    exact List.dropWhile_eq_nil_iff.mp none
  · exact fun blank char member =>
      blank char ((List.dropWhile_sublist isBlank).subset member)

/-- Collapsing blanks changes nothing about words at the beginning. -/
theorem prefix_collapse_iff (plain : ∀ char ∈ part, isBlank char = false) :
    part <+: collapse chars ↔ part <+: chars := by
  induction chars generalizing part with
  | nil => rfl
  | cons char rest ih =>
      cases part with
      | nil => simp
      | cons first more =>
          have visible := plain first List.mem_cons_self
          have later := ih fun other member => plain other (.tail _ member)
          cases blank : isBlank char with
          | true =>
              have noSpace : first ≠ ' ' := by
                rintro rfl
                simp [isBlank_space] at visible
              have noBlank : first ≠ char := by
                rintro rfl
                simp [blank] at visible
              simp [collapse, collapseFrom, blank, List.cons_prefix_cons, noSpace,
                noBlank]
          | false =>
              simpa [collapse, collapseFrom, blank, List.cons_prefix_cons]
                using fun _ => later

/-- A text without blanks is left as it is, and nothing else becomes it. -/
theorem collapse_eq_iff (plain : ∀ char ∈ part, isBlank char = false) :
    collapse chars = part ↔ chars = part := by
  induction chars generalizing part with
  | nil => rfl
  | cons char rest ih =>
      cases blank : isBlank char with
      | true =>
          have noSpace : ' ' :: collapseFrom true rest ≠ part := by
            rintro rfl
            simpa [isBlank_space] using plain ' ' List.mem_cons_self
          have noBlank : char :: rest ≠ part := by
            rintro rfl
            simpa [blank] using plain char List.mem_cons_self
          simp [collapse, collapseFrom, blank, noSpace, noBlank]
      | false =>
          cases part with
          | nil => simp [collapse, collapseFrom, blank]
          | cons first more =>
              have later := ih fun other member => plain other (.tail _ member)
              simpa [collapse, collapseFrom, blank] using fun _ => later

/-- Nor does it at the end, whatever comes before. -/
theorem suffix_collapseFrom_iff (inRun : Bool)
    (plain : ∀ char ∈ part, isBlank char = false) :
    part <:+ collapseFrom inRun chars ↔ part <:+ chars := by
  induction chars generalizing inRun with
  | nil => rfl
  | cons char rest ih =>
      cases blank : isBlank char with
      | true =>
          have noSpace : part ≠ ' ' :: collapseFrom true rest := by
            rintro rfl
            simpa [isBlank_space] using plain ' ' List.mem_cons_self
          have noBlank : part ≠ char :: rest := by
            rintro rfl
            simpa [blank] using plain char List.mem_cons_self
          cases inRun <;>
            simp [collapseFrom, blank, List.suffix_cons_iff, ih, noSpace, noBlank]
      | false =>
          have whole : part = char :: collapseFrom false rest ↔
              part = char :: rest := by
            have same := @collapse_eq_iff (char :: rest) part plain
            simpa [collapse, collapseFrom, blank, eq_comm] using same
          cases inRun <;>
            simp [collapseFrom, blank, List.suffix_cons_iff, ih, whole]

/-- A trimmed text is trimmed still when its blanks are collapsed. -/
theorem trimmed_collapse (trimmed : Trimmed isBlank chars) :
    Trimmed isBlank (collapse chars) := by
  constructor
  · cases chars with
    | nil => exact trimmed.first
    | cons char rest =>
        have visible := trimmed.first char rfl
        simp [collapse, collapseFrom, visible]
  · cases given : chars.getLast? with
    | none =>
        obtain rfl := List.getLast?_eq_none_iff.mp given
        exact trimmed.last
    | some final =>
        have visible := trimmed.last final given
        have ends : [final] <:+ chars :=
          List.singleton_suffix_iff_getLast?_eq_some.mpr given
        have kept : [final] <:+ collapse chars :=
          (suffix_collapseFrom_iff false (by simpa using visible)).mpr ends
        intro char last
        rw [List.singleton_suffix_iff_getLast?_eq_some.mp kept] at last
        cases last
        exact visible

/-- A line of words is on one line already. -/
theorem oneLine_line {given : List (List Char)}
    (all : ∀ word ∈ given, IsWord word) : oneLine (line given) = line given := by
  rw [oneLine_eq, words_line all]

/-- To put a text on one line twice is to do it once. -/
theorem oneLine_oneLine (chars : List Char) :
    oneLine (oneLine chars) = oneLine chars := by
  rw [oneLine_eq chars, oneLine_line fun _ => isWord_of_mem_words]

/-- To put a text on one line, it may be trimmed first. -/
theorem oneLine_trim (chars : List Char) :
    oneLine (trim chars) = oneLine chars := by
  rw [oneLine_eq, oneLine_eq, words_trim]

theorem oneLine_eq_collapse (chars : List Char) :
    oneLine chars = collapse (trim chars) := by
  rw [← oneLine_trim]
  exact trimBy_eq_self_iff.mpr (trimmed_collapse (trimmed_trimBy isBlank chars))

/-- Only blanks have no words. -/
theorem words_eq_nil_iff :
    words chars = [] ↔ ∀ char ∈ chars, isBlank char = true := by
  have empty := line_eq_nil_iff fun _ => @isWord_of_mem_words chars _
  rw [← empty, ← oneLine_eq, oneLine_eq_collapse, collapse_eq_iff (by simp),
    trim_eq_nil_iff]

theorem prefix_oneLine_iff (plain : ∀ char ∈ part, isBlank char = false) :
    part <+: oneLine chars ↔ part <+: trim chars := by
  rw [oneLine_eq_collapse, prefix_collapse_iff plain]

theorem suffix_oneLine_iff (plain : ∀ char ∈ part, isBlank char = false) :
    part <:+ oneLine chars ↔ part <:+ trim chars := by
  rw [oneLine_eq_collapse]
  exact suffix_collapseFrom_iff false plain

end Text
end Audience
