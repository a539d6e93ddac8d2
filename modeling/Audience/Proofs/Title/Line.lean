import Audience.Proofs.Text.Ends
import Audience.Title

/-!
# A title is one line

However a text is wrapped and spaced, its title is a single line of limited length:
the only blanks are single spaces inside it.  The cut may fall inside a word or next
to a space; what it leaves is a line again.
-/

namespace Audience
namespace Text

variable {chars : List Char}

/-- Every blank is a space that stands alone between two other characters. -/
def SingleSpaced (chars : List Char) : Prop :=
  ∀ front blank back, chars = front ++ blank :: back → isBlank blank = true →
    blank = ' ' ∧ (∃ before ∈ front.getLast?, isBlank before = false) ∧
      ∃ after ∈ back.head?, isBlank after = false

theorem trimmed_line {given : List (List Char)}
    (all : ∀ word ∈ given, IsWord word) : Trimmed isBlank (line given) := by
  rw [← oneLine_line all]
  exact trimmed_trimBy isBlank _

theorem exists_first_of_line {given : List (List Char)}
    (all : ∀ word ∈ given, IsWord word) (some : given ≠ []) :
    ∃ first ∈ (line given).head?, isBlank first = false := by
  cases shown : line given with
  | nil => exact absurd ((line_eq_nil_iff all).mp shown) some
  | cons first rest =>
      refine ⟨first, rfl, (trimmed_line all).first first ?_⟩
      rw [shown]
      rfl

theorem IsWord.exists_last {word : List Char} (isWord : IsWord word) :
    ∃ last ∈ word.getLast?, isBlank last = false :=
  ⟨_, List.getLast?_eq_some_getLast isWord.nonempty,
    isWord.plain _ (List.getLast_mem isWord.nonempty)⟩

/-- Between two words of a line is one space, and there is no blank elsewhere. -/
theorem singleSpaced_line {given : List (List Char)}
    (all : ∀ word ∈ given, IsWord word) : SingleSpaced (line given) := by
  induction given with
  | nil =>
      intro front blank back split
      simp at split
  | cons word rest ih =>
      have isWord := all word List.mem_cons_self
      have others : ∀ other ∈ rest, IsWord other :=
        fun other member => all other (.tail _ member)
      intro front blank back split isBlank
      have outside : blank ∉ word := by
        intro member
        rw [isWord.plain blank member] at isBlank
        cases isBlank
      by_cases none : rest = []
      · rw [none, line_singleton] at split
        simp [split] at outside
      · rw [line_cons none] at split
        obtain ⟨gap, rfl, apart⟩ | ⟨more, rfl, apart⟩ :=
          List.append_eq_append_iff.mp split
        · cases gap with
          | nil =>
              obtain ⟨rfl, rfl⟩ := List.cons.inj apart
              rw [List.append_nil]
              exact ⟨rfl, isWord.exists_last, exists_first_of_line others none⟩
          | cons space later =>
              obtain ⟨rfl, inside⟩ := List.cons.inj apart
              obtain ⟨same, ⟨before, last, visible⟩, after⟩ :=
                ih others later blank back inside isBlank
              refine ⟨same, ⟨before, ?_, visible⟩, after⟩
              rw [List.getLast?_append_cons]
              exact List.mem_getLast?_cons last
        · cases more with
          | nil =>
              obtain ⟨rfl, rfl⟩ := List.cons.inj apart
              rw [List.append_nil] at isWord
              exact ⟨rfl, isWord.exists_last, exists_first_of_line others none⟩
          | cons first more =>
              obtain ⟨rfl, -⟩ := List.cons.inj apart
              simp at outside

theorem singleSpaced_oneLine (chars : List Char) :
    SingleSpaced (oneLine chars) := by
  rw [oneLine_eq]
  exact singleSpaced_line fun _ => isWord_of_mem_words

/-- The beginning of a text with collapsed blanks has collapsed blanks. -/
theorem collapseFrom_take (inRun : Bool) (chars : List Char) (count : Nat) :
    collapseFrom inRun ((collapseFrom inRun chars).take count) =
      (collapseFrom inRun chars).take count := by
  induction chars generalizing inRun count with
  | nil => simp [collapseFrom]
  | cons char rest ih =>
      cases count with
      | zero => simp [collapseFrom]
      | succ count =>
          cases blank : isBlank char with
          | true =>
              cases inRun with
              | true => simpa [collapseFrom, blank] using ih true (count + 1)
              | false => simp [collapseFrom, blank, isBlank_space, ih]
          | false => simp [collapseFrom, blank, ih]

/-- To trim the beginning of a line is to put it on one line. -/
theorem trim_take_oneLine (chars : List Char) (count : Nat) :
    trim ((oneLine chars).take count) = oneLine ((oneLine chars).take count) := by
  rw [oneLine_eq_collapse chars]
  show _ = trim (collapse ((collapse (trim chars)).take count))
  rw [show collapse ((collapse (trim chars)).take count) =
    (collapse (trim chars)).take count from collapseFrom_take false _ count]

theorem length_collapseFrom_le (inRun : Bool) (chars : List Char) :
    (collapseFrom inRun chars).length ≤ chars.length := by
  induction chars generalizing inRun with
  | nil => simp [collapseFrom]
  | cons char rest ih =>
      have shorter := ih true
      have longer := ih false
      cases blank : isBlank char <;> cases inRun <;>
        simp [collapseFrom, blank] <;> omega

theorem length_oneLine_le (chars : List Char) :
    (oneLine chars).length ≤ chars.length :=
  (trimBy_sublist isBlank _).length_le.trans (length_collapseFrom_le false chars)

end Text

namespace Title

open Text

/-- One line of limited length, with single spaces between words and no blank
elsewhere. -/
structure IsLine (title : String) : Prop where
  short : title.length ≤ maxLength
  spaces : SingleSpaced title.toList
  ends : Trimmed isBlank title.toList

/-- A line that is cut is the line of what is kept of it. -/
theorem cut_oneLine (chars : List Char) :
    cut (oneLine chars) = oneLine ((oneLine chars).take maxLength) := by
  unfold cut
  split
  case isTrue long => exact trim_take_oneLine chars maxLength
  case isFalse fits =>
    rw [List.take_of_length_le (Nat.le_of_not_lt fits), oneLine_oneLine]

theorem isLine_ofList_cut (chars : List Char) :
    IsLine (String.ofList (cut (oneLine chars))) := by
  rw [cut_oneLine]
  constructor
  · rw [String.length_ofList]
    exact (length_oneLine_le _).trans (List.length_take_le _ _)
  · rw [String.toList_ofList]
    exact singleSpaced_oneLine _
  · rw [String.toList_ofList]
    exact trimmed_trimBy isBlank _

/-- Whatever it was, a normalized title is one line. -/
theorem isLine_normalize (title : String) : IsLine (normalize title) :=
  isLine_ofList_cut _

theorem isLine_empty : IsLine "" := by
  refine ⟨by decide, fun front blank back split => ?_, nofun, nofun⟩
  simp at split

theorem isLine_ofJson (json : Json) : IsLine (ofJson json) := by
  unfold ofJson
  split
  · exact isLine_normalize _
  · exact isLine_empty

end Title
end Audience
