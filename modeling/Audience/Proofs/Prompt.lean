import Audience.Prompt
import Mathlib.Data.List.DropRight

/-!
# The words of a prompt

Two prompts count as the same exactly if they have the same words in the same
order.
-/

namespace Audience
namespace Text

/-- The words of a text: what stands between blanks. -/
def words (chars : List Char) : List (List Char) :=
  (chars.splitOnP isBlank).filter (· ≠ [])

/-- A word: something without blanks. -/
structure IsWord (word : List Char) : Prop where
  nonempty : word ≠ []
  plain : ∀ char ∈ word, isBlank char = false

theorem IsWord.concat {word : List Char} {char : Char}
    (plain : ∀ char ∈ word, isBlank char = false)
    (other : isBlank char = false) : IsWord (word ++ [char]) := by
  refine ⟨by simp, fun each member => ?_⟩
  obtain member | member := List.mem_append.mp member
  · exact plain each member
  · rwa [List.mem_singleton.mp member]

@[simp] theorem words_nil : words [] = [] := by simp [words]

/-- A blank ends a word. -/
theorem words_append_cons {first rest : List Char} {char : Char}
    (blank : isBlank char = true) :
    words (first ++ char :: rest) = words first ++ words rest := by
  simp [words, List.splitOnP_append_cons first rest blank]

theorem words_of_isWord {word : List Char} (isWord : IsWord word) :
    words word = [word] := by
  simp [words, List.splitOnP_eq_singleton isWord.plain, isWord.nonempty]

/-- Words on one line, with single spaces between them. -/
def line (words : List (List Char)) : List Char := [' '].intercalate words

@[simp] theorem line_nil : line [] = [] := rfl

@[simp] theorem line_singleton (word : List Char) : line [word] = word :=
  List.intercalate_singleton

theorem line_cons {word : List Char} {rest : List (List Char)}
    (more : rest ≠ []) : line (word :: rest) = word ++ ' ' :: line rest := by
  simp [line, List.intercalate_cons_of_ne_nil more]

theorem isBlank_space : isBlank ' ' = true := by decide

/-- The words of a line are the words that were put on it. -/
theorem words_line {given : List (List Char)}
    (all : ∀ word ∈ given, IsWord word) : words (line given) = given := by
  induction given with
  | nil => simp
  | cons word rest ih =>
      have first := words_of_isWord (all word List.mem_cons_self)
      have others := ih fun other member => all other (.tail _ member)
      by_cases more : rest = []
      · simpa [more] using first
      · rw [line_cons more, words_append_cons isBlank_space, first, others,
          List.singleton_append]

theorem line_eq_nil_iff {given : List (List Char)}
    (all : ∀ word ∈ given, IsWord word) : line given = [] ↔ given = [] := by
  refine ⟨fun empty => ?_, fun empty => by rw [empty]; rfl⟩
  rw [← words_line all, empty, words_nil]

/-- What is between blanks has none. -/
theorem isWord_of_mem_words {chars word : List Char}
    (member : word ∈ words chars) : IsWord word := by
  suffices whole : ∀ before, (∀ char ∈ before, isBlank char = false) →
      ∀ word ∈ words (before ++ chars), IsWord word from
    whole [] nofun word member
  have alone : ∀ before, (∀ char ∈ before, isBlank char = false) →
      ∀ word ∈ words before, IsWord word := by
    intro before plain word member
    by_cases none : before = []
    · simp [none] at member
    · rw [words_of_isWord ⟨none, plain⟩, List.mem_singleton] at member
      exact member ▸ ⟨none, plain⟩
  clear member
  induction chars with
  | nil =>
      intro before plain
      rw [List.append_nil]
      exact alone before plain
  | cons char rest ih =>
      intro before plain word member
      cases blank : isBlank char with
      | true =>
          rw [words_append_cons blank] at member
          obtain member | member := List.mem_append.mp member
          · exact alone before plain word member
          · exact ih [] nofun word member
      | false =>
          rw [List.append_cons] at member
          exact ih _ (IsWord.concat plain blank).plain word member

/-! ## One line -/

/-- Without the blanks at its start, a text with collapsed blanks has none
there. -/
theorem dropWhile_collapseFrom (inRun : Bool) (chars : List Char) :
    (collapseFrom inRun chars).dropWhile isBlank = collapseFrom true chars := by
  induction chars generalizing inRun with
  | nil => rfl
  | cons char rest ih =>
      cases blank : isBlank char with
      | true => cases inRun <;> simp [collapseFrom, blank, isBlank_space, ih]
      | false => simp [collapseFrom, blank]

/-- A blank is dropped from the end with the blanks behind it. -/
theorem rdropWhile_append_cons {first rest : List Char} {char : Char}
    (blank : isBlank char = true) :
    (first ++ char :: rest).rdropWhile isBlank =
      if rest.rdropWhile isBlank = [] then first.rdropWhile isBlank
      else first ++ char :: rest.rdropWhile isBlank := by
  simp only [List.rdropWhile, List.reverse_append, List.reverse_cons,
    List.append_assoc, List.dropWhile_append, List.reverse_eq_nil_iff,
    List.isEmpty_iff]
  split <;> simp [blank]

theorem IsWord.rdropWhile {word : List Char} (isWord : IsWord word) :
    word.rdropWhile isBlank = word := by
  rw [List.rdropWhile_eq_self_iff]
  intro given
  simp [isWord.plain _ (List.getLast_mem given)]

/-- Once the blanks at its end are dropped, a text with collapsed blanks is the
line of its words.  The induction carries the word that is being read. -/
theorem rdropWhile_collapseFrom (chars : List Char) :
    (collapseFrom true chars).rdropWhile isBlank = line (words chars) ∧
      ∀ word, IsWord word →
        (word ++ collapseFrom false chars).rdropWhile isBlank =
          line (words (word ++ chars)) := by
  induction chars with
  | nil =>
      refine ⟨by simp [collapseFrom], fun word isWord => ?_⟩
      simp [collapseFrom, isWord.rdropWhile, words_of_isWord isWord]
  | cons char rest ih =>
      obtain ⟨outside, inside⟩ := ih
      cases blank : isBlank char with
      | true =>
          have dropped : words (char :: rest) = words rest := by
            simpa using @words_append_cons [] rest char blank
          refine ⟨by simp [collapseFrom, blank, dropped, outside],
            fun word isWord => ?_⟩
          have collapsed : collapseFrom false (char :: rest) =
              ' ' :: collapseFrom true rest := by simp [collapseFrom, blank]
          rw [collapsed, rdropWhile_append_cons isBlank_space, outside,
            isWord.rdropWhile, words_append_cons blank, words_of_isWord isWord,
            List.singleton_append]
          have empty : line (words rest) = [] ↔ words rest = [] :=
            line_eq_nil_iff fun _ => isWord_of_mem_words
          by_cases none : words rest = []
          · simp [none]
          · rw [if_neg (empty.not.mpr none), line_cons none]
      | false =>
          refine ⟨?_, fun word isWord => ?_⟩
          · have started : IsWord ([] ++ [char]) := IsWord.concat nofun blank
            simpa [collapseFrom, blank] using inside [char] started
          · have longer := IsWord.concat isWord.plain blank
            simpa [collapseFrom, blank] using inside _ longer

/-- A text on one line is the line of its words. -/
theorem oneLine_eq (chars : List Char) : oneLine chars = line (words chars) := by
  rw [← (rdropWhile_collapseFrom chars).1, ← dropWhile_collapseFrom false]
  rfl

end Text

namespace Prompt

/-- Two prompts count as the same exactly if they have the same words. -/
theorem sameWords_iff {first second : String} :
    sameWords first second = true ↔
      Text.words first.toList = Text.words second.toList := by
  have same : sameWords first second = true ↔
      Text.oneLine first.toList = Text.oneLine second.toList := by
    simp [sameWords, canonical, String.ofList_inj]
  rw [same, Text.oneLine_eq, Text.oneLine_eq]
  constructor
  · intro same
    have back := congrArg Text.words same
    rwa [Text.words_line fun _ => Text.isWord_of_mem_words,
      Text.words_line fun _ => Text.isWord_of_mem_words] at back
  · exact congrArg Text.line

end Prompt
end Audience
