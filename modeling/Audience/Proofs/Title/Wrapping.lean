import Audience.Proofs.Title.Line
import Mathlib.Logic.Function.Iterate

/-!
# What a title was wrapped in

A suggested title may come in a code fence and in quotes.  Each wrapper is taken off
once, in a fixed order, and the rest is put on one line and cut.  What comes to light
only by a later step stays: a quote inside other quotes, a fence inside quotes or
inside a fence, a wrapper behind blanks inside quotes, and whatever the cut leaves at
the end.  A title is unwrapped exactly if nothing of this kind is left, and it is left
if the title is normalized often enough.
-/

namespace Audience
namespace Title

open Text

variable {chars : List Char}

/-! ## Wrappers -/

/-- What a title may be wrapped in. -/
def wrappers : List (List Char) := [fence, ['"'], ['\'']]

/-- There is a wrapper at the beginning. -/
def Opens (chars : List Char) : Prop := ∃ wrapper ∈ wrappers, wrapper <+: chars

/-- There is a wrapper at the end. -/
def Closes (chars : List Char) : Prop := ∃ wrapper ∈ wrappers, wrapper <:+ chars

instance (chars : List Char) : Decidable (Opens chars) :=
  inferInstanceAs (Decidable (∃ wrapper ∈ wrappers, wrapper <+: chars))

instance (chars : List Char) : Decidable (Closes chars) :=
  inferInstanceAs (Decidable (∃ wrapper ∈ wrappers, wrapper <:+ chars))

/-- There is a text inside a pair of quotes. -/
def Enclosed (quote : Char) (chars : List Char) : Prop :=
  ∃ inner, chars = quote :: inner ++ [quote]

theorem plain_of_wrapper {wrapper : List Char} (wraps : wrapper ∈ wrappers) :
    ∀ char ∈ wrapper, isBlank char = false := by
  have plain : ∀ wrapper ∈ wrappers, wrapper.all (! isBlank ·) = true := by decide
  simpa using plain wrapper wraps

theorem length_wrapper_le {wrapper : List Char} (wraps : wrapper ∈ wrappers) :
    wrapper.length ≤ maxLength := by
  revert wrapper
  decide

theorem opens_iff : Opens chars ↔
    fence <+: chars ∨ ['"'] <+: chars ∨ ['\''] <+: chars := by
  simp [Opens, wrappers]

theorem closes_iff : Closes chars ↔
    fence <:+ chars ∨ ['"'] <:+ chars ∨ ['\''] <:+ chars := by
  simp [Closes, wrappers]

/-! ## Taking wrappers off -/

theorem length_dropOpeningFence_lt (opens : fence <+: chars) :
    (dropOpeningFence chars).length < chars.length := by
  have short : (chars.drop 3).length < chars.length := by
    have long := opens.length_le
    simp [fence] at long
    simp
    omega
  have rest := ((List.dropWhile_sublist isLetter).length_le).trans_lt short
  unfold dropOpeningFence
  rw [if_pos (List.isPrefixOf_iff_prefix.mpr opens)]
  split
  · rename_i split
    rw [split, List.length_cons] at rest
    omega
  · exact rest

theorem dropOpeningFence_of_not (closed : ¬ fence <+: chars) :
    dropOpeningFence chars = chars :=
  if_neg (List.isPrefixOf_iff_prefix.not.mpr closed)

theorem dropOpeningFence_eq_self_iff :
    dropOpeningFence chars = chars ↔ ¬ fence <+: chars := by
  refine ⟨fun same opens => ?_, dropOpeningFence_of_not⟩
  have shorter := length_dropOpeningFence_lt opens
  rw [same] at shorter
  exact Nat.lt_irrefl _ shorter

theorem dropOpeningFence_sublist (chars : List Char) :
    (dropOpeningFence chars).Sublist chars := by
  have rest : ((chars.drop 3).dropWhile isLetter).Sublist chars :=
    (List.dropWhile_sublist isLetter).trans (List.drop_sublist 3 chars)
  unfold dropOpeningFence
  split
  · split
    · rename_i split
      rw [split] at rest
      exact (List.sublist_cons_self _ _).trans rest
    · exact rest
  · exact List.Sublist.refl chars

theorem dropClosingFence_eq_self_iff :
    dropClosingFence chars = chars ↔ ¬ fence <:+ chars := by
  unfold dropClosingFence
  rw [← List.isSuffixOf_iff_suffix]
  constructor
  · intro same closes
    rw [if_pos closes] at same
    have long := (List.isSuffixOf_iff_suffix.mp closes).length_le
    have shorter := congrArg List.length same
    simp [fence] at long shorter
    omega
  · exact fun opens => if_neg opens

theorem dropClosingFence_sublist (chars : List Char) :
    (dropClosingFence chars).Sublist chars := by
  unfold dropClosingFence
  split
  · exact List.take_sublist _ _
  · exact List.Sublist.refl chars

theorem trimBy_quote_eq_self_iff {quote : Char} :
    trimBy (· == quote) chars = chars ↔
      ¬ [quote] <+: chars ∧ ¬ [quote] <:+ chars := by
  rw [trimBy_eq_self_iff, List.singleton_prefix_iff_head?_eq_some,
    List.singleton_suffix_iff_getLast?_eq_some]
  constructor
  · intro trimmed
    exact ⟨fun first => by simpa using trimmed.first quote first,
      fun last => by simpa using trimmed.last quote last⟩
  · rintro ⟨first, last⟩
    constructor
    · rintro char at_first
      exact beq_false_of_ne fun same => first (same ▸ at_first)
    · rintro char at_last
      exact beq_false_of_ne fun same => last (same ▸ at_last)

/-- The steps that take off what stands around a title. -/
def peelings : List (List Char → List Char) :=
  [trim, dropOpeningFence, dropClosingFence, trim, trimBy (· == '"'),
    trimBy (· == '\'')]

/-- What is left of a text after all these steps. -/
def peel (chars : List Char) : List Char :=
  peelings.foldl (fun text step => step text) chars

theorem normalizeChars_eq (chars : List Char) :
    normalizeChars chars = cut (oneLine (peel chars)) := by
  simp only [normalizeChars, peel, peelings, List.foldl_cons, List.foldl_nil]

theorem peeling_sublist {step : List Char → List Char}
    (peels : step ∈ peelings) (chars : List Char) :
    (step chars).Sublist chars := by
  simp only [peelings, List.mem_cons, List.not_mem_nil, or_false] at peels
  obtain rfl | rfl | rfl | rfl | rfl | rfl := peels
  · exact trimBy_sublist _ _
  · exact dropOpeningFence_sublist _
  · exact dropClosingFence_sublist _
  · exact trimBy_sublist _ _
  · exact trimBy_sublist _ _
  · exact trimBy_sublist _ _

/-- Steps that only take something off take something off together. -/
theorem foldl_sublist {steps : List (List Char → List Char)}
    (shrink : ∀ step ∈ steps, ∀ text, (step text).Sublist text)
    (chars : List Char) :
    (steps.foldl (fun text step => step text) chars).Sublist chars := by
  induction steps generalizing chars with
  | nil => exact List.Sublist.refl chars
  | cons step rest ih =>
      exact (ih (fun other member => shrink other (.tail _ member)) _).trans
        (shrink step List.mem_cons_self chars)

/-- Together they leave a text as it is exactly if each of them does. -/
theorem foldl_eq_self_iff {steps : List (List Char → List Char)}
    (shrink : ∀ step ∈ steps, ∀ text, (step text).Sublist text) :
    steps.foldl (fun text step => step text) chars = chars ↔
      ∀ step ∈ steps, step chars = chars := by
  induction steps with
  | nil => simp
  | cons step rest ih =>
      have others := fun other member => shrink other (.tail step member)
      have first := shrink step List.mem_cons_self chars
      rw [List.forall_mem_cons, List.foldl_cons]
      constructor
      · intro same
        have whole := (foldl_sublist others (step chars)).length_le
        rw [same] at whole
        have kept := first.eq_of_length_le whole
        rw [kept] at same
        exact ⟨kept, (ih others).mp same⟩
      · rintro ⟨kept, more⟩
        rw [kept]
        exact (ih others).mpr more

/-- Peeling leaves a text as it is exactly if it is trimmed and has no wrapper at
either end. -/
theorem peel_eq_self_iff :
    peel chars = chars ↔
      Trimmed isBlank chars ∧ ¬ Opens chars ∧ ¬ Closes chars := by
  unfold peel
  rw [foldl_eq_self_iff fun step peels => peeling_sublist peels]
  simp only [peelings, List.forall_mem_cons, List.not_mem_nil, IsEmpty.forall_iff,
    implies_true, and_true, dropOpeningFence_eq_self_iff,
    dropClosingFence_eq_self_iff, trimBy_quote_eq_self_iff, opens_iff, closes_iff]
  rw [show trim chars = chars ↔ Trimmed isBlank chars from trimBy_eq_self_iff]
  tauto

/-! ## Titles that are unwrapped -/

theorem length_cut_le (chars : List Char) : (cut chars).length ≤ chars.length := by
  unfold cut
  split
  · exact (trimBy_sublist isBlank _).length_le.trans (List.length_take_le' _ _)
  · exact Nat.le_refl _

theorem length_normalizeChars_le (chars : List Char) :
    (normalizeChars chars).length ≤ (peel chars).length := by
  rw [normalizeChars_eq]
  exact (length_cut_le _).trans (length_oneLine_le _)

theorem peel_sublist (chars : List Char) : (peel chars).Sublist chars :=
  foldl_sublist (fun _ => peeling_sublist) chars

/-- A line that is short enough is left as it is exactly if nothing can be peeled
off, and otherwise it becomes shorter. -/
theorem normalizeChars_line (line : oneLine chars = chars)
    (short : chars.length ≤ maxLength) :
    normalizeChars chars = chars ∧ ¬ Opens chars ∧ ¬ Closes chars ∨
      (normalizeChars chars).length < chars.length ∧
        (Opens chars ∨ Closes chars) := by
  have trimmed : Trimmed isBlank chars := line ▸ trimmed_trimBy isBlank _
  by_cases bare : peel chars = chars
  · have ends := (peel_eq_self_iff.mp bare).2
    refine .inl ⟨?_, ends⟩
    rw [normalizeChars_eq, bare, line]
    exact if_neg (Nat.not_lt.mpr short)
  · have wrapped : Opens chars ∨ Closes chars := by
      by_contra none
      rw [not_or] at none
      exact bare (peel_eq_self_iff.mpr ⟨trimmed, none⟩)
    refine .inr ⟨lt_of_le_of_lt (length_normalizeChars_le chars) ?_, wrapped⟩
    have less := (peel_sublist chars).length_le
    have other : (peel chars).length ≠ chars.length :=
      fun same => bare ((peel_sublist chars).eq_of_length same)
    omega

/-- What normalizing means to reach: there is no fence at either end of the title,
it is not in quotes, and there is nothing left to normalize. -/
structure Unwrapped (title : String) : Prop where
  opening : ¬ fence <+: (normalize title).toList
  closing : ¬ fence <:+ (normalize title).toList
  quotes : ∀ quote ∈ ['"', '\''], ¬ Enclosed quote (normalize title).toList
  settled : normalize (normalize title) = normalize title

theorem toList_normalize (title : String) :
    (normalize title).toList = normalizeChars title.toList :=
  String.toList_ofList

theorem oneLine_normalizeChars (chars : List Char) :
    oneLine (normalizeChars chars) = normalizeChars chars := by
  rw [normalizeChars_eq, cut_oneLine, oneLine_oneLine]

theorem length_normalizeChars_le_maxLength (chars : List Char) :
    (normalizeChars chars).length ≤ maxLength := by
  have short := (isLine_normalize (String.ofList chars)).short
  rwa [← String.length_toList, toList_normalize, String.toList_ofList] at short

theorem Enclosed.opens {quote : Char} (quotes : quote ∈ ['"', '\''])
    (enclosed : Enclosed quote chars) : Opens chars := by
  obtain ⟨inner, rfl⟩ := enclosed
  refine ⟨[quote], ?_, by simp⟩
  simp only [List.mem_cons, List.not_mem_nil, or_false] at quotes
  obtain rfl | rfl := quotes <;> decide

/-- A title is unwrapped and has no wrapper at either end, or it has one and becomes
shorter when it is normalized again. -/
theorem unwrapped_or_shorter (title : String) :
    Unwrapped title ∧ ¬ Opens (normalize title).toList ∧
        ¬ Closes (normalize title).toList ∨
      (normalize (normalize title)).length < (normalize title).length ∧
        (Opens (normalize title).toList ∨ Closes (normalize title).toList) := by
  have settles := normalizeChars_line (oneLine_normalizeChars title.toList)
    (length_normalizeChars_le_maxLength title.toList)
  simp only [← toList_normalize, String.length_toList] at settles
  obtain ⟨settled, opening, closing⟩ | shorter := settles
  · refine .inl ⟨⟨?_, ?_, ?_, ?_⟩, opening, closing⟩
    · exact fun begins => opening ⟨fence, List.mem_cons_self, begins⟩
    · exact fun ends => closing ⟨fence, List.mem_cons_self, ends⟩
    · exact fun quote quotes enclosed => opening (enclosed.opens quotes)
    · exact String.toList_inj.mp settled
  · exact .inr shorter

theorem unwrapped_iff {title : String} : Unwrapped title ↔
    ¬ Opens (normalize title).toList ∧ ¬ Closes (normalize title).toList := by
  obtain ⟨unwrapped, bare⟩ | ⟨shorter, wrapped⟩ := unwrapped_or_shorter title
  · exact iff_of_true unwrapped bare
  · refine iff_of_false (fun unwrapped => ?_)
      fun bare => wrapped.elim bare.1 bare.2
    rw [unwrapped.settled] at shorter
    exact Nat.lt_irrefl _ shorter

/-- Whatever is left around a title is gone once it has been normalized often
enough. -/
theorem exists_unwrapped (title : String) :
    ∃ count ≤ maxLength, Unwrapped (normalize^[count] title) := by
  suffices bounded : ∀ bound title, (normalize title).length ≤ bound →
      ∃ count ≤ bound, Unwrapped (normalize^[count] title) from
    bounded maxLength title (isLine_normalize title).short
  clear title
  intro bound
  induction bound with
  | zero =>
      intro title empty
      obtain ⟨unwrapped, -⟩ | ⟨shorter, -⟩ := unwrapped_or_shorter title
      · exact ⟨0, Nat.le_refl 0, unwrapped⟩
      · omega
  | succ bound ih =>
      intro title short
      obtain ⟨unwrapped, -⟩ | ⟨shorter, -⟩ := unwrapped_or_shorter title
      · exact ⟨0, Nat.zero_le _, unwrapped⟩
      · obtain ⟨count, few, unwrapped⟩ := ih (normalize title) (by omega)
        exact ⟨count + 1, Nat.succ_le_succ few, unwrapped⟩

/-! ## What stays around a title -/

/-- What stands between the wrappers of a text. -/
def content (chars : List Char) : List Char := trim (peel chars)

/-- The beginning of a line that is as long as a title may be. -/
def kept (chars : List Char) : List Char := (oneLine chars).take maxLength

/-- The beginning of a trimmed text is trimmed at its beginning. -/
theorem dropWhile_take {count : Nat} (trimmed : Trimmed isBlank chars) :
    (chars.take count).dropWhile isBlank = chars.take count := by
  cases chars with
  | nil => simp
  | cons char rest =>
      cases count with
      | zero => simp
      | succ count =>
          have visible := trimmed.first char rfl
          simp [visible]

/-- The cut does not change what a text begins with. -/
theorem opens_cut_iff : Opens (cut (oneLine chars)) ↔ Opens (trim chars) := by
  refine exists_congr fun wrapper => and_congr_right fun wraps => ?_
  have plain := plain_of_wrapper wraps
  rw [← prefix_oneLine_iff plain]
  unfold cut
  split
  · show wrapper <+: (List.dropWhile isBlank _).rdropWhile isBlank ↔ _
    have trimmed : Trimmed isBlank (oneLine chars) := trimmed_trimBy isBlank _
    rw [dropWhile_take trimmed, prefix_rdropWhile_iff plain, List.prefix_take_iff]
    exact and_iff_left (length_wrapper_le wraps)
  · rfl

theorem closes_oneLine_iff : Closes (oneLine chars) ↔ Closes (trim chars) :=
  exists_congr fun _ => and_congr_right fun wraps =>
    suffix_oneLine_iff (plain_of_wrapper wraps)

theorem trim_content (chars : List Char) : trim (content chars) = content chars :=
  trimBy_eq_self_iff.mpr (trimmed_trimBy isBlank _)

theorem normalizeChars_eq_cut (chars : List Char) :
    normalizeChars chars = cut (oneLine (content chars)) := by
  rw [normalizeChars_eq, content, oneLine_trim]

/-- What normalizing a title overlooks. -/
inductive Overlooked (title : String) : Prop where
  /-- A wrapper before the content. -/
  | before (opens : Opens (content title.toList))
  /-- One behind it. -/
  | behind (closes : Closes (content title.toList))
      (fits : (oneLine (content title.toList)).length ≤ maxLength)
  /-- One where it is cut. -/
  | within (closes : Closes (trim (kept (content title.toList))))
      (long : maxLength < (oneLine (content title.toList)).length)

theorem overlooked_iff {title : String} : Overlooked title ↔
    Opens (normalize title).toList ∨ Closes (normalize title).toList := by
  rw [toList_normalize, normalizeChars_eq_cut, opens_cut_iff, trim_content, cut]
  constructor
  · intro overlooked
    cases overlooked with
    | before opens => exact .inl opens
    | behind closes fits =>
        rw [if_neg (Nat.not_lt.mpr fits), closes_oneLine_iff, trim_content]
        exact .inr closes
    | within closes long =>
        rw [if_pos long]
        exact .inr closes
  · rintro (opens | closes)
    · exact .before opens
    · split at closes
      case isTrue long => exact .within closes long
      case isFalse fits =>
        rw [closes_oneLine_iff, trim_content] at closes
        exact .behind closes (Nat.not_lt.mp fits)

/-- A normalized title has no fence at either end, is not in quotes and stays as it
is when it is normalized again, exactly if no wrapper was overlooked: none before its
content, and none behind it, or where it is cut if it is too long. -/
theorem unwrapped_iff_not_overlooked (title : String) :
    Unwrapped title ↔ ¬ Overlooked title := by
  rw [unwrapped_iff, overlooked_iff, not_or]

/-- A title in double quotes inside single ones keeps the double quotes, and one in a
fence inside quotes keeps the fence.  Normalizing it again takes them off. -/
theorem inner_wrapper_stays :
    normalize "'\"Last Minute\"'" = "\"Last Minute\"" ∧
      Enclosed '"' (normalize "'\"Last Minute\"'").toList ∧
      normalize (normalize "'\"Last Minute\"'") = "Last Minute" ∧
      normalize "\"``` Last Minute ```\"" = "``` Last Minute ```" ∧
      fence <+: (normalize "\"``` Last Minute ```\"").toList ∧
      fence <:+ (normalize "\"``` Last Minute ```\"").toList ∧
      ¬ Unwrapped "'\"Last Minute\"'" ∧ ¬ Unwrapped "\"``` Last Minute ```\"" := by
  have quoted : normalize "'\"Last Minute\"'" = "\"Last Minute\"" := by decide +kernel
  have fenced : normalize "\"``` Last Minute ```\"" = "``` Last Minute ```" := by
    decide +kernel
  have enclosed : Enclosed '"' (normalize "'\"Last Minute\"'").toList := by
    rw [quoted]
    exact ⟨"Last Minute".toList, by decide +kernel⟩
  have opening : fence <+: (normalize "\"``` Last Minute ```\"").toList := by
    rw [fenced]
    decide +kernel
  refine ⟨quoted, enclosed, by decide +kernel, fenced, opening, by decide +kernel,
    fun unwrapped => ?_, fun unwrapped => unwrapped.opening opening⟩
  exact unwrapped.quotes '"' (by simp) enclosed

/-! ## Titles that are wrapped once -/

/-- A text in a code fence that names a language. -/
def inFence (language text : List Char) : List Char :=
  fence ++ (language ++ '\n' :: (text ++ fence))

/-- A text in quotes. -/
def inQuotes (quote : Char) (text : List Char) : List Char :=
  [quote] ++ (text ++ [quote])

theorem dropFences_inFence {language : List Char}
    (letters : ∀ char ∈ language, isLetter char = true) (text : List Char) :
    dropClosingFence (dropOpeningFence (inFence language text)) = text := by
  have opened : dropOpeningFence (inFence language text) = text ++ fence := by
    have begins : fence.isPrefixOf (inFence language text) = true :=
      List.isPrefixOf_iff_prefix.mpr (List.prefix_append _ _)
    have rest : (inFence language text).drop 3 =
        language ++ '\n' :: (text ++ fence) := rfl
    unfold dropOpeningFence
    rw [if_pos begins, rest, List.dropWhile_append_of_pos letters]
    rfl
  have ends : fence.isSuffixOf (text ++ fence) = true :=
    List.isSuffixOf_iff_suffix.mpr (List.suffix_append _ _)
  rw [opened, dropClosingFence, if_pos ends]
  simp [fence]

theorem trimmed_inFence (language text : List Char) :
    Trimmed isBlank (inFence language text) := by
  have ends : ['`'] <:+ inFence language text :=
    ⟨fence ++ (language ++ '\n' :: (text ++ ['`', '`'])), by simp [inFence, fence]⟩
  exact trimmed_of_ends ⟨_, rfl⟩ ends (by decide) (by decide)

theorem trimmed_inQuotes {drop : Char → Bool} {quote : Char}
    (visible : drop quote = false) (text : List Char) :
    Trimmed drop (inQuotes quote text) :=
  trimmed_of_ends ⟨_, rfl⟩ ⟨[quote] ++ text, by simp [inQuotes]⟩ visible visible

theorem trimBy_inQuotes {quote : Char} {text : List Char}
    (trimmed : Trimmed (· == quote) text) :
    trimBy (· == quote) (inQuotes quote text) = text := by
  rw [inQuotes, trimBy_append (by simp) (by simp)]
  exact trimBy_eq_self_iff.mpr trimmed

/-- A text without wrappers that is wrapped once, in single quotes inside double ones
inside a fence, is what is left between the wrappers, whatever blanks stand around the
fence and inside it. -/
theorem content_of_wrapped {language text before after front back : List Char}
    (letters : ∀ char ∈ language, isLetter char = true)
    (outside : ∀ char ∈ before ++ after, isBlank char = true)
    (inside : ∀ char ∈ front ++ back, isBlank char = true)
    (bare : ¬ Opens text ∧ ¬ Closes text) :
    content (before ++ (inFence language
      (front ++ (inQuotes '"' (inQuotes '\'' text) ++ back)) ++ after)) =
        trim text := by
  rw [List.forall_mem_append] at outside inside
  have unquoted : Trimmed (· == '\'') text :=
    trimBy_eq_self_iff.mp (trimBy_quote_eq_self_iff.mpr
      ⟨fun begins => bare.1 ⟨_, by simp [wrappers], begins⟩,
        fun ends => bare.2 ⟨_, by simp [wrappers], ends⟩⟩)
  have fenced := trimBy_eq_self_iff.mpr (trimmed_inFence language
    (front ++ (inQuotes '"' (inQuotes '\'' text) ++ back)))
  have quoted := trimBy_eq_self_iff.mpr
    (@trimmed_inQuotes isBlank '"' (by decide) (inQuotes '\'' text))
  simp only [content, peel, peelings, List.foldl_cons, List.foldl_nil, trim]
  rw [trimBy_append outside.1 outside.2, fenced, dropFences_inFence letters,
    trimBy_append inside.1 inside.2, quoted,
    trimBy_inQuotes (trimmed_inQuotes (by decide) text), trimBy_inQuotes unquoted]

example : normalize " ```text\n \"'Last\tMinute'\" ```" = "Last Minute" := by
  decide +kernel

end Title
end Audience
