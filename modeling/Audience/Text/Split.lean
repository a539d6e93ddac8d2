/-!
# Splitting and joining text

A text is split at every occurrence of a separator, and the parts, joined again,
give the text back.
-/

namespace Audience
namespace Text

/-- Split at every separator; there is always a first part. -/
def split (separator : Char) : List Char → List (List Char)
  | [] => [[]]
  | char :: rest =>
      if char == separator then [] :: split separator rest
      else
        match split separator rest with
        | [] => [[char]]
        | part :: more => (char :: part) :: more

/-- Join parts, with the separator between each two of them. -/
def join (separator : Char) : List (List Char) → List Char
  | [] => []
  | [part] => part
  | part :: more => part ++ separator :: join separator more

theorem split_ne_nil (separator : Char) (chars : List Char) :
    split separator chars ≠ [] := by
  cases chars with
  | nil => simp [split]
  | cons char rest =>
      unfold split
      split
      · simp
      · split <;> simp

theorem join_cons_of_ne_nil (separator : Char) (part : List Char)
    {more : List (List Char)} (nonempty : more ≠ []) :
    join separator (part :: more) = part ++ separator :: join separator more := by
  cases more with
  | nil => exact absurd rfl nonempty
  | cons _ _ => rfl

/-- Nothing is lost by splitting. -/
theorem join_split (separator : Char) (chars : List Char) :
    join separator (split separator chars) = chars := by
  induction chars with
  | nil => rfl
  | cons char rest ih =>
      by_cases same : char = separator
      · simp only [split, same, beq_self_eq_true, if_true]
        rw [join_cons_of_ne_nil separator [] (split_ne_nil separator rest), ih]
        rfl
      · have other : (char == separator) = false := by simpa using same
        simp only [split, other]
        cases parts : split separator rest with
        | nil => exact absurd parts (split_ne_nil separator rest)
        | cons part more =>
            rw [parts] at ih
            cases more with
            | nil => simpa [join] using ih
            | cons _ _ => simpa [join] using ih

end Text
end Audience
