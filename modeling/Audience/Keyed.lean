/-!
# Keyed lists

A finite map as a list of pairs.  A key that is set again keeps its place, so
the order is that in which the keys were first set.
-/

namespace Audience

/-- A finite map from keys to values. -/
abbrev Keyed (κ α : Type) := List (κ × α)

namespace Keyed

variable {κ α : Type} [DecidableEq κ]

/-- The value of a key. -/
def get? (key : κ) : Keyed κ α → Option α
  | [] => none
  | (name, value) :: rest => if name = key then some value else get? key rest

/-- Set a key: in place when present, otherwise at the end. -/
def put (key : κ) (value : α) : Keyed κ α → Keyed κ α
  | [] => [(key, value)]
  | (name, old) :: rest =>
      if name = key then (name, value) :: rest
      else (name, old) :: put key value rest

/-- Remove a key. -/
def erase (key : κ) (map : Keyed κ α) : Keyed κ α :=
  map.filter fun entry => decide (entry.1 ≠ key)

@[simp] theorem get?_nil (key : κ) : get? key ([] : Keyed κ α) = none := rfl

/-- A key that was set has the value that it was set to. -/
@[simp] theorem get?_put_self (key : κ) (value : α) (map : Keyed κ α) :
    get? key (put key value map) = some value := by
  induction map with
  | nil => simp [put, get?]
  | cons entry rest ih =>
      obtain ⟨name, old⟩ := entry
      by_cases same : name = key <;> simp [put, get?, same, ih]

/-- Setting a key leaves every other key alone. -/
theorem get?_put_of_ne {key other : κ} (ne : other ≠ key) (value : α)
    (map : Keyed κ α) : get? other (put key value map) = get? other map := by
  induction map with
  | nil => simp [put, get?, Ne.symm ne]
  | cons entry rest ih =>
      obtain ⟨name, old⟩ := entry
      by_cases same : name = key
      · subst same
        simp [put, get?, Ne.symm ne]
      · by_cases found : name = other
        · subst found
          simp [put, get?, same]
        · simp [put, get?, same, found, ih]

/-- A removed key has no value. -/
@[simp] theorem get?_erase_self (key : κ) (map : Keyed κ α) :
    get? key (erase key map) = none := by
  induction map with
  | nil => rfl
  | cons entry rest ih =>
      obtain ⟨name, old⟩ := entry
      by_cases same : name = key
      · simpa [erase, same] using ih
      · simpa [erase, get?, same] using ih

/-- Removing a key leaves every other key alone. -/
theorem get?_erase_of_ne {key other : κ} (ne : other ≠ key)
    (map : Keyed κ α) : get? other (erase key map) = get? other map := by
  induction map with
  | nil => rfl
  | cons entry rest ih =>
      obtain ⟨name, old⟩ := entry
      by_cases same : name = key
      · subst same
        simpa [erase, get?, Ne.symm ne] using ih
      · by_cases found : name = other
        · subst found
          simp [erase, get?, same]
        · simpa [erase, get?, same, found] using ih

end Keyed
end Audience
