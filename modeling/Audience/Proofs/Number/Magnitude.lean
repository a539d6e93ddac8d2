import Audience.Json.Basic
import Audience.Proofs.Number.Quotient

/-!
# Equal numbers

A number stands for a point of the line of rational numbers with an infinity at
either end, and a NaN for none.  Numbers of both types are equal as values if and
only if they stand for the same point, so that equality of values is symmetric
and transitive, and reflexive except at a NaN.
-/

namespace Audience

/-- A point of the line. -/
inductive Magnitude where
  | rational (value : ℚ)
  | infinite (negative : Bool)

namespace Double

/-- The point that a double stands for. -/
def magnitude? : Double → Option Magnitude
  | nan => none
  | infinity negative => some (.infinite negative)
  | number => some (.rational number.value)

section Fractions

variable (negative : Bool) (significand : Nat) (exponent : Int)

/-- The fraction of a finite double has its value. -/
theorem value_eq_fraction :
    (finite negative significand exponent).value =
      (fraction negative significand exponent).1 /
        (fraction negative significand exponent).2 := by
  simp only [value, fraction]
  split
  · rename_i whole
    obtain ⟨power, rfl⟩ := Int.eq_ofNat_of_zero_le whole
    have factor : (signed negative (significand * 2 ^ power) : ℚ) =
        signed negative significand * 2 ^ power := by
      rw [signed_mul]
      push_cast
      rfl
    simpa using factor.symm
  · rename_i fractional
    obtain ⟨power, rfl⟩ : ∃ power : Nat, exponent = -power :=
      ⟨(-exponent).toNat, by omega⟩
    simp [zpow_neg, div_eq_mul_inv]

theorem fraction_pos : 0 < (fraction negative significand exponent).2 := by
  unfold fraction
  split
  · exact Nat.one_pos
  · exact Nat.two_pow_pos _

end Fractions

/-- Doubles are equal if and only if they stand for the same point. -/
theorem sameValue_iff {first second : Double} :
    first.sameValue second = true ↔
      ∃ point, first.magnitude? = some point ∧
        second.magnitude? = some point := by
  cases first with
  | nan => simp [sameValue, compare, magnitude?]
  | infinity negative =>
      cases second with
      | nan => simp [sameValue, compare, magnitude?]
      | infinity other =>
          cases negative <;> cases other <;>
            simp [sameValue, compare, magnitude?]
      | finite other significand exponent =>
          cases negative <;> simp [sameValue, compare, magnitude?]
  | finite negative significand exponent =>
      cases second with
      | nan => simp [sameValue, compare, magnitude?]
      | infinity other => cases other <;> simp [sameValue, compare, magnitude?]
      | finite other significand' exponent' =>
          have left : ((fraction negative significand exponent).2 : ℚ) ≠ 0 := by
            exact_mod_cast (fraction_pos negative significand exponent).ne'
          have right : ((fraction other significand' exponent').2 : ℚ) ≠ 0 := by
            exact_mod_cast (fraction_pos other significand' exponent').ne'
          have crossed : (finite other significand' exponent').value =
                (finite negative significand exponent).value ↔
              (fraction negative significand exponent).1 *
                  (fraction other significand' exponent').2 =
                (fraction other significand' exponent').1 *
                  (fraction negative significand exponent).2 := by
            rw [eq_comm, value_eq_fraction, value_eq_fraction,
              div_eq_div_iff left right]
            exact_mod_cast Iff.rfl
          simp [sameValue, compare, magnitude?, crossed]

/-- A double equals an integer if and only if it stands for it. -/
theorem sameValueAsInt_iff {number : Double} {integer : Int} :
    number.sameValueAsInt integer = true ↔
      number.magnitude? = some (.rational integer) := by
  cases number with
  | nan => simp [sameValueAsInt, magnitude?]
  | infinity negative => simp [sameValueAsInt, magnitude?]
  | finite negative significand exponent =>
      have positive : ((fraction negative significand exponent).2 : ℚ) ≠ 0 := by
        exact_mod_cast (fraction_pos negative significand exponent).ne'
      have crossed : (finite negative significand exponent).value = integer ↔
          (fraction negative significand exponent).1 =
            integer * (fraction negative significand exponent).2 := by
        rw [value_eq_fraction, div_eq_iff positive]
        exact_mod_cast Iff.rfl
      simp [sameValueAsInt, magnitude?, crossed]

end Double

namespace Number

/-- The point that a number stands for. -/
def magnitude? : Number → Option Magnitude
  | int value => some (.rational value)
  | double value => value.magnitude?

/-- Numbers are equal if and only if they stand for the same point. -/
theorem sameValue_iff {first second : Number} :
    first.sameValue second = true ↔
      ∃ point, first.magnitude? = some point ∧
        second.magnitude? = some point := by
  cases first with
  | int integer =>
      cases second with
      | int other =>
          simpa [sameValue, magnitude?] using eq_comm
      | double number =>
          simp [sameValue, magnitude?, Double.sameValueAsInt_iff]
  | double number =>
      cases second with
      | int integer =>
          simp [sameValue, magnitude?, Double.sameValueAsInt_iff]
      | double other => exact Double.sameValue_iff

end Number
end Audience
