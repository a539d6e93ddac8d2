import Audience.Number.Double
import Mathlib.Algebra.Order.Field.Power
import Mathlib.Data.Nat.Log
import Mathlib.Data.Rat.Floor
import Mathlib.Tactic.Linarith
import Mathlib.Tactic.Positivity
import Mathlib.Tactic.Ring

/-!
# Rounding up a rounded quotient

A quotient of natural numbers that is rounded to the nearest double and then
rounded up to an integer.  As long as the numerator is below `2 ^ 53`, an integer
that lies below the quotient also lies below the double, and one that does not
lie below the quotient does not lie below the double, so that the first rounding
makes no difference.
-/

namespace Audience
namespace Double

/-- The number that a finite double stands for. -/
def value : Double → ℚ
  | finite negative significand exponent =>
      signed negative significand * 2 ^ exponent
  | _ => 0

section Values

variable (negative : Bool) (significand : Nat) (exponent : Int)

theorem signed_mul (factor : Nat) :
    signed negative (significand * factor) =
      signed negative significand * factor := by
  cases negative <;> simp [signed]

/-- The smallest integer not below a double is the one not below its value. -/
theorem ceiling_eq_ceil (number : Double) : number.ceiling = ⌈number.value⌉ := by
  cases number with
  | nan => rfl
  | infinity negative => rfl
  | finite negative significand exponent =>
      simp only [ceiling, value]
      split
      · rename_i whole
        obtain ⟨power, rfl⟩ := Int.eq_ofNat_of_zero_le whole
        have integral : (signed negative significand : ℚ) * 2 ^ (power : Int) =
            ((signed negative significand * 2 ^ power : Int) : ℚ) := by
          push_cast
          rw [zpow_natCast]
        rw [integral, Int.ceil_intCast, signed_mul]
        simp
      · rename_i fractional
        obtain ⟨power, rfl⟩ : ∃ power : Nat, exponent = -power :=
          ⟨(-exponent).toNat, by omega⟩
        have quotient : (signed negative significand : ℚ) * 2 ^ (-(power : Int)) =
            -(((-signed negative significand : Int) : ℚ) /
              ((2 ^ power : Nat) : ℚ)) := by
          push_cast
          rw [zpow_neg, zpow_natCast]
          ring
        rw [quotient, Int.ceil_neg, Rat.floor_intCast_div_natCast,
          Int.fdiv_eq_ediv_of_nonneg _ (by positivity)]
        simp

/-- Removing trailing zero bits keeps the value. -/
theorem stripTwos_value (fuel : Nat) :
    ((stripTwos fuel significand exponent).1 : ℚ) *
        2 ^ (stripTwos fuel significand exponent).2 =
      significand * 2 ^ exponent := by
  induction fuel generalizing significand exponent with
  | zero => rfl
  | succ fuel ih =>
      unfold stripTwos
      split
      · rename_i even
        rw [ih, zpow_add_one₀ two_ne_zero]
        have halves : (significand : ℚ) = (significand / 2 : Nat) * 2 := by
          exact_mod_cast (Nat.div_mul_cancel (Nat.dvd_of_mod_eq_zero even)).symm
        rw [halves]
        ring
      · rfl

theorem value_ofScaled :
    (ofScaled false significand exponent).value = significand * 2 ^ exponent := by
  unfold ofScaled
  split
  · rename_i none
    simp [value, signed, none]
  · simpa [value, signed] using
      stripTwos_value significand exponent significand.log2

end Values

section Rounding

variable {numerator denominator bound : Nat}

/-- Rounding does not go beyond an integer. -/
theorem roundHalfEven_le (within : numerator ≤ bound * denominator) :
    roundHalfEven numerator denominator ≤ bound := by
  have parts := Nat.div_add_mod numerator denominator
  have least : numerator / denominator ≤ bound :=
    Nat.div_le_of_le_mul (by rwa [Nat.mul_comm])
  unfold roundHalfEven
  obtain same | less := Nat.eq_or_lt_of_le least
  · have none : numerator % denominator = 0 := by
      rw [same, Nat.mul_comm] at parts
      omega
    simp only [same, none]
    obtain rfl | positive := Nat.eq_zero_or_pos denominator
    · simp at same
      simp [← same]
    · simp [positive]
  · dsimp only
    split
    · exact least
    split
    · exact less
    · omega

/-- It goes beyond an integer from the middle to the next one on. -/
theorem lt_roundHalfEven (positive : 0 < denominator)
    (beyond : (2 * bound + 1) * denominator < 2 * numerator) :
    bound < roundHalfEven numerator denominator := by
  have parts := Nat.div_add_mod numerator denominator
  have rest := Nat.mod_lt numerator positive
  have least : bound ≤ numerator / denominator := by
    rw [Nat.le_div_iff_mul_le positive]
    linarith
  unfold roundHalfEven
  obtain same | less := Nat.eq_or_lt_of_le least
  · have half : denominator < 2 * (numerator % denominator) := by
      rw [← same] at parts
      linarith
    simp only [← same]
    rw [if_neg (by omega), if_pos half]
    omega
  · dsimp only
    split
    · exact less
    split
    · omega
    · omega

/-- A bound on the last bit that is kept of a quotient. -/
theorem unitExponent_le (numerator denominator : Nat) :
    unitExponent numerator denominator ≤
      max ((numerator.log2 : Int) - denominator.log2 - 52) (-1074) := by
  unfold unitExponent
  dsimp only
  split
  · omega
  · omega

end Rounding

section Quotients

variable {numerator denominator : Nat}

theorem log2_le (small : numerator < 2 ^ 53) : numerator.log2 ≤ 52 := by
  obtain rfl | some := Nat.eq_zero_or_pos numerator
  · decide
  · have := (Nat.log2_lt (Nat.ne_of_gt some)).mpr small
    omega

/-- A quotient of a small number is rounded to a fraction over a power of two,
which is more than half the denominator unless the quotient is at most one. -/
theorem exists_fraction (small : numerator < 2 ^ 53) (denominator : Nat) :
    ∃ power : Nat, (ofRatio false numerator denominator).value =
        roundHalfEven (numerator * 2 ^ power) denominator / 2 ^ power ∧
      (denominator < numerator → denominator < 2 * 2 ^ power) ∧
      ∀ negative, ofRatio false numerator denominator ≠ infinity negative := by
  unfold ofRatio
  split
  · rename_i none
    subst none
    refine ⟨0, ?_, fun less => absurd less (Nat.not_lt_zero _), fun _ => nofun⟩
    simp [value, signed, roundHalfEven]
  have log := log2_le small
  have last := unitExponent_le numerator denominator
  obtain ⟨power, exponent⟩ :
      ∃ power : Nat, unitExponent numerator denominator = -power :=
    ⟨(-unitExponent numerator denominator).toNat, by omega⟩
  have scaled : scaleDown numerator denominator (-power) =
      (numerator * 2 ^ power, denominator) := by
    unfold scaleDown
    split
    · have : power = 0 := by omega
      simp [this]
    · simp
  simp only [exponent, scaled]
  rw [if_neg (by omega)]
  refine ⟨power, ?_, fun less => ?_, fun negative => ?_⟩
  · rw [value_ofScaled, zpow_neg, zpow_natCast]
    rfl
  · have short := log2_le (less.trans small)
    calc
      denominator < 2 ^ (denominator.log2 + 1) := Nat.lt_log2_self
      _ ≤ 2 ^ (power + 1) := Nat.pow_le_pow_right Nat.two_pos (by omega)
      _ = 2 * 2 ^ power := Nat.pow_succ'
  · unfold ofScaled
    split <;> exact nofun

/-- Rounding a quotient of a small number to a double makes no difference to the
least integer from one on that is not below it. -/
theorem max_one_ceiling_ofRatio (small : numerator < 2 ^ 53)
    (positive : 0 < denominator) :
    max 1 (ofRatio false numerator denominator).ceiling =
      max 1 ⌈(numerator : ℚ) / denominator⌉ := by
  obtain ⟨power, rounded, precise, -⟩ := exists_fraction small denominator
  have unit : (0 : ℚ) < 2 ^ power := by positivity
  have divisor : (0 : ℚ) < denominator := by exact_mod_cast positive
  obtain ⟨above, exact⟩ : ∃ above : Nat,
      ⌈(numerator : ℚ) / denominator⌉ = above :=
    ⟨_, (Int.toNat_of_nonneg (Int.ceil_nonneg (by positivity))).symm⟩
  have within : numerator ≤ above * denominator := by
    have least := Int.le_ceil ((numerator : ℚ) / denominator)
    rw [exact, div_le_iff₀ divisor] at least
    exact_mod_cast least
  have least : (ofRatio false numerator denominator).ceiling ≤ above := by
    rw [ceiling_eq_ceil, Int.ceil_le, rounded, div_le_iff₀ unit]
    have still : numerator * 2 ^ power ≤ above * 2 ^ power * denominator := by
      rw [Nat.mul_right_comm]
      exact Nat.mul_le_mul_right _ within
    exact_mod_cast roundHalfEven_le still
  rw [exact]
  obtain more | one := Nat.lt_or_ge 1 above
  · obtain ⟨below, rfl⟩ : ∃ below, above = below + 1 := ⟨above - 1, by omega⟩
    have beyond : below * denominator < numerator := by
      have strict : ((below : Int) : ℚ) < (numerator : ℚ) / denominator := by
        rw [← Int.lt_ceil, exact]
        omega
      rw [lt_div_iff₀ divisor] at strict
      exact_mod_cast strict
    have half := precise ((Nat.le_mul_of_pos_left _ (by omega)).trans_lt beyond)
    have grown : below * 2 ^ power <
        roundHalfEven (numerator * 2 ^ power) denominator := by
      apply lt_roundHalfEven positive
      calc
        (2 * (below * 2 ^ power) + 1) * denominator
          = 2 * (below * denominator) * 2 ^ power + denominator := by ring
        _ < 2 * (below * denominator) * 2 ^ power + 2 * 2 ^ power := by omega
        _ = 2 * ((below * denominator + 1) * 2 ^ power) := by ring
        _ ≤ 2 * (numerator * 2 ^ power) :=
          Nat.mul_le_mul_left _ (Nat.mul_le_mul_right _ beyond)
    have most : ((below : Nat) : Int) <
        (ofRatio false numerator denominator).ceiling := by
      rw [ceiling_eq_ceil, Int.lt_ceil, rounded, lt_div_iff₀ unit]
      exact_mod_cast grown
    omega
  · omega

end Quotients

end Double
end Audience
