/-
This file is a small library of integers as machines have them: what is left of
a value in a word, division that fails by zero, a quotient rounded up, and the
multiple next to a value.

Division truncates towards zero. The bounds are those that are stated by
multiplication, so nothing else needs to know how a quotient was come by.
-/

import Mathlib.Algebra.Order.Ring.Int
import Mathlib.Tactic.Linarith
import Mathlib.Tactic.Ring

namespace Rounding

/-! ### Words -/

/-- What is left of a value in a signed word. -/
def wrap (bits : Nat) (value : Int) : Int := value.bmod (2 ^ bits)

/-- Whether a value is one of a signed word. -/
def Fits (bits : Nat) (value : Int) : Prop :=
  -(2 ^ bits) ≤ value * 2 ∧ value * 2 < 2 ^ bits

instance (bits : Nat) (value : Int) : Decidable (Fits bits value) :=
  inferInstanceAs (Decidable (_ ∧ _))

theorem wrap_of_fits {bits : Nat} {value : Int} (fits : Fits bits value) :
    wrap bits value = value := by
  have lower : -((2 ^ bits : Nat) : Int) ≤ value * 2 := by
    rw [Int.natCast_pow]
    exact fits.1
  have upper : value * 2 < ((2 ^ bits : Nat) : Int) := by
    rw [Int.natCast_pow]
    exact fits.2
  exact Int.bmod_eq_of_le_mul_two lower upper

/-- What is wrapped before it is added to is wrapped all the same. -/
theorem wrap_wrap_add (bits : Nat) (first second : Int) :
    wrap bits (wrap bits first + second) = wrap bits (first + second) := Int.bmod_add_bmod

theorem wrap_add_wrap (bits : Nat) (first second : Int) :
    wrap bits (first + wrap bits second) = wrap bits (first + second) := Int.add_bmod_bmod

/-! ### Quotients -/

/-- A division, which fails if it is one by zero. -/
def divide (dividend divisor : Int) : Option Int :=
  if divisor = 0 then none else some (dividend.tdiv divisor)

theorem divide_isSome_iff {dividend divisor : Int} :
    (divide dividend divisor).isSome = true ↔ divisor ≠ 0 := by
  unfold divide
  split_ifs with zero
  · exact iff_of_false Bool.false_ne_true (not_not.mpr zero)
  · exact iff_of_true rfl zero

theorem divide_of_ne_zero (dividend : Int) {divisor : Int} (notZero : divisor ≠ 0) :
    divide dividend divisor = some (dividend.tdiv divisor) := if_neg notZero

/-- A quotient rounded up. -/
def ceilDiv (dividend divisor : Int) : Int := (dividend + (divisor - 1)).tdiv divisor

section Ceil

variable {dividend divisor : Int} (notNegative : 0 ≤ dividend) (positive : 0 < divisor)

include notNegative positive

theorem ceilDiv_eq : ceilDiv dividend divisor = (dividend + (divisor - 1)) / divisor :=
  Int.tdiv_eq_ediv_of_nonneg (by omega)

theorem le_ceilDiv_mul : dividend ≤ ceilDiv dividend divisor * divisor := by
  have next := Int.lt_ediv_add_one_mul_self (dividend + (divisor - 1)) positive
  rw [ceilDiv_eq notNegative positive]
  linarith

theorem ceilDiv_mul_lt : ceilDiv dividend divisor * divisor < dividend + divisor := by
  have whole := Int.ediv_mul_le (dividend + (divisor - 1)) positive.ne'
  rw [ceilDiv_eq notNegative positive]
  linarith

theorem ceilDiv_nonneg : 0 ≤ ceilDiv dividend divisor := by
  rw [ceilDiv_eq notNegative positive]
  exact Int.ediv_nonneg (by omega) positive.le

theorem ceilDiv_le_iff (bound : Int) :
    ceilDiv dividend divisor ≤ bound ↔ dividend ≤ bound * divisor := by
  have enough := le_ceilDiv_mul notNegative positive
  have tight := ceilDiv_mul_lt notNegative positive
  constructor
  · intro below
    exact enough.trans (mul_le_mul_of_nonneg_right below positive.le)
  · intro covers
    by_contra above
    have further : (bound + 1) * divisor ≤ ceilDiv dividend divisor * divisor :=
      mul_le_mul_of_nonneg_right (Int.not_le.mp above) positive.le
    linarith

end Ceil

/-! ### The nearest multiple -/

/-- The multiple of a step next to a value, the higher one of two. -/
def nearest (step value : Int) : Int := step * (((2 * value + step).tdiv 2).tdiv step)

section Nearest

variable {step value : Int} (positive : 0 < step) (notNegative : 0 ≤ value)

include positive notNegative

theorem nearest_eq : nearest step value = step * ((2 * value + step) / (2 * step)) := by
  have sum : 0 ≤ 2 * value + step := by omega
  rw [nearest, Int.tdiv_eq_ediv_of_nonneg sum,
    Int.tdiv_eq_ediv_of_nonneg (Int.ediv_nonneg sum (by decide)),
    Int.ediv_ediv_of_nonneg (by decide)]

theorem nearest_nonneg : 0 ≤ nearest step value := by
  rw [nearest_eq positive notNegative]
  exact mul_nonneg positive.le (Int.ediv_nonneg (by omega) (by omega))

/-- A multiple is not passed by a value that is less than half a step above it. -/
theorem nearest_le_iff (multiple : Int) :
    nearest step value ≤ step * multiple ↔ 2 * value < (2 * multiple + 1) * step := by
  rw [nearest_eq positive notNegative, mul_le_mul_iff_right₀ positive, ← Int.lt_add_one_iff,
    Int.ediv_lt_iff_lt_mul (by omega)]
  constructor
  · intro below
    linarith
  · intro below
    linarith

/-- A multiple stays a bound's side if the last multiple below the bound is not passed. -/
theorem nearest_le_iff_ediv (bound : Int) :
    nearest step value ≤ bound ↔ 2 * value < (2 * (bound / step) + 1) * step := by
  rw [← nearest_le_iff positive notNegative, nearest, mul_le_mul_iff_right₀ positive,
    Int.le_ediv_iff_mul_le positive, Int.mul_comm]

theorem nearest_of_dvd (divides : step ∣ value) : nearest step value = value := by
  obtain ⟨multiple, rfl⟩ := divides
  have sum : 2 * (step * multiple) + step = step + 2 * step * multiple := by ring
  rw [nearest_eq positive notNegative, sum, Int.add_mul_ediv_left _ _ (by omega),
    Int.ediv_eq_zero_of_lt positive.le (by omega), Int.zero_add]

end Nearest

theorem dvd_nearest (step value : Int) : step ∣ nearest step value := Dvd.intro _ rfl

end Rounding
