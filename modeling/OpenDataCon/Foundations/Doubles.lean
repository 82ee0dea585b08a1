import Mathlib.Algebra.Order.Ring.Abs
import Mathlib.Data.Int.Log
import Mathlib.Data.Rat.Floor
import Mathlib.Tactic.FieldSimp

/-!
# Rounding to doubles

A double precision number has 53 significant bits. A rational number is rounded to the
nearest one, and half way between two to the even one. Integers below 2^53 are rounded to
themselves (`roundDouble_intCast`). The range of the exponent is left out.
-/

set_option autoImplicit false

namespace OpenDataCon.Doubles

/-- The nearest integer; half way between two, the even one. -/
def roundHalfEven (x : ℚ) : ℤ :=
  let low := ⌊x⌋
  if x - low < 1 / 2 then low
  else if 1 / 2 < x - low then low + 1
  else if low % 2 = 0 then low
  else low + 1

/-- The distance of the doubles next to a number. -/
def spacing (x : ℚ) : ℚ := (2 : ℚ) ^ (Int.log 2 |x| - 52)

def roundDouble (x : ℚ) : ℚ := roundHalfEven (x / spacing x) * spacing x

theorem roundHalfEven_intCast (n : ℤ) : roundHalfEven (n : ℚ) = n := by
  have exact : (n : ℚ) - (⌊(n : ℚ)⌋ : ℤ) < 1 / 2 := by
    rw [Int.floor_intCast, sub_self]
    exact one_half_pos
  rw [roundHalfEven, if_pos exact, Int.floor_intCast]

theorem spacing_ne_zero (x : ℚ) : spacing x ≠ 0 := zpow_ne_zero _ two_ne_zero

/-- A multiple of the distance is a double. -/
theorem roundDouble_of_multiple {x : ℚ} {m : ℤ} (multiple : x = m * spacing x) :
    roundDouble x = x := by
  have quotient : x / spacing x = m := by
    rw [div_eq_iff (spacing_ne_zero x)]
    exact multiple
  rw [roundDouble, quotient, roundHalfEven_intCast]
  exact multiple.symm

/-- **Integers below 2^53 are doubles.** -/
theorem roundDouble_intCast {n : ℤ} (small : n.natAbs < 2 ^ 53) : roundDouble (n : ℚ) = n := by
  have log : Int.log 2 |(n : ℚ)| = Nat.log 2 n.natAbs := by
    rw [← Int.cast_abs, Int.abs_eq_natAbs, Int.cast_natCast, Int.log_natCast]
  have within : Nat.log 2 n.natAbs ≤ 52 := Nat.le_of_lt_succ (Nat.log_lt_of_lt_pow' (by decide) small)
  obtain ⟨places, sum⟩ : ∃ places : ℕ, Nat.log 2 n.natAbs + places = 52 :=
    ⟨52 - Nat.log 2 n.natAbs, Nat.add_sub_cancel' within⟩
  have distance : spacing (n : ℚ) = ((2 : ℚ) ^ places)⁻¹ := by
    have exponent : ((Nat.log 2 n.natAbs : ℕ) : ℤ) - 52 = -(places : ℤ) := by omega
    rw [spacing, log, exponent, zpow_neg, zpow_natCast]
  refine @roundDouble_of_multiple _ (n * 2 ^ places) ?_
  rw [distance]
  push_cast
  field_simp

/-- A natural number below 2^53 is a double. -/
theorem roundDouble_natCast {n : ℕ} (small : n < 2 ^ 53) : roundDouble (n : ℚ) = n :=
  @roundDouble_intCast (n : ℤ) small

end OpenDataCon.Doubles
