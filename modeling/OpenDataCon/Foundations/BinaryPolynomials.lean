import Mathlib
import OpenDataCon.Foundations.LinearChecks

/-!
# Words as binary polynomials

The bits of a word are the coefficients of a polynomial over the field of two elements. A shift
register divides by its generator: a turn multiplies by `X` and takes away the generator when a bit
falls out at the top, so some turns multiply by a power of `X` up to a multiple of the generator
(`dvd_iterate_shiftStep`). A word that is as short as the generator's degree and that differs from
a polynomial by a multiple of the generator is its remainder (`ofBits_eq_modByMonic`).
-/

set_option autoImplicit false

namespace OpenDataCon.BinaryPolynomials

open Polynomial LinearChecks

variable {w : Nat}

/-! ## The polynomial of a word -/

/-- The sum of the powers of `X` whose bits are set. -/
noncomputable def ofBits (word : BitVec w) : (ZMod 2)[X] :=
  ∑ i ∈ Finset.range w, if word.getLsbD i then X ^ i else 0

theorem coeff_ofBits (word : BitVec w) (n : Nat) :
    (ofBits word).coeff n = if word.getLsbD n then 1 else 0 := by
  have each : ∀ i, (if word.getLsbD i then (X : (ZMod 2)[X]) ^ i else 0).coeff n =
      if i = n then (if word.getLsbD n then 1 else 0) else 0 := by
    intro i
    by_cases here : i = n
    · subst here
      split <;> simp_all
    · rw [if_neg here]
      split
      · rw [coeff_X_pow, if_neg fun same => here same.symm]
      · rw [coeff_zero]
  rw [ofBits, finsetSum_coeff, Finset.sum_congr rfl fun i _ => each i, Finset.sum_ite_eq']
  by_cases inside : n < w
  · rw [if_pos (Finset.mem_range.mpr inside)]
  · rw [if_neg fun member => inside (Finset.mem_range.mp member),
      BitVec.getLsbD_of_ge word n (Nat.not_lt.mp inside)]
    rfl

@[simp] theorem ofBits_zero : ofBits (0#w) = 0 := by
  ext n
  rw [coeff_ofBits, BitVec.getLsbD_zero, coeff_zero]
  rfl

/-- Exclusive or is addition. -/
theorem ofBits_xor (first second : BitVec w) :
    ofBits (first ^^^ second) = ofBits first + ofBits second := by
  ext n
  rw [coeff_add, coeff_ofBits, coeff_ofBits, coeff_ofBits, BitVec.getLsbD_xor]
  cases first.getLsbD n <;> cases second.getLsbD n <;> decide

/-- Words of two widths with the same bits. -/
theorem ofBits_congr {v : Nat} {first : BitVec w} {second : BitVec v}
    (bits : ∀ i, first.getLsbD i = second.getLsbD i) : ofBits first = ofBits second := by
  ext n
  rw [coeff_ofBits, coeff_ofBits, bits]

/-- A word whose bits are those of another one from `k` on. -/
theorem ofBits_shift {v : Nat} (k : Nat) {word : BitVec w} {shifted : BitVec v}
    (bits : ∀ i, shifted.getLsbD i = (decide (k ≤ i) && word.getLsbD (i - k))) :
    ofBits shifted = X ^ k * ofBits word := by
  ext n
  rw [coeff_X_pow_mul', coeff_ofBits, coeff_ofBits, bits]
  by_cases above : k ≤ n
  · simp [above]
  · simp [above]

/-- One word on top of another. -/
theorem ofBits_append {v : Nat} (upper : BitVec v) (lower : BitVec w) :
    ofBits (upper ++ lower) = X ^ w * ofBits upper + ofBits lower := by
  ext n
  rw [coeff_add, coeff_X_pow_mul', coeff_ofBits, coeff_ofBits, coeff_ofBits,
    BitVec.getLsbD_append]
  by_cases below : n < w
  · simp [below]
  · simp [below, Nat.not_lt.mp below]

theorem degree_ofBits_lt (word : BitVec w) : (ofBits word).degree < w := by
  rw [degree_lt_iff_coeff_zero]
  intro n above
  rw [coeff_ofBits, BitVec.getLsbD_of_ge word n above]
  rfl

/-! ## Division -/

/-- **The remainder** is the short word that differs by a multiple of the generator. -/
theorem ofBits_eq_modByMonic {generator dividend : (ZMod 2)[X]} (monic : generator.Monic)
    (degree : generator.degree = w) {word : BitVec w}
    (divides : generator ∣ dividend + ofBits word) :
    ofBits word = dividend %ₘ generator := by
  have short : ofBits word %ₘ generator = ofBits word :=
    (modByMonic_eq_self_iff monic).mpr (degree ▸ degree_ofBits_lt word)
  rw [← CharTwo.sub_eq_add] at divides
  exact short.symm.trans (modByMonic_eq_of_dvd_sub monic divides).symm

/-- A turn of the register. -/
def shiftStep (feedback register : BitVec w) : BitVec w :=
  register <<< 1 ^^^ if register.msb then feedback else 0#w

/-- What a turn divides by. -/
noncomputable def generator (feedback : BitVec w) : (ZMod 2)[X] := X ^ w + ofBits feedback

/-- A shift multiplies by `X`, but for the bit that falls out. -/
theorem X_mul_ofBits (register : BitVec w) :
    X * ofBits register = ofBits (register <<< 1) + if register.msb then X ^ w else 0 := by
  ext n
  rw [coeff_add, coeff_ofBits, BitVec.getLsbD_shiftLeft]
  have top : (if register.msb then (X : (ZMod 2)[X]) ^ w else 0).coeff n =
      if n = w ∧ register.msb then 1 else 0 := by
    split
    · rename_i set
      rw [coeff_X_pow]
      simp [set]
    · rename_i clear
      simp [clear]
  rw [top]
  cases n with
  | zero =>
      rw [coeff_X_mul_zero]
      by_cases empty : w = 0
      · subst empty
        simp [BitVec.msb, BitVec.getMsbD]
      · simp [show ¬0 = w from fun same => empty same.symm]
  | succ n =>
      rw [coeff_X_mul, coeff_ofBits, BitVec.msb_eq_getLsbD_last]
      by_cases below : n + 1 < w
      · simp [below, show ¬n + 1 = w by omega]
      · by_cases last : n + 1 = w
        · subst last
          simp
        · rw [BitVec.getLsbD_of_ge register n (by omega)]
          simp [below, last]

/-- **A turn multiplies by `X`**, up to the generator. -/
theorem X_mul_add_shiftStep (feedback register : BitVec w) :
    X * ofBits register + ofBits (shiftStep feedback register) =
      if register.msb then generator feedback else 0 := by
  rw [shiftStep, ofBits_xor, X_mul_ofBits]
  cases register.msb
  · simp [CharTwo.add_self_eq_zero]
  · rw [if_pos rfl, if_pos rfl, if_pos rfl, generator,
      add_add_add_comm, CharTwo.add_self_eq_zero, zero_add]

theorem dvd_shiftStep (feedback register : BitVec w) :
    generator feedback ∣ X * ofBits register + ofBits (shiftStep feedback register) := by
  rw [X_mul_add_shiftStep]
  split
  · exact dvd_refl _
  · exact dvd_zero _

/-- **Some turns multiply by a power of `X`**, up to a multiple of the generator. -/
theorem dvd_iterate_shiftStep (feedback register : BitVec w) (k : Nat) :
    generator feedback ∣ X ^ k * ofBits register + ofBits ((shiftStep feedback)^[k] register) := by
  induction k with
  | zero =>
      rw [pow_zero, one_mul, Function.iterate_zero, id, CharTwo.add_self_eq_zero]
      exact dvd_zero _
  | succ k ih =>
      rw [Function.iterate_succ_apply']
      have turn := dvd_shiftStep feedback ((shiftStep feedback)^[k] register)
      have sum := dvd_add (ih.mul_left X) turn
      refine sum.trans (dvd_of_eq ?_)
      rw [mul_add, add_assoc, ← add_assoc (X * ofBits _) (X * ofBits _), CharTwo.add_self_eq_zero,
        zero_add, pow_succ', mul_assoc]

/-! ## Turns are linear -/

theorem additive_shiftStep (feedback : BitVec w) : Additive (shiftStep feedback) := by
  intro first second
  unfold shiftStep
  rw [BitVec.shiftLeft_xor_distrib, BitVec.msb_xor]
  cases first.msb <;> cases second.msb
  · simp
  · simp only [Bool.false_xor, Bool.false_eq_true, if_true, if_false, BitVec.xor_zero]
    ac_rfl
  · simp only [Bool.true_xor, Bool.not_false, Bool.false_eq_true, if_true, if_false,
      BitVec.xor_zero]
    ac_rfl
  · simp only [Bool.true_xor, Bool.not_true, Bool.false_eq_true, if_true, if_false,
      BitVec.xor_zero]
    rw [BitVec.xor_assoc, ← BitVec.xor_assoc feedback, BitVec.xor_comm feedback, BitVec.xor_assoc,
      BitVec.xor_self, BitVec.xor_zero]

theorem additive_iterate {step : BitVec w → BitVec w} (additive : Additive step) (k : Nat) :
    Additive step^[k] := by
  induction k with
  | zero => exact fun _ _ => rfl
  | succ k ih =>
      intro first second
      rw [Function.iterate_succ_apply', Function.iterate_succ_apply', Function.iterate_succ_apply',
        ih first second, additive]

end OpenDataCon.BinaryPolynomials
