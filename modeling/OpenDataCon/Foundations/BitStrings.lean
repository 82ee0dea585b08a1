import Mathlib.Data.Nat.Bitwise
import Mathlib.Data.List.Basic
import Mathlib.Data.List.Induction
import Mathlib.Tactic.Ring

/-!
# Numbers as strings of bits

A record format lays numbers of given widths one after the other, the most
significant bit first. `bitsOf` writes a number, `valueOf` reads a string of
bits, and the two are inverse up to the width (`valueOf_bitsOf`).

A number whose bits are cut in two parts is the parts one after the other
(`bitsOf_add`), which takes a packed word apart into its fields. Numbers whose
bits do not meet are joined by adding them (`or_eq_add`). A window of a longer
string is found again at its offset (`window_append`).
-/

set_option autoImplicit false

namespace OpenDataCon.BitStrings

/-- The low `width` bits of a number, the most significant bit first. -/
def bitsOf (width value : Nat) : List Bool :=
  (List.range width).map fun i => value.testBit (width - 1 - i)

/-- The number a string of bits stands for. -/
def valueOf (bits : List Bool) : Nat := bits.foldl (fun value bit => 2 * value + bit.toNat) 0

@[simp] theorem length_bitsOf (width value : Nat) : (bitsOf width value).length = width := by
  simp [bitsOf]

theorem getElem_bitsOf {width value i : Nat} (inside : i < (bitsOf width value).length) :
    (bitsOf width value)[i] = value.testBit (width - 1 - i) := by
  simp [bitsOf]

@[simp] theorem bitsOf_zero (value : Nat) : bitsOf 0 value = [] := rfl

/-- One more bit at the low end. -/
theorem bitsOf_succ (width value : Nat) :
    bitsOf (width + 1) value = bitsOf width (value / 2) ++ [value.testBit 0] := by
  apply List.ext_getElem
  · simp
  · intro i first second
    have inside : i < width + 1 := by simpa using first
    rw [getElem_bitsOf]
    by_cases last : i = width
    · subst last
      simp
    · rw [List.getElem_append_left (by simp; omega), getElem_bitsOf,
        ← Nat.testBit_succ]
      congr 1
      omega

/-- **A number cut at a bit is its high part followed by its low part.** -/
theorem bitsOf_add (high low value : Nat) :
    bitsOf (high + low) value = bitsOf high (value / 2 ^ low) ++ bitsOf low value := by
  induction low generalizing value with
  | zero => simp
  | succ low ih =>
      rw [← Nat.add_assoc, bitsOf_succ, ih, bitsOf_succ low, Nat.div_div_eq_div_mul,
        ← Nat.pow_succ', List.append_assoc]

/-- Only the low bits are written. -/
theorem bitsOf_mod (width value : Nat) : bitsOf width (value % 2 ^ width) = bitsOf width value := by
  apply List.ext_getElem
  · simp
  · intro i first second
    have inside : i < width := by simpa using first
    rw [getElem_bitsOf, getElem_bitsOf, Nat.testBit_mod_two_pow]
    simp [show width - 1 - i < width by omega]

/-- What stands above the width is not written. -/
theorem bitsOf_add_mul (width value above : Nat) :
    bitsOf width (value + above * 2 ^ width) = bitsOf width value := by
  rw [← bitsOf_mod, Nat.add_mul_mod_self_right, bitsOf_mod]

@[simp] theorem valueOf_nil : valueOf [] = 0 := rfl

theorem valueOf_concat (bits : List Bool) (bit : Bool) :
    valueOf (bits ++ [bit]) = 2 * valueOf bits + bit.toNat := by
  simp [valueOf]

theorem valueOf_cons (bit : Bool) (bits : List Bool) :
    valueOf (bit :: bits) = bit.toNat * 2 ^ bits.length + valueOf bits := by
  induction bits using List.reverseRecOn with
  | nil => simp [valueOf]
  | append_singleton bits last ih =>
      rw [← List.cons_append, valueOf_concat, valueOf_concat, ih, List.length_append,
        List.length_singleton, Nat.pow_succ]
      ring

theorem valueOf_lt (bits : List Bool) : valueOf bits < 2 ^ bits.length := by
  induction bits with
  | nil => exact Nat.one_pos
  | cons bit bits ih =>
      have digit : bit.toNat ≤ 1 := Bool.toNat_le bit
      rw [valueOf_cons, List.length_cons, Nat.pow_succ]
      have scaled : bit.toNat * 2 ^ bits.length ≤ 1 * 2 ^ bits.length :=
        Nat.mul_le_mul_right _ digit
      omega

/-- **Reading what was written gives the low bits of the number.** -/
theorem valueOf_bitsOf (width value : Nat) : valueOf (bitsOf width value) = value % 2 ^ width := by
  induction width generalizing value with
  | zero => simp [Nat.mod_one]
  | succ width ih =>
      have low : (value.testBit 0).toNat = value % 2 := by
        rw [Nat.testBit_zero]
        rcases Nat.mod_two_eq_zero_or_one value with even | odd <;> simp_all
      rw [bitsOf_succ, valueOf_concat, ih, low, Nat.pow_succ, Nat.mul_comm (2 ^ width) 2,
        Nat.mod_mul]
      omega

theorem valueOf_bitsOf_of_lt {width value : Nat} (small : value < 2 ^ width) :
    valueOf (bitsOf width value) = value := by
  rw [valueOf_bitsOf, Nat.mod_eq_of_lt small]

/-! ## Joined numbers -/

/-- Joining a number into the clear low bits of another adds it. -/
theorem or_eq_add {high low : Nat} (width : Nat) (clear : 2 ^ width ∣ high) (small : low < 2 ^ width) :
    high ||| low = high + low := by
  obtain ⟨above, rfl⟩ := clear
  exact (Nat.two_pow_add_eq_or_of_lt small above).symm

/-- Three fields one below the other, joined in a word. -/
theorem or_three {a b c p q : Nat} (first : 2 ^ p ∣ a) (second : 2 ^ q ∣ a + b)
    (small : b < 2 ^ p) (smaller : c < 2 ^ q) : a ||| b ||| c = a + b + c := by
  rw [or_eq_add p first small, or_eq_add q second smaller]

/-- Five fields one below the other, joined in a word. -/
theorem or_five {a b c d e p q r t : Nat} (first : 2 ^ p ∣ a) (second : 2 ^ q ∣ a + b)
    (third : 2 ^ r ∣ a + b + c) (fourth : 2 ^ t ∣ a + b + c + d) (small : b < 2 ^ p)
    (smaller : c < 2 ^ q) (still : d < 2 ^ r) (least : e < 2 ^ t) :
    a ||| b ||| c ||| d ||| e = a + b + c + d + e := by
  rw [or_three first second small smaller, or_three third fourth still least]

/-! ## Windows -/

/-- The bits of an array from an offset on; above its end the array is clear. -/
def window (bits : List Bool) (start width : Nat) : List Bool :=
  (List.range width).map fun i => bits.getD (start + i) false

@[simp] theorem length_window (bits : List Bool) (start width : Nat) :
    (window bits start width).length = width := by
  simp [window]

/-- A string is found at its offset. -/
theorem window_append (before bits after : List Bool) :
    window (before ++ (bits ++ after)) before.length bits.length = bits := by
  apply List.ext_getElem
  · simp
  · intro i first second
    simp [window, List.getElem?_append_right, List.getElem?_append_left second,
      List.getElem?_eq_getElem second]

/-- A window in two parts. -/
theorem window_add (bits : List Bool) (start first second : Nat) :
    window bits start (first + second) =
      window bits start first ++ window bits (start + first) second := by
  simp only [window, List.range_add, List.map_append, List.map_map]
  congr 1
  refine List.map_congr_left fun i _ => ?_
  simp [Nat.add_assoc]

/-- A window over the whole array and beyond is the array and clear bits. -/
theorem window_zero (bits : List Bool) (more : Nat) :
    window bits 0 (bits.length + more) = bits ++ List.replicate more false := by
  apply List.ext_getElem
  · simp
  · intro i first second
    by_cases inside : i < bits.length
    · simp [window, inside]
    · simp [window, List.getElem_append_right (Nat.le_of_not_lt inside), inside]

end OpenDataCon.BitStrings
