import Mathlib.Tactic.IntervalCases
import OpenDataCon.Foundations.BitStrings

/-!
# Positions as texts of bits

A position is written as a text of zeros and ones, in binary or in decimal digits of four
bits each, the leading digit being cut to the bits that are left for it. A text of up to 31
bits is read as its number; the first of 32 bits counts as a sign, as the code shifts an
`int` (`toDecimal_of_eq`). A number within the capacity of the digits is written and read
back (`decimalToBcdEncodedString_of_lt`); one of more digits is written past the text.
-/

set_option autoImplicit false

namespace OpenDataCon.SimPort

open BitStrings

/-! ## Texts of bits -/

/-- A text of bits. -/
abbrev BitString := List Char

/-- `std::to_string` of a boolean. -/
def bitChar (bit : Bool) : Char := if bit then '1' else '0'

/-- `1 << i` as an `int`, converted to `std::size_t`. -/
def bitWeight (i : Nat) : Nat := ((1#32 <<< i).signExtend 64).toNat

/-- The sum of the weights of the ones, from the last character on. -/
def toDecimal (binary : BitString) : Nat :=
  binary.reverse.zipIdx.foldl
    (fun n digit => if digit.1 = '1' then (n + bitWeight digit.2) % 2 ^ 64 else n) 0

/-- The last `size` bits of a number. -/
def toBinary (n : Nat) : Nat → BitString
  | 0 => []
  | size + 1 => toBinary (n / 2) size ++ [if n % 2 = 1 then '1' else '0']

def BcdPackSize : Nat := 4

/-- The leading digit has the bits that are left over, the others have four each. -/
def bcdEncodedToDecimal (str : BitString) : Nat :=
  let start := str.length % BcdPackSize
  let leading := if start = 0 then 0 else toDecimal (str.take start)
  (List.range (str.length / BcdPackSize)).foldl (fun decimal i =>
    (decimal * 10 + toDecimal ((str.drop (i * BcdPackSize + start)).take BcdPackSize)) % 2 ^ 64)
    leading

/-- The digits of a number, in a text with so many places. A digit that has no place is
written before the text, and then nothing is known. -/
def bcdDigits : Nat → Nat → Option BitString
  | 0, n => if n = 0 then some [] else none
  | places + 1, n => (bcdDigits places (n / 10)).map (· ++ toBinary (n % 10) BcdPackSize)

def decimalToBcdEncodedString (n size : Nat) : Option BitString :=
  let places := (size + (BcdPackSize - 1)) / BcdPackSize
  (bcdDigits places n).map (·.drop (places * BcdPackSize - size))

/-! ## Binary -/

theorem toBinary_eq (n size : Nat) : toBinary n size = (bitsOf size n).map bitChar := by
  induction size generalizing n with
  | zero => rfl
  | succ size ih =>
      have last : (if n % 2 = 1 then '1' else '0') = bitChar (n.testBit 0) := by
        simp only [bitChar, Nat.testBit_zero, decide_eq_true_eq]
      rw [toBinary, ih, bitsOf_succ, List.map_append, last]
      rfl

/-- The weight of a bit that is no sign. -/
theorem bitWeight_of_lt {i : Nat} (small : i < 31) : bitWeight i = 2 ^ i := by
  interval_cases i <;> rfl

theorem bitWeight_sign : bitWeight 31 = 2 ^ 64 - 2 ^ 31 := by rfl

theorem toDecimal_cons (char : Char) (text : BitString) :
    toDecimal (char :: text) =
      if char = '1' then (toDecimal text + bitWeight text.length) % 2 ^ 64
      else toDecimal text := by
  rw [toDecimal, List.reverse_cons, List.zipIdx_append, List.foldl_append, List.length_reverse,
    Nat.zero_add]
  rfl

theorem bitChar_eq_one (bit : Bool) : bitChar bit = '1' ↔ bit = true := by
  cases bit <;> decide

/-- **The number of a text of up to 31 bits.** -/
theorem toDecimal_of_le {bits : List Bool} (short : bits.length ≤ 31) :
    toDecimal (bits.map bitChar) = valueOf bits := by
  induction bits with
  | nil => rfl
  | cons bit bits ih =>
      have shorter : bits.length < 31 := short
      have below := valueOf_lt (bit :: bits)
      have bound : 2 ^ (bit :: bits).length ≤ 2 ^ 31 := Nat.pow_le_pow_right (by decide) short
      rw [List.map_cons, toDecimal_cons, ih (Nat.le_of_lt shorter), List.length_map,
        bitWeight_of_lt shorter]
      rw [valueOf_cons] at below ⊢
      simp only [bitChar_eq_one]
      cases bit with
      | false =>
          rw [Bool.toNat_false, Nat.zero_mul, Nat.zero_add]
          rfl
      | true =>
          rw [Bool.toNat_true, Nat.one_mul] at below ⊢
          rw [if_pos rfl, Nat.mod_eq_of_lt (by omega)]
          exact Nat.add_comm _ _

/-- The number of a text of 32 bits, of which the first is a sign. -/
theorem toDecimal_of_eq {bits : List Bool} (full : bits.length = 32) :
    toDecimal (bits.map bitChar) =
      if valueOf bits < 2 ^ 31 then valueOf bits else valueOf bits + (2 ^ 64 - 2 ^ 32) := by
  cases bits with
  | nil => cases full
  | cons bit bits =>
      have length : bits.length = 31 := Nat.succ.inj full
      have below : valueOf bits < 2 ^ 31 := length ▸ valueOf_lt bits
      rw [List.map_cons, toDecimal_cons, toDecimal_of_le (Nat.le_of_eq length), List.length_map,
        valueOf_cons, length, bitWeight_sign]
      simp only [bitChar_eq_one]
      cases bit with
      | false =>
          rw [Bool.toNat_false, Nat.zero_mul, Nat.zero_add, if_neg Bool.false_ne_true,
            if_pos below]
      | true =>
          rw [Bool.toNat_true, Nat.one_mul, if_pos rfl, if_neg (by omega),
            Nat.mod_eq_of_lt (by omega)]
          omega

/-! ## Decimal digits -/

section OneMoreDigit

variable {front pack : BitString}

/-- The digits before the last one. -/
theorem digit_append {i : Nat} (inside : i < front.length / 4) :
    ((front ++ pack).drop (i * 4 + front.length % 4)).take 4 =
      (front.drop (i * 4 + front.length % 4)).take 4 := by
  rw [List.drop_append_of_le_length (by omega), List.take_append_of_le_length]
  rw [List.length_drop]
  omega

variable (whole : pack.length = 4)

include whole

theorem length_append_mod : (front ++ pack).length % 4 = front.length % 4 := by
  rw [List.length_append, whole, Nat.add_mod_right]

theorem length_append_div : (front ++ pack).length / 4 = front.length / 4 + 1 := by
  rw [List.length_append, whole, Nat.add_div_right _ (by decide)]

theorem lastDigit_append :
    ((front ++ pack).drop (front.length / 4 * 4 + front.length % 4)).take 4 = pack := by
  rw [Nat.div_add_mod', List.drop_left, List.take_of_length_le (Nat.le_of_eq whole)]

/-- The number of a text with one more digit at its end. -/
theorem bcdEncodedToDecimal_append :
    bcdEncodedToDecimal (front ++ pack) =
      (bcdEncodedToDecimal front * 10 + toDecimal pack) % 2 ^ 64 := by
  have leading : (front ++ pack).take (front.length % 4) = front.take (front.length % 4) :=
    List.take_append_of_le_length (Nat.mod_le _ _)
  rw [bcdEncodedToDecimal, bcdEncodedToDecimal, BcdPackSize]
  simp only [length_append_mod whole, length_append_div whole, leading]
  rw [List.range_succ, List.foldl_append, List.foldl_cons, List.foldl_nil, lastDigit_append whole]
  refine congrArg (fun decimal => (decimal * 10 + toDecimal pack) % 2 ^ 64) ?_
  refine List.foldl_ext _ _ _ fun decimal i inside => ?_
  rw [digit_append (List.mem_range.mp inside)]

end OneMoreDigit

/-- A text of less than four bits is a leading digit alone. -/
theorem bcdEncodedToDecimal_short {text : BitString} (short : text.length < 4) :
    bcdEncodedToDecimal text = toDecimal text := by
  rw [bcdEncodedToDecimal, BcdPackSize, Nat.mod_eq_of_lt short, Nat.div_eq_of_lt short,
    List.range_zero, List.foldl_nil, List.take_length]
  split
  · next empty =>
      rw [List.length_eq_zero_iff.mp empty]
      rfl
  · rfl

/-- Every digit of four bits is one of 0 to 9. -/
def DigitsValid (str : BitString) : Prop :=
  ∀ i < str.length / BcdPackSize,
    toDecimal ((str.drop (i * BcdPackSize + str.length % BcdPackSize)).take BcdPackSize) ≤ 9

theorem digitsValid_append {front pack : BitString} (whole : pack.length = 4) :
    DigitsValid (front ++ pack) ↔ DigitsValid front ∧ toDecimal pack ≤ 9 := by
  rw [DigitsValid, DigitsValid, BcdPackSize, length_append_mod whole, length_append_div whole]
  constructor
  · intro valid
    refine ⟨fun i inside => ?_, ?_⟩
    · rw [← digit_append inside]
      exact valid i (Nat.lt_succ_of_lt inside)
    · have last := valid (front.length / 4) (Nat.lt_succ_self _)
      rwa [lastDigit_append whole] at last
  · rintro ⟨valid, last⟩ i inside
    rcases Nat.lt_succ_iff_lt_or_eq.mp inside with before | rfl
    · rw [digit_append before]
      exact valid i before
    · rw [lastDigit_append whole]
      exact last

theorem digitsValid_short {text : BitString} (short : text.length < 4) : DigitsValid text := by
  intro i inside
  rw [BcdPackSize, Nat.div_eq_of_lt short] at inside
  exact absurd inside (Nat.not_lt_zero i)

/-- The numbers that a text of so many bits can have. -/
def bcdCapacity (size : Nat) : Nat := 2 ^ (size % 4) * 10 ^ (size / 4)

theorem bcdCapacity_add (size : Nat) : bcdCapacity (size + 4) = bcdCapacity size * 10 := by
  rw [bcdCapacity, bcdCapacity, Nat.add_mod_right, Nat.add_div_right _ (by decide), pow_succ,
    Nat.mul_assoc]

theorem bcdCapacity_le {size : Nat} (short : size ≤ 32) : bcdCapacity size < 2 ^ 32 := by
  rw [bcdCapacity]
  interval_cases size <;> decide

/-- **A number in valid digits** is less than the capacity. -/
theorem bcdEncodedToDecimal_lt {bits : List Bool} (short : bits.length ≤ 32)
    (valid : DigitsValid (bits.map bitChar)) :
    bcdEncodedToDecimal (bits.map bitChar) < bcdCapacity bits.length := by
  induction total : bits.length using Nat.strong_induction_on generalizing bits with
  | h size ih =>
      by_cases alone : bits.length < 4
      · rw [bcdEncodedToDecimal_short (by rw [List.length_map]; exact alone),
          toDecimal_of_le (by omega), ← total, bcdCapacity, Nat.mod_eq_of_lt alone,
          Nat.div_eq_of_lt alone, pow_zero, Nat.mul_one]
        exact valueOf_lt bits
      · have parts := List.take_append_drop (bits.length - 4) bits
        have whole : ((bits.drop (bits.length - 4)).map bitChar).length = 4 := by
          rw [List.length_map, List.length_drop]
          omega
        have front : (bits.take (bits.length - 4)).length = bits.length - 4 := by
          rw [List.length_take]
          omega
        rw [← parts, List.map_append] at valid
        obtain ⟨validFront, last⟩ := (digitsValid_append whole).mp valid
        have below := ih (bits.length - 4) (by omega) (by omega) validFront front
        rw [← parts, List.map_append, bcdEncodedToDecimal_append whole]
        have grown := bcdCapacity_add (bits.length - 4)
        have sum : bits.length - 4 + 4 = size := by omega
        rw [sum] at grown
        have small := Nat.mod_le (bcdEncodedToDecimal ((bits.take (bits.length - 4)).map bitChar) *
          10 + toDecimal ((bits.drop (bits.length - 4)).map bitChar)) (2 ^ 64)
        omega

/-! ## Writing decimal digits -/

/-- A number of at most 31 bits, written in binary and read. -/
theorem toDecimal_toBinary {n size : Nat} (short : size ≤ 31) :
    toDecimal (toBinary n size) = n % 2 ^ size := by
  rw [toBinary_eq, toDecimal_of_le (by rw [length_bitsOf]; exact short), valueOf_bitsOf]

theorem length_toBinary (n size : Nat) : (toBinary n size).length = size := by
  rw [toBinary_eq, List.length_map, length_bitsOf]

theorem length_bcdDigits {places n : Nat} {text : BitString}
    (written : bcdDigits places n = some text) : text.length = places * 4 := by
  induction places generalizing n text with
  | zero =>
      rw [bcdDigits] at written
      split at written
      · cases written
        rfl
      · cases written
  | succ places ih =>
      obtain ⟨front, before, rfl⟩ := Option.map_eq_some_iff.mp written
      rw [List.length_append, ih before, length_toBinary, BcdPackSize, Nat.succ_mul]

/-- **A digit is written at the end.** -/
theorem decimalToBcdEncodedString_add (n size : Nat) :
    decimalToBcdEncodedString n (size + 4) =
      (decimalToBcdEncodedString (n / 10) size).map (· ++ toBinary (n % 10) 4) := by
  have places : (size + 4 + 3) / 4 = (size + 3) / 4 + 1 := by omega
  have skipped : ((size + 3) / 4 + 1) * 4 - (size + 4) = (size + 3) / 4 * 4 - size := by omega
  rw [decimalToBcdEncodedString, decimalToBcdEncodedString, BcdPackSize]
  simp only [Nat.reduceSub, places, skipped, bcdDigits, BcdPackSize, Option.map_map]
  cases written : bcdDigits ((size + 3) / 4) (n / 10) with
  | none => rfl
  | some front =>
      have length := length_bcdDigits written
      refine congrArg some ?_
      exact List.drop_append_of_le_length (by omega)

/-- A digit cut to its last bits. -/
theorem drop_toBinary (n : Nat) {size : Nat} (short : size ≤ 4) :
    (toBinary n 4).drop (4 - size) = toBinary n size := by
  have parts := bitsOf_add (4 - size) size n
  rw [Nat.sub_add_cancel short] at parts
  rw [toBinary_eq, toBinary_eq, parts, List.map_append]
  refine List.drop_left' ?_
  rw [List.length_map, length_bitsOf]

/-- A leading digit alone. -/
theorem decimalToBcdEncodedString_short {n size : Nat} (some_bits : 0 < size) (short : size < 4) :
    decimalToBcdEncodedString n size = if n / 10 = 0 then some (toBinary n size) else none := by
  have places : (size + 3) / 4 = 1 := by omega
  rw [decimalToBcdEncodedString, BcdPackSize]
  simp only [Nat.reduceSub, places, bcdDigits, BcdPackSize, Option.map_map, Nat.one_mul]
  split
  · next small =>
      have digit : n % 10 = n := Nat.mod_eq_of_lt (by omega)
      rw [digit]
      exact congrArg some (drop_toBinary n (Nat.le_of_lt short))
  · rfl

/-- **What is written has as many bits, in valid digits.** -/
theorem decimalToBcdEncodedString_valid {n size : Nat} {text : BitString}
    (written : decimalToBcdEncodedString n size = some text) :
    (∃ bits : List Bool, bits.length = size ∧ text = bits.map bitChar) ∧ DigitsValid text := by
  induction size using Nat.strong_induction_on generalizing n text with
  | h size ih =>
      by_cases alone : size < 4
      · by_cases nothing : size = 0
        · subst nothing
          obtain ⟨digits, none_left, rfl⟩ := Option.map_eq_some_iff.mp written
          have empty := List.length_eq_zero_iff.mp (length_bcdDigits none_left)
          subst empty
          exact ⟨⟨[], rfl, rfl⟩, digitsValid_short (by decide)⟩
        · rw [decimalToBcdEncodedString_short (Nat.pos_of_ne_zero nothing) alone] at written
          split at written
          · cases written
            exact ⟨⟨bitsOf size n, length_bitsOf size n, toBinary_eq n size⟩,
              digitsValid_short (by rw [length_toBinary]; exact alone)⟩
          · cases written
      · obtain ⟨less, rfl⟩ : ∃ less, size = less + 4 := ⟨size - 4, by omega⟩
        rw [decimalToBcdEncodedString_add] at written
        obtain ⟨front, before, rfl⟩ := Option.map_eq_some_iff.mp written
        obtain ⟨⟨bits, length, rfl⟩, valid⟩ := ih less (by omega) before
        have digit : toDecimal (toBinary (n % 10) 4) ≤ 9 := by
          rw [toDecimal_toBinary (by decide)]
          omega
        refine ⟨⟨bits ++ bitsOf 4 (n % 10), ?_, ?_⟩, ?_⟩
        · rw [List.length_append, length, length_bitsOf]
        · rw [List.map_append, toBinary_eq]
        · exact (digitsValid_append (length_toBinary _ 4)).mpr ⟨valid, digit⟩

/-- **A number within the capacity is written and read back.** -/
theorem decimalToBcdEncodedString_of_lt {n size : Nat} (short : size ≤ 32)
    (fits : n < bcdCapacity size) :
    ∃ text, decimalToBcdEncodedString n size = some text ∧ bcdEncodedToDecimal text = n := by
  induction size using Nat.strong_induction_on generalizing n with
  | h size ih =>
      by_cases alone : size < 4
      · by_cases nothing : size = 0
        · subst nothing
          obtain rfl : n = 0 := Nat.lt_one_iff.mp fits
          exact ⟨[], rfl, rfl⟩
        · have small : n < 2 ^ size := by
            rwa [bcdCapacity, Nat.mod_eq_of_lt alone, Nat.div_eq_of_lt alone, pow_zero,
              Nat.mul_one] at fits
          have bound : 2 ^ size ≤ 2 ^ 3 := Nat.pow_le_pow_right (by decide) (by omega)
          refine ⟨toBinary n size, ?_, ?_⟩
          · rw [decimalToBcdEncodedString_short (Nat.pos_of_ne_zero nothing) alone,
              if_pos (by omega)]
          · rw [bcdEncodedToDecimal_short (by rw [length_toBinary]; exact alone),
              toDecimal_toBinary (by omega), Nat.mod_eq_of_lt small]
      · obtain ⟨less, rfl⟩ : ∃ less, size = less + 4 := ⟨size - 4, by omega⟩
        have bound := bcdCapacity_le short
        rw [bcdCapacity_add] at fits bound
        obtain ⟨front, before, read⟩ := @ih less (by omega) (n / 10) (by omega) (by omega)
        refine ⟨front ++ toBinary (n % 10) 4, ?_, ?_⟩
        · rw [decimalToBcdEncodedString_add, before]
          rfl
        · rw [bcdEncodedToDecimal_append (length_toBinary _ 4), read,
            toDecimal_toBinary (by decide)]
          omega

end OpenDataCon.SimPort
