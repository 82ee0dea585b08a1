import Mathlib.Data.BitVec
import Mathlib.Tactic.IntervalCases

/-!
# Fields of fixed-width words

A protocol packs several numbers into one machine word. Reading a field shifts
the word right and masks it; writing a field clears the bits of the field and
puts the masked value there.

A mask is known by its bits (`IsMask`): the low `width` bits are set and no
other bit is. From that the bits of a written word are those of the value
inside the field and those of the old word outside it (`getLsbD_writeField`).
Reading a written field gives back the low bits of the value
(`readField_writeField`), and a write elsewhere does not change what is read
(`readField_writeField_of_disjoint`).
-/

set_option autoImplicit false

namespace OpenDataCon.BitFields

variable {w : Nat}

/-- The low `width` bits are set, and no other bit is. -/
def IsMask (mask : BitVec w) (width : Nat) : Prop :=
  ∀ i, mask.getLsbD i = (decide (i < width) && decide (i < w))

/-- A mask written as a number is one below a power of two. -/
theorem isMask_ofNat (width : Nat) : IsMask (BitVec.ofNat w (2 ^ width - 1)) width := by
  intro i
  simp [BitVec.getLsbD_ofNat, Nat.testBit_two_pow_sub_one, Bool.and_comm]

/-- The field of a word at an offset. -/
def readField (word mask : BitVec w) (offset : Nat) : BitVec w :=
  (word >>> offset) &&& mask

/-- The word with the field at an offset replaced by the low bits of a value. -/
def writeField (word mask value : BitVec w) (offset : Nat) : BitVec w :=
  (word &&& ~~~(mask <<< offset)) ||| ((value &&& mask) <<< offset)

section Fields

variable {mask : BitVec w} {width : Nat}

theorem getLsbD_readField {word : BitVec w} {offset : Nat} (masks : IsMask mask width)
    (i : Nat) :
    (readField word mask offset).getLsbD i =
      (decide (i < width) && decide (i < w) && word.getLsbD (offset + i)) := by
  simp only [readField, BitVec.getLsbD_and, BitVec.getLsbD_ushiftRight, masks i]
  exact Bool.and_comm _ _

theorem getLsbD_writeField (word value : BitVec w) (offset : Nat) (masks : IsMask mask width)
    (fits : offset + width ≤ w) (i : Nat) :
    (writeField word mask value offset).getLsbD i =
      if offset ≤ i ∧ i < offset + width then value.getLsbD (i - offset)
      else word.getLsbD i := by
  simp only [writeField, BitVec.getLsbD_or, BitVec.getLsbD_and, BitVec.getLsbD_not,
    BitVec.getLsbD_shiftLeft, masks (i - offset)]
  by_cases inWord : i < w
  · by_cases below : i < offset
    · have outside : ¬(offset ≤ i ∧ i < offset + width) := by omega
      simp [inWord, below, outside]
    · by_cases above : i < offset + width
      · have inside : offset ≤ i ∧ i < offset + width := by omega
        have small : i - offset < width := by omega
        have smallWord : i - offset < w := by omega
        simp [inWord, below, inside, small, smallWord]
      · have outside : ¬(offset ≤ i ∧ i < offset + width) := by omega
        have large : ¬ i - offset < width := by omega
        simp [inWord, below, outside, large]
  · have outside : ¬(offset ≤ i ∧ i < offset + width) := by omega
    simp [inWord, outside, BitVec.getLsbD_of_ge word i (by omega)]

/-- Reading a field that was just written gives the low bits of the value. -/
theorem readField_writeField (word value : BitVec w) (offset : Nat) (masks : IsMask mask width)
    (fits : offset + width ≤ w) :
    readField (writeField word mask value offset) mask offset = value &&& mask := by
  apply BitVec.eq_of_getLsbD_eq
  intro i inWord
  rw [getLsbD_readField masks, getLsbD_writeField _ _ _ masks fits, BitVec.getLsbD_and, masks i]
  by_cases small : i < width
  · have inside : offset ≤ offset + i ∧ offset + i < offset + width := by omega
    simp [small, inWord]
  · simp [small]

/-- A write to another field does not change what is read. -/
theorem readField_writeField_of_disjoint {word otherMask value : BitVec w}
    {offset otherOffset otherWidth : Nat}
    (masks : IsMask mask width) (otherMasks : IsMask otherMask otherWidth)
    (fits : otherOffset + otherWidth ≤ w)
    (disjoint : otherOffset + otherWidth ≤ offset ∨ offset + width ≤ otherOffset) :
    readField (writeField word otherMask value otherOffset) mask offset =
      readField word mask offset := by
  apply BitVec.eq_of_getLsbD_eq
  intro i inWord
  rw [getLsbD_readField masks, getLsbD_readField masks, getLsbD_writeField _ _ _ otherMasks fits]
  by_cases small : i < width
  · have outside : ¬(otherOffset ≤ offset + i ∧ offset + i < otherOffset + otherWidth) := by
      omega
    rw [if_neg outside]
  · simp [small]

end Fields

end OpenDataCon.BitFields
