import OpenDataCon.Foundations.BinaryPolynomials
import OpenDataCon.MD3Port.Framing

/-!
# The checksum of an MD3 block

The table of the checksum is eight turns of a shift register (`fcstab_eq`), so four look-ups divide
the word times `X ^ 6` by `X ^ 6 + X ^ 4 + X ^ 3 + X + 1`, and the check bits are the complement of
the remainder (`md3CRC_eq_remainder`). The check is linear in the word and the complemented check
bits. Its columns are different and not zero, so one and two inverted bits are found
(`xorBit_checkSumPasses`, `xorBit_xorBit_checkSumPasses`). The whole is `md3CRC_code`.
-/

set_option autoImplicit false

namespace OpenDataCon.MD3Port

open BinaryPolynomials LinearChecks Polynomial

/-! ## The table -/

/-- What a look-up gives for a byte. -/
def lookUp (byte : BitVec 8) : BitVec 8 := fcstab.getD byte.toNat 0#8

/-- The register of the table: eight bits, of which the two lowest stay clear at last. -/
def turn : BitVec 8 → BitVec 8 := shiftStep 0x6C#8

theorem fcstab_turns : fcstab.toList = (List.range 256).map fun n => turn^[8] (BitVec.ofNat 8 n) := by
  decide +kernel

theorem fcstab_low : (fcstab.toList.all fun entry => entry >>> 2 <<< 2 == entry) = true := by
  decide +kernel

theorem fcstab_getElem? (byte : BitVec 8) :
    fcstab.toList[byte.toNat]? = some (turn^[8] byte) := by
  rw [fcstab_turns, List.getElem?_map, List.getElem?_range byte.isLt, Option.map_some,
    BitVec.ofNat_toNat, BitVec.setWidth_eq]

/-- **A look-up is eight turns.** -/
theorem lookUp_eq (byte : BitVec 8) : lookUp byte = turn^[8] byte := by
  have entry := fcstab_getElem? byte
  rw [Array.getElem?_toList] at entry
  rw [lookUp, Array.getD_eq_getD_getElem?, entry, Option.getD_some]

theorem lookUp_low (byte : BitVec 8) : lookUp byte >>> 2 <<< 2 = lookUp byte := by
  have member := List.mem_of_getElem? (fcstab_getElem? byte)
  rw [lookUp_eq]
  exact eq_of_beq (List.all_eq_true.mp fcstab_low _ member)

theorem additive_lookUp : Additive lookUp := by
  have turns : Additive turn^[8] := additive_iterate (additive_shiftStep 0x6C#8) 8
  intro first second
  rw [lookUp_eq, lookUp_eq, lookUp_eq, turns]

/-! ## The division -/

/-- The polynomial of the check. -/
noncomputable def bccPolynomial : (ZMod 2)[X] := X ^ 6 + X ^ 4 + X ^ 3 + X + 1

theorem generator_turn : generator 0x6C#8 = X ^ 2 * bccPolynomial := by
  have feedback : ofBits 0x6C#8 = X ^ 2 + X ^ 3 + X ^ 5 + X ^ 6 := by
    simp [ofBits, Finset.sum_range_succ]
  rw [generator, feedback, bccPolynomial]
  ring

theorem degree_bccPolynomial : bccPolynomial.degree = 6 := by
  unfold bccPolynomial
  compute_degree!

theorem monic_bccPolynomial : bccPolynomial.Monic := by
  unfold bccPolynomial
  monicity!

theorem dvd_lookUp (byte : BitVec 8) :
    X ^ 2 * bccPolynomial ∣ X ^ 8 * ofBits byte + ofBits (lookUp byte) := by
  rw [lookUp_eq, ← generator_turn]
  exact dvd_iterate_shiftStep 0x6C#8 byte 8

/-- One more byte of the word. -/
theorem dvd_lookUp_xor {known : (ZMod 2)[X]} {register : BitVec 8}
    (divides : X ^ 2 * bccPolynomial ∣ X ^ 8 * known + ofBits register) (byte : BitVec 8) :
    X ^ 2 * bccPolynomial ∣
      X ^ 8 * (X ^ 8 * known + ofBits byte) + ofBits (lookUp (byte ^^^ register)) := by
  have sum := dvd_add (divides.mul_left (X ^ 8)) (dvd_lookUp (byte ^^^ register))
  refine sum.trans (dvd_of_eq ?_)
  have two : (2 : (ZMod 2)[X]) = 0 := CharTwo.two_eq_zero
  rw [ofBits_xor]
  linear_combination (X ^ 8 * ofBits register) * two

/-- The four look-ups. -/
def chain (data : BitVec 32) : BitVec 8 :=
  lookUp (data.setWidth 8 ^^^
    lookUp ((data >>> 8).setWidth 8 ^^^
      lookUp ((data >>> 16).setWidth 8 ^^^ lookUp ((data >>> 24).setWidth 8))))

/-- The bytes of a word, as the look-ups take them. -/
theorem ofBits_word (data : BitVec 32) :
    ofBits data = X ^ 8 * (X ^ 8 * (X ^ 8 * ofBits ((data >>> 24).setWidth 8) +
      ofBits ((data >>> 16).setWidth 8)) + ofBits ((data >>> 8).setWidth 8)) +
        ofBits (data.setWidth 8) := by
  rw [← ofBits_append, ← ofBits_append, ← ofBits_append]
  apply ofBits_congr
  intro i
  simp only [BitVec.getLsbD_append, BitVec.getLsbD_setWidth, BitVec.getLsbD_ushiftRight]
  by_cases first : i < 8
  · simp [first]
  · by_cases second : i < 16
    · simp [first, show i - 8 < 8 by omega, show 8 + (i - 8) = i by omega]
    · by_cases third : i < 24
      · simp [first, show ¬i - 8 < 8 by omega, show i - 8 - 8 < 8 by omega,
          show 16 + (i - 8 - 8) = i by omega]
      · by_cases fourth : i < 32
        · simp [first, show ¬i - 8 < 8 by omega, show ¬i - 8 - 8 < 8 by omega,
            show i - 8 - 8 - 8 < 8 by omega, show 24 + (i - 8 - 8 - 8) = i by omega]
        · rw [BitVec.getLsbD_of_ge data i (by omega)]
          simp [first, show ¬i - 8 < 8 by omega, show ¬i - 8 - 8 < 8 by omega,
            show ¬i - 8 - 8 - 8 < 8 by omega]

theorem dvd_chain (data : BitVec 32) :
    X ^ 2 * bccPolynomial ∣ X ^ 8 * ofBits data + ofBits (chain data) := by
  rw [ofBits_word]
  exact dvd_lookUp_xor (dvd_lookUp_xor (dvd_lookUp_xor (dvd_lookUp _) _) _) _

/-- The remainder that the look-ups leave, above two clear bits. -/
def checkRemainder (data : BitVec 32) : BitVec 6 := (chain data >>> 2).setWidth 6

/-- **The look-ups divide.** -/
theorem ofBits_checkRemainder (data : BitVec 32) :
    ofBits (checkRemainder data) = (ofBits data * X ^ 6) %ₘ bccPolynomial := by
  have shifted : ofBits (chain data) = X ^ 2 * ofBits (checkRemainder data) := by
    refine ofBits_shift 2 fun i => ?_
    have low : chain data >>> 2 <<< 2 = chain data := lookUp_low _
    rw [← low, BitVec.getLsbD_shiftLeft, checkRemainder, BitVec.getLsbD_setWidth]
    by_cases inByte : i < 8
    · by_cases above : 2 ≤ i
      · simp [inByte, above, show ¬i < 2 by omega, show i - 2 < 6 by omega]
      · simp [above, show i < 2 by omega]
    · simp [inByte, show ¬i - 2 < 6 by omega]
  have divides := dvd_chain data
  rw [shifted, show X ^ 8 * ofBits data + X ^ 2 * ofBits (checkRemainder data) =
    X ^ 2 * (ofBits data * X ^ 6 + ofBits (checkRemainder data)) by ring,
    mul_dvd_mul_iff_left (pow_ne_zero 2 X_ne_zero)] at divides
  exact ofBits_eq_modByMonic monic_bccPolynomial degree_bccPolynomial divides

/-- What the code looks up. -/
theorem fcstab_getD (data : BitVec 32) (register : BitVec 8) :
    fcstab.getD ((data ^^^ register.setWidth 32) &&& 0xFF#32).toNat 0#8 =
      lookUp (data.setWidth 8 ^^^ register) := by
  have byte : ((data ^^^ register.setWidth 32) &&& 0xFF#32).toNat =
      (data.setWidth 8 ^^^ register).toNat := by
    have narrow : data.setWidth 8 ^^^ register = (data ^^^ register.setWidth 32).setWidth 8 := by
      rw [BitVec.setWidth_xor, BitVec.setWidth_setWidth_of_le register (by decide),
        BitVec.setWidth_eq]
    rw [narrow, BitVec.toNat_and, BitVec.toNat_setWidth]
    exact Nat.and_two_pow_sub_one_eq_mod _ 8
  rw [byte, lookUp]

/-- **The check bits are the complement of the remainder.** -/
theorem md3CRC_eq (data : BitVec 32) : md3CRC data = (~~~checkRemainder data).setWidth 8 := by
  have first := fcstab_getD (data >>> 24) 0#8
  rw [BitVec.setWidth_zero, BitVec.xor_zero, BitVec.xor_zero] at first
  have looked : md3CRC data = ~~~(chain data >>> 2) &&& 0x3F#8 := by
    unfold md3CRC chain
    dsimp only
    rw [first, fcstab_getD, fcstab_getD, fcstab_getD]
  have mask : ∀ i < 8, (0x3F#8).getLsbD i = decide (i < 6) := by decide
  rw [looked]
  apply BitVec.eq_of_getLsbD_eq
  intro i inByte
  rw [BitVec.getLsbD_and, mask i inByte, BitVec.getLsbD_setWidth, BitVec.getLsbD_not,
    BitVec.getLsbD_not, checkRemainder, BitVec.getLsbD_setWidth]
  by_cases checked : i < 6
  · simp [checked, inByte]
  · simp [checked]

/-! ## Inverted bits -/

namespace MD3Block

/-- Invert a bit, counted from the top of the word and on through the end byte. -/
def xorBit (block : MD3Block) (bit : Nat) : MD3Block :=
  if bit < 32 then { block with data := block.data ^^^ 1#32 <<< (31 - bit) }
  else if bit < 40 then { block with endbyte := block.endbyte ^^^ 1#8 <<< (39 - bit) }
  else block

/-- The data bits and the check bits. -/
def Checked (bit : Nat) : Prop := bit < 32 ∨ 34 ≤ bit ∧ bit < 40

/-- The data bits, and the complement of the check bits below them. -/
def codeword (block : MD3Block) : BitVec 38 := block.data ++ ~~~block.endbyte.setWidth 6

/-- The place of a checked bit in the codeword. -/
def place (bit : Nat) : Nat := if bit < 32 then 37 - bit else 39 - bit

end MD3Block

open MD3Block

/-- The remainder of the data, with the check bits that go with it. -/
def remainder (word : BitVec 38) : BitVec 6 :=
  checkRemainder ((word >>> 6).setWidth 32) ^^^ word.setWidth 6

theorem additive_chain : Additive chain := by
  have next (first second register register' : BitVec 8) :
      lookUp (first ^^^ second ^^^ (register ^^^ register')) =
        lookUp (first ^^^ register) ^^^ lookUp (second ^^^ register') := by
    rw [← additive_lookUp]
    exact congrArg lookUp (by ac_rfl)
  intro first second
  unfold chain
  simp only [BitVec.ushiftRight_xor_distrib, BitVec.setWidth_xor]
  rw [additive_lookUp ((first >>> 24).setWidth 8), next, next, next]

theorem additive_remainder : Additive remainder := by
  intro first second
  unfold remainder checkRemainder
  rw [BitVec.ushiftRight_xor_distrib, BitVec.setWidth_xor, additive_chain,
    BitVec.ushiftRight_xor_distrib, BitVec.setWidth_xor, BitVec.setWidth_xor]
  ac_rfl

/-- The columns are different, and none is zero. -/
theorem columns_nodup : ((List.range 38).map (column remainder)).Nodup := by
  decide +kernel

theorem zero_notMem_columns : 0#6 ∉ (List.range 38).map (column remainder) := by
  decide +kernel

/-- A block passes when its codeword has no remainder. -/
theorem checkSumPasses_iff (block : MD3Block) :
    block.checkSumPasses = true ↔ remainder block.codeword = 0#6 := by
  have six : ∀ byte : BitVec 8, byte &&& 0x3F#8 = (byte.setWidth 6).setWidth 8 := by decide
  have data : (block.codeword >>> 6).setWidth 32 = block.data := by
    apply BitVec.eq_of_getLsbD_eq
    intro i inWord
    rw [BitVec.getLsbD_setWidth, BitVec.getLsbD_ushiftRight, codeword, BitVec.getLsbD_append]
    simp [inWord]
  have check : block.codeword.setWidth 6 = ~~~block.endbyte.setWidth 6 := by
    apply BitVec.eq_of_getLsbD_eq
    intro i small
    rw [BitVec.getLsbD_setWidth, codeword, BitVec.getLsbD_append]
    simp [small]
  have narrow : (md3CRC block.data).setWidth 6 = ~~~checkRemainder block.data := by
    rw [md3CRC_eq, BitVec.setWidth_setWidth_of_le _ (by decide), BitVec.setWidth_eq]
  unfold checkSumPasses md3CRCCompare remainder
  rw [beq_iff_eq, six, six, narrow, data, check, BitVec.xor_eq_zero_iff]
  constructor
  · intro same
    have words := congrArg (BitVec.setWidth 6) same
    rw [BitVec.setWidth_setWidth_of_le _ (by decide), BitVec.setWidth_eq,
      BitVec.setWidth_setWidth_of_le _ (by decide), BitVec.setWidth_eq] at words
    rw [← words, BitVec.not_not]
  · intro same
    rw [same, BitVec.not_not]

theorem codeword_xorBit (block : MD3Block) {bit : Nat} (checked : Checked bit) :
    (block.xorBit bit).codeword = block.codeword ^^^ 1#38 <<< place bit := by
  apply BitVec.eq_of_getLsbD_eq
  intro i inWord
  rw [BitVec.getLsbD_xor, ← BitVec.twoPow_eq, BitVec.getLsbD_twoPow]
  unfold MD3Block.xorBit codeword place
  by_cases word : bit < 32
  · rw [if_pos word, if_pos word, BitVec.getLsbD_append, BitVec.getLsbD_append]
    by_cases low : i < 6
    · simp [low, show ¬37 - bit = i by omega]
    · rw [if_neg low, if_neg low, BitVec.getLsbD_xor, ← BitVec.twoPow_eq, BitVec.getLsbD_twoPow]
      simp [show 31 - bit < 32 by omega, show 37 - bit < 38 by omega,
        show 31 - bit = i - 6 ↔ 37 - bit = i by omega]
  · have inEnd : 34 ≤ bit ∧ bit < 40 := checked.resolve_left word
    rw [if_neg word, if_neg word, if_pos inEnd.2, BitVec.getLsbD_append, BitVec.getLsbD_append]
    by_cases low : i < 6
    · rw [if_pos low, if_pos low, BitVec.getLsbD_not, BitVec.getLsbD_not, BitVec.setWidth_xor,
        BitVec.getLsbD_xor, BitVec.getLsbD_setWidth, BitVec.getLsbD_setWidth, ← BitVec.twoPow_eq,
        BitVec.getLsbD_twoPow]
      simp [low, show 39 - bit < 8 by omega, show 39 - bit < 38 by omega]
    · simp [low, show ¬39 - bit = i by omega]

theorem place_lt {bit : Nat} (checked : Checked bit) : place bit < 38 := by
  unfold Checked at checked
  unfold place
  split <;> omega

theorem place_inj {bit bit' : Nat} (checked : Checked bit) (checked' : Checked bit')
    (same : place bit = place bit') : bit = bit' := by
  unfold Checked at checked checked'
  unfold place at same
  split at same <;> split at same <;> omega

/-- **One inverted bit is found.** -/
theorem xorBit_checkSumPasses {block : MD3Block} (passes : block.checkSumPasses = true) {bit : Nat}
    (checked : Checked bit) : (block.xorBit bit).checkSumPasses = false := by
  rw [← Bool.not_eq_true, checkSumPasses_iff, codeword_xorBit block checked,
    flip_passes_iff additive_remainder ((checkSumPasses_iff block).mp passes)]
  intro zero
  exact zero_notMem_columns
    (List.mem_map.mpr ⟨place bit, List.mem_range.mpr (place_lt checked), zero⟩)

/-- **Two inverted bits are found.** -/
theorem xorBit_xorBit_checkSumPasses {block : MD3Block} (passes : block.checkSumPasses = true)
    {bit bit' : Nat} (checked : Checked bit) (checked' : Checked bit') (distinct : bit ≠ bit') :
    ((block.xorBit bit).xorBit bit').checkSumPasses = false := by
  rw [← Bool.not_eq_true, checkSumPasses_iff, codeword_xorBit _ checked',
    codeword_xorBit block checked,
    flip_flip_passes_iff additive_remainder ((checkSumPasses_iff block).mp passes)]
  intro same
  have places := List.inj_on_of_nodup_map columns_nodup (List.mem_range.mpr (place_lt checked))
    (List.mem_range.mpr (place_lt checked')) same
  exact distinct (place_inj checked checked' places)

/-- **The checksum of a block.** The check bits of a word are the complement of the remainder of the
word times `X ^ 6`, and a block that passes the check does not pass it with one or two bits
inverted. -/
theorem md3CRC_code (data : BitVec 32) {block : MD3Block} (passes : block.checkSumPasses = true) :
    (∃ rest : BitVec 6, md3CRC data = (~~~rest).setWidth 8 ∧
        ofBits rest = (ofBits data * X ^ 6) %ₘ (X ^ 6 + X ^ 4 + X ^ 3 + X + 1)) ∧
      ∀ bit, Checked bit → (block.xorBit bit).checkSumPasses = false ∧
        ∀ bit', Checked bit' → bit ≠ bit' →
          ((block.xorBit bit).xorBit bit').checkSumPasses = false := by
  refine ⟨⟨checkRemainder data, md3CRC_eq data, ofBits_checkRemainder data⟩, fun bit checked => ?_⟩
  exact ⟨xorBit_checkSumPasses passes checked, fun bit' checked' distinct =>
    xorBit_xorBit_checkSumPasses passes checked checked' distinct⟩

/-- A block that is built, with its first data bit and its last check bit inverted. -/
theorem md3CRC_code_built :
    let block := build { data := 0x7C05200F#32 } false true
    (∃ rest : BitVec 6, md3CRC 0x7C05200F#32 = (~~~rest).setWidth 8 ∧
        ofBits rest = (ofBits 0x7C05200F#32 * X ^ 6) %ₘ (X ^ 6 + X ^ 4 + X ^ 3 + X + 1)) ∧
      ((block.xorBit 0).xorBit 39).checkSumPasses = false := by
  intro block
  obtain ⟨divides, found⟩ := @md3CRC_code 0x7C05200F#32 block (by decide +kernel)
  exact ⟨divides, (found 0 (.inl (by decide))).2 39 (.inr (by decide)) (by decide)⟩

end OpenDataCon.MD3Port
