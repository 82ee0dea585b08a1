import OpenDataCon.CBPort.Block
import OpenDataCon.Foundations.LinearChecks

/-!
# What a block holds, and which errors it shows

A block that is built as a data block or as an address block holds its fields. Writing a section,
marking the end of the message and exchanging the station and the group change the fields that they
are about and keep the block valid (`run_fields`). A block made from received bytes is as they are.

The check bits are a linear check. With the clear B bit they show every single and every double
error above the end-of-message bit (`xorBit_isValidBlock`, `xorBit_xorBit_isValidBlock`): the
columns of the bits are different and not zero. The whole is `constructed_code`.
-/

set_option autoImplicit false

namespace OpenDataCon.CBPort

open BitFields LinearChecks

namespace CBBlockData

/-! ## The constructors and the writers -/

/-- The constructors: an empty block, four received bytes, a data block and an address block. -/
inductive Constructor where
  | empty
  | received (data : BitVec 32)
  | dataBlock (aData bData : BitVec 16) (lastblock : Bool)
  | addressBlock (stationAddress group functionCode : Nat) (bData : BitVec 16) (lastblock : Bool)

def construct : Constructor → CBBlockData
  | .empty => {}
  | .received data => { data, builddataindex := 4 }
  | .dataBlock aData bData lastblock => CBBlockData.dataBlock aData bData lastblock
  | .addressBlock stationAddress group functionCode bData lastblock =>
    CBBlockData.addressBlock stationAddress group functionCode bData lastblock

/-- What may be done to a block. -/
inductive Writer where
  | setA (A : BitVec 16)
  | setB (B : BitVec 16)
  | markAsEndOfMessageBlock
  | doBakerConitelSwap

def write (block : CBBlockData) : Writer → CBBlockData
  | .setA A => block.setA A
  | .setB B => block.setB B
  | .markAsEndOfMessageBlock => block.markAsEndOfMessageBlock
  | .doBakerConitelSwap => block.doBakerConitelSwap

/-- Invert a bit, counted from the top. -/
def xorBit (block : CBBlockData) (bit : Nat) : CBBlockData :=
  if bit < 32 then { block with data := block.data ^^^ 1#32 <<< (31 - bit) } else block

/-! ## The fields -/

/-- What a block holds: section A as its three parts, section B, the kind of the block and the
end-of-message mark. -/
structure Fields where
  functionCode : Nat
  stationAddress : Nat
  group : Nat
  B : Nat
  isDataBlock : Bool
  isEndOfMessageBlock : Bool
deriving DecidableEq, Repr

/-- Section A. -/
def Fields.A (fields : Fields) : Nat :=
  fields.functionCode * 256 + fields.stationAddress * 16 + fields.group

/-- The fields with another section A. -/
def Fields.withA (fields : Fields) (A : Nat) : Fields :=
  { fields with
    functionCode := A / 256 % 16
    stationAddress := A / 16 % 16
    group := A % 16 }

/-- What a writer sets. -/
def Fields.write (fields : Fields) : Writer → Fields
  | .setA A => fields.withA A.toNat
  | .setB B => { fields with B := B.toNat % 4096 }
  | .markAsEndOfMessageBlock => { fields with isEndOfMessageBlock := true }
  | .doBakerConitelSwap =>
    { fields with stationAddress := fields.group, group := fields.stationAddress }

/-- What the constructors of a block to be sent set. -/
def Constructor.fields : Constructor → Option Fields
  | .empty | .received _ => none
  | .dataBlock aData bData lastblock =>
    some (Fields.withA
      { functionCode := 0, stationAddress := 0, group := 0, B := bData.toNat % 4096
        isDataBlock := true, isEndOfMessageBlock := lastblock } aData.toNat)
  | .addressBlock stationAddress group functionCode bData lastblock =>
    some
      { functionCode := functionCode % 16, stationAddress := stationAddress % 16
        group := group % 16, B := bData.toNat % 4096, isDataBlock := false
        isEndOfMessageBlock := lastblock }

/-- What the getters return. -/
def fields (block : CBBlockData) : Fields where
  functionCode := block.getFunctionCode
  stationAddress := block.getStationAddress
  group := block.getGroup
  B := block.getB.toNat
  isDataBlock := block.isDataBlock
  isEndOfMessageBlock := block.isEndOfMessageBlock

/-- Section A is made of its three parts. -/
theorem getA_toNat (block : CBBlockData) : block.getA.toNat = block.fields.A := by
  have small := getA_lt block
  simp only [fields, Fields.A, getFunctionCode_eq, getStationAddress_eq, getGroup_eq]
  omega

/-- Two blocks with one section A have the same parts of it. -/
theorem fields_ext {block : CBBlockData} {fields : Fields}
    (function : fields.functionCode < 16) (station : fields.stationAddress < 16)
    (group : fields.group < 16) (A : block.getA.toNat = fields.A)
    (B : block.getB.toNat = fields.B) (kind : block.isDataBlock = fields.isDataBlock)
    (last : block.isEndOfMessageBlock = fields.isEndOfMessageBlock) : block.fields = fields := by
  obtain ⟨functionCode, stationAddress, unit, B', isDataBlock, isLast⟩ := fields
  simp only [Fields.A] at function station group A B kind last
  simp only [CBBlockData.fields, getFunctionCode_eq, getStationAddress_eq, getGroup_eq, A, B, kind,
    last, Fields.mk.injEq, and_true]
  refine ⟨?_, ?_, ?_⟩ <;> omega

theorem and_section_toNat (word : BitVec 16) : (word &&& 0xFFF#16).toNat = word.toNat % 4096 := by
  rw [BitVec.toNat_and]
  exact Nat.and_two_pow_sub_one_eq_mod _ 12

/-! ## Every writer sets its field -/

section Writers

variable (block : CBBlockData)

@[simp] theorem getB_setA (A : BitVec 16) : (block.setA A).getB = block.getB := by
  apply BitVec.eq_of_getLsbD_eq
  intro i _
  by_cases small : i < 12
  · rw [getLsbD_getB, getLsbD_getB, getLsbD_setA _ _ (by omega), if_neg (by omega)]
  · simp [getLsbD_getB, small]

@[simp] theorem getA_setB (B : BitVec 16) : (block.setB B).getA = block.getA := by
  apply BitVec.eq_of_getLsbD_eq
  intro i _
  rw [getLsbD_getA, getLsbD_getA, getLsbD_setB _ _ (by omega), if_neg (by omega)]

@[simp] theorem getB_setB (B : BitVec 16) : (block.setB B).getB = B &&& 0xFFF#16 := by
  refine section_ext (fun i small => ?_) fun i large => ?_
  · rw [getLsbD_getB, getLsbD_setB _ _ (by omega), if_pos (by omega)]
    simp [small]
  · simp [getLsbD_getB, show ¬i < 12 by omega]

@[simp] theorem isDataBlock_setA (A : BitVec 16) :
    (block.setA A).isDataBlock = block.isDataBlock := by
  simp only [isDataBlock, getABit_eq]
  rw [getLsbD_setA _ _ (by omega), if_neg (by omega)]

@[simp] theorem isDataBlock_setB (B : BitVec 16) :
    (block.setB B).isDataBlock = block.isDataBlock := by
  simp only [isDataBlock, getABit_eq]
  rw [getLsbD_setB _ _ (by omega), if_neg (by omega)]

@[simp] theorem isDataBlock_markAsEndOfMessageBlock :
    block.markAsEndOfMessageBlock.isDataBlock = block.isDataBlock := by
  simp only [isDataBlock, getABit_eq]
  rw [getLsbD_markAsEndOfMessageBlock]
  simp

@[simp] theorem isEndOfMessageBlock_setA (A : BitVec 16) :
    (block.setA A).isEndOfMessageBlock = block.isEndOfMessageBlock := by
  simp only [isEndOfMessageBlock_eq]
  rw [getLsbD_setA _ _ (by omega), if_neg (by omega)]

@[simp] theorem isEndOfMessageBlock_setB (B : BitVec 16) :
    (block.setB B).isEndOfMessageBlock = block.isEndOfMessageBlock := by
  simp only [isEndOfMessageBlock_eq]
  rw [getLsbD_setB _ _ (by omega), if_neg (by omega)]

@[simp] theorem isEndOfMessageBlock_markAsEndOfMessageBlock :
    block.markAsEndOfMessageBlock.isEndOfMessageBlock = true := by
  rw [isEndOfMessageBlock_eq, getLsbD_markAsEndOfMessageBlock]
  simp

/-- The end-of-message mark is outside the check. -/
theorem bchPasses_markAsEndOfMessageBlock :
    block.markAsEndOfMessageBlock.bchPasses = block.bchPasses := by
  have above (i : Nat) (high : 1 ≤ i) :
      block.markAsEndOfMessageBlock.data.getLsbD i = block.data.getLsbD i := by
    rw [getLsbD_markAsEndOfMessageBlock]
    simp [show ¬i = 0 by omega]
  have check : cbBCH block.markAsEndOfMessageBlock.data = cbBCH block.data :=
    cbBCH_congr fun i high => above i (by omega)
  have stored : block.markAsEndOfMessageBlock.getBCH = block.getBCH := by
    apply BitVec.eq_of_getLsbD_eq
    intro i _
    simp only [getBCH, BitVec.getLsbD_setWidth, BitVec.getLsbD_and, BitVec.getLsbD_ushiftRight]
    rw [above (1 + i) (by omega)]
  rw [bchPasses, bchPasses, check, stored]

/-- **A writer keeps a valid block valid.** -/
theorem write_isValidBlock {block : CBBlockData} (valid : block.isValidBlock = true)
    (writer : Writer) : (block.write writer).isValidBlock = true := by
  obtain ⟨clear, passes, full⟩ := (isValidBlock_iff block).mp valid
  cases writer with
  | setA A =>
      refine (isValidBlock_iff _).mpr ⟨?_, bchPasses_setBCH _, full⟩
      rw [write, getLsbD_setA _ _ (by omega), if_neg (by omega), clear]
  | setB B =>
      refine (isValidBlock_iff _).mpr ⟨?_, bchPasses_setBCH _, full⟩
      rw [write, getLsbD_setB _ _ (by omega), if_neg (by omega), clear]
  | markAsEndOfMessageBlock =>
      refine (isValidBlock_iff _).mpr ⟨?_, ?_, full⟩
      · rw [write, getLsbD_markAsEndOfMessageBlock, clear]
        rfl
      · rw [write, bchPasses_markAsEndOfMessageBlock, passes]
  | doBakerConitelSwap => exact doBakerConitelSwap_isValidBlock valid

/-- **A writer sets what it writes**, and no other field. -/
theorem fields_write (writer : Writer) :
    (block.write writer).fields = block.fields.write writer := by
  have function := getFunctionCode_lt block
  have station := getStationAddress_lt block
  have group := getGroup_lt block
  have A := getA_toNat block
  cases writer with
  | setA A' =>
      refine fields_ext ?_ ?_ ?_ ?_ ?_ ?_ ?_
      all_goals simp only [write, Fields.write, Fields.withA, Fields.A, getA_setA, getB_setA,
        isDataBlock_setA, isEndOfMessageBlock_setA, and_section_toNat]
      · omega
      · omega
      · omega
      · omega
      all_goals rfl
  | setB B' =>
      refine fields_ext function station group ?_ ?_ ?_ ?_
      · rw [write, getA_setB, A]
        rfl
      · rw [write, getB_setB, and_section_toNat]
        rfl
      · exact isDataBlock_setB block B'
      · exact isEndOfMessageBlock_setB block B'
  | markAsEndOfMessageBlock =>
      refine fields_ext function station group ?_ ?_ ?_ ?_
      · rw [write, getA_markAsEndOfMessageBlock, A]
        rfl
      · rw [write, getB_markAsEndOfMessageBlock]
        rfl
      · exact isDataBlock_markAsEndOfMessageBlock block
      · exact isEndOfMessageBlock_markAsEndOfMessageBlock block
  | doBakerConitelSwap =>
      refine fields_ext function group station ?_ ?_ ?_ ?_
      · exact getA_doBakerConitelSwap block
      · rw [write, doBakerConitelSwap, getB_setA]
        rfl
      · exact isDataBlock_doBakerConitelSwap block
      · exact isEndOfMessageBlock_doBakerConitelSwap block

end Writers

/-! ## What the constructors set -/

/-- A block that is built to be sent is valid and holds its fields. -/
theorem construct_fields {source : Constructor} {start : Fields}
    (sent : source.fields = some start) :
    (construct source).isValidBlock = true ∧ (construct source).fields = start := by
  cases source with
  | empty => cases sent
  | received data => cases sent
  | dataBlock aData bData lastblock =>
      cases sent
      refine ⟨dataBlock_isValidBlock aData bData lastblock, ?_⟩
      refine fields_ext (Nat.mod_lt _ (by decide)) (Nat.mod_lt _ (by decide))
        (Nat.mod_lt _ (by decide)) ?_ ?_ ?_ ?_
      · rw [construct, getA_dataBlock, and_section_toNat]
        simp only [Fields.withA, Fields.A]
        omega
      · rw [construct, getB_dataBlock, and_section_toNat]
        rfl
      · exact isDataBlock_dataBlock aData bData lastblock
      · exact isEndOfMessageBlock_dataBlock aData bData lastblock
  | addressBlock stationAddress group functionCode bData lastblock =>
      cases sent
      refine ⟨addressBlock_isValidBlock _ _ _ _ _, ?_⟩
      refine fields_ext (Nat.mod_lt _ (by decide)) (Nat.mod_lt _ (by decide))
        (Nat.mod_lt _ (by decide)) ?_ ?_ ?_ ?_
      · exact getA_addressBlock_toNat stationAddress group functionCode bData lastblock
      · rw [construct, getB_addressBlock, and_section_toNat]
      · exact isDataBlock_addressBlock stationAddress group functionCode bData lastblock
      · exact isEndOfMessageBlock_addressBlock stationAddress group functionCode bData lastblock

/-- **After any writers a valid block is valid, and its getters return what was set.** -/
theorem run_fields {block : CBBlockData} (valid : block.isValidBlock = true)
    (writers : List Writer) :
    (writers.foldl write block).isValidBlock = true ∧
      (writers.foldl write block).fields = writers.foldl Fields.write block.fields := by
  induction writers generalizing block with
  | nil => exact ⟨valid, rfl⟩
  | cons writer rest ih =>
      obtain ⟨later, fields⟩ := ih (write_isValidBlock valid writer)
      rw [fields_write] at fields
      exact ⟨later, fields⟩

/-! ## The check as a linear check -/

/-- The check bits that a word should have, with those it has. -/
def remainder (data : BitVec 32) : BitVec 8 :=
  cbBCH data ^^^ ((data >>> 1) &&& 0x1F#32).setWidth 8

/-- A turn of the check loop adds the remainder of the bit. -/
theorem cbBCHStep_eq (data bch : BitVec 32) (masked : bch &&& 0x1F#32 = bch) {bit : Nat}
    (inWord : bit < 32) :
    cbBCHStep data bch bit =
      bch ^^^
        if data.getLsbD (31 - bit) then (BCH.getD bit 0).setWidth 32 &&& 0x1F#32 else 0#32 := by
  unfold cbBCHStep
  have test := top_bit_after_shift data inWord
  by_cases set : data.getLsbD (31 - bit) = true
  · rw [if_pos (test.mpr set), if_pos set, xor_and_mask, masked]
  · rw [if_neg fun same => set (test.mp same), if_neg set, BitVec.xor_zero]

/-- The loop keeps five bits. -/
theorem cbBCHStep_masked (data bch : BitVec 32) (masked : bch &&& 0x1F#32 = bch) (bit : Nat) :
    cbBCHStep data bch bit &&& 0x1F#32 = cbBCHStep data bch bit := by
  unfold cbBCHStep
  split
  · rw [BitVec.and_assoc, BitVec.and_self]
  · exact masked

theorem additive_cbBCH : Additive cbBCH := by
  have loop : Additive fun data => (List.range 25).foldl (cbBCHStep data) 0#32 := by
    refine @additive_foldl 32 32 Nat cbBCHStep (fun bch => bch &&& 0x1F#32 = bch) (List.range 25)
      ?_ ?_ ?_
    · exact fun bit _ data bch masked => cbBCHStep_masked data bch masked bit
    · intro bit member first second bch bch' masked masked'
      have inWord : bit < 32 := Nat.lt_trans (List.mem_range.mp member) (by decide)
      have both : (bch ^^^ bch') &&& 0x1F#32 = bch ^^^ bch' := by
        rw [xor_and_mask, masked, masked']
      rw [cbBCHStep_eq _ _ both inWord, cbBCHStep_eq _ _ masked inWord,
        cbBCHStep_eq _ _ masked' inWord, BitVec.getLsbD_xor]
      generalize (BCH.getD bit 0).setWidth 32 &&& 0x1F#32 = remainder
      cases first.getLsbD (31 - bit) <;> cases second.getLsbD (31 - bit)
      all_goals simp only [Bool.false_xor, Bool.true_xor, Bool.not_false, Bool.not_true,
        Bool.false_eq_true, if_true, if_false, BitVec.xor_zero]
      · ac_rfl
      · ac_rfl
      · rw [BitVec.xor_assoc bch remainder, ← BitVec.xor_assoc remainder bch',
          BitVec.xor_comm remainder bch', BitVec.xor_assoc bch' remainder, BitVec.xor_self,
          BitVec.xor_zero]
    · decide
  intro first second
  have sum := loop first second
  dsimp only at sum
  unfold cbBCH
  rw [sum, xor_and_mask, BitVec.setWidth_xor]

theorem additive_remainder : Additive remainder := by
  refine additive_cbBCH.xor ?_
  intro first second
  dsimp only
  rw [BitVec.ushiftRight_xor_distrib, xor_and_mask, BitVec.setWidth_xor]

theorem bchPasses_iff (block : CBBlockData) :
    block.bchPasses = true ↔ remainder block.data = 0#8 := by
  have fiveBits : block.getBCH &&& 0x1F#8 = block.getBCH := by
    unfold getBCH
    rw [show (0x1F#8 : BitVec 8) = (0x1F#32).setWidth 8 by decide, ← BitVec.setWidth_and,
      BitVec.and_assoc, BitVec.and_self]
  unfold bchPasses cbBCHCompare remainder
  rw [cbBCH_and_mask, fiveBits, beq_iff_eq, BitVec.xor_eq_zero_iff]
  rfl

/-- The bits above the end-of-message bit, but for the B bit. -/
def checkedBits : List Nat := (List.range 32).filter fun i => 1 ≤ i ∧ i ≠ 6

/-- The columns of the check are different and not zero. -/
theorem columns_nodup : (checkedBits.map (column remainder)).Nodup := by
  decide +kernel

theorem zero_notMem_columns : 0#8 ∉ checkedBits.map (column remainder) := by
  decide +kernel

theorem mem_checkedBits {i : Nat} : i ∈ checkedBits ↔ i < 32 ∧ 1 ≤ i ∧ i ≠ 6 := by
  simp [checkedBits]

/-- A bit inverted. -/
theorem getLsbD_xorBit (block : CBBlockData) {bit : Nat} (inWord : bit < 32) (i : Nat) :
    (block.xorBit bit).data.getLsbD i = (block.data.getLsbD i ^^ decide (i = 31 - bit)) := by
  unfold xorBit
  rw [if_pos inWord]
  dsimp only
  rw [BitVec.getLsbD_xor, ← BitVec.twoPow_eq, BitVec.getLsbD_twoPow]
  simp only [show 31 - bit < 32 by omega, decide_true, Bool.true_and, eq_comm]

/-- **One inverted bit above the end-of-message bit is found.** -/
theorem xorBit_isValidBlock {block : CBBlockData} (valid : block.isValidBlock = true) {bit : Nat}
    (covered : bit < 31) : (block.xorBit bit).isValidBlock = false := by
  obtain ⟨clear, passes, -⟩ := (isValidBlock_iff block).mp valid
  rw [← Bool.not_eq_true]
  intro still
  obtain ⟨clear', passes', -⟩ := (isValidBlock_iff _).mp still
  rw [getLsbD_xorBit block (by omega), clear, Bool.false_xor] at clear'
  rw [bchPasses_iff, xorBit, if_pos (by omega)] at passes'
  have zero := (flip_passes_iff additive_remainder ((bchPasses_iff block).mp passes) _).mp passes'
  refine zero_notMem_columns (List.mem_map.mpr ⟨31 - bit, mem_checkedBits.mpr ?_, zero⟩)
  have other := of_decide_eq_false clear'
  omega

/-- **Two inverted bits above the end-of-message bit are found.** -/
theorem xorBit_xorBit_isValidBlock {block : CBBlockData} (valid : block.isValidBlock = true)
    {bit bit' : Nat} (covered : bit < 31) (covered' : bit' < 31) (distinct : bit ≠ bit') :
    ((block.xorBit bit).xorBit bit').isValidBlock = false := by
  obtain ⟨clear, passes, -⟩ := (isValidBlock_iff block).mp valid
  rw [← Bool.not_eq_true]
  intro still
  obtain ⟨clear', passes', -⟩ := (isValidBlock_iff _).mp still
  rw [getLsbD_xorBit _ (by omega), getLsbD_xorBit block (by omega), clear, Bool.false_xor] at clear'
  have notB : 31 - bit ≠ 6 ∧ 31 - bit' ≠ 6 := by
    by_cases first : 6 = 31 - bit
    · have second : ¬6 = 31 - bit' := by omega
      simp [first] at clear'
      omega
    · by_cases second : 6 = 31 - bit'
      · simp [first, ← second] at clear'
      · omega
  rw [bchPasses_iff, xorBit, if_pos (by omega), xorBit, if_pos (by omega)] at passes'
  have same := (flip_flip_passes_iff additive_remainder ((bchPasses_iff block).mp passes) _ _).mp
    passes'
  have bits := List.inj_on_of_nodup_map columns_nodup (mem_checkedBits.mpr (by omega))
    (mem_checkedBits.mpr (by omega)) same
  omega

/-- **The code of a block.** A block that is built to be sent is valid and holds its fields. A valid
block stays valid under every writer, its getters return the last values set, and the swap undoes
itself; and it shows one or two inverted bits above the end-of-message bit. -/
theorem constructed_code {source : Constructor} {start : Fields}
    (sent : source.fields = some start) :
    ((construct source).isValidBlock = true ∧ (construct source).fields = start) ∧
      ∀ block : CBBlockData, block.isValidBlock = true →
        (∀ writers : List Writer,
          let later := writers.foldl write block
          later.isValidBlock = true ∧ later.fields = writers.foldl Fields.write block.fields ∧
            later.getA.toNat = later.fields.A ∧
            later.doBakerConitelSwap.doBakerConitelSwap = later) ∧
        ∀ bit < 31, (block.xorBit bit).isValidBlock = false ∧
          ∀ bit' < 31, bit ≠ bit' → ((block.xorBit bit).xorBit bit').isValidBlock = false := by
  refine ⟨construct_fields sent, fun block valid => ⟨?_, fun bit covered => ⟨?_, ?_⟩⟩⟩
  · intro writers later
    obtain ⟨stays, fields⟩ := run_fields valid writers
    have passes := ((isValidBlock_iff later).mp stays).2.1
    exact ⟨stays, fields, getA_toNat later, doBakerConitelSwap_involutive passes⟩
  · exact xorBit_isValidBlock valid covered
  · exact fun bit' covered' distinct => xorBit_xorBit_isValidBlock valid covered covered' distinct

/-- An address block, exchanged and marked. -/
theorem constructed_code_swapped :
    let block := CBBlockData.addressBlock 9 2 3 0x123#16 false
    let later := [Writer.doBakerConitelSwap, .markAsEndOfMessageBlock].foldl write block
    later.isValidBlock = true ∧
      later.fields =
        { functionCode := 3, stationAddress := 2, group := 9, B := 0x123
          isDataBlock := false, isEndOfMessageBlock := true } := by
  intro block later
  have code := @constructed_code (.addressBlock 9 2 3 0x123#16 false) _ rfl
  have written := (code.2 block code.1.1).1 [.doBakerConitelSwap, .markAsEndOfMessageBlock]
  exact ⟨written.1, written.2.1.trans (congrArg (fun fields => [Writer.doBakerConitelSwap,
    .markAsEndOfMessageBlock].foldl Fields.write fields) code.1.2)⟩

/-- Four received bytes with the B bit set are no valid block, and neither is the empty block. -/
theorem constructed_code_received :
    (construct (.received 0x40#32)).isValidBlock = false ∧
      (construct .empty).isValidBlock = false ∧
      ((construct (.received 0x40#32)).write (.setA 0#16)).isValidBlock = false := by
  decide

end CBBlockData

end OpenDataCon.CBPort
