import OpenDataCon.Foundations.BitFields

/-!
# Conitel blocks

Every block is four bytes: twelve bits of section A, the A bit (clear in an
address block, set in a data block), twelve bits of section B, the B bit
(always clear), five check bits and the end-of-message bit.

The check bits are the exclusive or of one remainder for each set bit above
the B bit (`cbBCH`), so they depend on those bits alone (`cbBCH_congr`). Every
writer of a section recomputes them, hence every block built by a constructor
passes the check (`dataBlock_isValidBlock`, `addressBlock_isValidBlock`).

A Baker device exchanges the station and the group of an address block on the
wire. On a block that passes its check the exchange is an involution
(`doBakerConitelSwap_involutive`).
-/

set_option autoImplicit false

namespace OpenDataCon.CBPort

open BitFields

/-- The function codes the master and the outstation act on. -/
def FUNC_SCAN_DATA : Nat := 0
def FUNC_EXECUTE_COMMAND : Nat := 1
def FUNC_TRIP : Nat := 2
def FUNC_SETPOINT_A : Nat := 3
def FUNC_CLOSE : Nat := 4
def FUNC_SETPOINT_B : Nat := 5
def FUNC_RESET : Nat := 8
def FUNC_MASTER_STATION_REQUEST : Nat := 9
def FUNC_SEND_NEW_SOE : Nat := 10
def FUNC_REPEAT_SOE : Nat := 11
def FUNC_UNIT_RAISE_LOWER : Nat := 13
def FUNC_FREEZE_AND_SCAN_ACC : Nat := 14
def FUNC_FREEZE_SCAN_AND_RESET_ACC : Nat := 15

/-- The most blocks one message has. -/
def MAX_BLOCK_COUNT : Nat := 16

/-! ## The check bits -/

/-- The remainders of the bits of a block, the most significant bit first. -/
def BCH : List (BitVec 8) :=
  [0x12, 0x09, 0x16, 0x0B, 0x17, 0x19, 0x1E, 0x0F, 0x15, 0x18, 0x0C, 0x06, 0x03,
    0x13, 0x1B, 0x1F, 0x1D, 0x1C, 0x0E, 0x07, 0x11, 0x1A, 0x0D, 0x14, 0x0A, 0x05]

/-- One turn of the check loop: the remainder of a set bit is added. -/
def cbBCHStep (data bch : BitVec 32) (bit : Nat) : BitVec 32 :=
  if (data <<< bit) &&& 0x80000000#32 = 0x80000000#32 then
    (bch ^^^ (BCH.getD bit 0).setWidth 32) &&& 0x1F#32
  else bch

/-- The check bits of a block. -/
def cbBCH (data : BitVec 32) : BitVec 8 :=
  (((List.range 25).foldl (cbBCHStep data) 0#32) &&& 0xFF#32).setWidth 8

def cbBCHCompare (bch1 bch2 : BitVec 8) : Bool :=
  bch1 &&& 0x1F#8 == bch2 &&& 0x1F#8

/-- The test of the check loop is on one bit of the block. -/
theorem top_bit_after_shift (data : BitVec 32) {bit : Nat} (inWord : bit < 32) :
    ((data <<< bit) &&& 0x80000000#32 = 0x80000000#32) ↔ data.getLsbD (31 - bit) = true := by
  have topOnly : ∀ i, (0x80000000#32).getLsbD i = decide (i = 31) := by
    intro i
    by_cases small : i < 32
    · interval_cases i <;> decide
    · rw [BitVec.getLsbD_of_ge _ _ (by omega)]
      exact (decide_eq_false (by omega)).symm
  constructor
  · intro same
    have atTop : ((data <<< bit) &&& 0x80000000#32).getLsbD 31 = (0x80000000#32).getLsbD 31 := by
      rw [same]
    rw [BitVec.getLsbD_and, BitVec.getLsbD_shiftLeft, topOnly] at atTop
    simpa only [Nat.not_lt_of_le (Nat.le_of_lt_succ inWord), decide_true, decide_false,
      Nat.reduceLT, Bool.not_false, Bool.and_true, Bool.true_and] using atTop
  · intro set
    apply BitVec.eq_of_getLsbD_eq
    intro i _
    rw [BitVec.getLsbD_and, topOnly]
    by_cases top : i = 31
    · subst top
      simp [set, Nat.not_lt_of_le (Nat.le_of_lt_succ inWord)]
    · simp [top]

/-- The check bits depend only on the bits above the B bit. -/
theorem cbBCH_congr {first second : BitVec 32}
    (same : ∀ i, 7 ≤ i → first.getLsbD i = second.getLsbD i) : cbBCH first = cbBCH second := by
  have steps : ∀ (bits : List Nat) (bch : BitVec 32), (∀ bit ∈ bits, bit < 25) →
      bits.foldl (cbBCHStep first) bch = bits.foldl (cbBCHStep second) bch := by
    intro bits
    induction bits with
    | nil => intro _ _; rfl
    | cons bit rest ih =>
        intro bch bounded
        have small : bit < 25 := bounded bit (by simp)
        have test : ((first <<< bit) &&& 0x80000000#32 = 0x80000000#32) ↔
            ((second <<< bit) &&& 0x80000000#32 = 0x80000000#32) := by
          rw [top_bit_after_shift first (by omega), top_bit_after_shift second (by omega),
            same (31 - bit) (by omega)]
        have one : cbBCHStep first bch bit = cbBCHStep second bch bit := by
          simp only [cbBCHStep, test]
        rw [List.foldl_cons, List.foldl_cons, one]
        exact ih _ fun later member => bounded later (by simp [member])
  unfold cbBCH
  rw [steps _ _ fun bit member => List.mem_range.mp member]

/-- The check bits are five bits. -/
theorem cbBCH_and_mask (data : BitVec 32) : cbBCH data &&& 0x1F#8 = cbBCH data := by
  have bounded : ∀ (bits : List Nat) (bch : BitVec 32), bch &&& 0x1F#32 = bch →
      bits.foldl (cbBCHStep data) bch &&& 0x1F#32 = bits.foldl (cbBCHStep data) bch := by
    intro bits
    induction bits with
    | nil => intro bch masked; exact masked
    | cons bit rest ih =>
        intro bch masked
        refine ih _ ?_
        unfold cbBCHStep
        split
        · rw [BitVec.and_assoc, BitVec.and_self]
        · exact masked
  have masked := bounded (List.range 25) 0#32 (by decide)
  unfold cbBCH
  rw [← masked, BitVec.and_assoc, show (0x1F#32 &&& 0xFF#32) = 0x1F#32 by decide,
    BitVec.setWidth_and, show (0x1F#32).setWidth 8 = 0x1F#8 by decide, BitVec.and_assoc,
    BitVec.and_self]

/-! ## Blocks -/

/-- A block and, while it is read from a stream, how many of its bytes are in. -/
structure CBBlockData where
  data : BitVec 32 := 0#32
  builddataindex : Nat := 0
deriving DecidableEq, Repr, Inhabited

/-- A message: an address block and its data blocks. -/
abbrev CBMessage := List CBBlockData

namespace CBBlockData

/-- Recompute the check bits. -/
def setBCH (block : CBBlockData) : CBBlockData :=
  { block with
    data := (block.data &&& ~~~(0x3E#32)) ||| ((cbBCH block.data).setWidth 32 <<< 1) }

def getA (block : CBBlockData) : BitVec 16 :=
  ((block.data >>> 20) &&& 0xFFF#32).setWidth 16

def setA (block : CBBlockData) (A : BitVec 16) : CBBlockData :=
  setBCH { block with
    data := (block.data &&& ~~~(0xFFF#32 <<< 20)) |||
      ((A.setWidth 32 &&& 0x0FFF#32) <<< 20) }

def getB (block : CBBlockData) : BitVec 16 :=
  ((block.data >>> 7) &&& 0xFFF#32).setWidth 16

def setB (block : CBBlockData) (B : BitVec 16) : CBBlockData :=
  setBCH { block with
    data := (block.data &&& ~~~(0xFFF#32 <<< 7)) |||
      ((B.setWidth 32 &&& 0x0FFF#32) <<< 7) }

def getBCH (block : CBBlockData) : BitVec 8 :=
  ((block.data >>> 1) &&& 0x1F#32).setWidth 8

def getFunctionCode (block : CBBlockData) : Nat := ((block.getA >>> 8) &&& 0x0F#16).toNat

def getStationAddress (block : CBBlockData) : Nat := ((block.getA >>> 4) &&& 0x0F#16).toNat

def getGroup (block : CBBlockData) : Nat := (block.getA &&& 0x0F#16).toNat

def getABit (block : CBBlockData) : Bool := (block.data >>> 19) &&& 1#32 == 1#32

/-- The A bit is clear in an address block and set in a data block. -/
def isDataBlock (block : CBBlockData) : Bool := block.getABit

def isAddressBlock (block : CBBlockData) : Bool := !block.isDataBlock

def checkBBitIsZero (block : CBBlockData) : Bool := (block.data >>> 6) &&& 1#32 == 0#32

def isEndOfMessageBlock (block : CBBlockData) : Bool := block.data &&& 1#32 == 1#32

/-- The end-of-message bit is outside the check. -/
def markAsEndOfMessageBlock (block : CBBlockData) : CBBlockData :=
  { block with data := block.data ||| 1#32 }

def setABit (block : CBBlockData) : CBBlockData :=
  { block with data := block.data ||| (1#32 <<< 19) }

def setAddressBlock (block : CBBlockData) (on : Bool) : CBBlockData :=
  if on then block else block.setABit

def bchPasses (block : CBBlockData) : Bool := cbBCHCompare (cbBCH block.data) block.getBCH

/-- Everything that can be tested to tell that four bytes are a block. -/
def isValidBlock (block : CBBlockData) : Bool :=
  block.checkBBitIsZero && block.bchPasses && block.builddataindex == 4

/-- The last step of both constructors. -/
def finishBlock (block : CBBlockData) (lastblock : Bool) : CBBlockData :=
  let marked := if lastblock then block.markAsEndOfMessageBlock else block
  { marked.setBCH with builddataindex := 4 }

/-- The constructor of a data block. -/
def dataBlock (aData bData : BitVec 16) (lastblock : Bool := false) : CBBlockData :=
  finishBlock (setAddressBlock (setB (setA {} aData) bData) false) lastblock

/-- Section A of an address block. -/
def addressData (stationAddress group functionCode : Nat) : BitVec 16 :=
  (BitVec.ofNat 16 (functionCode &&& 0x0F) <<< 8) |||
    (BitVec.ofNat 16 (stationAddress &&& 0x0F) <<< 4) ||| BitVec.ofNat 16 (group &&& 0x0F)

/-- The constructor of an address block. -/
def addressBlock (stationAddress group functionCode : Nat) (bData : BitVec 16)
    (lastblock : Bool := false) : CBBlockData :=
  finishBlock
    (setAddressBlock (setB (setA {} (addressData stationAddress group functionCode)) bData) true)
    lastblock

/-- Exchange the station and the group. -/
def doBakerConitelSwap (block : CBBlockData) : CBBlockData :=
  block.setA (addressData block.getGroup block.getStationAddress block.getFunctionCode)

/-! ## The bytes of a block -/

/-- The four bytes put on the wire. -/
def toBinaryString (block : CBBlockData) : List (BitVec 8) :=
  [(block.data >>> 24).setWidth 8, ((block.data >>> 16) &&& 0xFF#32).setWidth 8,
    ((block.data >>> 8) &&& 0xFF#32).setWidth 8, (block.data &&& 0xFF#32).setWidth 8]

/-- Take a byte in: into the next free place of a block that is not full, else
push the oldest byte out. -/
def addByteToBlock (block : CBBlockData) (b : BitVec 8) : CBBlockData :=
  if block.builddataindex < 4 then
    { data := block.data ||| (b.setWidth 32 <<< (8 * (3 - block.builddataindex)))
      builddataindex := block.builddataindex + 1 }
  else
    { block with data := (block.data <<< 8) ||| b.setWidth 32 }

def clear (_ : CBBlockData) : CBBlockData := { data := 0#32, builddataindex := 0 }

/-! ## Fields of a block -/

theorem isMask_section : IsMask 0xFFF#32 12 := isMask_ofNat 12

theorem isMask_bch : IsMask 0x1F#32 5 := isMask_ofNat 5

theorem getA_eq_readField (block : CBBlockData) :
    block.getA = (readField block.data 0xFFF#32 20).setWidth 16 := rfl

theorem getB_eq_readField (block : CBBlockData) :
    block.getB = (readField block.data 0xFFF#32 7).setWidth 16 := rfl

theorem getABit_eq (block : CBBlockData) : block.getABit = block.data.getLsbD 19 := by
  unfold getABit
  rw [BitVec.and_one_eq_setWidth_ofBool_getLsbD, BitVec.getLsbD_ushiftRight]
  cases block.data.getLsbD (19 + 0) <;> rfl

theorem checkBBitIsZero_eq (block : CBBlockData) :
    block.checkBBitIsZero = !block.data.getLsbD 6 := by
  unfold checkBBitIsZero
  rw [BitVec.and_one_eq_setWidth_ofBool_getLsbD, BitVec.getLsbD_ushiftRight]
  cases block.data.getLsbD (6 + 0) <;> rfl

theorem isEndOfMessageBlock_eq (block : CBBlockData) :
    block.isEndOfMessageBlock = block.data.getLsbD 0 := by
  unfold isEndOfMessageBlock
  rw [BitVec.and_one_eq_setWidth_ofBool_getLsbD]
  cases block.data.getLsbD 0 <;> rfl

/-- Recomputing the check bits writes the field of the check bits. -/
theorem setBCH_data (block : CBBlockData) :
    block.setBCH.data = writeField block.data 0x1F#32 ((cbBCH block.data).setWidth 32) 1 := by
  have fiveBits : (cbBCH block.data).setWidth 32 &&& 0x1F#32 = (cbBCH block.data).setWidth 32 := by
    conv_rhs => rw [← cbBCH_and_mask]
    rw [BitVec.setWidth_and]
    rfl
  unfold setBCH writeField
  rw [fiveBits]
  rfl

theorem getLsbD_setBCH (block : CBBlockData) (i : Nat) :
    block.setBCH.data.getLsbD i =
      if 1 ≤ i ∧ i < 6 then ((cbBCH block.data).setWidth 32).getLsbD (i - 1)
      else block.data.getLsbD i := by
  rw [setBCH_data, getLsbD_writeField _ _ _ isMask_bch (by omega)]

theorem getLsbD_setBCH_of_outside (block : CBBlockData) {i : Nat} (outside : ¬(1 ≤ i ∧ i < 6)) :
    block.setBCH.data.getLsbD i = block.data.getLsbD i := by
  rw [getLsbD_setBCH, if_neg outside]

/-- Every recomputed block passes its check. -/
theorem bchPasses_setBCH (block : CBBlockData) : block.setBCH.bchPasses = true := by
  have unchanged : cbBCH block.setBCH.data = cbBCH block.data :=
    cbBCH_congr fun i above => getLsbD_setBCH_of_outside block (by omega)
  have stored : block.setBCH.getBCH = cbBCH block.data &&& 0x1F#8 := by
    have read := readField_writeField block.data ((cbBCH block.data).setWidth 32) 1 isMask_bch
      (by omega)
    rw [← setBCH_data] at read
    calc block.setBCH.getBCH
        = (readField block.setBCH.data 0x1F#32 1).setWidth 8 := rfl
      _ = ((cbBCH block.data).setWidth 32 &&& 0x1F#32).setWidth 8 := by rw [read]
      _ = cbBCH block.data &&& 0x1F#8 := by
          rw [BitVec.setWidth_and, BitVec.setWidth_setWidth_of_le _ (by omega),
            BitVec.setWidth_eq]
          rfl
  unfold bchPasses cbBCHCompare
  rw [unchanged, stored, BitVec.and_assoc, BitVec.and_self]
  exact beq_self_eq_true _

/-- A block that passes its check keeps its check bits when they are recomputed. -/
theorem setBCH_eq_self {block : CBBlockData} (passes : block.bchPasses = true) :
    block.setBCH = block := by
  have stored : cbBCH block.data = block.getBCH := by
    have same : cbBCH block.data &&& 0x1F#8 = block.getBCH &&& 0x1F#8 := eq_of_beq passes
    rw [cbBCH_and_mask] at same
    rw [same]
    apply BitVec.eq_of_getLsbD_eq
    intro i inByte
    have masks : IsMask 0x1F#8 5 := isMask_ofNat 5
    unfold getBCH
    rw [BitVec.getLsbD_and, BitVec.getLsbD_setWidth, BitVec.getLsbD_and, masks i,
      isMask_bch i]
    by_cases small : i < 5
    · simp [small, inByte]
    · simp [small]
  have same : block.setBCH.data = block.data := by
    apply BitVec.eq_of_getLsbD_eq
    intro i inWord
    rw [getLsbD_setBCH]
    split
    · rename_i inside
      have width : i - 1 < 8 := by omega
      rw [BitVec.getLsbD_setWidth, stored]
      unfold getBCH
      rw [BitVec.getLsbD_setWidth, BitVec.getLsbD_and, isMask_bch, BitVec.getLsbD_ushiftRight,
        show 1 + (i - 1) = i by omega]
      simp [width, show i - 1 < 32 by omega, show i - 1 < 5 by omega]
    · rfl
  cases block
  simp only [setBCH] at same ⊢
  rw [same]

/-- The bits after section A is written. -/
theorem getLsbD_setA (block : CBBlockData) (A : BitVec 16) {i : Nat}
    (outside : ¬(1 ≤ i ∧ i < 6)) :
    (block.setA A).data.getLsbD i =
      if 20 ≤ i ∧ i < 32 then A.getLsbD (i - 20) else block.data.getLsbD i := by
  unfold setA
  rw [getLsbD_setBCH_of_outside _ outside]
  have written := getLsbD_writeField block.data (A.setWidth 32) 20 isMask_section (by omega) i
  rw [BitVec.getLsbD_setWidth] at written
  refine written.trans ?_
  by_cases inside : 20 ≤ i ∧ i < 20 + 12
  · rw [if_pos inside, if_pos (by omega)]
    simp [show i - 20 < 32 by omega]
  · rw [if_neg inside, if_neg (by omega)]

/-- The bits after section B is written. -/
theorem getLsbD_setB (block : CBBlockData) (B : BitVec 16) {i : Nat}
    (outside : ¬(1 ≤ i ∧ i < 6)) :
    (block.setB B).data.getLsbD i =
      if 7 ≤ i ∧ i < 19 then B.getLsbD (i - 7) else block.data.getLsbD i := by
  unfold setB
  rw [getLsbD_setBCH_of_outside _ outside]
  have written := getLsbD_writeField block.data (B.setWidth 32) 7 isMask_section (by omega) i
  rw [BitVec.getLsbD_setWidth] at written
  refine written.trans ?_
  by_cases inside : 7 ≤ i ∧ i < 7 + 12
  · rw [if_pos inside, if_pos (by omega)]
    simp [show i - 7 < 32 by omega]
  · rw [if_neg inside, if_neg (by omega)]

theorem getLsbD_markAsEndOfMessageBlock (block : CBBlockData) (i : Nat) :
    block.markAsEndOfMessageBlock.data.getLsbD i = (block.data.getLsbD i || decide (i = 0)) := by
  unfold markAsEndOfMessageBlock
  rw [BitVec.getLsbD_or, BitVec.getLsbD_one]
  simp

theorem getLsbD_setABit (block : CBBlockData) (i : Nat) :
    block.setABit.data.getLsbD i = (block.data.getLsbD i || decide (i = 19)) := by
  unfold setABit
  rw [BitVec.getLsbD_or, BitVec.getLsbD_shiftLeft, BitVec.getLsbD_one]
  by_cases same : i = 19
  · simp [same]
  · by_cases below : i < 19
    · simp [same, below]
    · simp [same, show i - 19 ≠ 0 by omega]

theorem getLsbD_finishBlock (block : CBBlockData) (lastblock : Bool) {i : Nat}
    (outside : ¬(1 ≤ i ∧ i < 6)) :
    (block.finishBlock lastblock).data.getLsbD i =
      (block.data.getLsbD i || (lastblock && decide (i = 0))) := by
  unfold finishBlock
  rw [getLsbD_setBCH_of_outside _ outside]
  cases lastblock with
  | false => simp
  | true => simp [getLsbD_markAsEndOfMessageBlock]

theorem bchPasses_finishBlock (block : CBBlockData) (lastblock : Bool) :
    (block.finishBlock lastblock).bchPasses = true :=
  bchPasses_setBCH _

/-! ## Blocks built by the constructors -/

/-- The bits of a constructed data block, the check bits apart. -/
theorem getLsbD_dataBlock (aData bData : BitVec 16) (lastblock : Bool) {i : Nat}
    (outside : ¬(1 ≤ i ∧ i < 6)) :
    (dataBlock aData bData lastblock).data.getLsbD i =
      if 20 ≤ i ∧ i < 32 then aData.getLsbD (i - 20)
      else if i = 19 then true
      else if 7 ≤ i then bData.getLsbD (i - 7)
      else lastblock && decide (i = 0) := by
  unfold dataBlock
  rw [getLsbD_finishBlock _ _ outside]
  simp only [setAddressBlock, Bool.false_eq_true, if_false]
  rw [getLsbD_setABit, getLsbD_setB _ _ outside, getLsbD_setA _ _ outside]
  grind

/-- The bits of a constructed address block, the check bits apart. -/
theorem getLsbD_addressBlock (stationAddress group functionCode : Nat) (bData : BitVec 16)
    (lastblock : Bool) {i : Nat} (outside : ¬(1 ≤ i ∧ i < 6)) :
    (addressBlock stationAddress group functionCode bData lastblock).data.getLsbD i =
      if 20 ≤ i ∧ i < 32 then (addressData stationAddress group functionCode).getLsbD (i - 20)
      else if i = 19 then false
      else if 7 ≤ i then bData.getLsbD (i - 7)
      else lastblock && decide (i = 0) := by
  unfold addressBlock
  rw [getLsbD_finishBlock _ _ outside]
  simp only [setAddressBlock, if_true]
  rw [getLsbD_setB _ _ outside, getLsbD_setA _ _ outside]
  grind

theorem getLsbD_getA (block : CBBlockData) (i : Nat) :
    block.getA.getLsbD i = (decide (i < 12) && block.data.getLsbD (20 + i)) := by
  rw [getA_eq_readField, BitVec.getLsbD_setWidth, getLsbD_readField isMask_section]
  by_cases small : i < 12
  · simp [small, show i < 16 by omega, show i < 32 by omega]
  · simp [small]

theorem getLsbD_getB (block : CBBlockData) (i : Nat) :
    block.getB.getLsbD i = (decide (i < 12) && block.data.getLsbD (7 + i)) := by
  rw [getB_eq_readField, BitVec.getLsbD_setWidth, getLsbD_readField isMask_section]
  by_cases small : i < 12
  · simp [small, show i < 16 by omega, show i < 32 by omega]
  · simp [small]

@[simp] theorem getA_markAsEndOfMessageBlock (block : CBBlockData) :
    block.markAsEndOfMessageBlock.getA = block.getA := by
  apply BitVec.eq_of_getLsbD_eq
  intro i _
  simp [getLsbD_getA, getLsbD_markAsEndOfMessageBlock]

@[simp] theorem getB_markAsEndOfMessageBlock (block : CBBlockData) :
    block.markAsEndOfMessageBlock.getB = block.getB := by
  apply BitVec.eq_of_getLsbD_eq
  intro i _
  simp [getLsbD_getB, getLsbD_markAsEndOfMessageBlock]

theorem isMask_section16 : IsMask 0xFFF#16 12 := isMask_ofNat 12

/-- The bits of a word that fit in a section. -/
theorem getLsbD_and_section (word : BitVec 16) {i : Nat} (inSection : i < 12) :
    (word &&& 0xFFF#16).getLsbD i = word.getLsbD i := by
  rw [BitVec.getLsbD_and, isMask_section16, decide_eq_true inSection,
    decide_eq_true (show i < 16 by omega), Bool.and_true, Bool.and_true]

/-- A section read is the low twelve bits of the section written. -/
theorem section_ext {read written : BitVec 16}
    (bits : ∀ i, i < 12 → read.getLsbD i = written.getLsbD i)
    (high : ∀ i, 12 ≤ i → read.getLsbD i = false) : read = written &&& 0xFFF#16 := by
  apply BitVec.eq_of_getLsbD_eq
  intro i inWord
  rw [BitVec.getLsbD_and, isMask_section16]
  by_cases small : i < 12
  · rw [bits i small, decide_eq_true small, decide_eq_true inWord, Bool.and_true, Bool.and_true]
  · rw [high i (by omega), decide_eq_false small, Bool.false_and, Bool.and_false]

@[simp] theorem getA_dataBlock (aData bData : BitVec 16) (lastblock : Bool) :
    (dataBlock aData bData lastblock).getA = aData &&& 0xFFF#16 := by
  refine section_ext (fun i small => ?_) fun i large => ?_
  · rw [getLsbD_getA, getLsbD_dataBlock _ _ _ (by omega), if_pos (by omega)]
    simp [small]
  · simp [getLsbD_getA, show ¬ i < 12 by omega]

@[simp] theorem getB_dataBlock (aData bData : BitVec 16) (lastblock : Bool) :
    (dataBlock aData bData lastblock).getB = bData &&& 0xFFF#16 := by
  refine section_ext (fun i small => ?_) fun i large => ?_
  · rw [getLsbD_getB, getLsbD_dataBlock _ _ _ (by omega), if_neg (by omega), if_neg (by omega),
      if_pos (by omega)]
    simp [small]
  · simp [getLsbD_getB, show ¬ i < 12 by omega]

@[simp] theorem getA_addressBlock (stationAddress group functionCode : Nat) (bData : BitVec 16)
    (lastblock : Bool) :
    (addressBlock stationAddress group functionCode bData lastblock).getA =
      addressData stationAddress group functionCode &&& 0xFFF#16 := by
  refine section_ext (fun i small => ?_) fun i large => ?_
  · rw [getLsbD_getA, getLsbD_addressBlock _ _ _ _ _ (by omega), if_pos (by omega)]
    simp [small]
  · simp [getLsbD_getA, show ¬ i < 12 by omega]

@[simp] theorem getB_addressBlock (stationAddress group functionCode : Nat) (bData : BitVec 16)
    (lastblock : Bool) :
    (addressBlock stationAddress group functionCode bData lastblock).getB =
      bData &&& 0xFFF#16 := by
  refine section_ext (fun i small => ?_) fun i large => ?_
  · rw [getLsbD_getB, getLsbD_addressBlock _ _ _ _ _ (by omega), if_neg (by omega),
      if_neg (by omega), if_pos (by omega)]
    simp [small]
  · simp [getLsbD_getB, show ¬ i < 12 by omega]

@[simp] theorem isDataBlock_dataBlock (aData bData : BitVec 16) (lastblock : Bool) :
    (dataBlock aData bData lastblock).isDataBlock = true := by
  rw [isDataBlock, getABit_eq, getLsbD_dataBlock _ _ _ (by omega)]
  simp

@[simp] theorem isDataBlock_addressBlock (stationAddress group functionCode : Nat)
    (bData : BitVec 16) (lastblock : Bool) :
    (addressBlock stationAddress group functionCode bData lastblock).isDataBlock = false := by
  rw [isDataBlock, getABit_eq, getLsbD_addressBlock _ _ _ _ _ (by omega)]
  simp

@[simp] theorem isEndOfMessageBlock_dataBlock (aData bData : BitVec 16) (lastblock : Bool) :
    (dataBlock aData bData lastblock).isEndOfMessageBlock = lastblock := by
  rw [isEndOfMessageBlock_eq, getLsbD_dataBlock _ _ _ (by omega)]
  simp

@[simp] theorem isEndOfMessageBlock_addressBlock (stationAddress group functionCode : Nat)
    (bData : BitVec 16) (lastblock : Bool) :
    (addressBlock stationAddress group functionCode bData lastblock).isEndOfMessageBlock =
      lastblock := by
  rw [isEndOfMessageBlock_eq, getLsbD_addressBlock _ _ _ _ _ (by omega)]
  simp

theorem isValidBlock_iff (block : CBBlockData) :
    block.isValidBlock = true ↔
      block.data.getLsbD 6 = false ∧ block.bchPasses = true ∧ block.builddataindex = 4 := by
  unfold isValidBlock
  rw [checkBBitIsZero_eq]
  simp [and_assoc]

/-- **Every constructed data block is valid.** -/
theorem dataBlock_isValidBlock (aData bData : BitVec 16) (lastblock : Bool) :
    (dataBlock aData bData lastblock).isValidBlock = true := by
  refine (isValidBlock_iff _).mpr ⟨?_, bchPasses_finishBlock _ _, rfl⟩
  rw [getLsbD_dataBlock _ _ _ (by omega)]
  simp

/-- **Every constructed address block is valid.** -/
theorem addressBlock_isValidBlock (stationAddress group functionCode : Nat) (bData : BitVec 16)
    (lastblock : Bool) :
    (addressBlock stationAddress group functionCode bData lastblock).isValidBlock = true := by
  refine (isValidBlock_iff _).mpr ⟨?_, bchPasses_finishBlock _ _, rfl⟩
  rw [getLsbD_addressBlock _ _ _ _ _ (by omega)]
  simp

/-! ## The header of an address block -/

theorem addressData_toNat (stationAddress group functionCode : Nat) :
    (addressData stationAddress group functionCode).toNat =
      functionCode % 16 * 256 + stationAddress % 16 * 16 + group % 16 := by
  have low (n : Nat) : n &&& 0x0F = n % 16 := Nat.and_two_pow_sub_one_eq_mod n 4
  have function : functionCode % 16 < 16 := Nat.mod_lt _ (by decide)
  have station : stationAddress % 16 < 16 := Nat.mod_lt _ (by decide)
  have unit : group % 16 < 16 := Nat.mod_lt _ (by decide)
  simp only [addressData, low, BitVec.toNat_or, BitVec.toNat_shiftLeft, BitVec.toNat_ofNat]
  rw [Nat.mod_eq_of_lt (by omega : functionCode % 16 < 2 ^ 16),
    Nat.mod_eq_of_lt (by omega : stationAddress % 16 < 2 ^ 16),
    Nat.mod_eq_of_lt (by omega : group % 16 < 2 ^ 16), Nat.shiftLeft_eq, Nat.shiftLeft_eq,
    Nat.mod_eq_of_lt (by omega : functionCode % 16 * 2 ^ 8 < 2 ^ 16),
    Nat.mod_eq_of_lt (by omega : stationAddress % 16 * 2 ^ 4 < 2 ^ 16)]
  rw [Nat.mul_comm (functionCode % 16),
    ← Nat.two_pow_add_eq_or_of_lt (by omega : stationAddress % 16 * 2 ^ 4 < 2 ^ 8),
    show 2 ^ 8 * (functionCode % 16) + stationAddress % 16 * 2 ^ 4 =
      2 ^ 4 * (2 ^ 4 * (functionCode % 16) + stationAddress % 16) by omega,
    ← Nat.two_pow_add_eq_or_of_lt (by omega : group % 16 < 2 ^ 4)]
  omega

theorem getGroup_eq (block : CBBlockData) : block.getGroup = block.getA.toNat % 16 := by
  rw [getGroup, BitVec.toNat_and]
  exact Nat.and_two_pow_sub_one_eq_mod _ 4

theorem getStationAddress_eq (block : CBBlockData) :
    block.getStationAddress = block.getA.toNat / 16 % 16 := by
  rw [getStationAddress, BitVec.toNat_and, BitVec.toNat_ushiftRight, Nat.shiftRight_eq_div_pow]
  exact Nat.and_two_pow_sub_one_eq_mod _ 4

theorem getFunctionCode_eq (block : CBBlockData) :
    block.getFunctionCode = block.getA.toNat / 256 % 16 := by
  rw [getFunctionCode, BitVec.toNat_and, BitVec.toNat_ushiftRight, Nat.shiftRight_eq_div_pow]
  exact Nat.and_two_pow_sub_one_eq_mod _ 4

theorem getA_addressBlock_toNat (stationAddress group functionCode : Nat) (bData : BitVec 16)
    (lastblock : Bool) :
    (addressBlock stationAddress group functionCode bData lastblock).getA.toNat =
      functionCode % 16 * 256 + stationAddress % 16 * 16 + group % 16 := by
  rw [getA_addressBlock, BitVec.toNat_and, addressData_toNat]
  refine (Nat.and_two_pow_sub_one_eq_mod _ 12).trans ?_
  omega

@[simp] theorem getGroup_addressBlock (stationAddress group functionCode : Nat)
    (bData : BitVec 16) (lastblock : Bool) :
    (addressBlock stationAddress group functionCode bData lastblock).getGroup = group % 16 := by
  rw [getGroup_eq, getA_addressBlock_toNat]
  omega

@[simp] theorem getStationAddress_addressBlock (stationAddress group functionCode : Nat)
    (bData : BitVec 16) (lastblock : Bool) :
    (addressBlock stationAddress group functionCode bData lastblock).getStationAddress =
      stationAddress % 16 := by
  rw [getStationAddress_eq, getA_addressBlock_toNat]
  omega

@[simp] theorem getFunctionCode_addressBlock (stationAddress group functionCode : Nat)
    (bData : BitVec 16) (lastblock : Bool) :
    (addressBlock stationAddress group functionCode bData lastblock).getFunctionCode =
      functionCode % 16 := by
  rw [getFunctionCode_eq, getA_addressBlock_toNat]
  omega

/-! ## The Baker swap -/

theorem getA_lt (block : CBBlockData) : block.getA.toNat < 2 ^ 12 := by
  have masked : block.getA = block.getA &&& 0xFFF#16 :=
    section_ext (fun _ _ => rfl) fun i large => by
      simp [getLsbD_getA, show ¬ i < 12 by omega]
  rw [masked, BitVec.toNat_and]
  exact Nat.lt_of_le_of_lt Nat.and_le_right (by decide)

@[simp] theorem getA_setA (block : CBBlockData) (A : BitVec 16) :
    (block.setA A).getA = A &&& 0xFFF#16 := by
  refine section_ext (fun i small => ?_) fun i large => ?_
  · rw [getLsbD_getA, getLsbD_setA _ _ (by omega), if_pos (by omega)]
    simp [small]
  · simp [getLsbD_getA, show ¬ i < 12 by omega]

theorem getFunctionCode_lt (block : CBBlockData) : block.getFunctionCode < 16 := by
  rw [getFunctionCode_eq]
  exact Nat.mod_lt _ (by decide)

theorem getStationAddress_lt (block : CBBlockData) : block.getStationAddress < 16 := by
  rw [getStationAddress_eq]
  exact Nat.mod_lt _ (by decide)

theorem getGroup_lt (block : CBBlockData) : block.getGroup < 16 := by
  rw [getGroup_eq]
  exact Nat.mod_lt _ (by decide)

theorem getA_doBakerConitelSwap (block : CBBlockData) :
    block.doBakerConitelSwap.getA.toNat =
      block.getFunctionCode * 256 + block.getGroup * 16 + block.getStationAddress := by
  have function := getFunctionCode_lt block
  have station := getStationAddress_lt block
  have group := getGroup_lt block
  rw [doBakerConitelSwap, getA_setA, BitVec.toNat_and, addressData_toNat]
  refine (Nat.and_two_pow_sub_one_eq_mod _ 12).trans ?_
  omega

@[simp] theorem getGroup_doBakerConitelSwap (block : CBBlockData) :
    block.doBakerConitelSwap.getGroup = block.getStationAddress := by
  have station := getStationAddress_lt block
  rw [getGroup_eq, getA_doBakerConitelSwap]
  omega

@[simp] theorem getStationAddress_doBakerConitelSwap (block : CBBlockData) :
    block.doBakerConitelSwap.getStationAddress = block.getGroup := by
  have station := getStationAddress_lt block
  have group := getGroup_lt block
  rw [getStationAddress_eq, getA_doBakerConitelSwap]
  omega

@[simp] theorem getFunctionCode_doBakerConitelSwap (block : CBBlockData) :
    block.doBakerConitelSwap.getFunctionCode = block.getFunctionCode := by
  have function := getFunctionCode_lt block
  have station := getStationAddress_lt block
  have group := getGroup_lt block
  rw [getFunctionCode_eq, getA_doBakerConitelSwap]
  omega

/-- Below section A, the swap changes the check bits only. -/
theorem getLsbD_doBakerConitelSwap (block : CBBlockData) {i : Nat} (below : i < 20)
    (outside : ¬(1 ≤ i ∧ i < 6)) :
    block.doBakerConitelSwap.data.getLsbD i = block.data.getLsbD i := by
  rw [doBakerConitelSwap, getLsbD_setA _ _ outside, if_neg (by omega)]

@[simp] theorem isDataBlock_doBakerConitelSwap (block : CBBlockData) :
    block.doBakerConitelSwap.isDataBlock = block.isDataBlock := by
  simp only [isDataBlock, getABit_eq]
  exact getLsbD_doBakerConitelSwap block (by omega) (by omega)

@[simp] theorem isEndOfMessageBlock_doBakerConitelSwap (block : CBBlockData) :
    block.doBakerConitelSwap.isEndOfMessageBlock = block.isEndOfMessageBlock := by
  simp only [isEndOfMessageBlock_eq]
  exact getLsbD_doBakerConitelSwap block (by omega) (by omega)

theorem doBakerConitelSwap_isValidBlock {block : CBBlockData}
    (valid : block.isValidBlock = true) : block.doBakerConitelSwap.isValidBlock = true := by
  obtain ⟨clear, -, full⟩ := (isValidBlock_iff _).mp valid
  refine (isValidBlock_iff _).mpr ⟨?_, bchPasses_setBCH _, full⟩
  rw [getLsbD_doBakerConitelSwap block (by omega) (by omega), clear]

/-- Two blocks that pass the check and agree above the check bits and on the
end-of-message bit are one block. -/
theorem ext_of_bchPasses {first second : CBBlockData}
    (firstPasses : first.bchPasses = true) (secondPasses : second.bchPasses = true)
    (index : first.builddataindex = second.builddataindex)
    (bits : ∀ i, i < 32 → ¬(1 ≤ i ∧ i < 6) → first.data.getLsbD i = second.data.getLsbD i) :
    first = second := by
  have checks : cbBCH first.data = cbBCH second.data := by
    refine cbBCH_congr fun i above => ?_
    by_cases inWord : i < 32
    · exact bits i inWord (by omega)
    · rw [BitVec.getLsbD_of_ge _ _ (by omega), BitVec.getLsbD_of_ge _ _ (by omega)]
  have same : first.setBCH.data = second.setBCH.data := by
    apply BitVec.eq_of_getLsbD_eq
    intro i inWord
    rw [getLsbD_setBCH, getLsbD_setBCH, checks]
    split
    · rfl
    · exact bits i inWord (by assumption)
  rw [setBCH_eq_self firstPasses, setBCH_eq_self secondPasses] at same
  cases first
  cases second
  simp only at same index
  rw [same, index]

/-- **The swap undoes itself on a block that passes its check.** -/
theorem doBakerConitelSwap_involutive {block : CBBlockData} (passes : block.bchPasses = true) :
    block.doBakerConitelSwap.doBakerConitelSwap = block := by
  have sectionA : block.doBakerConitelSwap.doBakerConitelSwap.getA = block.getA := by
    apply BitVec.eq_of_toNat_eq
    have small := getA_lt block
    rw [getA_doBakerConitelSwap, getFunctionCode_doBakerConitelSwap,
      getGroup_doBakerConitelSwap, getStationAddress_doBakerConitelSwap, getFunctionCode_eq,
      getStationAddress_eq, getGroup_eq]
    omega
  refine ext_of_bchPasses (bchPasses_setBCH _) passes rfl fun i inWord outside => ?_
  by_cases below : i < 20
  · rw [getLsbD_doBakerConitelSwap _ below outside, getLsbD_doBakerConitelSwap _ below outside]
  · have bit := congrArg (fun A => A.getLsbD (i - 20)) sectionA
    simp only [getLsbD_getA, show i - 20 < 12 by omega, show 20 + (i - 20) = i by omega,
      decide_true, Bool.true_and] at bit
    exact bit

/-! ## Reading a block from its bytes -/

@[simp] theorem toBinaryString_length (block : CBBlockData) :
    block.toBinaryString.length = 4 := rfl

/-- Four bytes taken into an empty block are the word they were written from. -/
theorem foldl_addByteToBlock_toBinaryString (block : CBBlockData) :
    block.toBinaryString.foldl addByteToBlock {} = { data := block.data, builddataindex := 4 } := by
  have word : (((((0#32 ||| ((block.data >>> 24).setWidth 8).setWidth 32 <<< 24)) |||
      ((((block.data >>> 16) &&& 0xFF#32).setWidth 8).setWidth 32 <<< 16)) |||
      ((((block.data >>> 8) &&& 0xFF#32).setWidth 8).setWidth 32 <<< 8)) |||
      (((block.data &&& 0xFF#32).setWidth 8).setWidth 32 <<< 0)) = block.data := by
    have masks : IsMask 0xFF#32 8 := isMask_ofNat 8
    apply BitVec.eq_of_getLsbD_eq
    intro i inWord
    simp only [BitVec.getLsbD_or, BitVec.getLsbD_shiftLeft, BitVec.getLsbD_setWidth,
      BitVec.getLsbD_ushiftRight, BitVec.getLsbD_and, BitVec.getLsbD_zero, masks _]
    grind
  exact congrArg (fun data => CBBlockData.mk data 4) word

theorem foldl_addByteToBlock_index (block : CBBlockData) (bytes : List (BitVec 8))
    (room : block.builddataindex + bytes.length ≤ 4) :
    (bytes.foldl addByteToBlock block).builddataindex = block.builddataindex + bytes.length := by
  induction bytes generalizing block with
  | nil => rfl
  | cons b rest ih =>
      rw [List.length_cons] at room
      have partly : block.builddataindex < 4 := by omega
      have next : (block.addByteToBlock b).builddataindex = block.builddataindex + 1 := by
        simp [addByteToBlock, partly]
      rw [List.foldl_cons, ih _ (by omega), next, List.length_cons]
      omega

end CBBlockData

end OpenDataCon.CBPort
