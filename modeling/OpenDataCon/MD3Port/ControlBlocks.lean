import Mathlib
import OpenDataCon.MD3Port.DigitalBlocks

/-!
# Blocks of control commands

A control command has two blocks; the second one repeats what is in the first, or in itself, as
a check. The blocks of a pulse and of an input point control always pass the check
(`verify_pom`, `verify_dim`). In the second block of an output word the sum of its bytes is
written next to the word. A sum of more than eight bits reaches into the word: the block passes
the check exactly when that changes nothing (`verify_dom_iff`), and then the word is read as it
was written (`getOutput_dom`).

The answer is the first block again, with the function of a success or of a rejection.
-/

set_option autoImplicit false

namespace OpenDataCon.MD3Port

open BitFields MD3BlockData

def INPUT_POINT_CONTROL : Nat := 20
def CONTROL_OR_SCAN_REQUEST_REJECTED : Nat := 30

/-- What an input point control asks for. -/
inductive DIMControlSelectionType where
  | RESERVED_0 | TRIP | CLOSE | RAISE | LOWER | SETPOINT | SINGLEPOLEOPERATE | OFF | ON
  | RESERVED_9 | RESERVED_10 | RESERVED_11 | RESERVED_12 | RESERVED_13 | RESERVED_14 | RESERVED_15
deriving DecidableEq, Repr

namespace DIMControlSelectionType

/-- On the wire the selections are numbers of four bits. -/
def toByte : DIMControlSelectionType → BitVec 8
  | RESERVED_0 => 0
  | TRIP => 1
  | CLOSE => 2
  | RAISE => 3
  | LOWER => 4
  | SETPOINT => 5
  | SINGLEPOLEOPERATE => 6
  | OFF => 7
  | ON => 8
  | RESERVED_9 => 9
  | RESERVED_10 => 10
  | RESERVED_11 => 11
  | RESERVED_12 => 12
  | RESERVED_13 => 13
  | RESERVED_14 => 14
  | RESERVED_15 => 15

def ofNibble (nibble : Nat) : DIMControlSelectionType :=
  match nibble % 16 with
  | 0 => RESERVED_0
  | 1 => TRIP
  | 2 => CLOSE
  | 3 => RAISE
  | 4 => LOWER
  | 5 => SETPOINT
  | 6 => SINGLEPOLEOPERATE
  | 7 => OFF
  | 8 => ON
  | 9 => RESERVED_9
  | 10 => RESERVED_10
  | 11 => RESERVED_11
  | 12 => RESERVED_12
  | 13 => RESERVED_13
  | 14 => RESERVED_14
  | _ => RESERVED_15

@[simp] theorem ofNibble_toByte (selection : DIMControlSelectionType) :
    ofNibble selection.toByte.toNat = selection := by
  cases selection <;> rfl

theorem toByte_toNat_lt (selection : DIMControlSelectionType) : selection.toByte.toNat < 16 := by
  cases selection <;> decide

end DIMControlSelectionType

/-! ## The blocks -/

/-- A pulse of one output. -/
def MD3BlockFn17MtoS (stationAddress moduleAddress outputSelection : Nat) : MD3BlockData :=
  formattedBytes true stationAddress POM_TYPE_CONTROL (BitVec.ofNat 8 moduleAddress)
    (BitVec.ofNat 8 outputSelection)

/-- The outputs of a module. -/
def MD3BlockFn19MtoS (stationAddress moduleAddress : Nat) : MD3BlockData :=
  formattedBytes true stationAddress DOM_TYPE_CONTROL (BitVec.ofNat 8 moduleAddress)
    (~~~BitVec.ofNat 8 moduleAddress)

/-- An input point control. -/
def MD3BlockFn20MtoS (stationAddress moduleAddress channelSelection : Nat)
    (controlSelection : DIMControlSelectionType) : MD3BlockData :=
  formattedBytes true stationAddress INPUT_POINT_CONTROL (BitVec.ofNat 8 moduleAddress)
    ((controlSelection.toByte <<< 4 &&& 0xF0#8) ||| (BitVec.ofNat 8 channelSelection &&& 0x0F#8))

/-- A block sent back with another function. -/
def withAnswerCode (data : BitVec 32) (functioncode : Nat) : MD3BlockData where
  data := (data &&& ~~~(0xFF#32 <<< 16 ||| 0x80000000#32)) |||
    (BitVec.ofNat 32 functioncode <<< 16 ||| 0x80000000#32)

/-- The answer that a control was done. -/
def MD3BlockFn15StoM (parent : MD3BlockData) : MD3BlockData :=
  withAnswerCode parent.data CONTROL_REQUEST_OK

/-- The answer that a control was rejected; its flags are cleared. -/
def MD3BlockFn30StoM (parent : MD3BlockData) : MD3BlockData :=
  withAnswerCode (parent.data &&& ~~~(0xF0#32)) CONTROL_OR_SCAN_REQUEST_REJECTED

namespace MD3BlockData

def getOutputSelection (block : MD3BlockData) : Nat := (block.data &&& 0xFF#32).toNat

def getControlSelection (block : MD3BlockData) : DIMControlSelectionType :=
  .ofNibble ((block.data >>> 4) &&& 0x0F#32).toNat

def getChannelSelection (block : MD3BlockData) : Nat := (block.data &&& 0x0F#32).toNat

/-- The bit of one output of sixteen, the first one on top. -/
def outputBit (outputSelection : Nat) : BitVec 16 := 1#16 <<< (15 - outputSelection)

/-- The second block of a pulse: the addresses in complement, and the bit of the output. -/
def pomSecondBlock (header : MD3BlockData) : MD3BlockData where
  data := (header.data &&& 0x80000000#32) |||
    ((~~~BitVec.ofNat 8 header.getStationAddress &&& 0x7F#8).setWidth 32 <<< 24) |||
    ((~~~BitVec.ofNat 8 header.getModuleAddress).setWidth 32 <<< 16) |||
    (outputBit header.getOutputSelection).setWidth 32

def verifyPomSecondBlock (header second : MD3BlockData) : Bool :=
  header.getStationAddress == (~~~second.getByte 0 &&& 0x7F#8).toNat &&
    header.getModuleAddress == (~~~second.getByte 1).toNat &&
    outputBit header.getOutputSelection == second.getSecondWord

/-- The sum of the bytes of an output word, of nine bits. -/
def checkdata (outputData : BitVec 16) : BitVec 32 :=
  (outputData &&& 0x00FF#16).setWidth 32 + ((outputData >>> 8) &&& 0x00FF#16).setWidth 32

/-- A word, the sum of its bytes, and a last byte. -/
def checkedWord (word : BitVec 16) (last : BitVec 8) : MD3BlockData where
  data := (word.setWidth 32 <<< 16) ||| (checkdata word <<< 8) ||| last.setWidth 32

/-- The second block of an output word: the word, the sum of its bytes, and the station in
complement. -/
def domSecondBlock (header : MD3BlockData) (outputData : BitVec 16) : MD3BlockData where
  data := (outputData.setWidth 32 <<< 16) ||| (checkdata outputData <<< 8) |||
    ((~~~BitVec.ofNat 8 header.getStationAddress) &&& 0x7F#8).setWidth 32

def getOutputFromDomSecondBlock (second : MD3BlockData) : BitVec 16 := second.getFirstWord

def verifyDomSecondBlock (header second : MD3BlockData) : Bool :=
  header.getStationAddress == (~~~second.getByte 3 &&& 0x7F#8).toNat &&
    header.getModuleAddress == (~~~header.getByte 3).toNat &&
    (checkdata second.getFirstWord).setWidth 8 == second.getByte 2

/-- The second block of an input point control: the first one in complement. -/
def dimSecondBlock (header : MD3BlockData) : MD3BlockData :=
  let selectionByte := (header.getControlSelection.toByte <<< 4) |||
    BitVec.ofNat 8 header.getChannelSelection
  { data := combineFormattedBytes true (~~~BitVec.ofNat 8 header.getStationAddress)
      (~~~BitVec.ofNat 8 header.getModuleAddress) (~~~selectionByte) selectionByte }

def verifyDimSecondBlock (header second : MD3BlockData) : Bool :=
  header.getStationAddress == (~~~second.getByte 0 &&& 0x7F#8).toNat &&
    header.getModuleAddress == (~~~second.getByte 1).toNat &&
    BitVec.ofNat 8 header.getChannelSelection == ~~~second.getByte 2 &&& 0x0F#8 &&
    header.getControlSelection.toByte == ~~~(second.getByte 2 >>> 4) &&& 0x0F#8

/-- The third block of a set point: twelve bits of the value, and their complement. -/
def dimThirdBlock (outputData : BitVec 16) : MD3BlockData where
  data := ((outputData &&& 0x0FFF#16).setWidth 32 <<< 16) |||
    (~~~outputData &&& 0x0FFF#16).setWidth 32

def verifyDimThirdBlock (third : MD3BlockData) : Bool :=
  third.getFirstWord &&& 0x0FFF#16 == ~~~third.getSecondWord &&& 0x0FFF#16

def getOutputFromDimThirdBlock (third : MD3BlockData) : BitVec 16 :=
  third.getFirstWord &&& 0x0FFF#16

/-! ## Bytes and words -/

section Bytes

variable (b1 b2 b3 b4 : BitVec 8)

theorem getLsbD_bytes (i : Nat) : (bytes b1 b2 b3 b4).data.getLsbD i =
    if i < 8 then b4.getLsbD i
    else if i < 16 then b3.getLsbD (i - 8)
    else if i < 24 then b2.getLsbD (i - 16)
    else b1.getLsbD (i - 24) := getLsbD_combineDataBytes ..

theorem getFirstWord_bytes : (bytes b1 b2 b3 b4).getFirstWord = b1 ++ b2 := by
  apply BitVec.eq_of_getLsbD_eq
  intro i bound
  simp only [getFirstWord, BitVec.getLsbD_setWidth, BitVec.getLsbD_ushiftRight, getLsbD_bytes,
    BitVec.getLsbD_append, bound, decide_true, Bool.true_and]
  rw [if_neg (by omega), if_neg (by omega)]
  by_cases low : i < 8
  · rw [if_pos (by omega), if_pos low, show 16 + i - 16 = i by omega]
  · rw [if_neg (by omega), if_neg low, show 16 + i - 24 = i - 8 by omega]

theorem getSecondWord_bytes : (bytes b1 b2 b3 b4).getSecondWord = b3 ++ b4 := by
  apply BitVec.eq_of_getLsbD_eq
  intro i bound
  simp only [getSecondWord, BitVec.getLsbD_setWidth, getLsbD_bytes, BitVec.getLsbD_append, bound,
    decide_true, Bool.true_and]
  by_cases low : i < 8
  · rw [if_pos low, if_pos low]
  · rw [if_neg low, if_neg low, if_pos trivial]

/-- The address of a station, out of its complement. -/
theorem complement_station {stationAddress : Nat} (fits : stationAddress < 128) :
    (~~~(~~~BitVec.ofNat 8 stationAddress &&& 0x7F#8) &&& 0x7F#8).toNat = stationAddress := by
  interval_cases stationAddress <;> rfl

theorem complement_byte {address : Nat} (fits : address < 256) :
    (~~~(~~~BitVec.ofNat 8 address)).toNat = address := by
  rw [BitVec.not_not, BitVec.toNat_ofNat, Nat.mod_eq_of_lt fits]

end Bytes

/-! ## The checks -/

section Checks

variable {stationAddress moduleAddress : Nat}

theorem getOutputSelection_formattedBytes (functioncode : Nat) (b3 b4 : BitVec 8) :
    (formattedBytes true stationAddress functioncode b3 b4).getOutputSelection = b4.toNat := by
  have field : (readField (formattedBytes true stationAddress functioncode b3 b4).data
      0xFF#32 0).toNat = b4.toNat % 2 ^ 8 := by
    refine readField_toNat (isMask_ofNat 8) (Nat.le_refl _) fun i small => ?_
    rw [getLsbD_formattedBytes, if_pos (by omega), Nat.zero_add]
  rw [readField, BitVec.ushiftRight_zero] at field
  exact field.trans (Nat.mod_eq_of_lt b4.isLt)

/-- The second block of a pulse, byte by byte. -/
theorem pomSecondBlock_eq (header : MD3BlockData)
    (request : header.isMasterToStationMessage = true) :
    header.pomSecondBlock =
      bytes (~~~BitVec.ofNat 8 header.getStationAddress &&& 0x7F#8)
        (~~~BitVec.ofNat 8 header.getModuleAddress)
        ((outputBit header.getOutputSelection >>> 8).setWidth 8)
        ((outputBit header.getOutputSelection).setWidth 8) := by
  have direction : header.data &&& 0x80000000#32 = 0#32 := by
    apply BitVec.eq_of_getLsbD_eq
    intro i bound
    rw [isMasterToStationMessage_eq] at request
    rw [BitVec.getLsbD_and]
    by_cases top : i = 31
    · subst top
      simpa using request
    · have other : (0x80000000#32).getLsbD i = false := by
        interval_cases i <;> first | rfl | exact absurd rfl top
      rw [other, Bool.and_false]
      simp
  have word : ∀ low : BitVec 16, low.setWidth 32 =
      ((low >>> 8).setWidth 8).setWidth 32 <<< 8 ||| (low.setWidth 8).setWidth 32 := by
    intro low
    apply BitVec.eq_of_getLsbD_eq
    intro i bound
    simp only [BitVec.getLsbD_setWidth, BitVec.getLsbD_or, BitVec.getLsbD_shiftLeft,
      BitVec.getLsbD_ushiftRight]
    by_cases small : i < 8
    · simp [small, bound]
    · by_cases inWord : i < 16
      · simp [small, bound, show i - 8 < 8 by omega, show i - 8 < 32 by omega,
          show 8 + (i - 8) = i by omega]
      · have outside : low.getLsbD i = false := BitVec.getLsbD_of_ge _ _ (by omega)
        simp [small, bound, show 8 + (i - 8) = i by omega, outside]
  rw [pomSecondBlock, direction, word (outputBit header.getOutputSelection), bytes,
    combineDataBytes, BitVec.zero_or, BitVec.or_assoc, BitVec.or_assoc, BitVec.or_assoc]

/-- **A pulse passes the check.** -/
theorem verify_pom {outputSelection : Nat} (stationFits : stationAddress < 128)
    (moduleFits : moduleAddress < 256) (outputFits : outputSelection < 256) :
    let header := MD3BlockFn17MtoS stationAddress moduleAddress outputSelection
    header.verifyPomSecondBlock header.pomSecondBlock = true ∧
      header.getStationAddress = stationAddress ∧ header.getModuleAddress = moduleAddress ∧
      header.getOutputSelection = outputSelection := by
  intro header
  have station : header.getStationAddress = stationAddress := by
    rw [show header = formattedBytes true stationAddress POM_TYPE_CONTROL
      (BitVec.ofNat 8 moduleAddress) (BitVec.ofNat 8 outputSelection) from rfl,
      getStationAddress_formattedBytes, Nat.mod_eq_of_lt stationFits]
  have module : header.getModuleAddress = moduleAddress := by
    rw [show header = formattedBytes true stationAddress POM_TYPE_CONTROL
      (BitVec.ofNat 8 moduleAddress) (BitVec.ofNat 8 outputSelection) from rfl,
      getModuleAddress_formattedBytes, BitVec.toNat_ofNat, Nat.mod_eq_of_lt moduleFits]
  have output : header.getOutputSelection = outputSelection := by
    rw [show header = formattedBytes true stationAddress POM_TYPE_CONTROL
      (BitVec.ofNat 8 moduleAddress) (BitVec.ofNat 8 outputSelection) from rfl,
      getOutputSelection_formattedBytes, BitVec.toNat_ofNat, Nat.mod_eq_of_lt outputFits]
  have request : header.isMasterToStationMessage = true :=
    isMasterToStationMessage_formattedBytes ..
  refine ⟨?_, station, module, output⟩
  have bit : ∀ low : BitVec 16, (low >>> 8).setWidth 8 ++ low.setWidth 8 = low := by
    intro low
    apply BitVec.eq_of_getLsbD_eq
    intro i bound
    simp only [BitVec.getLsbD_append, BitVec.getLsbD_setWidth, BitVec.getLsbD_ushiftRight]
    by_cases small : i < 8
    · simp [small]
    · simp [small, show i - 8 < 8 by omega, show 8 + (i - 8) = i by omega]
  rw [verifyPomSecondBlock, pomSecondBlock_eq header request, getByte_bytes _ _ _ _ (by decide),
    getByte_bytes _ _ _ _ (by decide), getSecondWord_bytes, byteAt, byteAt, bit, station, module,
    complement_station stationFits, complement_byte moduleFits]
  simp

/-- The fields of an input point control. -/
theorem fields_dim {channelSelection : Nat} (stationFits : stationAddress < 128)
    (moduleFits : moduleAddress < 256) (channelFits : channelSelection < 16)
    (selection : DIMControlSelectionType) :
    let header := MD3BlockFn20MtoS stationAddress moduleAddress channelSelection selection
    header.getStationAddress = stationAddress ∧ header.getModuleAddress = moduleAddress ∧
      header.getChannelSelection = channelSelection ∧ header.getControlSelection = selection := by
  intro header
  have byte : ((selection.toByte <<< 4 &&& 0xF0#8) |||
      (BitVec.ofNat 8 channelSelection &&& 0x0F#8)).toNat =
        selection.toByte.toNat * 16 + channelSelection := by
    cases selection <;> interval_cases channelSelection <;> rfl
  refine ⟨?_, ?_, ?_, ?_⟩
  · exact (getStationAddress_formattedBytes ..).trans (Nat.mod_eq_of_lt stationFits)
  · refine (getModuleAddress_formattedBytes ..).trans ?_
    rw [BitVec.toNat_ofNat, Nat.mod_eq_of_lt moduleFits]
  · refine (getModuleCount_formattedBytes ..).trans ?_
    rw [byte]
    omega
  · have upper : header.getDigitalSequenceNumber = selection.toByte.toNat := by
      refine (getDigitalSequenceNumber_formattedBytes ..).trans ?_
      have small := selection.toByte_toNat_lt
      rw [byte]
      omega
    rw [getControlSelection]
    exact (congrArg DIMControlSelectionType.ofNibble upper).trans selection.ofNibble_toByte

/-- **An input point control passes the check.** -/
theorem verify_dim {channelSelection : Nat} (stationFits : stationAddress < 128)
    (moduleFits : moduleAddress < 256) (channelFits : channelSelection < 16)
    (selection : DIMControlSelectionType) :
    let header := MD3BlockFn20MtoS stationAddress moduleAddress channelSelection selection
    header.verifyDimSecondBlock header.dimSecondBlock = true := by
  intro header
  obtain ⟨station, module, channel, control⟩ :=
    fields_dim stationFits moduleFits channelFits selection
  have second : header.dimSecondBlock =
      bytes (0x00#8 ||| (~~~BitVec.ofNat 8 stationAddress &&& 0x7F#8))
        (~~~BitVec.ofNat 8 moduleAddress)
        (~~~((selection.toByte <<< 4) ||| BitVec.ofNat 8 channelSelection))
        ((selection.toByte <<< 4) ||| BitVec.ofNat 8 channelSelection) := by
    rw [dimSecondBlock, station, module, channel, control]
    rfl
  rw [verifyDimSecondBlock, second, getByte_bytes _ _ _ _ (by decide),
    getByte_bytes _ _ _ _ (by decide), getByte_bytes _ _ _ _ (by decide), byteAt, byteAt, byteAt,
    station, module, channel, control, BitVec.zero_or, complement_station stationFits,
    complement_byte moduleFits]
  cases selection <;> interval_cases channelSelection <;> simp <;> decide

/-- The word and the sum of its bytes do not touch, or where they do nothing changes. -/
def OutputFits (outputData : BitVec 16) : Prop :=
  (checkdata outputData).toNat < 256 ∨ outputData.getLsbD 0 = true

instance (outputData : BitVec 16) : Decidable (OutputFits outputData) := instDecidableOr

theorem checkdata_toNat (outputData : BitVec 16) :
    (checkdata outputData).toNat = outputData.toNat % 256 + outputData.toNat / 256 := by
  have small := outputData.isLt
  rw [checkdata, BitVec.toNat_add, BitVec.toNat_setWidth, BitVec.toNat_setWidth, BitVec.toNat_and,
    BitVec.toNat_and, BitVec.toNat_ushiftRight, Nat.shiftRight_eq_div_pow]
  have low : ∀ n : Nat, n &&& (0x00FF#16).toNat = n % 256 :=
    fun n => Nat.and_two_pow_sub_one_eq_mod n 8
  have byte : (2 : Nat) ^ 8 = 256 := rfl
  have upper : outputData.toNat / 256 < 256 := by omega
  have lower : outputData.toNat % 256 < 256 := Nat.mod_lt _ (by decide)
  have first : outputData.toNat % 256 % 2 ^ 32 = outputData.toNat % 256 :=
    Nat.mod_eq_of_lt (Nat.lt_trans lower (by decide))
  have second : outputData.toNat / 256 % 2 ^ 32 = outputData.toNat / 256 :=
    Nat.mod_eq_of_lt (Nat.lt_trans upper (by decide))
  have both : outputData.toNat % 256 + outputData.toNat / 256 < 2 ^ 32 :=
    Nat.lt_trans (Nat.add_lt_add lower upper) (by decide)
  rw [low, low, byte, Nat.mod_eq_of_lt upper, first, second, Nat.mod_eq_of_lt both]

/-- The block of a word, byte by byte: the ninth bit of the sum reaches into the word. -/
theorem checkedWord_eq (word : BitVec 16) (last : BitVec 8) :
    checkedWord word last =
      bytes ((word >>> 8).setWidth 8) (word.setWidth 8 ||| ((checkdata word) >>> 8).setWidth 8)
        ((checkdata word).setWidth 8) last := by
  have nine : ∀ i, 9 ≤ i → (checkdata word).getLsbD i = false := by
    intro i high
    have small := word.isLt
    have power : 2 ^ 9 ≤ 2 ^ i := Nat.pow_le_pow_right (by decide) high
    refine Nat.testBit_lt_two_pow (Nat.lt_of_lt_of_le ?_ power)
    have sum := checkdata_toNat word
    omega
  rw [checkedWord, MD3BlockData.mk.injEq]
  apply BitVec.eq_of_getLsbD_eq
  intro i bound
  refine Eq.trans ?_ (getLsbD_bytes _ _ _ _ i).symm
  simp only [BitVec.getLsbD_or, BitVec.getLsbD_shiftLeft, BitVec.getLsbD_setWidth,
    BitVec.getLsbD_ushiftRight]
  by_cases first : i < 8
  · simp [first, bound, show i < 16 by omega]
  · have beyond : last.getLsbD i = false := BitVec.getLsbD_of_ge _ _ (by omega)
    by_cases second : i < 16
    · simp [first, second, bound, beyond, show i - 8 < 8 by omega]
    · by_cases third : i < 24
      · simp only [first, second, third, bound, beyond, decide_true, decide_false, if_true,
          if_false, Bool.not_false, Bool.true_and, Bool.and_false, Bool.or_false,
          show i - 16 < 8 by omega, show i - 16 < 32 by omega, show 8 + (i - 16) = i - 8 by omega]
      · have outside := nine (i - 8) (by omega)
        simp only [first, second, third, bound, beyond, decide_true, decide_false, if_false,
          outside, Bool.not_false, Bool.true_and, Bool.and_false, Bool.or_false,
          show i - 24 < 8 by omega, show i - 16 < 32 by omega, show 8 + (i - 24) = i - 16 by omega]

/-- The word as it is read: the lowest bit is set by a sum of more than eight bits. -/
theorem getFirstWord_checkedWord (word : BitVec 16) (last : BitVec 8) :
    (checkedWord word last).getFirstWord =
      (word >>> 8).setWidth 8 ++ (word.setWidth 8 ||| ((checkdata word) >>> 8).setWidth 8) := by
  rw [checkedWord_eq, getFirstWord_bytes]

/-- The ninth bit of the sum. -/
theorem checkdata_carry (outputData : BitVec 16) :
    ((checkdata outputData) >>> 8).setWidth 8 =
      if (checkdata outputData).toNat < 256 then 0#8 else 1#8 := by
  have sum := checkdata_toNat outputData
  have small := outputData.isLt
  have byte : (2 : Nat) ^ 8 = 256 := rfl
  apply BitVec.eq_of_toNat_eq
  rw [BitVec.toNat_setWidth, BitVec.toNat_ushiftRight, Nat.shiftRight_eq_div_pow, byte]
  split
  · next small => rw [Nat.div_eq_of_lt small]; rfl
  · next large =>
    have upper : outputData.toNat / 256 < 256 := by omega
    have lower : outputData.toNat % 256 < 256 := Nat.mod_lt _ (by decide)
    have one : (checkdata outputData).toNat / 256 = 1 := by omega
    rw [one]
    rfl

/-- A word that fits is read as it was written. -/
theorem getFirstWord_of_fits {word : BitVec 16} (fits : OutputFits word) (last : BitVec 8) :
    (checkedWord word last).getFirstWord = word := by
  rw [getFirstWord_checkedWord, checkdata_carry]
  apply BitVec.eq_of_getLsbD_eq
  intro i bound
  simp only [BitVec.getLsbD_append, BitVec.getLsbD_or, BitVec.getLsbD_setWidth,
    BitVec.getLsbD_ushiftRight]
  by_cases low : i < 8
  · rw [if_pos low]
    split
    · simp [low]
    · next large =>
      have odd : word.getLsbD 0 = true := fits.resolve_left large
      rw [BitVec.getLsbD_one]
      by_cases lowest : i = 0
      · subst lowest
        simpa using odd
      · simp [low, lowest]
  · rw [if_neg low, show 8 + (i - 8) = i by omega]
    simp [show i - 8 < 8 by omega]

/-- A word that does not fit is read as one more, and so is the sum of its bytes. -/
theorem checkdata_misfit {word : BitVec 16} (misfit : ¬OutputFits word) (last : BitVec 8) :
    (checkdata (checkedWord word last).getFirstWord).toNat = (checkdata word).toNat + 1 := by
  obtain ⟨large, even⟩ := not_or.mp misfit
  have increment : ∀ low : BitVec 8, low.getLsbD 0 = false → (low ||| 1#8).toNat = low.toNat + 1 :=
    by decide
  have lowEven : (word.setWidth 8).getLsbD 0 = false := by
    simpa using even
  have small := word.isLt
  have byte : (2 : Nat) ^ 8 = 256 := rfl
  have lower : (word.setWidth 8).toNat = word.toNat % 256 := BitVec.toNat_setWidth ..
  have upper : ((word >>> 8).setWidth 8).toNat = word.toNat / 256 := by
    rw [BitVec.toNat_setWidth, BitVec.toNat_ushiftRight, Nat.shiftRight_eq_div_pow, byte]
    exact Nat.mod_eq_of_lt (by omega)
  have next := increment _ lowEven
  have bound := (word.setWidth 8 ||| 1#8).isLt
  rw [checkdata_toNat, checkdata_toNat, getFirstWord_checkedWord, checkdata_carry, if_neg large,
    BitVec.toNat_append, ← Nat.shiftLeft_add_eq_or_of_lt bound, Nat.shiftLeft_eq, upper, next,
    lower, byte]
  rw [next, lower] at bound
  omega

/-- **The sum of the bytes is found right exactly when the word fits.** -/
theorem checkdata_checkedWord_iff (word : BitVec 16) (last : BitVec 8) :
    (checkdata (checkedWord word last).getFirstWord).setWidth 8 = (checkedWord word last).getByte 2 ↔
      OutputFits word := by
  have third : (checkedWord word last).getByte 2 = (checkdata word).setWidth 8 := by
    rw [checkedWord_eq, getByte_bytes _ _ _ _ (by decide), byteAt]
  rw [third]
  constructor
  · intro same
    by_contra misfit
    have more := checkdata_misfit misfit last
    have bytes := congrArg BitVec.toNat same
    rw [BitVec.toNat_setWidth, BitVec.toNat_setWidth] at bytes
    omega
  · intro fits
    rw [getFirstWord_of_fits fits]

theorem domSecondBlock_eq (header : MD3BlockData) (outputData : BitVec 16) :
    header.domSecondBlock outputData =
      checkedWord outputData (~~~BitVec.ofNat 8 header.getStationAddress &&& 0x7F#8) := rfl

/-- An output word that fits is read as it was written. -/
theorem getOutput_dom (header : MD3BlockData) {outputData : BitVec 16}
    (fits : OutputFits outputData) :
    getOutputFromDomSecondBlock (header.domSecondBlock outputData) = outputData :=
  getFirstWord_of_fits fits _

/-- The fields of an output word. -/
theorem fields_dom (stationFits : stationAddress < 128) (moduleFits : moduleAddress < 256) :
    let header := MD3BlockFn19MtoS stationAddress moduleAddress
    header.getStationAddress = stationAddress ∧ header.getModuleAddress = moduleAddress := by
  intro header
  refine ⟨(getStationAddress_formattedBytes ..).trans (Nat.mod_eq_of_lt stationFits), ?_⟩
  refine (getModuleAddress_formattedBytes ..).trans ?_
  rw [BitVec.toNat_ofNat, Nat.mod_eq_of_lt moduleFits]

/-- **The second block of an output word passes the check exactly when the word fits.** -/
theorem verify_dom_iff (stationFits : stationAddress < 128) (moduleFits : moduleAddress < 256)
    (outputData : BitVec 16) :
    let header := MD3BlockFn19MtoS stationAddress moduleAddress
    header.verifyDomSecondBlock (header.domSecondBlock outputData) = true ↔
      OutputFits outputData := by
  intro header
  obtain ⟨station, module⟩ := fields_dom stationFits moduleFits
  have lastByte : header.getByte 3 = ~~~BitVec.ofNat 8 moduleAddress :=
    getByte_bytes _ _ _ _ (by decide)
  have fourth : (header.domSecondBlock outputData).getByte 3 =
      ~~~BitVec.ofNat 8 stationAddress &&& 0x7F#8 := by
    rw [domSecondBlock_eq, checkedWord_eq, getByte_bytes _ _ _ _ (by decide), station]
    rfl
  rw [verifyDomSecondBlock, station, module, lastByte, fourth, complement_station stationFits,
    complement_byte moduleFits]
  simp only [beq_self_eq_true, Bool.true_and, beq_iff_eq]
  exact checkdata_checkedWord_iff outputData _

end Checks

/-! ## The answers -/

section Answers

variable (data : BitVec 32) {functioncode : Nat}

/-- Only the function and the direction are written. -/
theorem getLsbD_withAnswerCode {i : Nat} (inWord : i < 32) :
    (withAnswerCode data functioncode).data.getLsbD i =
      if i < 16 then data.getLsbD i
      else if i < 24 then functioncode.testBit (i - 16)
      else if i < 31 then data.getLsbD i || functioncode.testBit (i - 16)
      else true := by
  have cleared : (0xFF#32 <<< 16 ||| 0x80000000#32).getLsbD i =
      decide (16 ≤ i ∧ i < 24 ∨ i = 31) := by
    interval_cases i <;> rfl
  have top : (0x80000000#32).getLsbD i = decide (i = 31) := by
    interval_cases i <;> rfl
  rw [withAnswerCode, BitVec.getLsbD_or, BitVec.getLsbD_and, BitVec.getLsbD_not, cleared,
    BitVec.getLsbD_or, top, BitVec.getLsbD_shiftLeft, BitVec.getLsbD_ofNat]
  by_cases low : i < 16
  · simp [low, inWord, show ¬16 ≤ i by omega, show i ≠ 31 by omega]
  · by_cases code : i < 24
    · simp [low, code, inWord, show 16 ≤ i by omega, show i ≠ 31 by omega,
        show i - 16 < 32 by omega]
    · by_cases address : i < 31
      · simp [low, code, address, inWord, show i ≠ 31 by omega, show i - 16 < 32 by omega]
      · have last : i = 31 := by omega
        subst last
        simp

theorem getFunctionCode_withAnswerCode (fits : functioncode < 256) :
    (withAnswerCode data functioncode).getFunctionCode = functioncode := by
  have field : (readField (withAnswerCode data functioncode).data 0xFF#32 16).toNat =
      (BitVec.ofNat 8 functioncode).toNat % 2 ^ 8 := by
    refine readField_toNat (isMask_ofNat 8) (Nat.le_refl _) fun i small => ?_
    rw [getLsbD_withAnswerCode data (by omega), if_neg (by omega), if_pos (by omega),
      BitVec.getLsbD_ofNat, show 16 + i - 16 = 0 + i by omega]
    simp [small]
  rw [BitVec.toNat_ofNat, Nat.mod_mod] at field
  exact field.trans (Nat.mod_eq_of_lt fits)

theorem getStationAddress_withAnswerCode (fits : functioncode < 256) :
    (withAnswerCode data functioncode).getStationAddress =
      MD3BlockData.getStationAddress { data := data } := by
  have masks : IsMask 0x7F#32 7 := isMask_ofNat 7
  refine congrArg BitVec.toNat (?_ : readField _ 0x7F#32 24 = readField data 0x7F#32 24)
  apply BitVec.eq_of_getLsbD_eq
  intro i inWord
  rw [getLsbD_readField masks, getLsbD_readField masks]
  by_cases inside : i < 7
  · have clear : functioncode.testBit (24 + i - 16) = false := by
      have power : 2 ^ 8 ≤ 2 ^ (24 + i - 16) := Nat.pow_le_pow_right (by decide) (by omega)
      exact Nat.testBit_lt_two_pow (Nat.lt_of_lt_of_le fits power)
    rw [getLsbD_withAnswerCode data (by omega), if_neg (by omega), if_neg (by omega),
      if_pos (by omega), clear, Bool.or_false]
  · simp [inside]

theorem isMasterToStationMessage_withAnswerCode :
    (withAnswerCode data functioncode).isMasterToStationMessage = false := by
  rw [isMasterToStationMessage_eq, getLsbD_withAnswerCode data (by decide)]
  rfl

end Answers

end MD3BlockData

end OpenDataCon.MD3Port
