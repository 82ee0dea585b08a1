import OpenDataCon.MD3Port.ControlBlocks

/-!
# The checks of control commands

The second and third blocks of a control command repeat what is in the first one as complements,
or carry a word with the sum of its bytes. Together the four commands are read as they were written
exactly if the two words fit (`controlCodecs_iff`), and a block that passes is the block of its own
header, as far as the check covers it: a block for another station, module, channel or selection
does not pass.
-/

set_option autoImplicit false

namespace OpenDataCon.MD3Port

open BitFields MD3BlockData

/-- A value for an analog output. -/
def MD3BlockFn23MtoS (stationAddress moduleAddress channel : Nat) : MD3BlockData :=
  formattedBytes true stationAddress AOM_TYPE_CONTROL (BitVec.ofNat 8 moduleAddress)
    (BitVec.ofNat 8 channel)

namespace MD3BlockData

def getChannel (block : MD3BlockData) : Nat := (block.data &&& 0xFF#32).toNat

/-- The word of an analog output: the channel in complement, and twelve bits of the value. -/
def aomWord (channel : Nat) (outputData : BitVec 16) : BitVec 16 :=
  (~~~BitVec.ofNat 16 channel <<< 12) ||| (outputData &&& 0x0FFF#16)

/-- The second block of an analog output: the word, the sum of its bytes, and the module in
complement. -/
def aomSecondBlock (header : MD3BlockData) (outputData : BitVec 16) : MD3BlockData :=
  let hiword := aomWord header.getChannel outputData
  { data := (hiword.setWidth 32 <<< 16) ||| (checkdata hiword <<< 8) |||
      (~~~BitVec.ofNat 8 header.getModuleAddress).setWidth 32 }

def getOutputFromAomSecondBlock (second : MD3BlockData) : BitVec 16 :=
  second.getFirstWord &&& 0x0FFF#16

def verifyAomSecondBlock (header second : MD3BlockData) : Bool :=
  BitVec.ofNat 8 header.getChannel &&& 0x0F#8 == ~~~(second.getByte 0 >>> 4) &&& 0x0F#8 &&
    header.getModuleAddress == (~~~second.getByte 3).toNat &&
    (checkdata second.getFirstWord).setWidth 8 == second.getByte 2

/-! ## What a block that passes carries -/

/-- A byte is the complement of its complement. -/
theorem byte_carried {byte : BitVec 8} {address : Nat} (passes : address = (~~~byte).toNat) :
    byte = ~~~BitVec.ofNat 8 address := by
  rw [passes, BitVec.ofNat_toNat, BitVec.setWidth_eq, BitVec.not_not]

theorem station_carried : ∀ byte : BitVec 8,
    byte &&& 0x7F#8 = ~~~BitVec.ofNat 8 (~~~byte &&& 0x7F#8).toNat &&& 0x7F#8 := by
  decide +kernel

theorem nibble_carried : ∀ byte : BitVec 8, byte &&& 0x0F#8 = ~~~(~~~byte &&& 0x0F#8) &&& 0x0F#8 := by
  decide +kernel

section Carries

variable (header second : MD3BlockData)

/-- The second block of a pulse: the addresses in complement, and the bit of the output. -/
structure PomCarries : Prop where
  station : second.getByte 0 &&& 0x7F#8 =
    ~~~BitVec.ofNat 8 header.getStationAddress &&& 0x7F#8
  module : second.getByte 1 = ~~~BitVec.ofNat 8 header.getModuleAddress
  output : second.getSecondWord = outputBit header.getOutputSelection

/-- The second block of an output word: the station in complement, and the sum of the word; the
module is in complement in the header. -/
structure DomCarries : Prop where
  station : second.getByte 3 &&& 0x7F#8 =
    ~~~BitVec.ofNat 8 header.getStationAddress &&& 0x7F#8
  module : header.getByte 3 = ~~~BitVec.ofNat 8 header.getModuleAddress
  sum : second.getByte 2 = (checkdata second.getFirstWord).setWidth 8

/-- The second block of an input point control: the addresses and the selections in complement. -/
structure DimCarries : Prop where
  station : second.getByte 0 &&& 0x7F#8 =
    ~~~BitVec.ofNat 8 header.getStationAddress &&& 0x7F#8
  module : second.getByte 1 = ~~~BitVec.ofNat 8 header.getModuleAddress
  channel : second.getByte 2 &&& 0x0F#8 = ~~~BitVec.ofNat 8 header.getChannelSelection &&& 0x0F#8
  control : (second.getByte 2 >>> 4) &&& 0x0F#8 = ~~~header.getControlSelection.toByte &&& 0x0F#8

/-- The second block of an analog output: the channel and the module in complement, and the sum of
the word. -/
structure AomCarries : Prop where
  channel : (second.getByte 0 >>> 4) &&& 0x0F#8 = ~~~BitVec.ofNat 8 header.getChannel &&& 0x0F#8
  module : second.getByte 3 = ~~~BitVec.ofNat 8 header.getModuleAddress
  sum : second.getByte 2 = (checkdata second.getFirstWord).setWidth 8

variable {header second}

theorem pomCarries (passes : header.verifyPomSecondBlock second = true) :
    PomCarries header second := by
  simp only [verifyPomSecondBlock, Bool.and_eq_true, beq_iff_eq] at passes
  obtain ⟨⟨station, module⟩, output⟩ := passes
  exact ⟨station ▸ station_carried _, byte_carried module, output.symm⟩

theorem domCarries (passes : header.verifyDomSecondBlock second = true) :
    DomCarries header second := by
  simp only [verifyDomSecondBlock, Bool.and_eq_true, beq_iff_eq] at passes
  obtain ⟨⟨station, module⟩, sum⟩ := passes
  exact ⟨station ▸ station_carried _, byte_carried module, sum.symm⟩

theorem dimCarries (passes : header.verifyDimSecondBlock second = true) :
    DimCarries header second := by
  simp only [verifyDimSecondBlock, Bool.and_eq_true, beq_iff_eq] at passes
  obtain ⟨⟨⟨station, module⟩, channel⟩, control⟩ := passes
  exact ⟨station ▸ station_carried _, byte_carried module, channel ▸ nibble_carried _,
    control ▸ nibble_carried _⟩

theorem aomCarries (passes : header.verifyAomSecondBlock second = true) :
    AomCarries header second := by
  simp only [verifyAomSecondBlock, Bool.and_eq_true, beq_iff_eq] at passes
  obtain ⟨⟨channel, module⟩, sum⟩ := passes
  refine ⟨?_, byte_carried module, sum.symm⟩
  have same : ∀ channel : BitVec 8, ~~~channel &&& 0x0F#8 = ~~~(channel &&& 0x0F#8) &&& 0x0F#8 := by
    decide +kernel
  rw [same, channel]
  exact nibble_carried _

end Carries

/-! ## Generated blocks -/

section Generated

variable {stationAddress moduleAddress selection : Nat}

/-- The first byte of a word is not reached by the sum. -/
theorem getByte_zero_checkedWord (word : BitVec 16) (last : BitVec 8) :
    (checkedWord word last).getByte 0 = (word >>> 8).setWidth 8 := by
  rw [checkedWord_eq, getByte_bytes _ _ _ _ (by decide), byteAt]

theorem getByte_three_checkedWord (word : BitVec 16) (last : BitVec 8) :
    (checkedWord word last).getByte 3 = last := by
  rw [checkedWord_eq, getByte_bytes _ _ _ _ (by decide)]
  rfl

/-- The second block of a pulse that is generated. -/
theorem pomSecondBlock_generated (stationFits : stationAddress < 128)
    (moduleFits : moduleAddress < 256) (selectionFits : selection < 16) :
    let second := (MD3BlockFn17MtoS stationAddress moduleAddress selection).pomSecondBlock
    second.getByte 0 = ~~~BitVec.ofNat 8 stationAddress &&& 0x7F#8 ∧
      second.getByte 1 = ~~~BitVec.ofNat 8 moduleAddress ∧
      second.getSecondWord = outputBit selection := by
  intro second
  obtain ⟨passes, station, module, output⟩ :=
    verify_pom stationFits moduleFits (Nat.lt_trans selectionFits (by decide : 16 < 256))
  obtain ⟨-, second, word⟩ := pomCarries passes
  rw [module] at second
  rw [output] at word
  refine ⟨?_, second, word⟩
  have blocks := pomSecondBlock_eq (MD3BlockFn17MtoS stationAddress moduleAddress selection)
    (isMasterToStationMessage_formattedBytes ..)
  rw [station] at blocks
  exact (congrArg (fun block => block.getByte 0) blocks).trans (getByte_bytes _ _ _ _ (by decide))

theorem outputBit_inj {selection selection' : Nat} (fits : selection < 16) (fits' : selection' < 16)
    (same : outputBit selection = outputBit selection') : selection = selection' := by
  have apart : ∀ i < 16, ∀ j < 16, outputBit i = outputBit j → i = j := by decide
  exact apart selection fits selection' fits' same

theorem complement_station_inj {stationAddress' : Nat} (fits : stationAddress < 128)
    (fits' : stationAddress' < 128)
    (same : ~~~BitVec.ofNat 8 stationAddress' &&& 0x7F#8 =
      ~~~BitVec.ofNat 8 stationAddress &&& 0x7F#8) : stationAddress' = stationAddress := by
  rw [← complement_station fits, ← complement_station fits', same]

theorem complement_byte_inj {address address' : Nat} (fits : address < 256) (fits' : address' < 256)
    (same : ~~~BitVec.ofNat 8 address' = ~~~BitVec.ofNat 8 address) : address' = address := by
  rw [← complement_byte fits, ← complement_byte fits', same]

/-- A nibble of the mask of a station or of a selection. -/
theorem and_and_self (byte mask : BitVec 8) : byte &&& mask &&& mask = byte &&& mask := by
  rw [BitVec.and_assoc, BitVec.and_self]

/-- **A pulse for something else does not pass.** -/
theorem pom_other {stationAddress' moduleAddress' selection' : Nat}
    (stationFits : stationAddress < 128) (moduleFits : moduleAddress < 256)
    (selectionFits : selection < 16) (stationFits' : stationAddress' < 128)
    (moduleFits' : moduleAddress' < 256) (selectionFits' : selection' < 16)
    (passes : (MD3BlockFn17MtoS stationAddress moduleAddress selection).verifyPomSecondBlock
      (MD3BlockFn17MtoS stationAddress' moduleAddress' selection').pomSecondBlock = true) :
    stationAddress' = stationAddress ∧ moduleAddress' = moduleAddress ∧ selection' = selection := by
  obtain ⟨-, station, module, output⟩ :=
    verify_pom stationFits moduleFits (Nat.lt_trans selectionFits (by decide : 16 < 256))
  obtain ⟨first, second, word⟩ :=
    pomSecondBlock_generated stationFits' moduleFits' selectionFits'
  have carries := pomCarries passes
  refine ⟨?_, ?_, ?_⟩
  · have same := carries.station
    rw [first, and_and_self, station] at same
    exact complement_station_inj stationFits stationFits' same
  · have same := carries.module
    rw [second, module] at same
    exact complement_byte_inj moduleFits moduleFits' same
  · have same := carries.output
    rw [word, output] at same
    exact outputBit_inj selectionFits' selectionFits same

/-- **An output word for another station does not pass.** -/
theorem dom_other {stationAddress' moduleAddress' : Nat} (stationFits : stationAddress < 128)
    (moduleFits : moduleAddress < 256) (stationFits' : stationAddress' < 128)
    (moduleFits' : moduleAddress' < 256) (outputData : BitVec 16)
    (passes : (MD3BlockFn19MtoS stationAddress moduleAddress).verifyDomSecondBlock
      ((MD3BlockFn19MtoS stationAddress' moduleAddress').domSecondBlock outputData) = true) :
    stationAddress' = stationAddress := by
  have same := (domCarries passes).station
  rw [domSecondBlock_eq, getByte_three_checkedWord, and_and_self,
    (fields_dom stationFits moduleFits).1, (fields_dom stationFits' moduleFits').1] at same
  exact complement_station_inj stationFits stationFits' same

/-- The byte of the selections of an input point control. -/
theorem selectionByte_low {channel : Nat} (fits : channel < 16)
    (control : DIMControlSelectionType) :
    ((control.toByte <<< 4) ||| BitVec.ofNat 8 channel) &&& 0x0F#8 = BitVec.ofNat 8 channel := by
  cases control <;> interval_cases channel <;> rfl

theorem selectionByte_high {channel : Nat} (fits : channel < 16)
    (control : DIMControlSelectionType) :
    (((control.toByte <<< 4) ||| BitVec.ofNat 8 channel) >>> 4) &&& 0x0F#8 = control.toByte := by
  cases control <;> interval_cases channel <;> rfl

theorem dimSecondBlock_generated (stationFits : stationAddress < 128)
    (moduleFits : moduleAddress < 256) (selectionFits : selection < 16)
    (control : DIMControlSelectionType) :
    (MD3BlockFn20MtoS stationAddress moduleAddress selection control).dimSecondBlock =
      bytes (0x00#8 ||| (~~~BitVec.ofNat 8 stationAddress &&& 0x7F#8))
        (~~~BitVec.ofNat 8 moduleAddress)
        (~~~((control.toByte <<< 4) ||| BitVec.ofNat 8 selection))
        ((control.toByte <<< 4) ||| BitVec.ofNat 8 selection) := by
  obtain ⟨station, module, channel, chosen⟩ :=
    fields_dim stationFits moduleFits selectionFits control
  rw [dimSecondBlock, station, module, channel, chosen]
  rfl

/-- **An input point control for something else does not pass.** -/
theorem dim_other {stationAddress' moduleAddress' selection' : Nat}
    {control control' : DIMControlSelectionType}
    (stationFits : stationAddress < 128) (moduleFits : moduleAddress < 256)
    (selectionFits : selection < 16) (stationFits' : stationAddress' < 128)
    (moduleFits' : moduleAddress' < 256) (selectionFits' : selection' < 16)
    (passes : (MD3BlockFn20MtoS stationAddress moduleAddress selection
      control).verifyDimSecondBlock (MD3BlockFn20MtoS stationAddress' moduleAddress' selection'
        control').dimSecondBlock = true) :
    stationAddress' = stationAddress ∧ moduleAddress' = moduleAddress ∧ selection' = selection ∧
      control' = control := by
  obtain ⟨station, module, channel, chosen⟩ :=
    fields_dim stationFits moduleFits selectionFits control
  rw [dimSecondBlock_generated stationFits' moduleFits' selectionFits' control'] at passes
  simp only [verifyDimSecondBlock, Bool.and_eq_true, beq_iff_eq] at passes
  obtain ⟨⟨⟨first, second⟩, third⟩, fourth⟩ := passes
  rw [getByte_bytes _ _ _ _ (by decide), byteAt, BitVec.zero_or, station,
    complement_station stationFits'] at first
  rw [getByte_bytes _ _ _ _ (by decide), byteAt, module, complement_byte moduleFits'] at second
  rw [getByte_bytes _ _ _ _ (by decide), byteAt, channel, BitVec.not_not,
    selectionByte_low selectionFits'] at third
  rw [getByte_bytes _ _ _ _ (by decide), byteAt, chosen] at fourth
  have shifted : ∀ byte : BitVec 8, ~~~(~~~byte >>> 4) &&& 0x0F#8 = (byte >>> 4) &&& 0x0F#8 := by
    decide +kernel
  rw [shifted, selectionByte_high selectionFits'] at fourth
  refine ⟨first.symm, second.symm, ?_, ?_⟩
  · have numbers := congrArg BitVec.toNat third
    rw [BitVec.toNat_ofNat, BitVec.toNat_ofNat] at numbers
    omega
  · rw [← control'.ofNibble_toByte, ← control.ofNibble_toByte, fourth]

end Generated

/-! ## Analog outputs -/

section Analog

variable {stationAddress moduleAddress channel : Nat}

theorem fields_aom (moduleFits : moduleAddress < 256) (channelFits : channel < 256) :
    (MD3BlockFn23MtoS stationAddress moduleAddress channel).getModuleAddress = moduleAddress ∧
      (MD3BlockFn23MtoS stationAddress moduleAddress channel).getChannel = channel := by
  constructor
  · refine (getModuleAddress_formattedBytes ..).trans ?_
    rw [BitVec.toNat_ofNat, Nat.mod_eq_of_lt moduleFits]
  · refine (getOutputSelection_formattedBytes ..).trans ?_
    rw [BitVec.toNat_ofNat, Nat.mod_eq_of_lt channelFits]

/-- The value is below the channel. -/
theorem aomWord_value (channel : Nat) {outputData : BitVec 16} (fits : outputData.toNat < 4096) :
    aomWord channel outputData &&& 0x0FFF#16 = outputData := by
  apply BitVec.eq_of_getLsbD_eq
  intro i inWord
  have mask : ∀ i < 16, (0x0FFF#16).getLsbD i = decide (i < 12) := by decide
  rw [BitVec.getLsbD_and, aomWord, BitVec.getLsbD_or, BitVec.getLsbD_shiftLeft, BitVec.getLsbD_and,
    mask i inWord]
  by_cases low : i < 12
  · simp [low]
  · have power : 2 ^ 12 ≤ 2 ^ i := Nat.pow_le_pow_right (by decide) (Nat.not_lt.mp low)
    have clear : outputData.getLsbD i = false :=
      Nat.testBit_lt_two_pow (Nat.lt_of_lt_of_le fits power)
    simp [low, clear]

/-- The channel is the upper nibble. -/
theorem aomWord_channel (channel : Nat) (outputData : BitVec 16) :
    ((aomWord channel outputData >>> 8).setWidth 8 >>> 4) &&& 0x0F#8 =
      ~~~BitVec.ofNat 8 channel &&& 0x0F#8 := by
  apply BitVec.eq_of_getLsbD_eq
  intro i inByte
  have mask : ∀ i < 8, (0x0F#8).getLsbD i = decide (i < 4) := by decide
  have wide : ∀ i < 4, (0x0FFF#16).getLsbD (12 + i) = false := by decide
  rw [BitVec.getLsbD_and, BitVec.getLsbD_and, mask i inByte]
  by_cases low : i < 4
  · rw [BitVec.getLsbD_ushiftRight, BitVec.getLsbD_setWidth, BitVec.getLsbD_ushiftRight, aomWord,
      BitVec.getLsbD_or, BitVec.getLsbD_shiftLeft, BitVec.getLsbD_and,
      show 8 + (4 + i) = 12 + i by omega, wide i low, BitVec.getLsbD_not, BitVec.getLsbD_not,
      BitVec.getLsbD_ofNat, BitVec.getLsbD_ofNat]
    simp [low, show 4 + i < 8 by omega, show 12 + i < 16 by omega, show 12 + i - 12 = i by omega,
      show i < 16 by omega, show i < 8 by omega]
  · simp [low]

theorem aomSecondBlock_eq (header : MD3BlockData) (outputData : BitVec 16) :
    header.aomSecondBlock outputData =
      checkedWord (aomWord header.getChannel outputData)
        (~~~BitVec.ofNat 8 header.getModuleAddress) := rfl

/-- **The second block of an analog output passes the check exactly when its word fits.** -/
theorem verify_aom_iff (moduleFits : moduleAddress < 256) (channelFits : channel < 16)
    (outputData : BitVec 16) :
    let header := MD3BlockFn23MtoS stationAddress moduleAddress channel
    header.verifyAomSecondBlock (header.aomSecondBlock outputData) = true ↔
      OutputFits (aomWord channel outputData) := by
  intro header
  obtain ⟨module, chosen⟩ := @fields_aom stationAddress moduleAddress channel moduleFits
    (Nat.lt_trans channelFits (by decide))
  have nibble : ∀ channel < 16, BitVec.ofNat 8 channel &&& 0x0F#8 =
      ~~~(~~~BitVec.ofNat 8 channel &&& 0x0F#8) &&& 0x0F#8 := by decide
  have complement : ∀ byte : BitVec 8,
      ~~~(byte >>> 4) &&& 0x0F#8 = ~~~((byte >>> 4) &&& 0x0F#8) &&& 0x0F#8 := by decide +kernel
  simp only [verifyAomSecondBlock, Bool.and_eq_true, beq_iff_eq, aomSecondBlock_eq]
  rw [module, chosen, getByte_zero_checkedWord, getByte_three_checkedWord, complement,
    aomWord_channel, checkdata_checkedWord_iff, complement_byte moduleFits]
  exact and_iff_right ⟨nibble channel channelFits, rfl⟩

/-- **An analog output of another module or channel does not pass.** -/
theorem aom_other {stationAddress' moduleAddress' channel' : Nat}
    (moduleFits : moduleAddress < 256) (channelFits : channel < 16)
    (moduleFits' : moduleAddress' < 256) (channelFits' : channel' < 16) (outputData : BitVec 16)
    (passes : (MD3BlockFn23MtoS stationAddress moduleAddress channel).verifyAomSecondBlock
      ((MD3BlockFn23MtoS stationAddress' moduleAddress' channel').aomSecondBlock
        outputData) = true) :
    moduleAddress' = moduleAddress ∧ channel' = channel := by
  obtain ⟨module, chosen⟩ := @fields_aom stationAddress moduleAddress channel moduleFits
    (Nat.lt_trans channelFits (by decide))
  obtain ⟨module', chosen'⟩ := @fields_aom stationAddress' moduleAddress' channel' moduleFits'
    (Nat.lt_trans channelFits' (by decide))
  have carries := aomCarries passes
  constructor
  · have same := carries.module
    rw [aomSecondBlock_eq, getByte_three_checkedWord, module, module'] at same
    exact complement_byte_inj moduleFits moduleFits' same
  · have same := carries.channel
    rw [aomSecondBlock_eq, getByte_zero_checkedWord, aomWord_channel, chosen, chosen'] at same
    have apart : ∀ i < 16, ∀ j < 16, ~~~BitVec.ofNat 8 i &&& 0x0F#8 =
        ~~~BitVec.ofNat 8 j &&& 0x0F#8 → i = j := by decide +kernel
    exact apart channel' channelFits' channel channelFits same

end Analog

/-! ## Third blocks -/

/-- A value of twelve bits passes the check of the third block, and is read as it was written. -/
theorem dimThirdBlock_generated {outputData : BitVec 16} (fits : outputData.toNat < 4096) :
    verifyDimThirdBlock (dimThirdBlock outputData) = true ∧
      getOutputFromDimThirdBlock (dimThirdBlock outputData) = outputData := by
  have masked : outputData &&& 0x0FFF#16 = outputData := by
    apply BitVec.eq_of_toNat_eq
    rw [BitVec.toNat_and]
    exact (Nat.and_two_pow_sub_one_eq_mod _ 12).trans (Nat.mod_eq_of_lt fits)
  have block : dimThirdBlock outputData = words outputData (~~~outputData &&& 0x0FFF#16) := by
    rw [dimThirdBlock, masked]
    rfl
  have complement : ~~~(~~~outputData &&& 0x0FFF#16) &&& 0x0FFF#16 = outputData &&& 0x0FFF#16 := by
    apply BitVec.eq_of_getLsbD_eq
    intro i inWord
    simp only [BitVec.getLsbD_and, BitVec.getLsbD_not]
    cases outputData.getLsbD i <;> cases (0x0FFF#16).getLsbD i <;> simp [inWord]
  rw [block, verifyDimThirdBlock, getOutputFromDimThirdBlock, getFirstWord_words,
    getSecondWord_words, complement, masked, beq_self_eq_true]
  exact ⟨rfl, rfl⟩

/-! ## The four commands -/

section Commands

variable (stationAddress moduleAddress selection : Nat) (control : DIMControlSelectionType)
  (word value : BitVec 16)

/-- The blocks of the four commands pass the checks and are read as they were written, a block that
passes carries what its header says, and a block for something else does not pass. -/
structure ControlCodecs : Prop where
  pom : let header := MD3BlockFn17MtoS stationAddress moduleAddress selection
    header.verifyPomSecondBlock header.pomSecondBlock = true ∧
      header.getOutputSelection = selection
  dom : let header := MD3BlockFn19MtoS stationAddress moduleAddress
    header.verifyDomSecondBlock (header.domSecondBlock word) = true ∧
      getOutputFromDomSecondBlock (header.domSecondBlock word) = word
  dim : let header := MD3BlockFn20MtoS stationAddress moduleAddress selection control
    header.verifyDimSecondBlock header.dimSecondBlock = true
  setPoint : verifyDimThirdBlock (dimThirdBlock value) = true ∧
    getOutputFromDimThirdBlock (dimThirdBlock value) = value
  aom : let header := MD3BlockFn23MtoS stationAddress moduleAddress selection
    header.verifyAomSecondBlock (header.aomSecondBlock value) = true ∧
      getOutputFromAomSecondBlock (header.aomSecondBlock value) = value
  carries : ∀ header second : MD3BlockData,
    (header.verifyPomSecondBlock second = true → PomCarries header second) ∧
      (header.verifyDomSecondBlock second = true → DomCarries header second) ∧
      (header.verifyDimSecondBlock second = true → DimCarries header second) ∧
      (header.verifyAomSecondBlock second = true → AomCarries header second)
  others : ∀ stationAddress' < 128, ∀ moduleAddress' < 256, ∀ selection' < 16,
    ∀ (control' : DIMControlSelectionType) (word' : BitVec 16),
      ((MD3BlockFn17MtoS stationAddress moduleAddress selection).verifyPomSecondBlock
          (MD3BlockFn17MtoS stationAddress' moduleAddress' selection').pomSecondBlock = true →
        stationAddress' = stationAddress ∧ moduleAddress' = moduleAddress ∧
          selection' = selection) ∧
      ((MD3BlockFn19MtoS stationAddress moduleAddress).verifyDomSecondBlock
          ((MD3BlockFn19MtoS stationAddress' moduleAddress').domSecondBlock word') = true →
        stationAddress' = stationAddress) ∧
      ((MD3BlockFn20MtoS stationAddress moduleAddress selection control).verifyDimSecondBlock
          (MD3BlockFn20MtoS stationAddress' moduleAddress' selection' control').dimSecondBlock =
            true →
        stationAddress' = stationAddress ∧ moduleAddress' = moduleAddress ∧
          selection' = selection ∧ control' = control) ∧
      ((MD3BlockFn23MtoS stationAddress moduleAddress selection).verifyAomSecondBlock
          ((MD3BlockFn23MtoS stationAddress' moduleAddress' selection').aomSecondBlock word') =
            true →
        moduleAddress' = moduleAddress ∧ selection' = selection)

variable {stationAddress moduleAddress selection control word value}

/-- **The control commands are read as they were written exactly if their words fit**: the sum of
the bytes of the output word, and that of the word of the analog output, has at most eight bits, or
the word is odd. -/
theorem controlCodecs_iff (stationFits : stationAddress < 128) (moduleFits : moduleAddress < 256)
    (selectionFits : selection < 16) (valueFits : value.toNat < 4096) :
    ControlCodecs stationAddress moduleAddress selection control word value ↔
      OutputFits word ∧ OutputFits (aomWord selection value) := by
  have chosen := (@fields_aom stationAddress moduleAddress selection moduleFits
    (Nat.lt_trans selectionFits (by decide))).2
  constructor
  · intro codecs
    exact ⟨(verify_dom_iff stationFits moduleFits word).mp codecs.dom.1,
      (verify_aom_iff moduleFits selectionFits value).mp codecs.aom.1⟩
  · rintro ⟨wordFits, hiwordFits⟩
    have pulse := verify_pom stationFits moduleFits
      (Nat.lt_trans selectionFits (by decide : 16 < 256))
    refine
      { pom := ⟨pulse.1, pulse.2.2.2⟩
        dom := ⟨(verify_dom_iff stationFits moduleFits word).mpr wordFits, getOutput_dom _ wordFits⟩
        dim := verify_dim stationFits moduleFits selectionFits control
        setPoint := dimThirdBlock_generated valueFits
        aom := ⟨(verify_aom_iff moduleFits selectionFits value).mpr hiwordFits, ?_⟩
        carries := fun header second => ⟨pomCarries, domCarries, dimCarries, aomCarries⟩
        others := fun station' stationFits' module' moduleFits' selection' selectionFits' control'
          word' => ⟨?_, ?_, ?_, ?_⟩ }
    · rw [aomSecondBlock_eq, chosen, getOutputFromAomSecondBlock, getFirstWord_of_fits hiwordFits,
        aomWord_value selection valueFits]
    · exact pom_other stationFits moduleFits selectionFits stationFits' moduleFits' selectionFits'
    · exact dom_other stationFits moduleFits stationFits' moduleFits' word'
    · exact dim_other stationFits moduleFits selectionFits stationFits' moduleFits' selectionFits'
    · exact aom_other moduleFits selectionFits moduleFits' selectionFits' word'

end Commands

/-- An output word with an odd sum of more than eight bits, and an analog value on channel 15. -/
theorem controlCodecs_iff_odd : ControlCodecs 0x7C 200 15 .SETPOINT 0xFF03#16 0x0123#16 :=
  (controlCodecs_iff (by decide) (by decide) (by decide) (by decide)).mpr (by decide)

/-- The second block of the output word `FF02` does not pass, and neither does that of the value
`FE0` on channel 0. -/
theorem controlCodecs_carry :
    ¬ControlCodecs 0x7C 200 15 .SETPOINT 0xFF02#16 0x0123#16 ∧
      ¬ControlCodecs 0x7C 200 0 .SETPOINT 0xFF03#16 0x0FE0#16 := by
  constructor
  · intro codecs
    exact absurd codecs.dom.1 (by decide)
  · intro codecs
    exact absurd codecs.aom.1 (by decide)

end MD3BlockData

end OpenDataCon.MD3Port
