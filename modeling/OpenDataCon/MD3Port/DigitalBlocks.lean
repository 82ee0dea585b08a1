import OpenDataCon.MD3Port.Blocks

/-!
# Headers of digital scans

A digital scan asks for a number of module words and a number of time-tagged events, under a
sequence number; all three are numbers of four bits. The header of the answer has the numbers
that are really sent. They are known only at the end, and are written over what the header was
built with.

What is written is read back (`getModuleCount_answered`, `getTaggedEventCount_answered`), and
the other fields of the header are those it was built with.
-/

set_option autoImplicit false

namespace OpenDataCon.MD3Port

open BitFields MD3BlockData

/-- A formatted block, from its bytes. -/
def formattedBytes (mastertostation : Bool) (stationAddress functioncode : Nat)
    (b3 b4 : BitVec 8) : MD3BlockData where
  data := combineFormattedBytes mastertostation (BitVec.ofNat 8 stationAddress)
    (BitVec.ofNat 8 functioncode) b3 b4

/-- The request for changes and events. -/
def MD3BlockFn11MtoS (stationAddress taggedeventcount digitalsequencenumber modulecount : Nat) :
    MD3BlockData :=
  formattedBytes true stationAddress DIGITAL_CHANGE_OF_STATE_TIME_TAGGED
    (BitVec.ofNat 8 (taggedeventcount <<< 4))
    (BitVec.ofNat 8 (digitalsequencenumber <<< 4 ||| modulecount))

/-- The header of an answer with data. -/
def MD3BlockFn11StoM (stationAddress taggedeventcount digitalsequencenumber modulecount : Nat) :
    MD3BlockData :=
  formattedBytes false stationAddress DIGITAL_CHANGE_OF_STATE_TIME_TAGGED
    (BitVec.ofNat 8 (taggedeventcount <<< 4 ||| digitalsequencenumber)) (BitVec.ofNat 8 modulecount)

/-- The request for module words, changed or not. -/
def MD3BlockFn12MtoS (stationAddress startmoduleaddress digitalsequencenumber modulecount : Nat) :
    MD3BlockData :=
  formattedBytes true stationAddress DIGITAL_UNCONDITIONAL (BitVec.ofNat 8 startmoduleaddress)
    (BitVec.ofNat 8 (digitalsequencenumber <<< 4 ||| modulecount))

/-- The answer that there is nothing to send. -/
def MD3BlockFn14StoM (stationAddress digitalsequencenumber : Nat) : MD3BlockData :=
  formattedBytes false stationAddress DIGITAL_NO_CHANGE_REPLY (BitVec.ofNat 8 digitalsequencenumber)
    0#8

namespace MD3BlockData

def getTaggedEventCount (block : MD3BlockData) : Nat := ((block.data >>> 12) &&& 0x0F#32).toNat

/-- Requests have the sequence number where other formatted blocks have their flags. -/
def getDigitalSequenceNumber (block : MD3BlockData) : Nat := ((block.data >>> 4) &&& 0x0F#32).toNat

/-- There may be no module; this number is not one less on the wire. -/
def getModuleCount (block : MD3BlockData) : Nat := (block.data &&& 0x0F#32).toNat

def setModuleCount (block : MD3BlockData) (modulecount : Nat) : MD3BlockData where
  data := (block.data &&& ~~~(0x0F#32)) ||| BitVec.ofNat 32 modulecount

def setTaggedEventCount (block : MD3BlockData) (eventcount : Nat) : MD3BlockData where
  data := (block.data &&& ~~~(0x0F#32 <<< 12)) ||| (BitVec.ofNat 32 eventcount <<< 12)

/-! ## Reading a field of four bits -/

theorem isMask_nibble : IsMask 0x0F#32 4 := isMask_ofNat 4

theorem getModuleCount_eq (block : MD3BlockData) :
    block.getModuleCount = (readField block.data 0x0F#32 0).toNat := by
  rw [getModuleCount, readField, BitVec.ushiftRight_zero]

theorem getModuleCount_lt (block : MD3BlockData) : block.getModuleCount < 16 := by
  rw [getModuleCount, BitVec.toNat_and]
  exact Nat.lt_of_le_of_lt Nat.and_le_right (by decide)

theorem getTaggedEventCount_lt (block : MD3BlockData) : block.getTaggedEventCount < 16 := by
  rw [getTaggedEventCount, BitVec.toNat_and]
  exact Nat.lt_of_le_of_lt Nat.and_le_right (by decide)

theorem getDigitalSequenceNumber_lt (block : MD3BlockData) :
    block.getDigitalSequenceNumber < 16 := by
  rw [getDigitalSequenceNumber, BitVec.toNat_and]
  exact Nat.lt_of_le_of_lt Nat.and_le_right (by decide)

/-- Half of a byte of a word. -/
theorem readField_nibble {data : BitVec 32} {byte : BitVec 8} {offset low : Nat}
    (bits : ∀ i < 4, data.getLsbD (offset + i) = byte.getLsbD (low + i)) :
    (readField data 0x0F#32 offset).toNat = byte.toNat / 2 ^ low % 16 := by
  have field : (readField data 0x0F#32 offset).toNat = (byte >>> low).toNat % 2 ^ 4 := by
    refine readField_toNat (isMask_ofNat 4) (by decide) fun i small => ?_
    rw [bits i small, BitVec.getLsbD_ushiftRight]
  rw [field, BitVec.toNat_ushiftRight, Nat.shiftRight_eq_div_pow]
  norm_num

/-- A byte of two halves. -/
theorem toNat_nibbles {high low : Nat} (highFits : high < 16) (lowFits : low < 16) :
    (BitVec.ofNat 8 (high <<< 4 ||| low)).toNat = high * 16 + low := by
  rw [BitVec.toNat_ofNat, ← Nat.shiftLeft_add_eq_or_of_lt (by omega), Nat.shiftLeft_eq]
  exact Nat.mod_eq_of_lt (by omega)

/-! ## Formatted blocks -/

section Formatted

variable (mastertostation : Bool) (stationAddress functioncode : Nat) (b3 b4 : BitVec 8)

theorem getLsbD_formattedBytes (i : Nat) :
    (formattedBytes mastertostation stationAddress functioncode b3 b4).data.getLsbD i =
      if i < 8 then b4.getLsbD i
      else if i < 16 then b3.getLsbD (i - 8)
      else if i < 24 then (BitVec.ofNat 8 functioncode).getLsbD (i - 16)
      else ((if mastertostation then 0x00#8 else 0x80#8) |||
        (BitVec.ofNat 8 stationAddress &&& 0x7f#8)).getLsbD (i - 24) :=
  getLsbD_combineDataBytes _ _ _ _ i

@[simp] theorem getFunctionCode_formattedBytes :
    (formattedBytes mastertostation stationAddress functioncode b3 b4).getFunctionCode =
      functioncode % 256 := by
  have field : (readField (formattedBytes mastertostation stationAddress functioncode b3
      b4).data 0xFF#32 16).toNat = (BitVec.ofNat 8 functioncode).toNat % 2 ^ 8 := by
    refine readField_toNat (isMask_ofNat 8) (Nat.le_refl _) fun i small => ?_
    rw [getLsbD_formattedBytes, if_neg (by omega), if_neg (by omega), if_pos (by omega)]
    exact congrArg _ (by omega)
  rw [BitVec.toNat_ofNat, Nat.mod_mod] at field
  exact field

@[simp] theorem getStationAddress_formattedBytes :
    (formattedBytes mastertostation stationAddress functioncode b3 b4).getStationAddress =
      stationAddress % 128 := by
  have field : (readField (formattedBytes mastertostation stationAddress functioncode b3
      b4).data 0x7F#32 24).toNat = (BitVec.ofNat 8 stationAddress).toNat % 2 ^ 7 := by
    refine readField_toNat (isMask_ofNat 7) (by decide) fun i small => ?_
    rw [getLsbD_formattedBytes, if_neg (by omega), if_neg (by omega), if_neg (by omega)]
    have low : 24 + i - 24 = i := by omega
    rw [low, BitVec.getLsbD_or, BitVec.getLsbD_and]
    cases mastertostation <;> interval_cases i <;> simp
  rw [BitVec.toNat_ofNat] at field
  exact field.trans (by omega)

@[simp] theorem isMasterToStationMessage_formattedBytes :
    (formattedBytes mastertostation stationAddress functioncode b3 b4).isMasterToStationMessage =
      mastertostation := by
  rw [isMasterToStationMessage_eq, getLsbD_formattedBytes, if_neg (by decide), if_neg (by decide),
    if_neg (by decide), BitVec.getLsbD_or, BitVec.getLsbD_and]
  cases mastertostation <;> simp

theorem getModuleAddress_formattedBytes :
    (formattedBytes mastertostation stationAddress functioncode b3 b4).getModuleAddress =
      b3.toNat := by
  have field : (readField (formattedBytes mastertostation stationAddress functioncode b3
      b4).data 0xFF#32 8).toNat = b3.toNat % 2 ^ 8 := by
    refine readField_toNat (isMask_ofNat 8) (Nat.le_refl _) fun i small => ?_
    rw [getLsbD_formattedBytes, if_neg (by omega), if_pos (by omega)]
    exact congrArg _ (by omega)
  exact field.trans (Nat.mod_eq_of_lt b3.isLt)

/-- The upper half of the third byte. -/
theorem getTaggedEventCount_formattedBytes :
    (formattedBytes mastertostation stationAddress functioncode b3 b4).getTaggedEventCount =
      b3.toNat / 16 % 16 := by
  have bits : ∀ i < 4, (formattedBytes mastertostation stationAddress functioncode b3
      b4).data.getLsbD (12 + i) = b3.getLsbD (4 + i) := by
    intro i small
    rw [getLsbD_formattedBytes, if_neg (by omega), if_pos (by omega)]
    exact congrArg _ (by omega)
  exact readField_nibble bits

/-- The upper half of the last byte. -/
theorem getDigitalSequenceNumber_formattedBytes :
    (formattedBytes mastertostation stationAddress functioncode b3 b4).getDigitalSequenceNumber =
      b4.toNat / 16 % 16 := by
  have bits : ∀ i < 4, (formattedBytes mastertostation stationAddress functioncode b3
      b4).data.getLsbD (4 + i) = b4.getLsbD (4 + i) := by
    intro i small
    rw [getLsbD_formattedBytes, if_pos (by omega)]
  exact readField_nibble bits

/-- The lower half of the last byte. -/
theorem getModuleCount_formattedBytes :
    (formattedBytes mastertostation stationAddress functioncode b3 b4).getModuleCount =
      b4.toNat % 16 := by
  have field := @readField_nibble (formattedBytes mastertostation stationAddress functioncode b3
    b4).data b4 0 0 fun i small => by
      rw [getLsbD_formattedBytes, if_pos (by omega)]
  rw [getModuleCount_eq, field, Nat.pow_zero, Nat.div_one]

end Formatted

/-! ## Requests -/

section Requests

variable (stationAddress : Nat) {count number modulecount : Nat}

theorem getDigitalSequenceNumber_request (count : Nat) (numberFits : number < 16)
    (modulesFit : modulecount < 16) :
    (MD3BlockFn11MtoS stationAddress count number modulecount).getDigitalSequenceNumber =
      number := by
  rw [MD3BlockFn11MtoS, getDigitalSequenceNumber_formattedBytes,
    toNat_nibbles numberFits modulesFit]
  omega

theorem getDigitalSequenceNumber_unconditional (startmoduleaddress : Nat)
    (numberFits : number < 16) (modulesFit : modulecount < 16) :
    (MD3BlockFn12MtoS stationAddress startmoduleaddress number
      modulecount).getDigitalSequenceNumber = number := by
  rw [MD3BlockFn12MtoS, getDigitalSequenceNumber_formattedBytes,
    toNat_nibbles numberFits modulesFit]
  omega

/-- The header of an answer has no events until they are counted. -/
theorem getTaggedEventCount_answer (numberFits : number < 16) (modulecount : Nat) :
    (MD3BlockFn11StoM stationAddress 0 number modulecount).getTaggedEventCount = 0 := by
  rw [MD3BlockFn11StoM, getTaggedEventCount_formattedBytes, toNat_nibbles (by decide) numberFits]
  omega

theorem getFunctionCode_answer (count number modulecount : Nat) :
    (MD3BlockFn11StoM stationAddress count number modulecount).getFunctionCode =
      DIGITAL_CHANGE_OF_STATE_TIME_TAGGED := by
  rw [MD3BlockFn11StoM, getFunctionCode_formattedBytes]
  rfl

theorem getFunctionCode_noChange (number : Nat) :
    (MD3BlockFn14StoM stationAddress number).getFunctionCode = DIGITAL_NO_CHANGE_REPLY := by
  rw [MD3BlockFn14StoM, getFunctionCode_formattedBytes]
  rfl

end Requests

/-! ## The header of an answer -/

/-- Writing a number of four bits writes a field. -/
theorem setModuleCount_eq (block : MD3BlockData) {modulecount : Nat} (fits : modulecount < 16) :
    (block.setModuleCount modulecount).data =
      writeField block.data 0x0F#32 (BitVec.ofNat 32 modulecount) 0 := by
  have masked : BitVec.ofNat 32 modulecount &&& 0x0F#32 = BitVec.ofNat 32 modulecount := by
    interval_cases modulecount <;> rfl
  rw [setModuleCount, writeField, masked, BitVec.shiftLeft_zero, BitVec.shiftLeft_zero]

theorem setTaggedEventCount_eq (block : MD3BlockData) {eventcount : Nat} (fits : eventcount < 16) :
    (block.setTaggedEventCount eventcount).data =
      writeField block.data 0x0F#32 (BitVec.ofNat 32 eventcount) 12 := by
  have masked : BitVec.ofNat 32 eventcount &&& 0x0F#32 = BitVec.ofNat 32 eventcount := by
    interval_cases eventcount <;> rfl
  rw [setTaggedEventCount, writeField, masked]

section Setting

variable (block : MD3BlockData) {modulecount : Nat} (RSF HRP DCP : Bool)

/-- A field apart from the number of modules stays. -/
theorem readField_setModuleCount (fits : modulecount < 16) {mask : BitVec 32} {width : Nat}
    (masks : IsMask mask width) (offset : Nat) (outside : 4 ≤ offset) :
    readField (block.setModuleCount modulecount).data mask offset =
      readField block.data mask offset := by
  rw [setModuleCount_eq _ fits,
    readField_writeField_of_disjoint masks isMask_nibble (by decide) (by omega)]

theorem getModuleCount_setModuleCount (fits : modulecount < 16) :
    (block.setModuleCount modulecount).getModuleCount = modulecount := by
  rw [getModuleCount_eq, setModuleCount_eq _ fits,
    readField_writeField _ _ _ isMask_nibble (by decide)]
  interval_cases modulecount <;> rfl

theorem getTaggedEventCount_setModuleCount (fits : modulecount < 16) :
    (block.setModuleCount modulecount).getTaggedEventCount = block.getTaggedEventCount :=
  congrArg BitVec.toNat (readField_setModuleCount block fits isMask_nibble 12 (by decide))

theorem getFunctionCode_setModuleCount (fits : modulecount < 16) :
    (block.setModuleCount modulecount).getFunctionCode = block.getFunctionCode :=
  congrArg BitVec.toNat (readField_setModuleCount block fits (isMask_ofNat 8) 16 (by decide))

@[simp] theorem getModuleCount_setFlags :
    (block.setFlags RSF HRP DCP).getModuleCount = block.getModuleCount := by
  rw [getModuleCount_eq, getModuleCount_eq, readField_setFlags _ _ _ _ _ isMask_nibble (by omega)]

@[simp] theorem getTaggedEventCount_setFlags :
    (block.setFlags RSF HRP DCP).getTaggedEventCount = block.getTaggedEventCount :=
  congrArg BitVec.toNat (readField_setFlags block RSF HRP DCP 12 isMask_nibble (.inr (by decide)))

end Setting

/-- The header with the numbers that are sent, and the flags. -/
def answered (block : MD3BlockData) (modulecount eventcount : Nat) (RSF HRP DCP : Bool) :
    MD3BlockData :=
  ((block.setModuleCount modulecount).setTaggedEventCount eventcount).setFlags RSF HRP DCP

section Answered

variable (block : MD3BlockData) {modulecount eventcount : Nat} (RSF HRP DCP : Bool)

/-- A field apart from the counts and the flags stays. -/
theorem readField_answered (modulesFit : modulecount < 16) (eventsFit : eventcount < 16)
    {mask : BitVec 32} {width : Nat} (masks : IsMask mask width) (offset : Nat)
    (outside : 16 ≤ offset) :
    readField (block.answered modulecount eventcount RSF HRP DCP).data mask offset =
      readField block.data mask offset := by
  rw [answered, readField_setFlags _ _ _ _ _ masks (by omega), setTaggedEventCount_eq _ eventsFit,
    readField_writeField_of_disjoint masks isMask_nibble (by decide) (by omega),
    setModuleCount_eq _ modulesFit,
    readField_writeField_of_disjoint masks isMask_nibble (by decide) (by omega)]

/-- **The number of modules that is written is read back.** -/
theorem getModuleCount_answered (modulesFit : modulecount < 16) (eventsFit : eventcount < 16) :
    (block.answered modulecount eventcount RSF HRP DCP).getModuleCount = modulecount := by
  rw [getModuleCount_eq, answered, readField_setFlags _ _ _ _ _ isMask_nibble (by omega),
    setTaggedEventCount_eq _ eventsFit,
    readField_writeField_of_disjoint isMask_nibble isMask_nibble (by decide) (by omega),
    setModuleCount_eq _ modulesFit, readField_writeField _ _ _ isMask_nibble (by decide)]
  interval_cases modulecount <;> rfl

/-- **The number of events that is written is read back.** -/
theorem getTaggedEventCount_answered (eventsFit : eventcount < 16) :
    (block.answered modulecount eventcount RSF HRP DCP).getTaggedEventCount = eventcount := by
  change (readField (block.answered modulecount eventcount RSF HRP DCP).data 0x0F#32 12).toNat = _
  rw [answered, readField_setFlags _ _ _ _ _ isMask_nibble (by omega),
    setTaggedEventCount_eq _ eventsFit, readField_writeField _ _ _ isMask_nibble (by decide)]
  interval_cases eventcount <;> rfl

theorem getFunctionCode_answered (modulesFit : modulecount < 16) (eventsFit : eventcount < 16) :
    (block.answered modulecount eventcount RSF HRP DCP).getFunctionCode =
      block.getFunctionCode :=
  congrArg BitVec.toNat
    (readField_answered block RSF HRP DCP modulesFit eventsFit (isMask_ofNat 8) 16 (by omega))

end Answered

end MD3BlockData

end OpenDataCon.MD3Port
