import OpenDataCon.Foundations.CheckedReads
import OpenDataCon.MD3Port.AnalogRange
import OpenDataCon.MD3Port.COSScan
import OpenDataCon.MD3Port.ControlCodecs
import OpenDataCon.MD3Port.Resends

/-!
# Requests at an MD3 outstation

All handlers of the outstation, with every block of the request and every word of an answer read
by index. A read past the end gives nothing, and so does the handler. The answers are filled from
words that are there, and the handlers whose answers are modelled elsewhere answer the same
(`doDigitalHRERReading_eq`, `doDigitalScanReading_eq`, `readAnalogBlocks_eq`).

Of the blocks of a request, a control is read up to its second one whether it has two or not, and
a time is when all stations are addressed. These are all the reads past the end
(`processMD3Message_isSome_iff`).
-/

set_option autoImplicit false

namespace OpenDataCon.MD3Port

open CheckedReads MD3BlockData

/-! ## Filling blocks by index -/

/-- One block of an unconditional answer. -/
def analogBlock (analogs : List (BitVec 16)) (i : Nat) : Option MD3BlockData := do
  let firstblock ← analogs[2 * i]?
  let secondblock ← readWithin analogs (2 * i + 1) 0#16
  return words firstblock secondblock

def readAnalogBlocks (channels : Nat) (analogs : List (BitVec 16)) : Option MD3Message :=
  (List.range (channels / 2 + channels % 2)).mapM (analogBlock analogs)

/-- One block of an answer with differences. -/
def deltaBlock (deltas : List Int) (i : Nat) : Option MD3BlockData := do
  let block1 ← deltas[4 * i]?
  let block2 ← readWithin deltas (4 * i + 1) 0
  let block3 ← readWithin deltas (4 * i + 2) 0
  let block4 ← readWithin deltas (4 * i + 3) 0
  return bytes (.ofInt 8 block1) (.ofInt 8 block2) (.ofInt 8 block3) (.ofInt 8 block4)

def readDeltaBlocks (channels : Nat) (deltas : List Int) : Option MD3Message :=
  (List.range (channels / 4 + if channels % 4 = 0 then 0 else 1)).mapM (deltaBlock deltas)

/-- The words of an answer in pairs, after a filler if their number is odd. -/
def fillUp (responseWords : List (BitVec 16)) : List (BitVec 16) :=
  if responseWords.length % 2 ≠ 0 then responseWords ++ [0#16] else responseWords

def responseBlock (responseWords : List (BitVec 16)) (i : Nat) : Option MD3BlockData := do
  let firstword ← responseWords[2 * i]?
  let secondword ← responseWords[2 * i + 1]?
  return words firstword secondword

def readResponseBlocks (responseWords : List (BitVec 16)) : Option MD3Message :=
  (List.range ((responseWords.length + 1) / 2)).mapM (responseBlock responseWords)

theorem wordBlocks_eq_map (values : List (BitVec 16)) :
    wordBlocks values = (List.range (values.length / 2 + values.length % 2)).map fun i =>
      words (values.getD (2 * i) 0#16) (values.getD (2 * i + 1) 0#16) := by
  fun_induction wordBlocks values with
  | case1 => rfl
  | case2 first => simp
  | case3 first second rest ih =>
      have count : (first :: second :: rest).length / 2 + (first :: second :: rest).length % 2 =
          rest.length / 2 + rest.length % 2 + 1 := by
        simp only [List.length_cons]
        omega
      rw [count, List.range_succ_eq_map, List.map_cons, List.map_map, ih]
      rfl

theorem byteBlocks_eq_map (values : List (BitVec 8)) :
    byteBlocks values =
      (List.range (values.length / 4 + if values.length % 4 = 0 then 0 else 1)).map fun i =>
        bytes (values.getD (4 * i) 0#8) (values.getD (4 * i + 1) 0#8)
          (values.getD (4 * i + 2) 0#8) (values.getD (4 * i + 3) 0#8) := by
  fun_induction byteBlocks values with
  | case1 => rfl
  | case2 b1 => simp
  | case3 b1 b2 => simp
  | case4 b1 b2 b3 => simp
  | case5 b1 b2 b3 b4 rest ih =>
      have count : (b1 :: b2 :: b3 :: b4 :: rest).length / 4 +
            (if (b1 :: b2 :: b3 :: b4 :: rest).length % 4 = 0 then 0 else 1) =
          (rest.length / 4 + if rest.length % 4 = 0 then 0 else 1) + 1 := by
        have more : (b1 :: b2 :: b3 :: b4 :: rest).length = rest.length + 4 := rfl
        rw [more, Nat.add_mod_right]
        omega
      rw [count, List.range_succ_eq_map, List.map_cons, List.map_map, ih]
      rfl

/-- **An unconditional answer is filled from values that are there.** -/
theorem readAnalogBlocks_eq (analogs : List (BitVec 16)) :
    readAnalogBlocks analogs.length analogs = some (wordBlocks analogs) := by
  rw [wordBlocks_eq_map]
  refine mapM_eq_map fun i member => ?_
  have inside : 2 * i < analogs.length := by
    have := List.mem_range.mp member
    omega
  rw [analogBlock, read_eq_getD inside 0#16, readWithin_eq]
  rfl

theorem readDeltaBlocks_eq (deltas : List Int) :
    readDeltaBlocks deltas.length deltas =
      some (byteBlocks (deltas.map (BitVec.ofInt 8))) := by
  have mapped : ∀ i, (deltas.map (BitVec.ofInt 8)).getD i 0#8 = .ofInt 8 (deltas.getD i 0) :=
    fun i => List.getD_map _ 0 (BitVec.ofInt 8)
  rw [byteBlocks_eq_map, List.length_map]
  simp only [mapped]
  refine mapM_eq_map fun i member => ?_
  have inside : 4 * i < deltas.length := by
    have := List.mem_range.mp member
    split at this <;> omega
  rw [deltaBlock, read_eq_getD inside 0, readWithin_eq, readWithin_eq, readWithin_eq]
  rfl

theorem length_fillUp (responseWords : List (BitVec 16)) :
    (fillUp responseWords).length = responseWords.length + responseWords.length % 2 := by
  rw [fillUp]
  split
  · rw [List.length_append, List.length_singleton]
    omega
  · omega

theorem getD_fillUp (responseWords : List (BitVec 16)) (i : Nat) :
    (fillUp responseWords).getD i 0#16 = responseWords.getD i 0#16 := by
  rw [fillUp]
  split
  · rcases Nat.lt_or_ge i responseWords.length with inside | outside
    · rw [List.getD_append _ _ _ _ inside]
    · rw [List.getD_append_right _ _ _ _ outside, List.getD_eq_default _ _ outside]
      cases i - responseWords.length <;> rfl
  · rfl

/-- **The words of an answer are read in pairs that are there.** -/
theorem readResponseBlocks_fillUp (responseWords : List (BitVec 16)) :
    readResponseBlocks (fillUp responseWords) = some (wordBlocks responseWords) := by
  have count : ((fillUp responseWords).length + 1) / 2 =
      responseWords.length / 2 + responseWords.length % 2 := by
    rw [length_fillUp]
    omega
  rw [readResponseBlocks, count, wordBlocks_eq_map]
  simp only [← getD_fillUp responseWords]
  refine mapM_eq_map fun i member => ?_
  have inside : 2 * i + 1 < (fillUp responseWords).length := by
    have := List.mem_range.mp member
    rw [length_fillUp]
    omega
  rw [responseBlock, read_eq_getD (Nat.lt_of_succ_lt inside) 0#16, read_eq_getD inside 0#16]
  rfl

/-! ## Answers from the event queue -/

/-- Function 11 with data, its words read by index. -/
def DigitalOutstation.sendChangesReading (outstation : DigitalOutstation) (header : MD3BlockData) :
    Option (DigitalOutstation × MD3Message) := do
  let changedBlocks := outstation.table.countBinaryBlocksWithChanges
  let formattedBlock := MD3BlockFn11StoM header.getStationAddress 0
    header.getDigitalSequenceNumber (min changedBlocks header.getModuleCount)
  let moduleList := outstation.table.buildListOfModuleAddressesWithChanges 0
  let read := outstation.table.buildScanReturnBlocksFromList moduleList header.getModuleCount
  let popped := ({ outstation with table := read.1 }).takeEvents header
  let blocks ← readResponseBlocks (fillUp popped.2.responseWords)
  let flags := popped.1.flags
  return (popped.1, formattedBlock.answered read.2.length popped.2.eventCount flags.RSF flags.HRP
    flags.DCP :: (read.2 ++ blocks))

/-- Function 11, with the words of an answer read by index. -/
def DigitalOutstation.doDigitalScanReading (outstation : DigitalOutstation)
    (header : MD3BlockData) : Option (DigitalOutstation × MD3Message) :=
  if outstation.isRepeat header then
    some (outstation, outstation.lastDigitialScanResponseMD3Message)
  else
    let outstation := if header.getDigitalSequenceNumber = 0 then
        { outstation with table := outstation.table.markAllBinaryPointsAsChanged }
      else outstation
    let answer :=
      if outstation.table.countBinaryBlocksWithChanges = 0 ∧
          outstation.timeTaggedDataAvailable = false then
        some (outstation, [(MD3BlockFn14StoM header.getStationAddress
          header.getDigitalSequenceNumber).setFlags outstation.flags.RSF outstation.flags.HRP
            outstation.flags.DCP])
      else outstation.sendChangesReading header
    answer.map fun answer => (answer.1.keep header answer.2, answer.2)

/-- Function 9, with the words of an answer read by index. -/
def HREROutstation.doDigitalHRERReading (outstation : HREROutstation) (header : MD3BlockData) :
    Option (HREROutstation × MD3Message) :=
  if header.getSequenceNumber = outstation.lastHRERSequenceNumber then
    some (outstation, outstation.lastDigitialHRERResponseMD3Message)
  else
    let number := if header.getSequenceNumber = 0 then 1 else header.getSequenceNumber
    let outstation := { outstation with lastHRERSequenceNumber := number }
    let formattedBlock := MD3BlockFn9 header.getStationAddress false number 0 true
    if header.getEventCount = 0 then
      some (outstation, sendControlOrScanRejected outstation.flags header)
    else
      let tagged := fn9AddTimeTaggedDataToResponseWords header.getEventCount 0 0
        outstation.table.binaryTimeTaggedEventQueue
      let popped := { outstation with
        table := { outstation.table with binaryTimeTaggedEventQueue := tagged.queue } }
      (readResponseBlocks (fillUp tagged.responseWords)).map fun blocks =>
        let response := formattedBlock.setEventCountandMoreEventsFlag
          (BitVec.ofNat 8 tagged.eventCount) popped.timeTaggedDataAvailable :: blocks
        ({ popped with lastDigitialHRERResponseMD3Message := response }, response)

theorem DigitalOutstation.sendChangesReading_eq (outstation : DigitalOutstation)
    (header : MD3BlockData) :
    outstation.sendChangesReading header = some (outstation.sendChanges header) := by
  rw [sendChangesReading, readResponseBlocks_fillUp]
  rfl

/-- **The scan is the one that is modelled without indexes.** -/
theorem DigitalOutstation.doDigitalScanReading_eq (outstation : DigitalOutstation)
    (header : MD3BlockData) :
    outstation.doDigitalScanReading header = some (outstation.doDigitalScan header) := by
  rw [doDigitalScanReading, doDigitalScan]
  split
  · rfl
  · dsimp only
    rw [sendChangesReading_eq, ← apply_ite some]
    rfl

/-- **So is the event list.** -/
theorem HREROutstation.doDigitalHRERReading_eq (outstation : HREROutstation)
    (header : MD3BlockData) :
    outstation.doDigitalHRERReading header = some (outstation.doDigitalHRER header) := by
  rw [doDigitalHRERReading, doDigitalHRER]
  split
  · rfl
  · dsimp only
    rw [readResponseBlocks_fillUp]
    split
    · rfl
    · rfl

/-! ## The handlers -/

def DIGITAL_UNCONDITIONAL_OBS : Nat := 7
def DIGITAL_DELTA_SCAN : Nat := 8
def COUNTER_SCAN : Nat := 31

namespace MD3BlockData

/-- The station of a freeze is repeated in complement. -/
def isFreezeValid (block : MD3BlockData) : Bool :=
  block.getStationAddress == (~~~block.getByte 3 &&& 0x7F#8).toNat

def getMilliseconds (block : MD3BlockData) : Nat := (block.data &&& 0x03FF#32).toNat

def setSystemFlags (block : MD3BlockData) (SPU STI : Bool) : MD3BlockData where
  data := (block.data &&& ~~~(0x8000#32 ||| 0x4000#32)) |||
    ((if SPU then 0x8000#32 else 0#32) ||| (if STI then 0x4000#32 else 0#32))

end MD3BlockData

/-- The station signs on: its address and the function, and both in complement. -/
def MD3BlockFn40StoM (stationAddress : Nat) : MD3BlockData :=
  formattedBytes false stationAddress SYSTEM_SIGNON_CONTROL
    (0x80#8 ||| ~~~BitVec.ofNat 8 stationAddress) (~~~BitVec.ofNat 8 SYSTEM_SIGNON_CONTROL)

/-- The block of a flag scan, sent back. -/
def MD3BlockFn52StoM (parent : MD3BlockData) : MD3BlockData where
  data := (parent.data &&& ~~~(0x80000000#32)) ||| 0x80000000#32

/-- The outstation, with all that its handlers use. -/
structure MD3Outstation extends HREROutstation where
  enabled : Bool := true
  outstationAddr : Nat
  analogs : AnalogTable
  controls : ControlTables
  failControlResponse : Bool := false
  SPU : Bool := true
  STI : Bool := true

/-- An outstation without points. -/
def emptyOutstation : MD3Outstation where
  table := {}
  outstationAddr := 0x7C
  analogs := {}
  controls := {}

/-- What a request comes to: a message that is sent, or what is done with a control. -/
inductive MD3Reaction where
  | nothing
  | sent (message : MD3Message)
  | control (action : ControlAction)

namespace MD3Outstation

variable (outstation : MD3Outstation) (header : MD3BlockData) (completeMD3Message : MD3Message)

def sendControlOrScanRejected : MD3Reaction :=
  .sent (MD3Port.sendControlOrScanRejected outstation.flags header)

/-- Functions 5 and 31. -/
def scanUnconditional (functioncode : Nat) : Option (MD3Outstation × MD3Reaction) := do
  let reading := readAnalogOrCounterRange header.getModuleAddress header.getChannels
    { table := outstation.analogs }
  let blocks ← readAnalogBlocks header.getChannels reading.analogValues
  return ({ outstation with analogs := reading.table },
    .sent (replyHeader header outstation.flags functioncode :: blocks))

def doAnalogUnconditional : Option (MD3Outstation × MD3Reaction) :=
  outstation.scanUnconditional header ANALOG_UNCONDITIONAL

def doCounterScan : Option (MD3Outstation × MD3Reaction) :=
  outstation.scanUnconditional header COUNTER_SCAN

def doAnalogDeltaScan : Option (MD3Outstation × MD3Reaction) := do
  let reading := readAnalogOrCounterRange header.getModuleAddress header.getChannels
    { table := outstation.analogs }
  let answered (functioncode : Nat) (blocks : MD3Message) : MD3Outstation × MD3Reaction :=
    ({ outstation with analogs := reading.table },
      .sent (replyHeader header outstation.flags functioncode :: blocks))
  match reading.responseType with
  | .allChange =>
    return answered ANALOG_UNCONDITIONAL
      (← readAnalogBlocks header.getChannels reading.analogValues)
  | .deltaChange =>
    return answered ANALOG_DELTA_SCAN
      (← readDeltaBlocks header.getChannels reading.analogDeltaValues)
  | .noChange => return answered ANALOG_NO_CHANGE_REPLY []

/-- The modules of a range in the format without events, under a header. -/
def sendModules (formattedBlock : MD3BlockData) (forcesend : Bool) : MD3Outstation × MD3Reaction :=
  let moduleList := outstation.table.buildListOfModuleAddressesGivenRange header.getChannels
    header.getModuleAddress forcesend
  let read := outstation.table.buildStationReturnBlocksFromList moduleList header.getChannels
    header.getStationAddress
  let answering := { outstation with table := read.1 }
  let flags := answering.flags
  (answering, .sent (formattedBlock.setFlags flags.RSF flags.HRP flags.DCP :: read.2))

/-- Function 7; the channels are modules here. -/
def doDigitalUnconditionalObs : MD3Outstation × MD3Reaction :=
  outstation.sendModules header (formatted header.getStationAddress false
    DIGITAL_UNCONDITIONAL_OBS header.getModuleAddress header.getChannels) true

def countBinaryBlocksWithChangesGivenRange (numberOfDataBlocks startModuleAddress : Nat) : Nat :=
  (List.range numberOfDataBlocks).countP fun i =>
    outstation.table.dataChanged (startModuleAddress + i)

/-- Function 8: nothing changed, or some modules, or all of them. -/
def doDigitalChangeOnly : MD3Outstation × MD3Reaction :=
  let numberOfDataBlocks := header.getChannels
  let changedBlocks := outstation.countBinaryBlocksWithChangesGivenRange numberOfDataBlocks
    header.getModuleAddress
  if changedBlocks = 0 then
    (outstation, .sent [(formattedBytes false header.getStationAddress DIGITAL_NO_CHANGE_REPLY
      (BitVec.ofNat 8 header.getModuleAddress) (BitVec.ofNat 8 header.getChannels)).setFlags
        outstation.flags.RSF outstation.flags.HRP outstation.flags.DCP])
  else if changedBlocks ≠ numberOfDataBlocks then
    outstation.sendModules header (formatted header.getStationAddress false DIGITAL_DELTA_SCAN
      header.getModuleAddress changedBlocks) false
  else outstation.doDigitalUnconditionalObs header

/-- Take over what a handler of the event queue answers. -/
def withHRER (answer : HREROutstation × MD3Message) : MD3Outstation × MD3Reaction :=
  ({ outstation with toHREROutstation := answer.1 }, .sent answer.2)

def withDigital (answer : DigitalOutstation × MD3Message) : MD3Outstation × MD3Reaction :=
  outstation.withHRER (outstation.toHREROutstation.withDigital answer.1, answer.2)

def doFreezeResetCounters : MD3Outstation × MD3Reaction :=
  (outstation,
    if header.getStationAddress = 0 then .nothing
    else if header.isFreezeValid then .sent (sendControlOK header)
    else outstation.sendControlOrScanRejected header)

/-- The second block is read after its number was found wrong, too. -/
def doPOMControl : Option (MD3Outstation × MD3Reaction) := do
  let _second ← completeMD3Message[1]?
  return (outstation, .control (outstation.controls.doPOMControl outstation.failControlResponse
    header completeMD3Message))

def doDOMControl : Option (MD3Outstation × MD3Reaction) := do
  let _second ← completeMD3Message[1]?
  return (outstation, .control (outstation.controls.doDOMControl outstation.failControlResponse
    header completeMD3Message))

def doInputPointControl : Option (MD3Outstation × MD3Reaction) := do
  let _second ← completeMD3Message[1]?
  if completeMD3Message.length = 3 then
    let _third ← completeMD3Message[2]?
  return (outstation, .control (outstation.controls.doInputPointControl
    outstation.failControlResponse header completeMD3Message))

/-- An analog output is not refused for a test. -/
def doAOMControl : Option (MD3Outstation × MD3Reaction) := do
  let second ← completeMD3Message[1]?
  let index := outstation.controls.getAnalogControlODCIndexUsingMD3Index header.getModuleAddress
    header.getChannel
  let action : ControlAction :=
    if header.getStationAddress = 0 then .ignored
    else if completeMD3Message.length ≠ 2 ∨ header.verifyAomSecondBlock second = false then
      .rejected
    else
      match index with
      | none => .rejected
      | some index =>
        .performed (.analogOutputInt16 index (getOutputFromAomSecondBlock second).toNat)
  return (outstation, .control action)

def doSystemSignOnControl : MD3Outstation × MD3Reaction :=
  (outstation,
    if header.isSignOnValid then .sent [MD3BlockFn40StoM outstation.outstationAddr] else .nothing)

/-- Milliseconds as minutes, rounded. -/
def roundedMinutes (msec : Nat) : Nat := (msec + 30000) / 60000

def timePacketReceived : MD3Outstation :=
  if outstation.STI then { outstation with STI := false, RSF := true } else outstation

/-- Take over the difference to the clock; one of more than a day is refused. -/
def setTime (currenttime : Nat) (timedateblock : MD3BlockData) : MD3Outstation × MD3Reaction :=
  let msecsinceepoch := timedateblock.data.toNat * 1000 + header.getMilliseconds
  let soeTimeOffsetMinutes : Int :=
    if msecsinceepoch < currenttime then -(roundedMinutes (currenttime - msecsinceepoch) : Int)
    else roundedMinutes (msecsinceepoch - currenttime)
  let outstation := { outstation with soeTimeOffsetMinutes }
  if 24 * 60 < soeTimeOffsetMinutes.natAbs then
    (outstation, outstation.sendControlOrScanRejected header)
  else
    (outstation.timePacketReceived,
      if header.getStationAddress = 0 then .nothing else .sent (sendControlOK header))

/-- The number of blocks is looked at only when one station is addressed. -/
def doSetDateTime (currenttime : Nat) : Option (MD3Outstation × MD3Reaction) :=
  if completeMD3Message.length ≠ 2 ∧ header.getStationAddress ≠ 0 then
    some (outstation, outstation.sendControlOrScanRejected header)
  else do
    let timedateblock ← completeMD3Message[1]?
    return outstation.setTime header currenttime timedateblock

/-- The offset to the local time is read and logged. -/
def doSetDateTimeNew (currenttime : Nat) : Option (MD3Outstation × MD3Reaction) :=
  if completeMD3Message.length ≠ 3 ∧ header.getStationAddress ≠ 0 then
    some (outstation, outstation.sendControlOrScanRejected header)
  else do
    let timedateblock ← completeMD3Message[1]?
    let _utcoffsetblock ← completeMD3Message[2]?
    return outstation.setTime header currenttime timedateblock

def flagScanPacketSent : MD3Outstation :=
  if outstation.SPU then { outstation with SPU := false, RSF := true }
  else { outstation with RSF := false }

def doSystemFlagScan : MD3Outstation × MD3Reaction :=
  if completeMD3Message.length ≠ 1 then
    (outstation, outstation.sendControlOrScanRejected header)
  else
    (outstation.flagScanPacketSent,
      .sent [(MD3BlockFn52StoM header).setSystemFlags outstation.SPU outstation.STI])

/-- A request by its function. Functions that are not implemented, and unknown ones, come to
nothing. -/
def processRequest (currenttime : Nat) : Option (MD3Outstation × MD3Reaction) :=
  let code := header.getFunctionCode
  let size := completeMD3Message.length
  if code = ANALOG_UNCONDITIONAL then outstation.doAnalogUnconditional header
  else if code = ANALOG_DELTA_SCAN then outstation.doAnalogDeltaScan header
  else if code = DIGITAL_UNCONDITIONAL_OBS then some (outstation.doDigitalUnconditionalObs header)
  else if code = DIGITAL_DELTA_SCAN then some (outstation.doDigitalChangeOnly header)
  else if code = HRER_LIST_SCAN then
    if size = 1 ∨ size = 2 then
      (outstation.toHREROutstation.doDigitalHRERReading header).map outstation.withHRER
    else some (outstation, .nothing)
  else if code = DIGITAL_CHANGE_OF_STATE then
    some (outstation.withDigital (outstation.toDigitalOutstation.doDigitalCOSScan header))
  else if code = DIGITAL_CHANGE_OF_STATE_TIME_TAGGED then
    (outstation.toDigitalOutstation.doDigitalScanReading header).map outstation.withDigital
  else if code = DIGITAL_UNCONDITIONAL then
    some (outstation.withDigital (outstation.toDigitalOutstation.doDigitalUnconditional header))
  else if code = FREEZE_AND_RESET then some (outstation.doFreezeResetCounters header)
  else if code = POM_TYPE_CONTROL then outstation.doPOMControl header completeMD3Message
  else if code = DOM_TYPE_CONTROL then outstation.doDOMControl header completeMD3Message
  else if code = INPUT_POINT_CONTROL then
    if size = 2 ∨ size = 3 then outstation.doInputPointControl header completeMD3Message
    else some (outstation, .nothing)
  else if code = AOM_TYPE_CONTROL then outstation.doAOMControl header completeMD3Message
  else if code = COUNTER_SCAN then outstation.doCounterScan header
  else if code = SYSTEM_SIGNON_CONTROL then some (outstation.doSystemSignOnControl header)
  else if code = SYSTEM_SET_DATETIME_CONTROL then
    outstation.doSetDateTime header completeMD3Message currenttime
  else if code = SYSTEM_SET_DATETIME_CONTROL_NEW then
    outstation.doSetDateTimeNew header completeMD3Message currenttime
  else if code = SYSTEM_FLAG_SCAN then
    some (outstation.doSystemFlagScan header completeMD3Message)
  else some (outstation, .nothing)

def processMD3Message_ (currenttime : Nat) : Option (MD3Outstation × MD3Reaction) :=
  if outstation.enabled = false then some (outstation, .nothing)
  else do
    let header ← completeMD3Message[0]?
    if header.isMasterToStationMessage = false then return (outstation, .nothing)
    else outstation.processRequest header completeMD3Message currenttime

/-! ## Answers to analog scans -/

theorem length_readSlots (slots : List Slot) (reading : AnalogReading) :
    (slots.foldl AnalogReading.read reading).analogValues.length =
        reading.analogValues.length + slots.length ∧
      (slots.foldl AnalogReading.read reading).analogDeltaValues.length =
        reading.analogDeltaValues.length + slots.length := by
  induction slots generalizing reading with
  | nil => exact ⟨rfl, rfl⟩
  | cons slot rest ih =>
      obtain ⟨values, deltas⟩ := ih (reading.read slot)
      rw [List.foldl_cons, values, deltas, AnalogReading.read, List.length_append,
        List.length_append, List.length_singleton, List.length_singleton, List.length_cons]
      omega

/-- A range is read with a value and a difference for every channel. -/
theorem length_readRange (moduleAddress channels : Nat) (table : AnalogTable) :
    (readAnalogOrCounterRange moduleAddress channels { table }).analogValues.length = channels ∧
      (readAnalogOrCounterRange moduleAddress channels { table }).analogDeltaValues.length =
        channels := by
  have lengths := length_readSlots (table.rangeSlots moduleAddress channels) { table }
  rw [AnalogReading.readAnalogOrCounterRange_eq]
  simpa only [AnalogTable.length_rangeSlots, List.length_nil, Nat.zero_add] using lengths

theorem scanUnconditional_eq (functioncode : Nat) :
    outstation.scanUnconditional header functioncode =
      some ({ outstation with
          analogs := (MD3Port.doAnalogUnconditional outstation.analogs outstation.flags header).1 },
        .sent (sendAnalogOrCounterUnconditional outstation.flags header functioncode
          (readAnalogOrCounterRange header.getModuleAddress header.getChannels
            { table := outstation.analogs }).analogValues)) := by
  have blocks := readAnalogBlocks_eq (readAnalogOrCounterRange header.getModuleAddress
    header.getChannels { table := outstation.analogs }).analogValues
  rw [(length_readRange _ _ _).1] at blocks
  rw [scanUnconditional, blocks]
  rfl

/-- **The analog scan for changes is the one that is modelled without indexes.** -/
theorem doAnalogDeltaScan_eq :
    outstation.doAnalogDeltaScan header =
      let answer := MD3Port.doAnalogDeltaScan outstation.analogs outstation.flags header
      some ({ outstation with analogs := answer.1 }, .sent answer.2) := by
  have lengths := length_readRange header.getModuleAddress header.getChannels outstation.analogs
  have blocks := readAnalogBlocks_eq (readAnalogOrCounterRange header.getModuleAddress
    header.getChannels { table := outstation.analogs }).analogValues
  have deltas := readDeltaBlocks_eq (readAnalogOrCounterRange header.getModuleAddress
    header.getChannels { table := outstation.analogs }).analogDeltaValues
  rw [lengths.1] at blocks
  rw [lengths.2] at deltas
  rw [doAnalogDeltaScan, MD3Port.doAnalogDeltaScan, blocks, deltas]
  dsimp only
  cases (readAnalogOrCounterRange header.getModuleAddress header.getChannels
    { table := outstation.analogs }).responseType with
  | noChange => rfl
  | deltaChange => rfl
  | allChange => rfl

/-! ## Which blocks are read -/

/-- The number of blocks up to the last one that is read. -/
def blocksRead (header : MD3BlockData) : Nat :=
  let code := header.getFunctionCode
  if code = POM_TYPE_CONTROL ∨ code = DOM_TYPE_CONTROL ∨ code = AOM_TYPE_CONTROL then 2
  else if header.getStationAddress = 0 ∧ code = SYSTEM_SET_DATETIME_CONTROL then 2
  else if header.getStationAddress = 0 ∧ code = SYSTEM_SET_DATETIME_CONTROL_NEW then 3
  else 1

variable {outstation header completeMD3Message}

theorem doPOMControl_isSome_iff :
    (outstation.doPOMControl header completeMD3Message).isSome = true ↔
      2 ≤ completeMD3Message.length :=
  isSome_read_bind fun _ => rfl

theorem doDOMControl_isSome_iff :
    (outstation.doDOMControl header completeMD3Message).isSome = true ↔
      2 ≤ completeMD3Message.length :=
  isSome_read_bind fun _ => rfl

theorem doAOMControl_isSome_iff :
    (outstation.doAOMControl header completeMD3Message).isSome = true ↔
      2 ≤ completeMD3Message.length :=
  isSome_read_bind fun _ => rfl

/-- The caller has made sure that there are two blocks or three. -/
theorem doInputPointControl_isSome
    (size : completeMD3Message.length = 2 ∨ completeMD3Message.length = 3) :
    (outstation.doInputPointControl header completeMD3Message).isSome = true := by
  rw [doInputPointControl, List.getElem?_eq_getElem (by omega)]
  dsimp only [Option.bind_eq_bind, Option.bind_some]
  split
  · next three =>
      rw [List.getElem?_eq_getElem (by omega)]
      rfl
  · rfl

theorem doSetDateTime_isSome_iff {currenttime : Nat} (one : 1 ≤ completeMD3Message.length) :
    (outstation.doSetDateTime header completeMD3Message currenttime).isSome = true ↔
      (header.getStationAddress = 0 → 2 ≤ completeMD3Message.length) := by
  rw [doSetDateTime]
  split
  · next refused => exact iff_of_true rfl fun all => absurd all refused.2
  · next read =>
      rw [isSome_read_bind fun _ => rfl]
      omega

theorem doSetDateTimeNew_isSome_iff {currenttime : Nat} (one : 1 ≤ completeMD3Message.length) :
    (outstation.doSetDateTimeNew header completeMD3Message currenttime).isSome = true ↔
      (header.getStationAddress = 0 → 3 ≤ completeMD3Message.length) := by
  rw [doSetDateTimeNew]
  split
  · next refused => exact iff_of_true rfl fun all => absurd all refused.2
  · next read =>
      rcases Nat.lt_or_ge 1 completeMD3Message.length with two | short
      · have third : ((completeMD3Message[2]? >>= fun _ => some (outstation.setTime header
            currenttime completeMD3Message[1])).isSome = true) ↔ _ :=
          isSome_read_bind fun _ => rfl
        rw [List.getElem?_eq_getElem two]
        exact third.trans (by omega)
      · rw [List.getElem?_eq_none short]
        exact iff_of_false Bool.false_ne_true (by omega)

/-- The functions whose handlers read the header only, or no more blocks than were counted. -/
theorem processRequest_isSome_of_other {currenttime : Nat}
    (notPOM : header.getFunctionCode ≠ POM_TYPE_CONTROL)
    (notDOM : header.getFunctionCode ≠ DOM_TYPE_CONTROL)
    (notAOM : header.getFunctionCode ≠ AOM_TYPE_CONTROL)
    (notTime : header.getFunctionCode ≠ SYSTEM_SET_DATETIME_CONTROL)
    (notTimeNew : header.getFunctionCode ≠ SYSTEM_SET_DATETIME_CONTROL_NEW) :
    (outstation.processRequest header completeMD3Message currenttime).isSome = true := by
  have analog : ∀ functioncode, (outstation.scanUnconditional header functioncode).isSome = true :=
    fun functioncode => by rw [scanUnconditional_eq, Option.isSome_some]
  have delta : (outstation.doAnalogDeltaScan header).isSome = true := by
    rw [doAnalogDeltaScan_eq, Option.isSome_some]
  have list : ((outstation.toHREROutstation.doDigitalHRERReading header).map
      outstation.withHRER).isSome = true := by
    rw [HREROutstation.doDigitalHRERReading_eq, Option.isSome_map, Option.isSome_some]
  have scan : ((outstation.toDigitalOutstation.doDigitalScanReading header).map
      outstation.withDigital).isSome = true := by
    rw [DigitalOutstation.doDigitalScanReading_eq, Option.isSome_map, Option.isSome_some]
  refine isSome_ite (fun _ => analog _) fun _ => ?_
  refine isSome_ite (fun _ => delta) fun _ => ?_
  refine isSome_ite (fun _ => rfl) fun _ => ?_
  refine isSome_ite (fun _ => rfl) fun _ => ?_
  refine isSome_ite (fun _ => isSome_ite (fun _ => list) fun _ => rfl) fun _ => ?_
  refine isSome_ite (fun _ => rfl) fun _ => ?_
  refine isSome_ite (fun _ => scan) fun _ => ?_
  refine isSome_ite (fun _ => rfl) fun _ => ?_
  refine isSome_ite (fun _ => rfl) fun _ => ?_
  refine isSome_ite (fun same => absurd same notPOM) fun _ => ?_
  refine isSome_ite (fun same => absurd same notDOM) fun _ => ?_
  refine isSome_ite (fun _ => isSome_ite doInputPointControl_isSome fun _ => rfl) fun _ => ?_
  refine isSome_ite (fun same => absurd same notAOM) fun _ => ?_
  refine isSome_ite (fun _ => analog _) fun _ => ?_
  refine isSome_ite (fun _ => rfl) fun _ => ?_
  refine isSome_ite (fun same => absurd same notTime) fun _ => ?_
  refine isSome_ite (fun same => absurd same notTimeNew) fun _ => ?_
  exact isSome_ite (fun _ => rfl) fun _ => rfl

theorem blocksRead_control (control : header.getFunctionCode = POM_TYPE_CONTROL ∨
    header.getFunctionCode = DOM_TYPE_CONTROL ∨ header.getFunctionCode = AOM_TYPE_CONTROL) :
    blocksRead header = 2 := by
  rw [blocksRead, if_pos control]

/-- A time is read up to its last block when all stations are addressed. -/
theorem blocksRead_time_le {size : Nat} (one : 1 ≤ size) :
    (header.getFunctionCode = SYSTEM_SET_DATETIME_CONTROL →
      (blocksRead header ≤ size ↔ (header.getStationAddress = 0 → 2 ≤ size))) ∧
    (header.getFunctionCode = SYSTEM_SET_DATETIME_CONTROL_NEW →
      (blocksRead header ≤ size ↔ (header.getStationAddress = 0 → 3 ≤ size))) := by
  constructor
  · intro time
    by_cases all : header.getStationAddress = 0
    · simp [blocksRead, time, all, SYSTEM_SET_DATETIME_CONTROL, POM_TYPE_CONTROL,
        DOM_TYPE_CONTROL, AOM_TYPE_CONTROL]
    · simpa [blocksRead, time, all, SYSTEM_SET_DATETIME_CONTROL, POM_TYPE_CONTROL,
        DOM_TYPE_CONTROL, AOM_TYPE_CONTROL] using one
  · intro timeNew
    by_cases all : header.getStationAddress = 0
    · simp [blocksRead, timeNew, all, SYSTEM_SET_DATETIME_CONTROL_NEW,
        SYSTEM_SET_DATETIME_CONTROL, POM_TYPE_CONTROL, DOM_TYPE_CONTROL, AOM_TYPE_CONTROL]
    · simpa [blocksRead, timeNew, all, SYSTEM_SET_DATETIME_CONTROL_NEW,
        SYSTEM_SET_DATETIME_CONTROL, POM_TYPE_CONTROL, DOM_TYPE_CONTROL, AOM_TYPE_CONTROL] using one

theorem processRequest_isSome_iff {currenttime : Nat} (one : 1 ≤ completeMD3Message.length) :
    (outstation.processRequest header completeMD3Message currenttime).isSome = true ↔
      blocksRead header ≤ completeMD3Message.length := by
  by_cases pom : header.getFunctionCode = POM_TYPE_CONTROL
  · rw [blocksRead_control (.inl pom), processRequest, pom]
    exact doPOMControl_isSome_iff
  by_cases dom : header.getFunctionCode = DOM_TYPE_CONTROL
  · rw [blocksRead_control (.inr (.inl dom)), processRequest, dom]
    exact doDOMControl_isSome_iff
  by_cases aom : header.getFunctionCode = AOM_TYPE_CONTROL
  · rw [blocksRead_control (.inr (.inr aom)), processRequest, aom]
    exact doAOMControl_isSome_iff
  by_cases time : header.getFunctionCode = SYSTEM_SET_DATETIME_CONTROL
  · rw [(blocksRead_time_le one).1 time, processRequest, time]
    exact doSetDateTime_isSome_iff one
  by_cases timeNew : header.getFunctionCode = SYSTEM_SET_DATETIME_CONTROL_NEW
  · rw [(blocksRead_time_le one).2 timeNew, processRequest, timeNew]
    exact doSetDateTimeNew_isSome_iff one
  have first : blocksRead header = 1 := by
    simp only [blocksRead, pom, dom, aom, time, timeNew, or_self, and_false, if_false]
  rw [first]
  exact iff_of_true (processRequest_isSome_of_other pom dom aom time timeNew) one

/-- **A request is read without a read past its end exactly when it has the blocks that are
read**, or is not looked at. -/
theorem processMD3Message_isSome_iff (outstation : MD3Outstation) (currenttime : Nat)
    (header : MD3BlockData) (blocks : MD3Message) :
    (outstation.processMD3Message_ (header :: blocks) currenttime).isSome = true ↔
      (outstation.enabled = true → header.isMasterToStationMessage = true →
        blocksRead header ≤ (header :: blocks).length) := by
  rw [processMD3Message_]
  cases outstation.enabled with
  | false => exact iff_of_true rfl fun enabled => absurd enabled Bool.false_ne_true
  | true =>
      cases request : header.isMasterToStationMessage with
      | false =>
          refine iff_of_true ?_ fun _ fromMaster => absurd fromMaster Bool.false_ne_true
          simp [request]
      | true => simp [request, processRequest_isSome_iff]

end MD3Outstation

end OpenDataCon.MD3Port
