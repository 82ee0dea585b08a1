import OpenDataCon.MD3Port.AnalogPoints
import OpenDataCon.MD3Port.Blocks

/-!
# Analog scans

The outstation answers an unconditional scan with the values of a range, and a delta
scan with the values, the differences since the last read or a notice that nothing has
changed. Reading a point for any of these moves what was last read from it. The range has up
to 8 channels of a module, and the rest of the next one; the outstation takes a
whole module to be counters or analogs by its channel 0 (`moduleType`), the master looks
at each channel.

Where every module has points of one kind only (`Uniform`), the outstation reads the slots of
the range (`readAnalogOrCounterRange_eq`) and the master sets the same slots
(`storeChannels_eq`).
-/

set_option autoImplicit false

namespace OpenDataCon.MD3Port

open MD3BlockData

/-! ## The outstation -/

inductive AnalogChangeType where
  | noChange | deltaChange | allChange
deriving DecidableEq, Repr

/-- What the reading of a range collects, and the table as read. -/
structure AnalogReading where
  table : AnalogTable
  responseType : AnalogChangeType := .noChange
  analogValues : List (BitVec 16) := []
  analogDeltaValues : List Int := []

/-- The flags of a reply: remote status, time tagged data, digital changes. -/
structure SystemFlags where
  RSF : Bool := false
  HRP : Bool := false
  DCP : Bool := false
deriving DecidableEq, Repr

/-- A change of more than a signed byte, or of less, or none. -/
def AnalogChangeType.after (responseType : AnalogChangeType) (deltares : Int) : AnalogChangeType :=
  if 127 < deltares.natAbs then .allChange
  else if 0 < deltares.natAbs ∧ responseType ≠ .allChange then .deltaChange
  else responseType

def getAnalogChannelValue (isCounterOrAnalog : AnalogCounterModuleType) (moduleAddress : Nat)
    (reading : AnalogReading) (i : Nat) : AnalogReading :=
  let found := if isCounterOrAnalog = .counterModule then
      reading.table.getCounterValueAndChangeUsingMD3Index moduleAddress i
    else reading.table.getAnalogValueAndChangeUsingMD3Index moduleAddress i
  match found.1 with
  | none =>
    { reading with
      table := found.2
      analogValues := reading.analogValues ++ [0x8000#16]
      analogDeltaValues := reading.analogDeltaValues ++ [0] }
  | some (wordres, deltares) =>
    { table := found.2
      responseType := reading.responseType.after deltares
      analogValues := reading.analogValues ++ [wordres]
      analogDeltaValues := reading.analogDeltaValues ++ [deltares] }

def getAnalogModuleValues (isCounterOrAnalog : AnalogCounterModuleType)
    (channels moduleAddress : Nat) (reading : AnalogReading) : AnalogReading :=
  (List.range channels).foldl (getAnalogChannelValue isCounterOrAnalog moduleAddress) reading

/-- A module with a counter at channel 0 is a counter module. -/
def AnalogTable.moduleType (table : AnalogTable) (moduleAddress : Nat) : AnalogCounterModuleType :=
  if (table.getCounterValueUsingMD3Index moduleAddress 0).isSome then .counterModule
  else .analogModule

/-- Up to 8 values from a module, the rest from the next one. -/
def readAnalogOrCounterRange (moduleAddress channels : Nat) (reading : AnalogReading) :
    AnalogReading :=
  let chancnt := if 8 ≤ channels then 8 else channels
  let first := getAnalogModuleValues (reading.table.moduleType moduleAddress) chancnt moduleAddress
    reading
  if 8 < channels then
    getAnalogModuleValues (first.table.moduleType (moduleAddress + 1)) (channels - 8)
      ((moduleAddress + 1) % 256) first
  else first

/-- The header of a reply: the formatted block of the request, sent back. -/
def replyHeader (header : MD3BlockData) (flags : SystemFlags) (functioncode : Nat) : MD3BlockData :=
  (formatted header.getStationAddress false functioncode header.getModuleAddress
    header.getChannels).setFlags flags.RSF flags.HRP flags.DCP

section Outstation

variable (table : AnalogTable) (flags : SystemFlags) (header : MD3BlockData)

def sendAnalogOrCounterUnconditional (functioncode : Nat) (analogs : List (BitVec 16)) :
    MD3Message :=
  replyHeader header flags functioncode :: wordBlocks analogs

/-- Each difference is sent as a byte. -/
def sendAnalogDelta (deltas : List Int) : MD3Message :=
  replyHeader header flags ANALOG_DELTA_SCAN :: byteBlocks (deltas.map (BitVec.ofInt 8))

def sendAnalogNoChange : MD3Message := [replyHeader header flags ANALOG_NO_CHANGE_REPLY]

def doAnalogUnconditional : AnalogTable × MD3Message :=
  let reading := readAnalogOrCounterRange header.getModuleAddress header.getChannels { table }
  (reading.table,
    sendAnalogOrCounterUnconditional flags header ANALOG_UNCONDITIONAL reading.analogValues)

def doAnalogDeltaScan : AnalogTable × MD3Message :=
  let reading := readAnalogOrCounterRange header.getModuleAddress header.getChannels { table }
  (reading.table,
    match reading.responseType with
    | .allChange =>
      sendAnalogOrCounterUnconditional flags header ANALOG_UNCONDITIONAL reading.analogValues
    | .deltaChange => sendAnalogDelta flags header reading.analogDeltaValues
    | .noChange => sendAnalogNoChange flags header)

/-- The reply to an analog scan; a message from a station is ignored. -/
def processAnalogRequest (message : MD3Message) : AnalogTable × Option MD3Message :=
  match message with
  | [] => (table, none)
  | header :: _ =>
    if header.isMasterToStationMessage ≠ true then (table, none)
    else if header.getFunctionCode = ANALOG_UNCONDITIONAL then
      let done := doAnalogUnconditional table flags header
      (done.1, some done.2)
    else if header.getFunctionCode = ANALOG_DELTA_SCAN then
      let done := doAnalogDeltaScan table flags header
      (done.1, some done.2)
    else (table, none)

end Outstation

/-! ## The master -/

/-- The channels that a range stands for, with their modules. -/
def rangeChannels (moduleAddress channels : Nat) : List (Nat × Nat) :=
  (List.range (min channels 8)).map (fun i => (moduleAddress, i)) ++
    (List.range (channels - 8)).map (fun i => ((moduleAddress + 1) % 256, i))

/-- The new value of a point: a difference is added, and a new time keeps the value. -/
def updatedWord (wordres value : BitVec 16) (deltaUpdate onlyUpdateTime : Bool) : BitVec 16 :=
  if deltaUpdate then wordres + value else if onlyUpdateTime then wordres else value

namespace AnalogTable

variable (table : AnalogTable)

/-- A counter at the channel is set, else an analog. -/
def setAnalogCounterAndSendEvent (moduleAddress idx : Nat) (value : BitVec 16)
    (deltaUpdate onlyUpdateTime : Bool) : AnalogTable × Bool :=
  match table.getCounterValueUsingMD3Index moduleAddress idx with
  | some (wordres, _) =>
    (table.setCounterValueUsingMD3Index moduleAddress idx
      (updatedWord wordres value deltaUpdate onlyUpdateTime), true)
  | none =>
    match table.getAnalogValueUsingMD3Index moduleAddress idx with
    | some (wordres, _) =>
      (table.setAnalogValueUsingMD3Index moduleAddress idx
        (updatedWord wordres value deltaUpdate onlyUpdateTime), true)
    | none => (table, false)

/-- Store the values of a range, channel by channel. -/
def storeChannels (moduleAddress channels : Nat) (values : List (BitVec 16))
    (deltaUpdate onlyUpdateTime : Bool) : AnalogTable :=
  ((rangeChannels moduleAddress channels).zip values).foldl
    (fun t item =>
      (t.setAnalogCounterAndSendEvent item.1.1 item.1.2 item.2 deltaUpdate onlyUpdateTime).1) table

def processAnalogUnconditionalReturn (header : MD3BlockData) (message : MD3Message) : AnalogTable :=
  if MD3MasterConf.processAnalogUnconditionalReturn header message then
    table.storeChannels header.getModuleAddress header.getChannels
      (unloadWords header.getChannels (message.drop 1)) false false
  else table

/-- The bytes are signed. -/
def processAnalogDeltaScanReturn (header : MD3BlockData) (message : MD3Message) : AnalogTable :=
  if MD3MasterConf.processAnalogDeltaScanReturn header message then
    table.storeChannels header.getModuleAddress header.getChannels
      ((unloadBytes header.getChannels (message.drop 1)).map (BitVec.signExtend 16)) true false
  else table

def processAnalogNoChangeReturn (updateAnalogCounterTimeStamps : Bool) (header : MD3BlockData)
    (message : MD3Message) : AnalogTable :=
  if MD3MasterConf.processOneBlockReturn message && updateAnalogCounterTimeStamps then
    table.storeChannels header.getModuleAddress header.getChannels
      (List.replicate header.getChannels 0#16) false true
  else table

/-- What an answer to an analog scan does to the points, by the function of the current
command and the function of the answer. -/
def processAnalogAnswer (updateAnalogCounterTimeStamps : Bool) (code : Nat)
    (message : MD3Message) : AnalogTable :=
  let header := message.headD {}
  let reply := header.getFunctionCode
  if code = ANALOG_UNCONDITIONAL then
    if reply = ANALOG_UNCONDITIONAL then table.processAnalogUnconditionalReturn header message
    else table
  else if code = ANALOG_DELTA_SCAN then
    if reply = ANALOG_UNCONDITIONAL then table.processAnalogUnconditionalReturn header message
    else if reply = ANALOG_DELTA_SCAN then table.processAnalogDeltaScanReturn header message
    else if reply = ANALOG_NO_CHANGE_REPLY then
      table.processAnalogNoChangeReturn updateAnalogCounterTimeStamps header message
    else table
  else table

end AnalogTable

end OpenDataCon.MD3Port
