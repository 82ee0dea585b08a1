import OpenDataCon.CBPort.PointTable
import OpenDataCon.CBPort.SOEPack
import OpenDataCon.CBPort.SOEPayload

/-!
# The outstation

The outstation answers one message after the other, from its strand. It reads
its points for a scan, keeps one pending command for every group between a
select and an execute, keeps the last messages it sent so that they can be
repeated, and collects events of its points for the master.

Every handler returns the outstation after it and what it puts out: messages on
the connection, and control events for the other ports. The time of a message is
an argument. The switches that flip bits of a message or drop it at random are
not here: what is put out is what the connection is given.
-/

set_option autoImplicit false

namespace OpenDataCon.CBPort

open Runs

/-! ## State -/

inductive CommandType where
  | None | Trip | Close | SetA | SetB
deriving DecidableEq, Repr

structure PendingCommandType where
  command : CommandType := .None
  data : BitVec 16 := 0#16
  expiryTime : Nat := 0
deriving DecidableEq, Repr

/-- A pending command is valid for 30 seconds. -/
def CommandValidTimemsec : Nat := 30000

structure OutstationSystemFlags where
  startUp : Bool := true
  controlIsolate : Bool := false
deriving DecidableEq, Repr

structure CBOutstationConf where
  isBakerDevice : Bool := false
  standAloneOutstation : Bool := false
  overrideOldTimeStamps : Bool := false
deriving DecidableEq, Repr

structure CBOutstation where
  enabled : Bool := true
  pointTable : PointTable := {}
  systemFlags : OutstationSystemFlags := {}
  clock : SOEClock := {}
  failControlResponse : Bool := false
  lastSentCBMessage : CBMessage := []
  lastSentSOEMessage : CBMessage := []
  pendingCommands : Nat → PendingCommandType := fun _ => {}

/-- A control that the outstation asks other ports to carry out: a binary output
is latched on or off, an analog output is set. -/
inductive ControlEvent where
  | controlRelayOutputBlock (index : Nat) (latchOn : Bool)
  | analogOutputInt16 (index : Nat) (value : BitVec 16)
deriving DecidableEq, Repr

/-- What the outstation puts out. A published event carries the header of the
execute that waits for its result. -/
inductive OutstationOutput where
  | send (message : CBMessage)
  | publish (group : Nat) (event : ControlEvent) (callback : Option CBBlockData)
deriving DecidableEq, Repr

/-- The messages among what the outstation puts out. -/
def sentMessages (outputs : List OutstationOutput) : List CBMessage :=
  outputs.filterMap fun output =>
    match output with
    | .send message => some message
    | .publish .. => none

inductive ControlStatus where
  | SUCCESS | TIMEOUT | NO_SELECT | UNDEFINED
deriving DecidableEq, Repr

/-- The bits set among the lowest ones. -/
def getBitsSet (data : BitVec 16) (numberofbits : Nat) : Nat :=
  (List.range numberofbits).countP fun i => data.getLsbD i

/-- The place of the lowest set bit, counted from the top, or -1. -/
def getSetBit (data : BitVec 16) (numberofbits : Nat) : Int :=
  match (List.range numberofbits).find? fun i => data.getLsbD i with
  | some i => (numberofbits : Int) - i - 1
  | none => -1

namespace CBOutstation

/-- The results of two steps, one after the other. -/
def andThen (first : CBOutstation × List OutstationOutput)
    (second : CBOutstation → CBOutstation × List OutstationOutput) :
    CBOutstation × List OutstationOutput :=
  ((second first.1).1, first.2 ++ (second first.1).2)

/-- An empty message is not sent. -/
def sendCBMessage (outstation : CBOutstation) (message : CBMessage) :
    CBOutstation × List OutstationOutput :=
  ({ outstation with
      lastSentCBMessage := if message.isEmpty then outstation.lastSentCBMessage else message },
    if message.isEmpty then [] else [.send message])

@[simp] theorem sendCBMessage_pendingCommands (outstation : CBOutstation)
    (message : CBMessage) :
    (outstation.sendCBMessage message).1.pendingCommands = outstation.pendingCommands := rfl

@[simp] theorem sendCBMessage_pointTable (outstation : CBOutstation) (message : CBMessage) :
    (outstation.sendCBMessage message).1.pointTable = outstation.pointTable := rfl

/-- The header of an answer of one block. -/
def answerBlock (header : CBBlockData) (bData : BitVec 16) : CBBlockData :=
  .addressBlock header.getStationAddress header.getGroup header.getFunctionCode bData true

def echoReceivedHeaderToMaster (outstation : CBOutstation) (header : CBBlockData) :
    CBOutstation × List OutstationOutput :=
  outstation.sendCBMessage [answerBlock header 0#16]

/-! ## Scans -/

/-- The status word: four bits are replaced by the flags of the system. Reading
the overflow flag clears it, and the start-up flag is told once. -/
def getStatusPayload (outstation : CBOutstation) (payload : BitVec 16) :
    CBOutstation × BitVec 16 :=
  let flags := outstation.systemFlags
  let cleared := payload &&& ~~~(0x0C3#16)
  let isolated := if flags.controlIsolate then cleared ||| (1#16 <<< 7) else cleared
  let started := if flags.startUp then isolated ||| (1#16 <<< 6) else isolated
  let overflowed :=
    if outstation.pointTable.soe.soeBufferOverflowFlag then started ||| (1#16 <<< 1) else started
  let available :=
    if outstation.pointTable.soe.timeTaggedDataAvailable then overflowed ||| 1#16 else overflowed
  ({ outstation with
      systemFlags := { flags with startUp := false }
      pointTable :=
        { outstation.pointTable with
          soe := { outstation.pointTable.soe with soeBufferOverflowFlag := false } } },
    available)

/-- An analog value on the wire. The six-bit values are inverted, and that of
channel 1 is the upper one. -/
def analogPayload (point : CBAnalogCounterPoint) : BitVec 16 :=
  let value := BitVec.ofNat 16 point.analog
  if point.pointType = .ANA6 then
    let value := (63#16 - value) &&& 0x03F#16
    if point.channel = 1 then value <<< 6 else value
  else value

/-- The bit of a binary input, from the right. -/
def digitalShift (isBakerDevice : Bool) (channel : Nat) : Nat :=
  if isBakerDevice then channel - 1 else 12 - channel

/-- The bits of the value and of the change mark of a momentary contact. -/
def momentaryShifts (isBakerDevice : Bool) (channel : Nat) : Nat × Nat :=
  if isBakerDevice then (1 + (channel - 1) * 2, (channel - 1) * 2)
  else (10 - (channel - 1) * 2, 11 - (channel - 1) * 2)

/-- A binary value on the wire. A momentary contact is read with its change mark,
which is thereby reset. -/
def binaryPayload (isBakerDevice : Bool) (point : CBBinaryPoint) : CBBinaryPoint × BitVec 16 :=
  match point.pointType with
  | .DIG =>
    (point, if point.binary then 1#16 <<< digitalShift isBakerDevice point.channel else 0#16)
  | .MCA | .MCB | .MCC =>
    let (point, binary, mcs) := point.getBinaryAndMCFlagWithFlagReset
    let result := if point.pointType = .MCA then !binary else binary
    let (value, change) := momentaryShifts isBakerDevice point.channel
    (point, (if result then 1#16 <<< value else 0#16) ||| if mcs then 1#16 <<< change else 0#16)
  | .BINCONTROL => (point, 0#16)

/-- One turn of the loop over the binary points of a place. -/
def readBinaryPoint (isBakerDevice : Bool) (state : PointTable × BitVec 16) (index : Nat) :
    PointTable × BitVec 16 :=
  let (table, payload) := state
  let point := (table.binary.odcPointMap index).getD default
  ({ table with binary := table.binary.modify index fun point =>
      (binaryPayload isBakerDevice point).1 },
    payload ||| (binaryPayload isBakerDevice point).2)

/-- The word of a place: of its analogs, else of its counter, else of its binary points. -/
def readPoints (isBakerDevice : Bool) (table : PointTable) (group : Nat)
    (payloadLocation : PayloadLocationType) : PointTable × BitVec 16 :=
  let analogs := table.matchingAnalogPoints group payloadLocation
  if analogs ≠ [] then
    (table, analogs.foldl (fun payload index =>
      payload ||| analogPayload ((table.analog.odcPointMap index).getD default)) 0#16)
  else
    match table.matchingCounterPoint group payloadLocation with
    | some index =>
      (table, BitVec.ofNat 16 ((table.counter.odcPointMap index).getD default).analog)
    | none =>
      (table.matchingBinaryPoints group payloadLocation).foldl (readBinaryPoint isBakerDevice)
        (table, 0#16)

/-- The word of a place, with the status bits where the status byte is. -/
def getPayload (conf : CBOutstationConf) (outstation : CBOutstation) (group : Nat)
    (payloadLocation : PayloadLocationType) : CBOutstation × BitVec 16 :=
  let read := readPoints conf.isBakerDevice outstation.pointTable group payloadLocation
  let outstation := { outstation with pointTable := read.1 }
  if read.1.isStatusByteLocation group payloadLocation then outstation.getStatusPayload read.2
  else (outstation, read.2)

/-- The places of a scan: section B of the first packet, both sections of the others. -/
def scanLocations (maxBlockNum : Nat) : List PayloadLocationType :=
  ⟨1, .PositionB⟩ ::
    (List.range (maxBlockNum - 1)).flatMap fun i => [⟨i + 2, .PositionA⟩, ⟨i + 2, .PositionB⟩]

/-- Put out the word of a place. -/
def readPlace (conf : CBOutstationConf) (group : Nat) (outstation : CBOutstation)
    (payloadLocation : PayloadLocationType) : CBOutstation × List (BitVec 16) :=
  let read := outstation.getPayload conf group payloadLocation
  (read.1, [read.2])

/-- The words of a group, in the order of the scan. -/
def buildScanRequestResponseData (conf : CBOutstationConf) (outstation : CBOutstation)
    (group : Nat) : CBOutstation × List (BitVec 16) :=
  run (readPlace conf group) outstation
    (scanLocations ((outstation.pointTable.getMaxPayload group).getD 1))

/-- The data blocks of the words after the first. -/
def scanBlocks : List (BitVec 16) → CBMessage
  | [] => []
  | [A] => [.dataBlock A 0#16 true]
  | A :: B :: rest => .dataBlock A B rest.isEmpty :: scanBlocks rest

def scanResponse (header : CBBlockData) (blockValues : List (BitVec 16)) : CBMessage :=
  .addressBlock header.getStationAddress header.getGroup header.getFunctionCode
      (blockValues.headD 0#16) (blockValues.length < 2) ::
    scanBlocks blockValues.tail

def scanRequest (conf : CBOutstationConf) (outstation : CBOutstation) (header : CBBlockData) :
    CBOutstation × List OutstationOutput :=
  let (outstation, blockValues) := outstation.buildScanRequestResponseData conf header.getGroup
  outstation.sendCBMessage (scanResponse header blockValues)

/-! ## Selects -/

/-- Change the pending command of a group. -/
def setPending (outstation : CBOutstation) (group : Nat)
    (change : PendingCommandType → PendingCommandType) : CBOutstation :=
  { outstation with
    pendingCommands :=
      Function.update outstation.pendingCommands group
        (change (outstation.pendingCommands group)) }

section SetPending

variable (outstation : CBOutstation) (group : Nat)
  (change next : PendingCommandType → PendingCommandType)

theorem setPending_pendingCommands :
    (outstation.setPending group change).pendingCommands =
      Function.update outstation.pendingCommands group
        (change (outstation.pendingCommands group)) := rfl

@[simp] theorem setPending_pointTable :
    (outstation.setPending group change).pointTable = outstation.pointTable := rfl

@[simp] theorem setPending_failControlResponse :
    (outstation.setPending group change).failControlResponse =
      outstation.failControlResponse := rfl

/-- Two changes of one group are one change. -/
@[simp] theorem setPending_setPending :
    (outstation.setPending group change).setPending group next =
      outstation.setPending group fun pending => next (change pending) := by
  simp [setPending]

end SetPending

/-- The channel of the set bit. A Baker device counts from the other end. -/
def controlChannel (conf : CBOutstationConf) (data : BitVec 16) : Nat :=
  let channel := (1 + getSetBit data 12).toNat
  if conf.isBakerDevice then 13 - channel else channel

/-- The data with its bit moved to the next channel, to make a response fail. -/
def corruptedControlData (data : BitVec 16) : BitVec 16 :=
  let bit := (1 + getSetBit data 12).toNat
  1#16 <<< (11 - if bit > 11 then 0 else bit)

/-- A binary select: exactly one bit, and a control point at its channel. -/
def funcTripClose (conf : CBOutstationConf) (outstation : CBOutstation) (header : CBBlockData)
    (pCommand : CommandType) (now : Nat) : CBOutstation × List OutstationOutput :=
  let group := header.getGroup
  let outstation := outstation.setPending group fun pending => { pending with data := header.getB }
  if getBitsSet header.getB 12 = 1 then
    match outstation.pointTable.getBinaryControlODCIndexUsingCBIndex group
        (controlChannel conf header.getB) with
    | none =>
      (outstation.setPending group fun pending => { pending with command := .None }, [])
    | some _ =>
      let outstation := outstation.setPending group fun pending =>
        { pending with command := pCommand, expiryTime := now + CommandValidTimemsec }
      let outstation :=
        if outstation.failControlResponse then
          outstation.setPending group fun pending =>
            { pending with data := corruptedControlData pending.data }
        else outstation
      outstation.sendCBMessage [answerBlock header (outstation.pendingCommands group).data]
  else (outstation.setPending group fun pending => { pending with command := .None }, [])

/-- The channel of a setpoint. -/
def setpointChannel (pCommand : CommandType) : Nat := if pCommand = .SetB then 2 else 1

/-- A setpoint select: a control point at the channel. -/
def funcSetAB (outstation : CBOutstation) (header : CBBlockData) (pCommand : CommandType)
    (now : Nat) : CBOutstation × List OutstationOutput :=
  let group := header.getGroup
  match outstation.pointTable.getAnalogControlODCIndexUsingCBIndex group
      (setpointChannel pCommand) with
  | none => (outstation.setPending group fun pending => { pending with command := .None }, [])
  | some _ =>
    let outstation := outstation.setPending group fun _ =>
      { command := pCommand, expiryTime := now + CommandValidTimemsec, data := header.getB }
    outstation.sendCBMessage [answerBlock header (outstation.pendingCommands group).data]

/-! ## Executes -/

/-- The result of a control is told to the master when it is a success. -/
def executeCallback (outstation : CBOutstation) (header : CBBlockData) (status : ControlStatus) :
    CBOutstation × List OutstationOutput :=
  if status = .SUCCESS then outstation.sendCBMessage [answerBlock header 0#16]
  else (outstation, [])

/-- Publish a control. An outstation on its own reports success at once, and
publishes the control a second time. -/
def perform (conf : CBOutstationConf) (outstation : CBOutstation) (header : CBBlockData)
    (group : Nat) (event : ControlEvent) : CBOutstation × List OutstationOutput :=
  let disabled :=
    if !outstation.enabled then outstation.executeCallback header .UNDEFINED else (outstation, [])
  let alone := andThen disabled fun outstation =>
    if conf.standAloneOutstation then
      andThen (outstation, [.publish group event none]) (·.executeCallback header .SUCCESS)
    else (outstation, [])
  andThen alone fun outstation => (outstation, [.publish group event (some header)])

def executeBinaryControl (conf : CBOutstationConf) (outstation : CBOutstation)
    (header : CBBlockData) (group channel : Nat) (pointOn : Bool) (now : Nat) :
    CBOutstation × List OutstationOutput :=
  match outstation.pointTable.getBinaryControlODCIndexUsingCBIndex group channel with
  | none => outstation.executeCallback header .UNDEFINED
  | some index =>
    perform conf
      { outstation with
        pointTable :=
          outstation.pointTable.setBinaryControlValueUsingODCIndex index pointOn now }
      header group (.controlRelayOutputBlock index pointOn)

def executeAnalogControl (conf : CBOutstationConf) (outstation : CBOutstation)
    (header : CBBlockData) (group channel : Nat) (data : BitVec 16) (now : Nat) :
    CBOutstation × List OutstationOutput :=
  match outstation.pointTable.getAnalogControlODCIndexUsingCBIndex group channel with
  | none => outstation.executeCallback header .UNDEFINED
  | some index =>
    perform conf
      { outstation with
        pointTable :=
          outstation.pointTable.setAnalogControlValueUsingODCIndex index data.toNat now }
      header group (.analogOutputInt16 index data)

def executeCommandOnGroup (conf : CBOutstationConf) (outstation : CBOutstation)
    (header : CBBlockData) (group : Nat) (singlecommand : Bool) (now : Nat) :
    CBOutstation × List OutstationOutput :=
  let pending := outstation.pendingCommands group
  if now > pending.expiryTime ∧ pending.command ≠ .None then
    outstation.executeCallback header .TIMEOUT
  else
    match pending.command with
    | .None => outstation.executeCallback header (if singlecommand then .NO_SELECT else .UNDEFINED)
    | .Trip =>
      outstation.executeBinaryControl conf header group (controlChannel conf pending.data) false now
    | .Close =>
      outstation.executeBinaryControl conf header group (controlChannel conf pending.data) true now
    | .SetA => outstation.executeAnalogControl conf header group 1 pending.data now
    | .SetB => outstation.executeAnalogControl conf header group 2 pending.data now

/-- Execute the pending command of a group, which is then used up. -/
def executeAndClear (conf : CBOutstationConf) (header : CBBlockData) (singlecommand : Bool)
    (now : Nat) (outstation : CBOutstation) (group : Nat) :
    CBOutstation × List OutstationOutput :=
  andThen (outstation.executeCommandOnGroup conf header group singlecommand now) fun outstation =>
    (outstation.setPending group fun pending => { pending with command := .None }, [])

/-- A Baker device executes the commands of all groups on group 0. -/
def executeCommand (conf : CBOutstationConf) (outstation : CBOutstation) (header : CBBlockData)
    (now : Nat) : CBOutstation × List OutstationOutput :=
  if conf.isBakerDevice && header.getGroup == 0 then
    run (executeAndClear conf header false now) outstation (List.range 16)
  else executeAndClear conf header true now outstation header.getGroup

end CBOutstation

end OpenDataCon.CBPort
