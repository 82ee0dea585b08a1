import OpenDataCon.Connectors.MultiCallback
import OpenDataCon.MD3Port.ControlBlocks
import OpenDataCon.MD3Port.DigitalPoints

/-!
# Controls

The master makes a command of a control: for an output word it takes the word of the module from
its binary inputs and sets or clears the bit of the point; a pulse and an input point control
have the point alone. The outstation checks the blocks and publishes what they ask for: one
control, or a state for every point of the module of an output word.

What a command publishes is known from the control (`performed_pom`, `performed_dom`,
`performed_dim`): an output word is rejected when its sum does not fit beside it, or when its
module has no point at channel zero.
-/

set_option autoImplicit false

namespace OpenDataCon.MD3Port

open MD3BlockData

/-! ## Controls and their points -/

inductive ControlCode where
  | NUL | PULSE_ON | PULSE_OFF | LATCH_ON | LATCH_OFF | CLOSE_PULSE_ON | TRIP_PULSE_ON | UNDEFINED
deriving DecidableEq, Repr

structure ControlRelayOutputBlock where
  functionCode : ControlCode := .LATCH_ON
  count : Nat := 1
  onTimeMS : Nat := 100
  offTimeMS : Nat := 100
  status : Connectors.CommandStatus := .SUCCESS
deriving DecidableEq, Repr

/-- An event that an outstation publishes for a control. -/
inductive ControlEvent where
  | controlRelayOutputBlock (index : Nat) (block : ControlRelayOutputBlock)
  | analogOutputInt16 (index : Nat) (value : Int)
deriving DecidableEq, Repr

/-- The control points, loaded alike at both ends. -/
structure ControlTables where
  binaryControls : BinaryLayout := {}
  analogControls : BinaryLayout := {}

/-- An outstation has an address of seven bits; zero is for all of them. -/
structure OutstationAddress where
  address : Nat
  positive : 0 < address
  fits : address < 128

namespace ControlTables

variable (tables : ControlTables)

def getBinaryControlODCIndexUsingMD3Index (moduleAddress channel : Nat) : Option Nat :=
  (tables.binaryControls.findMD3 moduleAddress channel).map MD3PointKey.index

def getAnalogControlODCIndexUsingMD3Index (moduleAddress channel : Nat) : Option Nat :=
  (tables.analogControls.findMD3 moduleAddress channel).map MD3PointKey.index

end ControlTables

/-! ## The master -/

/-- What the master does with a control: it may queue a command with the callback, and it may
post the callback at once. -/
structure WriteResult where
  command : Option MD3Message := none
  posted : Bool := false
deriving DecidableEq, Repr

def sendDOMOutputCommand (stationAddress moduleAddress : Nat) (outputbits : BitVec 16) :
    MD3Message :=
  let commandblock := MD3BlockFn19MtoS stationAddress moduleAddress
  [commandblock, commandblock.domSecondBlock outputbits]

def sendPOMOutputCommand (stationAddress moduleAddress outputselection : Nat) : MD3Message :=
  let commandblock := MD3BlockFn17MtoS stationAddress moduleAddress outputselection
  [commandblock, commandblock.pomSecondBlock]

/-- A set point would have a third block. -/
def sendDIMOutputCommand (stationAddress moduleAddress outputselection : Nat)
    (controlselect : DIMControlSelectionType) (outputdata : BitVec 16) : MD3Message :=
  let commandblock := MD3BlockFn20MtoS stationAddress moduleAddress outputselection controlselect
  if commandblock.getControlSelection = .SETPOINT then
    [commandblock, commandblock.dimSecondBlock, dimThirdBlock outputdata]
  else [commandblock, commandblock.dimSecondBlock]

/-- For an output word the code of a control is a state of the point; everything but these two
is on. -/
def domState (functionCode : ControlCode) : Bool :=
  functionCode != .LATCH_OFF && functionCode != .TRIP_PULSE_ON

/-- The word with the bit of a channel set or cleared. -/
def withOutput (outputbits : BitVec 16) (channel : Nat) (state : Bool) : BitVec 16 :=
  if state then outputbits ||| (1#16 <<< (15 - channel))
  else outputbits &&& ~~~(1#16 <<< (15 - channel))

/-- The word that a control of an output is sent with: the inputs at the module address, and the
state of the point. -/
def BinaryTable.outputWord (inputs : BinaryTable) (key : MD3PointKey) (functionCode : ControlCode) :
    BitVec 16 :=
  withOutput (inputs.collectModuleBitsIntoWord key.moduleAddress) key.channel
    (domState functionCode)

/-- What an input point control is asked for; a code may have no selection. -/
def dimSelection : ControlCode → Option DIMControlSelectionType
  | .PULSE_OFF => some .TRIP
  | .TRIP_PULSE_ON => some .TRIP
  | .LATCH_OFF => some .OFF
  | .PULSE_ON => some .CLOSE
  | .CLOSE_PULSE_ON => some .CLOSE
  | .LATCH_ON => some .ON
  | .NUL => none
  | .UNDEFINED => none

namespace ControlTables

variable (tables : ControlTables) (station : OutstationAddress)

/-- A control for a binary point. -/
def writeObject (inputs : BinaryTable) (command : ControlRelayOutputBlock) (index : Nat) :
    WriteResult :=
  match tables.binaryControls.findODC index with
  | none => { posted := true }
  | some key =>
    match key.pointType with
    | .DOMOUTPUT =>
      { command := sendDOMOutputCommand station.address key.moduleAddress
          (inputs.outputWord key command.functionCode) }
    | .POMOUTPUT =>
      { command := sendPOMOutputCommand station.address key.moduleAddress key.channel }
    | .DIMOUTPUT =>
      { command := (dimSelection command.functionCode).map fun action =>
          sendDIMOutputCommand station.address key.moduleAddress key.channel action 0 }
    | _ => { posted := true }

/-- A value for an analog point: the point is sent, and the value is not. -/
def writeAnalogObject (_command : Int) (index : Nat) : WriteResult :=
  match tables.analogControls.findODC index with
  | none => { posted := true }
  | some key =>
    { command := sendDIMOutputCommand station.address key.moduleAddress key.channel .ON 0
      posted := true }

end ControlTables

/-! ## The outstation -/

/-- What the outstation does with a command: nothing, when all stations are addressed; a
rejection; one event, whose status is answered; or for every channel of a word an event where
there is a point. -/
inductive ControlAction where
  | ignored
  | rejected
  | performed (event : ControlEvent)
  | performedWord (channels : List (Option ControlEvent))
deriving DecidableEq, Repr

/-- The events that are published. -/
def ControlAction.events : ControlAction → List ControlEvent
  | .ignored => []
  | .rejected => []
  | .performed event => [event]
  | .performedWord channels => channels.reduceOption

/-- The code that an input point control publishes. -/
def dimCode : DIMControlSelectionType → ControlCode
  | .TRIP => .TRIP_PULSE_ON
  | .CLOSE => .CLOSE_PULSE_ON
  | .RAISE => .PULSE_ON
  | .LOWER => .PULSE_OFF
  | .SINGLEPOLEOPERATE => .PULSE_ON
  | .OFF => .LATCH_OFF
  | .ON => .LATCH_ON
  | _ => .PULSE_ON

/-- The checks of an input point control; a set point has a third block with its value. -/
def dimFailed (header : MD3BlockData) (completeMD3Message : MD3Message) : Bool :=
  let count := completeMD3Message.length
  !(count == 2 || count == 3) || !header.verifyDimSecondBlock (completeMD3Message.getD 1 {}) ||
    count == 3 && !verifyDimThirdBlock (completeMD3Message.getD 2 {}) ||
    count == 2 && header.getControlSelection == .SETPOINT

namespace ControlTables

variable (tables : ControlTables) (failControlResponse : Bool)

def doPOMControl (header : MD3BlockData) (completeMD3Message : MD3Message) : ControlAction :=
  let index := tables.getBinaryControlODCIndexUsingMD3Index header.getModuleAddress
    header.getOutputSelection
  if header.getStationAddress = 0 then .ignored
  else if completeMD3Message.length ≠ 2 ∨
      header.verifyPomSecondBlock (completeMD3Message.getD 1 {}) = false then .rejected
  else
    match index with
    | none => .rejected
    | some index =>
      if failControlResponse then .rejected
      else .performed (.controlRelayOutputBlock index { functionCode := .PULSE_ON })

/-- The event for one channel of an output word. -/
def channelEvent (moduleAddress : Nat) (output : BitVec 16) (i : Nat) : Option ControlEvent :=
  (tables.getBinaryControlODCIndexUsingMD3Index moduleAddress i).map fun index =>
    .controlRelayOutputBlock index
      { functionCode := if output.getLsbD (15 - i) then .LATCH_ON else .LATCH_OFF }

/-- The point at channel zero must be there, the others need not. -/
def doDOMControl (header : MD3BlockData) (completeMD3Message : MD3Message) : ControlAction :=
  let second := completeMD3Message.getD 1 {}
  let output := getOutputFromDomSecondBlock second
  if header.getStationAddress = 0 then .ignored
  else if completeMD3Message.length ≠ 2 ∨ header.verifyDomSecondBlock second = false ∨
      tables.getBinaryControlODCIndexUsingMD3Index header.getModuleAddress 0 = none then .rejected
  else if failControlResponse then .rejected
  else .performedWord ((List.range 16).map (tables.channelEvent header.getModuleAddress output))

def doInputPointControl (header : MD3BlockData) (completeMD3Message : MD3Message) :
    ControlAction :=
  let selection := header.getControlSelection
  let output := getOutputFromDimThirdBlock (completeMD3Message.getD 2 {})
  let index := if selection = .SETPOINT then
      tables.getAnalogControlODCIndexUsingMD3Index header.getModuleAddress
        header.getChannelSelection
    else
      tables.getBinaryControlODCIndexUsingMD3Index header.getModuleAddress
        header.getChannelSelection
  if header.getStationAddress = 0 then .ignored
  else if dimFailed header completeMD3Message then .rejected
  else
    match index with
    | none => .rejected
    | some index =>
      if failControlResponse then .rejected
      else if completeMD3Message.length = 3 then
        if selection = .SETPOINT then .performed (.analogOutputInt16 index output.toNat)
        else
          .performed (.controlRelayOutputBlock index
            { functionCode := .PULSE_ON, onTimeMS := output.toNat
              offTimeMS := selection.toByte.toNat })
      else .performed (.controlRelayOutputBlock index { functionCode := dimCode selection })

/-- A command is a control by its function; nothing is done for another one here. -/
def processMD3Message (completeMD3Message : MD3Message) : ControlAction :=
  let header := completeMD3Message.headD {}
  let size := completeMD3Message.length
  if header.isMasterToStationMessage = false then .ignored
  else if header.getFunctionCode = POM_TYPE_CONTROL then
    tables.doPOMControl failControlResponse header completeMD3Message
  else if header.getFunctionCode = DOM_TYPE_CONTROL then
    tables.doDOMControl failControlResponse header completeMD3Message
  else if header.getFunctionCode = INPUT_POINT_CONTROL ∧ (size = 2 ∨ size = 3) then
    tables.doInputPointControl failControlResponse header completeMD3Message
  else .ignored

end ControlTables

/-- The bit of the channel is the state, and the others are as before. -/
theorem getLsbD_withOutput (outputbits : BitVec 16) {channel other : Nat} (inModule : channel < 16)
    (otherInModule : other < 16) (state : Bool) :
    (withOutput outputbits channel state).getLsbD (15 - other) =
      if other = channel then state else outputbits.getLsbD (15 - other) := by
  have bit : (1#16 <<< (15 - channel)).getLsbD (15 - other) = decide (other = channel) := by
    rw [BitVec.getLsbD_shiftLeft, BitVec.getLsbD_one]
    by_cases same : other = channel
    · subst same
      simp
      omega
    · simp [same]
      omega
  have inWord : 15 - other < 16 := by omega
  unfold withOutput
  cases state with
  | true =>
      rw [if_pos rfl, BitVec.getLsbD_or, bit]
      by_cases same : other = channel
      · simp [same]
      · simp [same]
  | false =>
      rw [if_neg Bool.false_ne_true, BitVec.getLsbD_and, BitVec.getLsbD_not, bit]
      by_cases same : other = channel
      · simp [same]
      · simp [same, inWord]

/-! ## What a command publishes -/

section Performed

variable (tables : ControlTables) (station : OutstationAddress) (failControlResponse : Bool)

theorem find_control {key : MD3PointKey} (member : key ∈ tables.binaryControls.keys) :
    tables.getBinaryControlODCIndexUsingMD3Index key.moduleAddress key.channel =
      some key.index := by
  rw [ControlTables.getBinaryControlODCIndexUsingMD3Index, BinaryLayout.findMD3_of_mem member rfl,
    Option.map_some]

/-- **A pulse publishes a pulse of its point.** -/
theorem performed_pom {key : MD3PointKey} (member : key ∈ tables.binaryControls.keys) :
    tables.processMD3Message failControlResponse
        (sendPOMOutputCommand station.address key.moduleAddress key.channel) =
      if failControlResponse then .rejected
      else .performed (.controlRelayOutputBlock key.index { functionCode := .PULSE_ON }) := by
  obtain ⟨moduleFits, channelFits⟩ := tables.binaryControls.inRange key member
  obtain ⟨verified, stationAddress, moduleAddress, outputSelection⟩ :=
    verify_pom station.fits moduleFits (Nat.lt_trans channelFits (by decide))
  set header := MD3BlockFn17MtoS station.address key.moduleAddress key.channel with isHeader
  have request : header.isMasterToStationMessage = true :=
    isMasterToStationMessage_formattedBytes ..
  have code : header.getFunctionCode = POM_TYPE_CONTROL := getFunctionCode_formattedBytes ..
  have positive : station.address ≠ 0 := Nat.pos_iff_ne_zero.mp station.positive
  rw [ControlTables.processMD3Message, sendPOMOutputCommand, ← isHeader]
  simp only [List.headD_cons, request, code]
  rw [ControlTables.doPOMControl, stationAddress, moduleAddress, outputSelection,
    find_control tables member]
  simp [positive, verified]

/-- **An output word publishes the state of every point of its module**, when its sum fits
beside it and there is a point at channel zero. -/
theorem performed_dom {moduleAddress : Nat} (moduleFits : moduleAddress < 256)
    (outputbits : BitVec 16) :
    tables.processMD3Message failControlResponse
        (sendDOMOutputCommand station.address moduleAddress outputbits) =
      if OutputFits outputbits ∧
          tables.getBinaryControlODCIndexUsingMD3Index moduleAddress 0 ≠ none ∧
          failControlResponse = false then
        .performedWord ((List.range 16).map (tables.channelEvent moduleAddress outputbits))
      else .rejected := by
  obtain ⟨stationAddress, module⟩ := fields_dom station.fits moduleFits
  have verified := verify_dom_iff station.fits moduleFits outputbits
  set header := MD3BlockFn19MtoS station.address moduleAddress with isHeader
  have request : header.isMasterToStationMessage = true :=
    isMasterToStationMessage_formattedBytes ..
  have code : header.getFunctionCode = DOM_TYPE_CONTROL := getFunctionCode_formattedBytes ..
  have positive : station.address ≠ 0 := Nat.pos_iff_ne_zero.mp station.positive
  rw [ControlTables.processMD3Message, sendDOMOutputCommand, ← isHeader]
  simp only [List.headD_cons, request, code]
  rw [if_neg (by decide), if_neg (by decide), if_pos trivial, ControlTables.doDOMControl,
    stationAddress, module, if_neg positive]
  have second : [header, header.domSecondBlock outputbits].getD 1 {} =
    header.domSecondBlock outputbits := rfl
  rw [second]
  by_cases fits : OutputFits outputbits
  · rw [getOutput_dom header fits]
    have passed := verified.mpr fits
    by_cases present : tables.getBinaryControlODCIndexUsingMD3Index moduleAddress 0 = none
    · simp [present]
    · by_cases fails : failControlResponse = true
      · simp [fails]
      · simp [fits, present, fails, passed]
  · have refused : header.verifyDomSecondBlock (header.domSecondBlock outputbits) = false :=
      Bool.eq_false_iff.mpr fun passed => fits (verified.mp passed)
    simp [fits, refused]

/-- What is left of an input point control without a set point: the point, if there is one. -/
theorem performed_inputPoint {moduleAddress channel : Nat} (moduleFits : moduleAddress < 256)
    (channelFits : channel < 16) {selection : DIMControlSelectionType}
    (plain : selection ≠ .SETPOINT) (outputdata : BitVec 16) :
    tables.processMD3Message failControlResponse
        (sendDIMOutputCommand station.address moduleAddress channel selection outputdata) =
      match tables.getBinaryControlODCIndexUsingMD3Index moduleAddress channel with
      | none => .rejected
      | some index =>
        if failControlResponse then .rejected
        else .performed (.controlRelayOutputBlock index { functionCode := dimCode selection }) := by
  obtain ⟨stationAddress, module, channelSelection, controlSelection⟩ :=
    fields_dim station.fits moduleFits channelFits selection
  have verified := verify_dim station.fits moduleFits channelFits selection
  set header := MD3BlockFn20MtoS station.address moduleAddress channel selection with isHeader
  have request : header.isMasterToStationMessage = true :=
    isMasterToStationMessage_formattedBytes ..
  have code : header.getFunctionCode = INPUT_POINT_CONTROL := getFunctionCode_formattedBytes ..
  have positive : station.address ≠ 0 := Nat.pos_iff_ne_zero.mp station.positive
  have message : sendDIMOutputCommand station.address moduleAddress channel selection outputdata =
      [header, header.dimSecondBlock] := by
    rw [sendDIMOutputCommand, ← isHeader, controlSelection]
    exact if_neg plain
  have passed : dimFailed header [header, header.dimSecondBlock] = false := by
    simp [dimFailed, verified, controlSelection, plain]
  rw [message, ControlTables.processMD3Message]
  simp only [List.headD_cons, request, code]
  rw [if_neg (by decide), if_neg (by decide), if_neg (by decide), if_pos ⟨trivial, .inl rfl⟩,
    ControlTables.doInputPointControl, stationAddress, module, channelSelection, controlSelection,
    passed]
  simp only [if_neg positive, if_neg plain]
  cases tables.getBinaryControlODCIndexUsingMD3Index moduleAddress channel with
  | none => rfl
  | some index => rfl

/-- **An input point control publishes what its selection stands for.** -/
theorem performed_dim {key : MD3PointKey} (member : key ∈ tables.binaryControls.keys)
    {selection : DIMControlSelectionType} (plain : selection ≠ .SETPOINT)
    (outputdata : BitVec 16) :
    tables.processMD3Message failControlResponse (sendDIMOutputCommand station.address
        key.moduleAddress key.channel selection outputdata) =
      if failControlResponse then .rejected
      else .performed (.controlRelayOutputBlock key.index
        { functionCode := dimCode selection }) := by
  obtain ⟨moduleFits, channelFits⟩ := tables.binaryControls.inRange key member
  rw [performed_inputPoint tables station failControlResponse moduleFits channelFits plain,
    find_control tables member]

end Performed

end OpenDataCon.MD3Port
