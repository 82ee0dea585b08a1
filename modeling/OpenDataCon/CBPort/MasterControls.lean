import OpenDataCon.CBPort.MasterCommands
import OpenDataCon.CBPort.SelectBeforeOperate
import OpenDataCon.CBPort.TableLayout
import OpenDataCon.MD3Port.Controls

/-!
# The controls of a Conitel master

A control is sent as two commands: a select of the point, which has no callback, and an execute of
its group, which has the callback. A binary select has the bit of the channel set, and an analog
one holds the value; both go into the twelve bits of a block.

At the outstation the select names the control that was meant, in any table that is loaded from
the same additions: `ControlsLaid.binarySelect` for a binary control, whose channel is read as it
was written (`controlBData_spec`), and `ControlsLaid.analogSelect` for an analog one. A binary
control is named by nothing else (`ControlsLaid.named`).
-/

set_option autoImplicit false

namespace OpenDataCon.CBPort

open CBOutstation
open MD3Port (ControlCode ControlRelayOutputBlock)

/-! ## The master -/

/-- The two commands of a control. -/
structure ControlPair where
  select : CBMessage
  execute : CBMessage
deriving DecidableEq, Repr

/-- The bit of a channel. Baker devices count from the other end. -/
def controlBData (isBakerDevice : Bool) (channel : Nat) : BitVec 16 :=
  1#16 <<< if isBakerDevice then channel - 1 else 12 - channel

/-- Everything but these two codes turns a point on. -/
def controlOn (functionCode : ControlCode) : Bool :=
  functionCode != .LATCH_OFF && functionCode != .TRIP_PULSE_ON

/-- The function of a binary select. -/
def binaryFunction (on : Bool) : Nat := if on then FUNC_CLOSE else FUNC_TRIP

/-- The function of a setpoint. -/
def setpointFunction (channel : Nat) : Nat :=
  if channel = 2 then FUNC_SETPOINT_B else FUNC_SETPOINT_A

namespace CBMasterConf

variable (conf : CBMasterConf)

/-- A select with its data, and the execute of its group. -/
def controlPair (group functionCode : Nat) (bData : BitVec 16) : ControlPair where
  select := [.addressBlock conf.outstationAddr group functionCode bData true]
  execute := [.addressBlock conf.outstationAddr group FUNC_EXECUTE_COMMAND 0#16 true]

def sendDigitalControlOnCommand (isBakerDevice : Bool) (group channel : Nat) : ControlPair :=
  conf.controlPair group FUNC_CLOSE (controlBData isBakerDevice channel)

def sendDigitalControlOffCommand (isBakerDevice : Bool) (group channel : Nat) : ControlPair :=
  conf.controlPair group FUNC_TRIP (controlBData isBakerDevice channel)

/-- A control for a binary point; a point that is not known has none. -/
def writeObject (isBakerDevice : Bool) (table : PointTable) (command : ControlRelayOutputBlock)
    (index : Nat) : Option ControlPair :=
  (table.binaryControl.odcPointMap index).map fun point =>
    if command.functionCode = .LATCH_OFF ∨ command.functionCode = .TRIP_PULSE_ON then
      conf.sendDigitalControlOffCommand isBakerDevice point.group point.channel
    else conf.sendDigitalControlOnCommand isBakerDevice point.group point.channel

/-- A value for an analog point. Its sixteen bits are taken as they are. -/
def writeAnalogObject (table : PointTable) (command : BitVec 16) (index : Nat) :
    Option ControlPair :=
  (table.analogControl.odcPointMap index).map fun point =>
    conf.controlPair point.group (setpointFunction point.channel) command

/-- A known binary point is selected by its bit, closed to turn it on and tripped to turn it off. -/
theorem writeObject_eq {isBakerDevice : Bool} {table : PointTable} {index : Nat}
    {point : CBBinaryPoint} (known : table.binaryControl.odcPointMap index = some point)
    (command : ControlRelayOutputBlock) :
    conf.writeObject isBakerDevice table command index =
      some (conf.controlPair point.group (binaryFunction (controlOn command.functionCode))
        (controlBData isBakerDevice point.channel)) := by
  rw [writeObject, known, Option.map_some]
  cases command.functionCode <;> rfl

end CBMasterConf

/-! ## The bits of a channel -/

section Bits

variable (conf : CBOutstationConf)

/-- The two ways to count the channels of a select are inverse to each other, and the bit fits in
the twelve of a block. -/
theorem controlBData_spec {channel : Nat} (first : 1 ≤ channel) (last : channel ≤ 12) :
    let bData := controlBData conf.isBakerDevice channel
    bData &&& 0xFFF#16 = bData ∧ getBitsSet bData 12 = 1 ∧
      controlChannel conf bData = channel ∧
      controlChannel conf (corruptedControlData bData) ≠ channel := by
  unfold controlChannel
  interval_cases channel <;> cases conf.isBakerDevice <;> decide

theorem getSetBit_lt (data : BitVec 16) (numberofbits : Nat) :
    getSetBit data numberofbits < numberofbits ∨ numberofbits = 0 := by
  unfold getSetBit
  split <;> omega

/-- Whatever the data is, its channel has four bits. -/
theorem controlChannel_lt (data : BitVec 16) : controlChannel conf data < 16 := by
  have small := getSetBit_lt data 12
  simp only [controlChannel]
  split <;> omega

end Bits

/-! ## The control points of a loaded table -/

/-- The place of a control point in its group. -/
def CBBinaryPoint.controlPlace (point : CBBinaryPoint) : Nat :=
  getCBControlPointMapIndex point.group point.channel

def CBAnalogCounterPoint.controlPlace (point : CBAnalogCounterPoint) : Nat :=
  getCBControlPointMapIndex point.group point.channel

/-- **Group and channel are determined by the place.** -/
theorem getCBControlPointMapIndex_inj {group channel group' channel' : Nat}
    (groupSmall : group < 16) (channelSmall : channel < 16) (groupSmall' : group' < 16)
    (channelSmall' : channel' < 16)
    (same : getCBControlPointMapIndex group channel = getCBControlPointMapIndex group' channel') :
    group = group' ∧ channel = channel' := by
  have onWire : PayloadLocationType.OnWire ⟨1, .PositionA⟩ := ⟨by decide, by decide, by decide⟩
  have bitMap (group channel : Nat) : getCBBitMapIndex group channel ⟨1, .PositionA⟩ =
      getCBControlPointMapIndex group channel := by
    simp [getCBBitMapIndex, getCBControlPointMapIndex, shiftLeftResult16Bits]
  rw [← bitMap, ← bitMap] at same
  obtain ⟨groups, channels, -⟩ :=
    getCBBitMapIndex_inj groupSmall channelSmall onWire groupSmall' channelSmall' onWire same
  exact ⟨groups, channels⟩

/-- Control points are found at their places. A binary one is at no other place; an analog index
may be entered at several places, and keeps its first point. -/
structure ControlsLaid (table : PointTable) : Prop where
  binary : table.binaryControl.Indexed CBBinaryPoint.controlPlace
  analog : ∀ index point, table.analogControl.odcPointMap index = some point →
    table.analogControl.cbPointMap point.controlPlace = some index

theorem controlsLaid_empty : ControlsLaid {} := ⟨PointMaps.indexed_empty, nofun⟩

/-- A point that is entered at a free place leaves the others at theirs, and if its index is known
already, that one too. -/
theorem PointMaps.insert_placed {P : Type} {place : P → Nat} {maps : PointMaps P}
    (placed : ∀ index point, maps.odcPointMap index = some point →
      maps.cbPointMap (place point) = some index)
    {index : Nat} {point : P} (free : maps.cbPointMap (place point) = none) :
    ∀ other found, (maps.insert (place point) index point).odcPointMap other = some found →
      (maps.insert (place point) index point).cbPointMap (place found) = some other := by
  intro other found there
  have before (known : maps.odcPointMap other = some found) :
      (maps.insert (place point) index point).cbPointMap (place found) = some other := by
    have here := placed other found known
    have elsewhere : place found ≠ place point := by
      intro same
      rw [same, free] at here
      cases here
    exact (Function.update_of_ne elsewhere _ _).trans here
  simp only [PointMaps.insert] at there
  split at there
  · exact before there
  · rw [Function.update_apply] at there
    split at there
    · next same =>
        cases there
        subst same
        exact Function.update_self _ _ _
    · exact before there

/-- An addition of another kind leaves the control points alone. -/
theorem ControlsLaid.of_eq {table after : PointTable} (laid : ControlsLaid table)
    (binary : after.binaryControl = table.binaryControl)
    (analog : after.analogControl = table.analogControl) : ControlsLaid after :=
  ⟨binary ▸ laid.binary, analog ▸ laid.analog⟩

/-- An addition keeps the places, whether it is accepted or not. -/
theorem ControlsLaid.call {table : PointTable} (laid : ControlsLaid table)
    (call : PointTable.PointCall) : ControlsLaid (table.call call).1 := by
  cases call with
  | analog index group channel payloadLocation pointType =>
      simp only [PointTable.call, PointTable.addAnalogPointToPointTable]
      split <;> exact laid.of_eq rfl rfl
  | counter index group channel payloadLocation pointType =>
      simp only [PointTable.call, PointTable.addCounterPointToPointTable]
      split <;> exact laid.of_eq rfl rfl
  | binary index group channel payloadLocation pointType isSOE soeIndex =>
      obtain ⟨bits, frame⟩ :=
        table.checkForBinaryBitClash_frame group channel payloadLocation pointType
      simp only [PointTable.call, PointTable.addBinaryPointToPointTable, frame]
      split
      · exact laid
      · split
        · rw [frame]
          exact laid.of_eq rfl rfl
        · exact laid.of_eq rfl rfl
  | statusByte group payloadLocation => exact laid.of_eq rfl rfl
  | binaryControl index group channel pointType =>
      let point : CBBinaryPoint :=
        { index := index, group := group, channel := channel, payloadLocation := ⟨1, .PositionB⟩
          pointType := pointType }
      simp only [PointTable.call, PointTable.addBinaryControlPointToPointTable]
      split
      · exact laid
      · next free =>
          split
          · exact laid
          · next absent =>
              have vacant : table.binaryControl.cbPointMap point.controlPlace = none :=
                Option.not_isSome_iff_eq_none.mp free
              have entered := laid.binary.insert vacant (Option.not_isSome_iff_eq_none.mp absent)
              exact ⟨entered, laid.analog⟩
  | analogControl index group channel pointType =>
      let point : CBAnalogCounterPoint :=
        { index := index, group := group, channel := channel, payloadLocation := ⟨1, .PositionB⟩
          pointType := pointType }
      simp only [PointTable.call, PointTable.addAnalogControlPointToPointTable]
      split
      · exact laid
      · next free =>
          have vacant : table.analogControl.cbPointMap point.controlPlace = none :=
            Option.not_isSome_iff_eq_none.mp free
          have entered := @PointMaps.insert_placed _ _ _ laid.analog index _ vacant
          exact ⟨laid.binary, entered⟩

/-- **Whatever is loaded, control points are found at their places.** -/
theorem load_controlsLaid (calls : List PointTable.PointCall) {table : PointTable}
    (laid : ControlsLaid table) : ControlsLaid (table.load calls).1 := by
  induction calls generalizing table with
  | nil => exact laid
  | cons call rest ih => exact ih (laid.call call)

/-! ## The control that a select names -/

section Named

variable (conf : CBOutstationConf) {table : PointTable} (laid : ControlsLaid table) {index : Nat}

include laid

/-- **A binary control is named by its group and its channel only.** -/
theorem ControlsLaid.named {point : CBBinaryPoint}
    (known : table.binaryControl.odcPointMap index = some point) (groupSmall : point.group < 16)
    (channelSmall : point.channel < 16) {group : Nat} (small : group < 16) {command : CommandType}
    {data : BitVec 16} {latchOn : Bool}
    (names : controlOf conf table group command data =
      some (.controlRelayOutputBlock index latchOn)) :
    group = point.group ∧ controlChannel conf data = point.channel := by
  have found : table.getBinaryControlODCIndexUsingCBIndex group (controlChannel conf data) =
      some index := by
    cases command with
    | None => cases names
    | Trip =>
        obtain ⟨other, there, same⟩ := Option.map_eq_some_iff.mp names
        cases same
        exact there
    | Close =>
        obtain ⟨other, there, same⟩ := Option.map_eq_some_iff.mp names
        cases same
        exact there
    | SetA =>
        obtain ⟨other, -, same⟩ := Option.map_eq_some_iff.mp names
        cases same
    | SetB =>
        obtain ⟨other, -, same⟩ := Option.map_eq_some_iff.mp names
        cases same
  have place : getCBControlPointMapIndex group (controlChannel conf data) = point.controlPlace :=
    laid.binary.place_inj known found
  exact getCBControlPointMapIndex_inj small (controlChannel_lt conf data) groupSmall channelSmall
    place

/-- **A binary select names the point it is made for**, to be turned on or off as it is meant. -/
theorem ControlsLaid.binarySelect {point : CBBinaryPoint}
    (known : table.binaryControl.odcPointMap index = some point) {bData : BitVec 16}
    (channel : controlChannel conf bData = point.channel) (on : Bool) :
    controlOf conf table point.group (selectedCommand (binaryFunction on)) bData =
      some (.controlRelayOutputBlock index on) := by
  have found : table.getBinaryControlODCIndexUsingCBIndex point.group
      (controlChannel conf bData) = some index := by
    rw [channel]
    exact laid.binary.placed index point known
  cases on with
  | false => exact congrArg (Option.map _) found
  | true => exact congrArg (Option.map _) found

/-- **An analog select names the point it is made for**, with the value that is received. -/
theorem ControlsLaid.analogSelect {point : CBAnalogCounterPoint}
    (known : table.analogControl.odcPointMap index = some point)
    (channel : point.channel = 1 ∨ point.channel = 2) (bData : BitVec 16) :
    controlOf conf table point.group (selectedCommand (setpointFunction point.channel)) bData =
      some (.analogOutputInt16 index bData) := by
  have placed := laid.analog index point known
  rcases channel with first | second
  · have found : table.getAnalogControlODCIndexUsingCBIndex point.group 1 = some index := by
      rw [← first]
      exact placed
    rw [first]
    exact congrArg (Option.map _) found
  · have found : table.getAnalogControlODCIndexUsingCBIndex point.group 2 = some index := by
      rw [← second]
      exact placed
    rw [second]
    exact congrArg (Option.map _) found

end Named

end OpenDataCon.CBPort
