import Mathlib.Logic.Function.Basic
import OpenDataCon.CBPort.SOEQueue
import OpenDataCon.Foundations.BitStrings

/-!
# The point table

A port keeps its points by ODC index, and finds them again by their place in
the scan of a group or by their SOE index. A point is shared: the maps over
places and SOE indexes hold the ODC index of the point, and the map over ODC
indexes holds the point.

A place of a group is a packet and a section of it; together with the channel it
makes a CB index. On the groups, channels and packets of the wire the CB index
determines its parts (`getCBBitMapIndex_inj`).

An addition refuses a CB index that is taken; binary points also refuse bits
that are taken. `PointCall` lists the additions a loader makes.
-/

set_option autoImplicit false

namespace OpenDataCon.CBPort

/-- A number shifted left in a 16-bit word. -/
def shiftLeftResult16Bits (val shift : Nat) : Nat := (val <<< shift) % 2 ^ 16

/-- Group, channel or bit, packet and section, four bits each. Channels and
packets count from 1. -/
def getCBBitMapIndex (group bit : Nat) (payloadLocation : PayloadLocationType) : Nat :=
  shiftLeftResult16Bits group 12 ||| shiftLeftResult16Bits bit 8 |||
    shiftLeftResult16Bits (payloadLocation.packet - 1) 4 |||
    if payloadLocation.position = .PositionA then 0 else 1

def getCBPointMapIndex (group channel : Nat) (payloadLocation : PayloadLocationType) : Nat :=
  getCBBitMapIndex group channel payloadLocation

def getCBControlPointMapIndex (group channel : Nat) : Nat :=
  shiftLeftResult16Bits group 12 ||| shiftLeftResult16Bits channel 8

theorem shiftLeftResult16Bits_eq {val shift : Nat} (small : val < 2 ^ 4) (fits : shift ≤ 12) :
    shiftLeftResult16Bits val shift = val * 2 ^ shift := by
  have inWord : val * 2 ^ shift < 2 ^ 16 :=
    calc val * 2 ^ shift < 2 ^ 4 * 2 ^ shift :=
          Nat.mul_lt_mul_of_pos_right small (Nat.two_pow_pos shift)
      _ = 2 ^ (4 + shift) := (Nat.pow_add 2 4 shift).symm
      _ ≤ 2 ^ 16 := Nat.pow_le_pow_right (by decide) (by omega)
  rw [shiftLeftResult16Bits, Nat.shiftLeft_eq, Nat.mod_eq_of_lt inWord]

/-- A place that a message has: one of sixteen packets and one of two sections. -/
structure PayloadLocationType.OnWire (payloadLocation : PayloadLocationType) : Prop where
  first : 1 ≤ payloadLocation.packet
  last : payloadLocation.packet ≤ 16
  position : payloadLocation.position ≠ .Error

/-- The index is the four parts one below the other. -/
theorem getCBBitMapIndex_eq {group bit : Nat} {payloadLocation : PayloadLocationType}
    (groupSmall : group < 16) (bitSmall : bit < 16) (onWire : payloadLocation.OnWire) :
    getCBBitMapIndex group bit payloadLocation =
      group * 2 ^ 12 + bit * 2 ^ 8 + (payloadLocation.packet - 1) * 2 ^ 4 +
        if payloadLocation.position = .PositionA then 0 else 1 := by
  have packetSmall : payloadLocation.packet - 1 < 2 ^ 4 := by
    have last := onWire.last
    omega
  have section01 : (if payloadLocation.position = .PositionA then 0 else 1) < 2 ^ 4 := by
    split <;> decide
  rw [getCBBitMapIndex, shiftLeftResult16Bits_eq groupSmall (by decide),
    shiftLeftResult16Bits_eq bitSmall (by decide),
    shiftLeftResult16Bits_eq packetSmall (by decide),
    BitStrings.or_three (a := group * 2 ^ 12) (p := 12) (q := 8) (by omega) (by omega)
      (by omega) (by omega),
    BitStrings.or_eq_add 4 (by omega) section01]

/-- **The index determines the group, the bit and the place.** -/
theorem getCBBitMapIndex_inj {group bit group' bit' : Nat}
    {payloadLocation payloadLocation' : PayloadLocationType} (groupSmall : group < 16)
    (bitSmall : bit < 16) (onWire : payloadLocation.OnWire) (groupSmall' : group' < 16)
    (bitSmall' : bit' < 16) (onWire' : payloadLocation'.OnWire)
    (same : getCBBitMapIndex group bit payloadLocation =
      getCBBitMapIndex group' bit' payloadLocation') :
    group = group' ∧ bit = bit' ∧ payloadLocation = payloadLocation' := by
  rw [getCBBitMapIndex_eq groupSmall bitSmall onWire,
    getCBBitMapIndex_eq groupSmall' bitSmall' onWire'] at same
  obtain ⟨packet, position⟩ := payloadLocation
  obtain ⟨packet', position'⟩ := payloadLocation'
  obtain ⟨first, last, known⟩ := onWire
  obtain ⟨first', last', known'⟩ := onWire'
  simp only at first last known first' last' known' same
  cases position <;> cases position' <;> simp at same known known' ⊢ <;> omega

/-- The two maps over the points of one kind. -/
structure PointMaps (P : Type) where
  cbPointMap : Nat → Option Nat := fun _ => none
  odcPointMap : Nat → Option P := fun _ => none

namespace PointMaps

variable {P : Type}

/-- Enter a point at a CB index. An ODC index that is known keeps its point. -/
def insert (maps : PointMaps P) (cbIndex index : Nat) (point : P) : PointMaps P where
  cbPointMap := Function.update maps.cbPointMap cbIndex (some index)
  odcPointMap :=
    if (maps.odcPointMap index).isSome then maps.odcPointMap
    else Function.update maps.odcPointMap index (some point)

/-- Change the point with an ODC index. -/
def modify (maps : PointMaps P) (index : Nat) (change : P → P) : PointMaps P :=
  { maps with
    odcPointMap :=
      Function.update maps.odcPointMap index ((maps.odcPointMap index).map change) }

@[simp] theorem modify_cbPointMap (maps : PointMaps P) (index : Nat) (change : P → P) :
    (maps.modify index change).cbPointMap = maps.cbPointMap := rfl

theorem modify_odcPointMap (maps : PointMaps P) (index other : Nat) (change : P → P) :
    (maps.modify index change).odcPointMap other =
      if other = index then (maps.odcPointMap index).map change else maps.odcPointMap other := by
  simp [modify, Function.update_apply]

/-- What a map holds after a new point was entered. -/
theorem insert_odcPointMap {maps : PointMaps P} {index : Nat}
    (absent : maps.odcPointMap index = none) (cbIndex : Nat) (point : P) (other : Nat)
    (found : P) :
    (maps.insert cbIndex index point).odcPointMap other = some found ↔
      (other = index ∧ found = point) ∨ maps.odcPointMap other = some found := by
  have entered : (maps.insert cbIndex index point).odcPointMap =
      Function.update maps.odcPointMap index (some point) := by
    simp [insert, absent]
  rw [entered, Function.update_apply]
  by_cases same : other = index
  · subst same
    simp [absent, eq_comm]
  · simp [same]

end PointMaps

structure PointTable where
  binary : PointMaps CBBinaryPoint := {}
  binaryCBBitMap : Nat → Bool := fun _ => false
  /-- The ODC index of the point with a SOE index. -/
  binarySOEPointMap : Nat → Option Nat := fun _ => none
  analog : PointMaps CBAnalogCounterPoint := {}
  counter : PointMaps CBAnalogCounterPoint := {}
  binaryControl : PointMaps CBBinaryPoint := {}
  analogControl : PointMaps CBAnalogCounterPoint := {}
  statusByteGroup : Nat := 255
  statusBytePayloadLocation : PayloadLocationType := {}
  maxiumPayloadPerGroupMap : Nat → Option Nat := fun _ => none
  isOutstation : Bool := true
  soe : SOEQueue := {}

namespace PointTable

def build (table : PointTable) (isOutstation : Bool) (soeQueueSize : Nat) : PointTable :=
  { table with
    isOutstation := isOutstation
    soe := { table.soe with binaryTimeTaggedEventQueueSize := soeQueueSize } }

/-! ## Additions -/

/-- Keep track of the last packet of a group. -/
def updateMaxPayload (table : PointTable) (group : Nat) (payloadLocation : PayloadLocationType) :
    PointTable :=
  { table with
    maxiumPayloadPerGroupMap :=
      match table.maxiumPayloadPerGroupMap group with
      | none =>
        Function.update table.maxiumPayloadPerGroupMap group (some payloadLocation.packet)
      | some last =>
        if last < payloadLocation.packet then
          Function.update table.maxiumPayloadPerGroupMap group (some payloadLocation.packet)
        else table.maxiumPayloadPerGroupMap }

def addCounterPointToPointTable (table : PointTable) (index group channel : Nat)
    (payloadLocation : PayloadLocationType) (pointType : AnalogCounterPointType) :
    PointTable × Bool :=
  let cbIndex := getCBPointMapIndex group channel payloadLocation
  if (table.counter.cbPointMap cbIndex).isSome then (table, false)
  else
    let table := table.updateMaxPayload group payloadLocation
    let point : CBAnalogCounterPoint :=
      { index := index, group := group, channel := channel, payloadLocation := payloadLocation
        pointType := pointType }
    ({ table with counter := table.counter.insert cbIndex index point }, true)

def addAnalogPointToPointTable (table : PointTable) (index group channel : Nat)
    (payloadLocation : PayloadLocationType) (pointType : AnalogCounterPointType) :
    PointTable × Bool :=
  let cbIndex := getCBPointMapIndex group channel payloadLocation
  if (table.analog.cbPointMap cbIndex).isSome then (table, false)
  else
    let table := table.updateMaxPayload group payloadLocation
    let point : CBAnalogCounterPoint :=
      { index := index, group := group, channel := channel, payloadLocation := payloadLocation
        pointType := pointType }
    ({ table with analog := table.analog.insert cbIndex index point }, true)

/-- A momentary contact takes two bits. -/
def isDualBit (pointType : BinaryPointType) : Bool :=
  pointType == .MCB || pointType == .MCA || pointType == .MCC

/-- The bit of a channel: 1 to 12, or every other one for momentary contacts. -/
def firstBit (pointType : BinaryPointType) (channel : Nat) : Nat :=
  if isDualBit pointType then (channel - 1) * 2 + 1 else channel

/-- Take a bit that is free. -/
def takeBit (table : PointTable) (cbBitIndex : Nat) : PointTable × Bool :=
  if table.binaryCBBitMap cbBitIndex then (table, false)
  else ({ table with binaryCBBitMap := Function.update table.binaryCBBitMap cbBitIndex true }, true)

/-- Take the bits of a binary point. A point refused for its second bit keeps its first. -/
def checkForBinaryBitClash (table : PointTable) (group channel : Nat)
    (payloadLocation : PayloadLocationType) (pointType : BinaryPointType) : PointTable × Bool :=
  let bit := firstBit pointType channel
  let first := table.takeBit (getCBBitMapIndex group bit payloadLocation)
  if !first.2 then first
  else if isDualBit pointType then
    first.1.takeBit (getCBBitMapIndex group (bit + 1) payloadLocation)
  else first

def addBinaryPointToPointTable (table : PointTable) (index group channel : Nat)
    (payloadLocation : PayloadLocationType) (pointType : BinaryPointType) (isSOE : Bool)
    (soeIndex : Nat) : PointTable × Bool :=
  let cbIndex := getCBPointMapIndex group channel payloadLocation
  if (table.binary.cbPointMap cbIndex).isSome then (table, false)
  else
    let checked := table.checkForBinaryBitClash group channel payloadLocation pointType
    if !checked.2 then checked
    else
      let table := checked.1.updateMaxPayload group payloadLocation
      let point : CBBinaryPoint :=
        { index := index, group := group, channel := channel, payloadLocation := payloadLocation
          pointType := pointType, soePoint := isSOE, soeIndex := soeIndex }
      ({ table with
          binary := table.binary.insert cbIndex index point
          binarySOEPointMap :=
            if (table.binary.odcPointMap index).isNone && isSOE then
              Function.update table.binarySOEPointMap soeIndex (some index)
            else table.binarySOEPointMap }, true)

def addStatusByteToCBMap (table : PointTable) (group : Nat)
    (payloadLocation : PayloadLocationType) : PointTable × Bool :=
  (updateMaxPayload
    { table with statusByteGroup := group, statusBytePayloadLocation := payloadLocation }
    group payloadLocation, true)

def addAnalogControlPointToPointTable (table : PointTable) (index group channel : Nat)
    (pointType : AnalogCounterPointType) : PointTable × Bool :=
  let cbIndex := getCBControlPointMapIndex group channel
  if (table.analogControl.cbPointMap cbIndex).isSome then (table, false)
  else
    let point : CBAnalogCounterPoint :=
      { index := index, group := group, channel := channel, payloadLocation := ⟨1, .PositionB⟩
        pointType := pointType }
    ({ table with analogControl := table.analogControl.insert cbIndex index point }, true)

/-- A binary control refuses a known ODC index as well. -/
def addBinaryControlPointToPointTable (table : PointTable) (index group channel : Nat)
    (pointType : BinaryPointType) : PointTable × Bool :=
  let cbIndex := getCBControlPointMapIndex group channel
  if (table.binaryControl.cbPointMap cbIndex).isSome then (table, false)
  else if (table.binaryControl.odcPointMap index).isSome then (table, false)
  else
    let point : CBBinaryPoint :=
      { index := index, group := group, channel := channel, payloadLocation := ⟨1, .PositionB⟩
        pointType := pointType }
    ({ table with binaryControl := table.binaryControl.insert cbIndex index point }, true)

/-- One addition. -/
inductive PointCall where
  | analog (index group channel : Nat) (payloadLocation : PayloadLocationType)
      (pointType : AnalogCounterPointType)
  | counter (index group channel : Nat) (payloadLocation : PayloadLocationType)
      (pointType : AnalogCounterPointType)
  | binary (index group channel : Nat) (payloadLocation : PayloadLocationType)
      (pointType : BinaryPointType) (isSOE : Bool) (soeIndex : Nat)
  | analogControl (index group channel : Nat) (pointType : AnalogCounterPointType)
  | binaryControl (index group channel : Nat) (pointType : BinaryPointType)
  | statusByte (group : Nat) (payloadLocation : PayloadLocationType)
deriving DecidableEq, Repr

/-- Make an addition; it tells whether it was accepted. -/
def call (table : PointTable) : PointCall → PointTable × Bool
  | .analog index group channel payloadLocation pointType =>
    table.addAnalogPointToPointTable index group channel payloadLocation pointType
  | .counter index group channel payloadLocation pointType =>
    table.addCounterPointToPointTable index group channel payloadLocation pointType
  | .binary index group channel payloadLocation pointType isSOE soeIndex =>
    table.addBinaryPointToPointTable index group channel payloadLocation pointType isSOE soeIndex
  | .analogControl index group channel pointType =>
    table.addAnalogControlPointToPointTable index group channel pointType
  | .binaryControl index group channel pointType =>
    table.addBinaryControlPointToPointTable index group channel pointType
  | .statusByte group payloadLocation => table.addStatusByteToCBMap group payloadLocation

/-- The table after some additions, and whether all of them were accepted. -/
def load (table : PointTable) : List PointCall → PointTable × Bool
  | [] => (table, true)
  | call :: rest =>
    let first := table.call call
    let later := first.1.load rest
    (later.1, first.2 && later.2)

/-! ## What additions change -/

@[simp] theorem updateMaxPayload_binary (table : PointTable) (group : Nat)
    (payloadLocation : PayloadLocationType) :
    (table.updateMaxPayload group payloadLocation).binary = table.binary := rfl

@[simp] theorem updateMaxPayload_binarySOEPointMap (table : PointTable) (group : Nat)
    (payloadLocation : PayloadLocationType) :
    (table.updateMaxPayload group payloadLocation).binarySOEPointMap =
      table.binarySOEPointMap := rfl

theorem takeBit_frame (table : PointTable) (cbBitIndex : Nat) :
    ∃ bits, (table.takeBit cbBitIndex).1 = { table with binaryCBBitMap := bits } := by
  unfold takeBit
  split <;> exact ⟨_, rfl⟩

/-- The check takes bits and changes nothing else. -/
theorem checkForBinaryBitClash_frame (table : PointTable) (group channel : Nat)
    (payloadLocation : PayloadLocationType) (pointType : BinaryPointType) :
    ∃ bits, (table.checkForBinaryBitClash group channel payloadLocation pointType).1 =
      { table with binaryCBBitMap := bits } := by
  simp only [checkForBinaryBitClash]
  split
  · exact takeBit_frame table _
  · split
    · obtain ⟨first, frame⟩ := takeBit_frame table _
      rw [frame]
      exact takeBit_frame _ _
    · exact takeBit_frame table _

/-- An accepted binary point is entered in the maps. -/
theorem addBinaryPointToPointTable_accepted {table : PointTable} {index group channel : Nat}
    {payloadLocation : PayloadLocationType} {pointType : BinaryPointType} {isSOE : Bool}
    {soeIndex : Nat}
    (accepted : (table.addBinaryPointToPointTable index group channel payloadLocation pointType
      isSOE soeIndex).2 = true) :
    let added := (table.addBinaryPointToPointTable index group channel payloadLocation pointType
      isSOE soeIndex).1
    added.binary = table.binary.insert (getCBPointMapIndex group channel payloadLocation) index
        { index := index, group := group, channel := channel, payloadLocation := payloadLocation
          pointType := pointType, soePoint := isSOE, soeIndex := soeIndex } ∧
      added.binarySOEPointMap =
        if (table.binary.odcPointMap index).isNone && isSOE then
          Function.update table.binarySOEPointMap soeIndex (some index)
        else table.binarySOEPointMap := by
  obtain ⟨bits, frame⟩ :=
    table.checkForBinaryBitClash_frame group channel payloadLocation pointType
  unfold addBinaryPointToPointTable at accepted ⊢
  simp only at accepted ⊢
  split at accepted
  · cases accepted
  · next free =>
      rw [if_neg free]
      split at accepted
      · next clash => simp [accepted] at clash
      · next clear =>
          rw [if_neg clear]
          simp only [updateMaxPayload_binary, updateMaxPayload_binarySOEPointMap, frame,
            and_self]

/-! ## Access -/

def setCounterValueUsingODCIndex (table : PointTable) (index meas now : Nat) : PointTable × Bool :=
  if (table.counter.odcPointMap index).isSome then
    ({ table with counter := table.counter.modify index (·.setAnalog meas now) }, true)
  else (table, false)

def setAnalogValueUsingODCIndex (table : PointTable) (index meas now : Nat) : PointTable × Bool :=
  if (table.analog.odcPointMap index).isSome then
    ({ table with analog := table.analog.modify index (·.setAnalog meas now) }, true)
  else (table, false)

/-- An event that is older than the last one goes into the SOE queue only. -/
def setBinaryValueUsingODCIndex (table : PointTable) (index : Nat) (meas : Bool)
    (eventtime now : Nat) : PointTable × Bool :=
  match table.binary.odcPointMap index with
  | none => (table, false)
  | some point =>
    let table :=
      if point.soePoint && table.isOutstation then
        { table with soe := table.soe.addToDigitalEvents point meas eventtime now }
      else table
    if eventtime ≥ point.changedTime then
      ({ table with binary := table.binary.modify index (·.setBinary meas eventtime) }, true)
    else (table, true)

def getBinaryODCIndexUsingSOE (table : PointTable) (soeIndex : Nat) : Option Nat :=
  if soeIndex > 120 then none else table.binarySOEPointMap soeIndex

def getBinaryControlODCIndexUsingCBIndex (table : PointTable) (group channel : Nat) : Option Nat :=
  table.binaryControl.cbPointMap (getCBControlPointMapIndex group channel)

def getAnalogControlODCIndexUsingCBIndex (table : PointTable) (group channel : Nat) : Option Nat :=
  table.analogControl.cbPointMap (getCBControlPointMapIndex group channel)

def setBinaryControlValueUsingODCIndex (table : PointTable) (index : Nat) (meas : Bool)
    (eventtime : Nat) : PointTable :=
  { table with binaryControl := table.binaryControl.modify index (·.setBinary meas eventtime) }

def setAnalogControlValueUsingODCIndex (table : PointTable) (index meas eventtime : Nat) :
    PointTable :=
  { table with analogControl := table.analogControl.modify index (·.setAnalog meas eventtime) }

/-- The ODC indexes of the binary points at a place, by channel. -/
def matchingBinaryPoints (table : PointTable) (group : Nat)
    (payloadLocation : PayloadLocationType) : List Nat :=
  (List.range 12).filterMap fun i =>
    table.binary.cbPointMap (getCBPointMapIndex group (i + 1) payloadLocation)

/-- The ODC indexes of the analog points at a place, two at most. -/
def matchingAnalogPoints (table : PointTable) (group : Nat)
    (payloadLocation : PayloadLocationType) : List Nat :=
  (List.range 2).filterMap fun i =>
    table.analog.cbPointMap (getCBPointMapIndex group (i + 1) payloadLocation)

/-- The ODC index of the counter at a place. -/
def matchingCounterPoint (table : PointTable) (group : Nat)
    (payloadLocation : PayloadLocationType) : Option Nat :=
  table.counter.cbPointMap (getCBPointMapIndex group 1 payloadLocation)

def isStatusByteLocation (table : PointTable) (group : Nat)
    (payloadLocation : PayloadLocationType) : Bool :=
  group == table.statusByteGroup && table.statusBytePayloadLocation == payloadLocation

def getMaxPayload (table : PointTable) (group : Nat) : Option Nat :=
  table.maxiumPayloadPerGroupMap group

/-! ## What a value changes -/

theorem setCounterValueUsingODCIndex_frame (table : PointTable) (index meas now : Nat) :
    ∃ counter, (table.setCounterValueUsingODCIndex index meas now).1 =
      { table with counter := counter } := by
  unfold setCounterValueUsingODCIndex
  split <;> exact ⟨_, rfl⟩

theorem setAnalogValueUsingODCIndex_frame (table : PointTable) (index meas now : Nat) :
    ∃ analog, (table.setAnalogValueUsingODCIndex index meas now).1 =
      { table with analog := analog } := by
  unfold setAnalogValueUsingODCIndex
  split <;> exact ⟨_, rfl⟩

/-- A binary value goes to the point and to the SOE queue. -/
theorem setBinaryValueUsingODCIndex_frame (table : PointTable) (index : Nat) (meas : Bool)
    (eventtime now : Nat) :
    ∃ binary soe, (table.setBinaryValueUsingODCIndex index meas eventtime now).1 =
      { table with binary := binary, soe := soe } := by
  unfold setBinaryValueUsingODCIndex
  split
  · exact ⟨_, _, rfl⟩
  · simp only
    split <;> split <;> exact ⟨_, _, rfl⟩

end PointTable

end OpenDataCon.CBPort
