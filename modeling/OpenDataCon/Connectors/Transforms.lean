import Mathlib.Data.BitVec

/-!
# The built-in transforms

A transform is given an event object that it may change, and calls the next
handler with that object, or with a null pointer to drop the event. Every built-in
transform calls the next handler exactly once, at its end, so a transform is the
function from an event to what it passes on (`Transform.event`).

Transforms keep state: `Threshold` remembers what the threshold point did, and the
`RateLimit` transforms of one name share a record of rates.
-/

set_option autoImplicit false

namespace OpenDataCon.Connectors

/-! ## Events -/

inductive EventType where
  | Binary | DoubleBitBinary | Analog | Counter | FrozenCounter | BinaryOutputStatus
  | AnalogOutputStatus | BinaryCommandEvent | AnalogCommandEvent | OctetString | TimeAndInterval
  | SecurityStat | Reserved1 | Reserved2 | Reserved3 | ControlRelayOutputBlock
  | AnalogOutputInt16 | AnalogOutputInt32 | AnalogOutputFloat32 | AnalogOutputDouble64
  | Reserved4 | Reserved5 | Reserved6 | BinaryQuality | DoubleBitBinaryQuality | AnalogQuality
  | CounterQuality | BinaryOutputStatusQuality | FrozenCounterQuality
  | AnalogOutputStatusQuality | Reserved7 | Reserved8 | Reserved9 | FileAuth | FileCommand
  | FileCommandStatus | FileTransport | FileTransportStatus | FileDescriptor | FileSpecString
  | Reserved10 | Reserved11 | Reserved12 | ConnectState
deriving DecidableEq, Repr

/-- What an event of a type carries. Doubles are a type `D`; payloads that no transform
looks into are a family `O`. -/
def PayloadType (D : Type) (O : EventType → Type) : EventType → Type
  | .Binary => Bool
  | .BinaryOutputStatus => Bool
  | .Analog => D
  | type => O type

structure EventInfo (D : Type) (O : EventType → Type) where
  type : EventType
  index : BitVec 64
  timestamp : BitVec 64
  quality : BitVec 16
  sourcePort : String
  payload : PayloadType D O type

variable {D : Type} {O : EventType → Type}

/-- The value of an analog event. -/
def EventInfo.analog? : EventInfo D O → Option D
  | { type := .Analog, payload := value, .. } => some value
  | _ => none

/-- `SetPayload<EventType::Analog>` of an analog event. -/
def EventInfo.setAnalog (value : D) : EventInfo D O → EventInfo D O
  | { type := .Analog, index, timestamp, quality, sourcePort, .. } =>
    { type := .Analog, index, timestamp, quality, sourcePort, payload := value }
  | event => event

/-! ## Transforms that keep no state -/

/-- Maps from 16-bit indices to 16-bit indices. -/
structure IndexMapTransform where
  AnalogMap : BitVec 16 → Option (BitVec 16)
  BinaryMap : BitVec 16 → Option (BitVec 16)
  ControlMap : BitVec 16 → Option (BitVec 16)
  OctetStringMap : BitVec 16 → Option (BitVec 16)

def IndexMapTransform.event (tx : IndexMapTransform) (event : EventInfo D O) :
    Option (EventInfo D O) :=
  -- an index is cut to the 16 bits of the map's keys
  let mapped (map : BitVec 16 → Option (BitVec 16)) :=
    (map (event.index.setWidth 16)).map fun index => { event with index := index.setWidth 64 }
  match event.type with
  | .Analog => mapped tx.AnalogMap
  | .Binary => mapped tx.BinaryMap
  | .ControlRelayOutputBlock => mapped tx.ControlMap
  | .OctetString => mapped tx.OctetStringMap
  | _ => some event

structure IndexOffsetTransform where
  offset : BitVec 32

/-- The `int` offset is added as a `size_t`, so the sum is never below 0. -/
def IndexOffsetTransform.event (tx : IndexOffsetTransform) (event : EventInfo D O) :
    Option (EventInfo D O) :=
  let index := event.index + tx.offset.signExtend 64
  if index < 65535#64 ∧ index > 0#64 then some { event with index } else none

def LogicInvTransform.event : EventInfo D O → EventInfo D O
  | { type := .BinaryOutputStatus, index, timestamp, quality, sourcePort, payload } =>
    { type := .BinaryOutputStatus, index, timestamp, quality, sourcePort,
      payload := !(show Bool from payload) }
  | { type := .Binary, index, timestamp, quality, sourcePort, payload } =>
    { type := .Binary, index, timestamp, quality, sourcePort,
      payload := !(show Bool from payload) }
  | event => event

structure AnalogScalingTransform (D : Type) where
  ScaleFactors : BitVec 16 → Option D
  Offsets : BitVec 16 → Option D

def AnalogScalingTransform.event [Mul D] [Add D] (tx : AnalogScalingTransform D)
    (event : EventInfo D O) : EventInfo D O :=
  match event.analog? with
  | none => event
  | some value =>
    let scaled :=
      match tx.ScaleFactors (event.index.setWidth 16) with
      | some scale => value * scale
      | none => value
    let shifted :=
      match tx.Offsets (event.index.setWidth 16) with
      | some offset => scaled + offset
      | none => scaled
    event.setAnalog shifted

/-! ## Transforms that keep state -/

structure ThresholdTransform (D : Type) where
  passOn : Bool
  alreadyUnder : Bool
  thresholdPointIndex : BitVec 16
  threshold : D
  /-- The parameter `points`, if it is an array. -/
  points : Option (List (BitVec 32))

def ThresholdTransform.event [LE D] [LT D] [DecidableLE D] [DecidableLT D]
    (tx : ThresholdTransform D) (event : EventInfo D O) :
    ThresholdTransform D × Option (EventInfo D O) :=
  match event.analog?, tx.points with
  | none, _ => (tx, some event)
  | some _, none => (tx, some event)
  | some value, some points =>
    let tx :=
      if event.index = tx.thresholdPointIndex.setWidth 64 then
        { tx with
          passOn := decide (value ≥ tx.threshold) || !tx.alreadyUnder
          alreadyUnder := decide (value < tx.threshold) }
      else tx
    if !tx.passOn && points.any fun point => event.index == point.setWidth 64 then (tx, none)
    else (tx, some event)

/-- The record of one rate limit. Fast 32-bit counters have 64 bits. -/
structure RateStats where
  outputRateLimit : BitVec 32
  updatePeriodms : BitVec 32
  updatePeriodMultiplier : BitVec 16
  outputRate : BitVec 64
  inputRate : BitVec 64
  droppedUpdates : BitVec 64
  nextUpdatems : BitVec 64

/-- The start of a new update period, if it is due. -/
def RateStats.update (stats : RateStats) (eventTime : BitVec 64) : RateStats :=
  if stats.nextUpdatems < eventTime then
    let stats :=
      { stats with
        nextUpdatems := stats.nextUpdatems + stats.updatePeriodms.setWidth 64
        outputRate := stats.outputRate - stats.outputRateLimit.setWidth 64 }
    let stats :=
      -- the counter is unsigned, so this is never taken
      if stats.outputRate < 0#64 then
        { stats with
          nextUpdatems := eventTime + stats.updatePeriodms.setWidth 64
          outputRate := 0 }
      else stats
    { stats with inputRate := 0 }
  else stats

/-- One limited event, and whether it passes. -/
def RateStats.event (stats : RateStats) (eventTime : BitVec 64) : RateStats × Bool :=
  let stats := stats.update eventTime
  let stats := { stats with inputRate := stats.inputRate + 1 }
  let limit := stats.outputRateLimit * stats.updatePeriodMultiplier.setWidth 32
  if stats.outputRate < limit.setWidth 64 then
    ({ stats with outputRate := stats.outputRate + 1 }, true)
  else ({ stats with droppedUpdates := stats.droppedUpdates + 1 }, false)

/-- What the rate limits share: their records by name, and the clock. A clock is the list
of what its readings show. -/
structure Shared where
  rateStatsCollection : String → RateStats
  msSinceEpoch : Nat → BitVec 64
  readings : Nat := 0

/-- The types of events that a rate limit counts. -/
def RateLimitTransform.limits : EventType → Bool
  | .Binary | .Analog | .DoubleBitBinary | .Counter | .FrozenCounter | .BinaryOutputStatus
  | .AnalogOutputStatus => true
  | _ => false

def RateLimitTransform.event (rateStats : String) (shared : Shared) (event : EventInfo D O) :
    Shared × Option (EventInfo D O) :=
  if RateLimitTransform.limits event.type then
    let counted :=
      (shared.rateStatsCollection rateStats).event (shared.msSinceEpoch shared.readings)
    ({ shared with
        rateStatsCollection := fun name =>
          if name = rateStats then counted.1 else shared.rateStatsCollection name
        readings := shared.readings + 1 },
      if counted.2 then some event else none)
  else (shared, some event)

/-! ## Any transform -/

inductive Transform (D : Type) where
  | IndexMap (tx : IndexMapTransform)
  | IndexOffset (tx : IndexOffsetTransform)
  | Threshold (tx : ThresholdTransform D)
  | RateLimit (rateStats : String)
  | LogicInv
  | AnalogScaling (tx : AnalogScalingTransform D)
  | BlackHole

/-- What a transform leaves behind and passes on; it drops the event with `none`. -/
structure Passed (D : Type) (O : EventType → Type) where
  transform : Transform D
  shared : Shared
  event : Option (EventInfo D O)

def Transform.event [Mul D] [Add D] [LE D] [LT D] [DecidableLE D] [DecidableLT D]
    (tx : Transform D) (shared : Shared) (event : EventInfo D O) : Passed D O :=
  match tx with
  | .IndexMap map => ⟨.IndexMap map, shared, map.event event⟩
  | .IndexOffset offset => ⟨.IndexOffset offset, shared, offset.event event⟩
  | .Threshold threshold =>
    let passed := threshold.event event
    ⟨.Threshold passed.1, shared, passed.2⟩
  | .RateLimit rateStats =>
    let passed := RateLimitTransform.event rateStats shared event
    ⟨.RateLimit rateStats, passed.1, passed.2⟩
  | .LogicInv => ⟨.LogicInv, shared, some (LogicInvTransform.event event)⟩
  | .AnalogScaling scaling => ⟨.AnalogScaling scaling, shared, some (scaling.event event)⟩
  | .BlackHole => ⟨.BlackHole, shared, none⟩

end OpenDataCon.Connectors
