import OpenDataCon.Connectors.QualityFlags
import OpenDataCon.Connectors.Transforms
import OpenDataCon.FileTransfer.Events
import OpenDataCon.Foundations.Exceptions

/-!
# Events and their payloads

An enumeration with an underlying type has a value for each number of that type, with
a name or without. So the fields of an event that hold event types, command
statuses, control codes and connection states hold numbers.

An event type with a name has a type of payload (`EventTypePayload`), and an event carries
no payload of another type. Doubles and floats are types `D` and `F`.
-/

set_option autoImplicit false

namespace OpenDataCon.Events

open Connectors (EventType QualityFlags)
open Exceptions
open FileTransfer (Bytes ascii)

/-! ## Event types -/

/-- The event types, in the order of their numbers. -/
def eventTypes : List EventType :=
  [.Binary, .DoubleBitBinary, .Analog, .Counter, .FrozenCounter, .BinaryOutputStatus,
    .AnalogOutputStatus, .BinaryCommandEvent, .AnalogCommandEvent, .OctetString, .TimeAndInterval,
    .SecurityStat, .Reserved1, .Reserved2, .Reserved3, .ControlRelayOutputBlock,
    .AnalogOutputInt16, .AnalogOutputInt32, .AnalogOutputFloat32, .AnalogOutputDouble64,
    .Reserved4, .Reserved5, .Reserved6, .BinaryQuality, .DoubleBitBinaryQuality, .AnalogQuality,
    .CounterQuality, .BinaryOutputStatusQuality, .FrozenCounterQuality,
    .AnalogOutputStatusQuality, .Reserved7, .Reserved8, .Reserved9, .FileAuth, .FileCommand,
    .FileCommandStatus, .FileTransport, .FileTransportStatus, .FileDescriptor, .FileSpecString,
    .Reserved10, .Reserved11, .Reserved12, .ConnectState]

/-- The number of an event type: they are counted from 1. -/
def number (type : EventType) : BitVec 8 := BitVec.ofNat 8 (eventTypes.idxOf type + 1)

/-- `EventType::BeforeRange`. -/
def BeforeRange : BitVec 8 := 0#8

/-- `EventType::AfterRange`. -/
def AfterRange : BitVec 8 := 45#8

/-- The event type of a number. -/
def named (type : BitVec 8) : Option EventType :=
  if type = BeforeRange then none else eventTypes[type.toNat - 1]?

theorem named_number (type : EventType) : named (number type) = some type := by
  cases type <;> decide

theorem number_of_named {type : BitVec 8} {name : EventType} (known : named type = some name) :
    number name = type := by
  revert known
  revert type
  cases name <;> decide

/-! ## Payloads -/

/-- The types that payloads have. -/
inductive PayloadType where
  | bool | DBB | double | uint32 | CommandStatus | OctetStringBuffer | TAI | SS
  | ControlRelayOutputBlock | AO16 | AO32 | AOF | AOD | QualityFlags | char | ConnectState
deriving DecidableEq, Repr

def EventTypePayload : EventType → PayloadType
  | .Binary => .bool
  | .DoubleBitBinary => .DBB
  | .Analog => .double
  | .Counter => .uint32
  | .FrozenCounter => .uint32
  | .BinaryOutputStatus => .bool
  | .AnalogOutputStatus => .double
  | .BinaryCommandEvent => .CommandStatus
  | .AnalogCommandEvent => .CommandStatus
  | .OctetString => .OctetStringBuffer
  | .TimeAndInterval => .TAI
  | .SecurityStat => .SS
  | .ControlRelayOutputBlock => .ControlRelayOutputBlock
  | .AnalogOutputInt16 => .AO16
  | .AnalogOutputInt32 => .AO32
  | .AnalogOutputFloat32 => .AOF
  | .AnalogOutputDouble64 => .AOD
  | .BinaryQuality => .QualityFlags
  | .DoubleBitBinaryQuality => .QualityFlags
  | .AnalogQuality => .QualityFlags
  | .CounterQuality => .QualityFlags
  | .BinaryOutputStatusQuality => .QualityFlags
  | .FrozenCounterQuality => .QualityFlags
  | .AnalogOutputStatusQuality => .QualityFlags
  | .ConnectState => .ConnectState
  -- the file events and the reserved ones are stubs
  | .FileAuth => .char
  | .FileCommand => .char
  | .FileCommandStatus => .char
  | .FileTransport => .char
  | .FileTransportStatus => .char
  | .FileDescriptor => .char
  | .FileSpecString => .char
  | .Reserved1 => .char
  | .Reserved2 => .char
  | .Reserved3 => .char
  | .Reserved4 => .char
  | .Reserved5 => .char
  | .Reserved6 => .char
  | .Reserved7 => .char
  | .Reserved8 => .char
  | .Reserved9 => .char
  | .Reserved10 => .char
  | .Reserved11 => .char
  | .Reserved12 => .char

/-- The type of payload of the events of a number. -/
def payloadType (type : BitVec 8) : Option PayloadType := (named type).map EventTypePayload

structure ControlRelayOutputBlock where
  functionCode : BitVec 8 := 7#8
  count : BitVec 8 := 1#8
  onTimeMS : BitVec 32 := 100#32
  offTimeMS : BitVec 32 := 100#32
  status : BitVec 8 := 0#8
deriving DecidableEq, Repr

variable {D F : Type}

/-- A payload, by its type. -/
inductive Payload (D F : Type) where
  | bool (value : Bool)
  | DBB (first second : Bool)
  | double (value : D)
  | uint32 (value : BitVec 32)
  | CommandStatus (status : BitVec 8)
  | OctetStringBuffer (data : Bytes)
  | TAI (timestamp : BitVec 64) (interval : BitVec 32) (units : BitVec 8)
  | SS (first : BitVec 16) (second : BitVec 32)
  | ControlRelayOutputBlock (control : ControlRelayOutputBlock)
  | AO16 (value : BitVec 16) (status : BitVec 8)
  | AO32 (value : BitVec 32) (status : BitVec 8)
  | AOF (value : F) (status : BitVec 8)
  | AOD (value : D) (status : BitVec 8)
  | QualityFlags (quality : QualityFlags)
  | char (value : BitVec 8)
  | ConnectState (state : BitVec 32)
deriving DecidableEq

namespace Payload

def type : Payload D F → PayloadType
  | .bool _ => .bool
  | .DBB _ _ => .DBB
  | .double _ => .double
  | .uint32 _ => .uint32
  | .CommandStatus _ => .CommandStatus
  | .OctetStringBuffer _ => .OctetStringBuffer
  | .TAI _ _ _ => .TAI
  | .SS _ _ => .SS
  | .ControlRelayOutputBlock _ => .ControlRelayOutputBlock
  | .AO16 _ _ => .AO16
  | .AO32 _ _ => .AO32
  | .AOF _ _ => .AOF
  | .AOD _ _ => .AOD
  | .QualityFlags _ => .QualityFlags
  | .char _ => .char
  | .ConnectState _ => .ConnectState

/-- The payload that the default constructor of its type makes. -/
def default [Zero D] [Zero F] : PayloadType → Payload D F
  | .bool => .bool false
  | .DBB => .DBB false false
  | .double => .double 0
  | .uint32 => .uint32 0
  | .CommandStatus => .CommandStatus 0
  | .OctetStringBuffer => .OctetStringBuffer []
  | .TAI => .TAI 0 0 0
  | .SS => .SS 0 0
  | .ControlRelayOutputBlock => .ControlRelayOutputBlock {}
  | .AO16 => .AO16 0 0
  | .AO32 => .AO32 0 0
  | .AOF => .AOF 0 0
  | .AOD => .AOD 0 0
  | .QualityFlags => .QualityFlags 0
  | .char => .char 0
  | .ConnectState => .ConnectState 0

theorem type_default [Zero D] [Zero F] (type : PayloadType) :
    (default type : Payload D F).type = type := by
  cases type <;> rfl

end Payload

/-! ## Events -/

@[ext]
structure EventInfo (D F : Type) where
  type : BitVec 8
  index : BitVec 64 := 0#64
  sourcePort : Bytes := []
  quality : QualityFlags := Connectors.QualityFlags.ONLINE
  timestamp : BitVec 64
  payload : Option (Payload D F) := none
  /-- A payload is of the type of the events of this number. -/
  typed : ∀ value ∈ payload, payloadType type = some value.type := by simp

namespace EventInfo

/-- `SetPayload`, which is called with payloads of any type. -/
def setPayload (event : EventInfo D F) (value : Payload D F) : Except Thrown (EventInfo D F) :=
  if matching : payloadType event.type = some value.type then
    .ok { event with
      payload := some value
      typed := by
        intro other held
        cases held
        exact matching }
  else .error (.runtimeError "Wrong payload type specified for selected odc::EventInfo")

/-- `SetPayload` without a payload. -/
def setDefaultPayload [Zero D] [Zero F] (event : EventInfo D F) : Except Thrown (EventInfo D F) :=
  if event.payload.isSome then .ok event
  else
    match payloadType event.type with
    | some type => event.setPayload (Payload.default type)
    | none => .error (.runtimeError
        "odc::EventInfo default payload setter can't handle EventType::<no_string_representation>")

theorem setPayload_of_type {event : EventInfo D F} {value : Payload D F}
    (matching : payloadType event.type = some value.type) :
    ∃ set : EventInfo D F, event.setPayload value = .ok set ∧ set.type = event.type ∧
      set.index = event.index ∧ set.sourcePort = event.sourcePort ∧
      set.quality = event.quality ∧ set.timestamp = event.timestamp ∧
      set.payload = some value := by
  refine ⟨_, dif_pos matching, ?_⟩
  exact ⟨rfl, rfl, rfl, rfl, rfl, rfl⟩

end EventInfo

end OpenDataCon.Events
