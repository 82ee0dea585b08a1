import OpenDataCon.Connectors.MultiCallback
import OpenDataCon.Connectors.QualityFlags
import OpenDataCon.Foundations.FlagTranslation

/-!
# Events as DNP3 objects

An event is given to the stack as an object of the type that goes with it, and an object that is
received becomes an event. Each type has a pair of conversions, one for each direction, and each
quality enumeration a pair of loops over its flags.

The byte of flags is assigned for binary and double-bit values. For the other measurements it is
put beside the online flag that a constructor has set, so this flag is there afterwards
(`quality_beside`). A double-bit value that is neither on nor off comes back as the other such
value. `toODC_fromODC_iff` has the events that come back as they were.
-/

set_option autoImplicit false

namespace OpenDataCon.DNP3Port

open Connectors FlagTranslation

/-! ## The enumerations of the stack -/

/-- An enumeration of flags, each with a bit of its own in a byte. -/
structure QualityEnum (flags : List QualityFlag) where
  place : QualityFlag → Nat
  inByte : ∀ flag ∈ flags, place flag < 8
  distinct : ∀ first ∈ flags, ∀ second ∈ flags, place first = place second → first = second

def binaryFlags : List QualityFlag :=
  [.ONLINE, .RESTART, .COMM_LOST, .REMOTE_FORCED, .LOCAL_FORCED, .CHATTER_FILTER]

def analogFlags : List QualityFlag :=
  [.ONLINE, .RESTART, .COMM_LOST, .REMOTE_FORCED, .LOCAL_FORCED, .OVERRANGE, .REFERENCE_ERR]

def counterFlags : List QualityFlag :=
  [.ONLINE, .RESTART, .COMM_LOST, .REMOTE_FORCED, .LOCAL_FORCED, .ROLLOVER, .DISCONTINUITY]

def binaryOutputStatusFlags : List QualityFlag :=
  [.ONLINE, .RESTART, .COMM_LOST, .REMOTE_FORCED, .LOCAL_FORCED]

inductive OperationType where
  | NUL | PULSE_ON | PULSE_OFF | LATCH_ON | LATCH_OFF | Undefined
deriving DecidableEq, Repr

/-- What is taken from the stack: the flags of its quality enumerations, with the bits for the
state of a value, and the codes of the operations. -/
structure Opendnp3 where
  to_type : OperationType → BitVec 8
  BinaryQuality : QualityEnum binaryFlags
  STATE : Nat
  state_other : ∀ flag ∈ binaryFlags, BinaryQuality.place flag ≠ STATE
  DoubleBitBinaryQuality : QualityEnum binaryFlags
  STATE1 : Nat
  state1_other : ∀ flag ∈ binaryFlags, DoubleBitBinaryQuality.place flag ≠ STATE1
  STATE2 : Nat
  state2_other : ∀ flag ∈ binaryFlags, DoubleBitBinaryQuality.place flag ≠ STATE2
  AnalogQuality : QualityEnum analogFlags
  CounterQuality : QualityEnum counterFlags
  BinaryOutputStatusQuality : QualityEnum binaryOutputStatusFlags

inductive DoubleBit where
  | INTERMEDIATE | DETERMINED_OFF | DETERMINED_ON | INDETERMINATE
deriving DecidableEq, Repr

inductive TripCloseCode where
  | NUL | CLOSE | TRIP | RESERVED
deriving DecidableEq, Repr

/-- The stack's own statuses of commands. -/
inductive DNP3CommandStatus where
  | SUCCESS | TIMEOUT | NO_SELECT | FORMAT_ERROR | NOT_SUPPORTED | ALREADY_ACTIVE
  | HARDWARE_ERROR | LOCAL | TOO_MANY_OPS | NOT_AUTHORIZED | AUTOMATION_INHIBIT
  | PROCESSING_LIMITED | OUT_OF_RANGE | DOWNSTREAM_LOCAL | ALREADY_COMPLETE | BLOCKED
  | CANCELLED | BLOCKED_OTHER_MASTER | DOWNSTREAM_FAIL | NON_PARTICIPATING | UNDEFINED
deriving DecidableEq, Repr

/-! ## Objects and events -/

/-- A measurement of the stack. -/
structure TypedMeasurement (α : Type) where
  value : α
  flags : BitVec 8 := 0#8
  time : BitVec 64 := 0#64

/-- The constructor from a value alone sets the online flag. -/
def TypedMeasurement.ofValue {α : Type} {flags : List QualityFlag} (quality : QualityEnum flags)
    (value : α) : TypedMeasurement α where
  value := value
  flags := 1#8 <<< quality.place .ONLINE

/-- `Flags::Set`. -/
def TypedMeasurement.set {α : Type} (dnp3 : TypedMeasurement α) (flags : BitVec 8) :
    TypedMeasurement α :=
  { dnp3 with flags := dnp3.flags ||| flags }

structure DNP3ControlRelayOutputBlock where
  opType : OperationType
  tcc : TripCloseCode
  rawCode : BitVec 8
  count : BitVec 8
  onTimeMS : BitVec 32
  offTimeMS : BitVec 32
  status : DNP3CommandStatus
deriving DecidableEq, Repr

inductive ControlCode where
  | NUL | PULSE_ON | PULSE_OFF | LATCH_ON | LATCH_OFF | CLOSE_PULSE_ON | TRIP_PULSE_ON | UNDEFINED
deriving DecidableEq, Repr

structure ControlRelayOutputBlock where
  functionCode : ControlCode := .LATCH_ON
  count : BitVec 8 := 1#8
  onTimeMS : BitVec 32 := 100#32
  offTimeMS : BitVec 32 := 100#32
  status : CommandStatus := .SUCCESS
deriving DecidableEq, Repr

variable {D F : Type}

/-- The objects of the stack, over its doubles and floats. -/
inductive DNP3Object (D F : Type) where
  | Binary (dnp3 : TypedMeasurement Bool)
  | DoubleBitBinary (dnp3 : TypedMeasurement DoubleBit)
  | Analog (dnp3 : TypedMeasurement D)
  | Counter (dnp3 : TypedMeasurement (BitVec 32))
  | FrozenCounter (dnp3 : TypedMeasurement (BitVec 32))
  | BinaryOutputStatus (dnp3 : TypedMeasurement Bool)
  | AnalogOutputStatus (dnp3 : TypedMeasurement D)
  | ControlRelayOutputBlock (dnp3 : DNP3ControlRelayOutputBlock)
  | AnalogOutputInt16 (value : BitVec 16) (status : DNP3CommandStatus)
  | AnalogOutputInt32 (value : BitVec 32) (status : DNP3CommandStatus)
  | AnalogOutputFloat32 (value : F) (status : DNP3CommandStatus)
  | AnalogOutputDouble64 (value : D) (status : DNP3CommandStatus)

/-- The payloads of the events that are converted, one for each type of event. -/
inductive Payload (D F : Type) where
  | Binary (value : Bool)
  | DoubleBitBinary (value : Bool × Bool)
  | Analog (value : D)
  | Counter (value : BitVec 32)
  | FrozenCounter (value : BitVec 32)
  | BinaryOutputStatus (value : Bool)
  | AnalogOutputStatus (value : D)
  | ControlRelayOutputBlock (control : ControlRelayOutputBlock)
  | AnalogOutputInt16 (control : BitVec 16 × CommandStatus)
  | AnalogOutputInt32 (control : BitVec 32 × CommandStatus)
  | AnalogOutputFloat32 (control : F × CommandStatus)
  | AnalogOutputDouble64 (control : D × CommandStatus)

structure EventInfo (D F : Type) where
  index : Nat
  sourcePort : String
  timestamp : BitVec 64
  quality : QualityFlags
  payload : Payload D F

/-! ## Statuses -/

/-- `ToODC` of a status. -/
def statusToODC : DNP3CommandStatus → CommandStatus
  | .SUCCESS => .SUCCESS
  | .TIMEOUT => .TIMEOUT
  | .NO_SELECT => .NO_SELECT
  | .FORMAT_ERROR => .FORMAT_ERROR
  | .NOT_SUPPORTED => .NOT_SUPPORTED
  | .ALREADY_ACTIVE => .ALREADY_ACTIVE
  | .HARDWARE_ERROR => .HARDWARE_ERROR
  | .LOCAL => .LOCAL
  | .TOO_MANY_OPS => .TOO_MANY_OPS
  | .NOT_AUTHORIZED => .NOT_AUTHORIZED
  | .AUTOMATION_INHIBIT => .AUTOMATION_INHIBIT
  | .PROCESSING_LIMITED => .PROCESSING_LIMITED
  | .OUT_OF_RANGE => .OUT_OF_RANGE
  | .DOWNSTREAM_LOCAL => .DOWNSTREAM_LOCAL
  | .ALREADY_COMPLETE => .ALREADY_COMPLETE
  | .BLOCKED => .BLOCKED
  | .CANCELLED => .CANCELLED
  | .BLOCKED_OTHER_MASTER => .BLOCKED_OTHER_MASTER
  | .DOWNSTREAM_FAIL => .DOWNSTREAM_FAIL
  | .NON_PARTICIPATING => .NON_PARTICIPATING
  | .UNDEFINED => .UNDEFINED

/-- `FromODC` of a status. -/
def statusFromODC : CommandStatus → DNP3CommandStatus
  | .SUCCESS => .SUCCESS
  | .TIMEOUT => .TIMEOUT
  | .NO_SELECT => .NO_SELECT
  | .FORMAT_ERROR => .FORMAT_ERROR
  | .NOT_SUPPORTED => .NOT_SUPPORTED
  | .ALREADY_ACTIVE => .ALREADY_ACTIVE
  | .HARDWARE_ERROR => .HARDWARE_ERROR
  | .LOCAL => .LOCAL
  | .TOO_MANY_OPS => .TOO_MANY_OPS
  | .NOT_AUTHORIZED => .NOT_AUTHORIZED
  | .AUTOMATION_INHIBIT => .AUTOMATION_INHIBIT
  | .PROCESSING_LIMITED => .PROCESSING_LIMITED
  | .OUT_OF_RANGE => .OUT_OF_RANGE
  | .DOWNSTREAM_LOCAL => .DOWNSTREAM_LOCAL
  | .ALREADY_COMPLETE => .ALREADY_COMPLETE
  | .BLOCKED => .BLOCKED
  | .CANCELLED => .CANCELLED
  | .BLOCKED_OTHER_MASTER => .BLOCKED_OTHER_MASTER
  | .DOWNSTREAM_FAIL => .DOWNSTREAM_FAIL
  | .NON_PARTICIPATING => .NON_PARTICIPATING
  | .UNDEFINED => .UNDEFINED

/-! ## Flags -/

section Qualities

variable (opendnp3 : Opendnp3)

/-- The flags of a byte that are set, looked for in the order of a list. -/
def QualityEnum.toODC {flags : List QualityFlag} (quality : QualityEnum flags)
    (order : List QualityFlag) (dnp3 : BitVec 8) : QualityFlags :=
  translate 8 16 quality.place QualityFlag.place order dnp3

/-- The byte for the flags that are set. -/
def QualityEnum.fromODC {flags : List QualityFlag} (quality : QualityEnum flags)
    (qual : QualityFlags) : BitVec 8 :=
  translate 16 8 QualityFlag.place quality.place flags qual

def binaryQuality (dnp3 : BitVec 8) : QualityFlags :=
  opendnp3.BinaryQuality.toODC
    [.CHATTER_FILTER, .COMM_LOST, .LOCAL_FORCED, .ONLINE, .REMOTE_FORCED, .RESTART] dnp3

def doubleBitBinaryQuality (dnp3 : BitVec 8) : QualityFlags :=
  opendnp3.DoubleBitBinaryQuality.toODC
    [.CHATTER_FILTER, .COMM_LOST, .LOCAL_FORCED, .ONLINE, .REMOTE_FORCED, .RESTART] dnp3

/-- The flags of an analog value and of an analog output status. -/
def analogQuality (dnp3 : BitVec 8) : QualityFlags :=
  opendnp3.AnalogQuality.toODC
    [.OVERRANGE, .COMM_LOST, .LOCAL_FORCED, .ONLINE, .REMOTE_FORCED, .RESTART, .REFERENCE_ERR] dnp3

/-- The flags of a counter and of a frozen counter. -/
def counterQuality (dnp3 : BitVec 8) : QualityFlags :=
  opendnp3.CounterQuality.toODC
    [.COMM_LOST, .LOCAL_FORCED, .ONLINE, .REMOTE_FORCED, .RESTART, .ROLLOVER, .DISCONTINUITY] dnp3

def binaryOutputStatusQuality (dnp3 : BitVec 8) : QualityFlags :=
  opendnp3.BinaryOutputStatusQuality.toODC
    [.COMM_LOST, .LOCAL_FORCED, .ONLINE, .REMOTE_FORCED, .RESTART] dnp3

end Qualities

/-! ## From events -/

section FromODC

variable (opendnp3 : Opendnp3) (timestamp : BitVec 64) (quality : QualityFlags)

/-- The state is set again in the flags. -/
def binaryFromODC (value : Bool) : TypedMeasurement Bool :=
  let dnp3 : TypedMeasurement Bool := { value, flags := opendnp3.BinaryQuality.fromODC quality }
  let dnp3 := if value then dnp3.set (1#8 <<< opendnp3.STATE) else dnp3
  { dnp3 with time := timestamp }

def doubleBitBinaryFromODC (val : Bool × Bool) : TypedMeasurement DoubleBit :=
  let value : DoubleBit :=
    if val.1 ≠ val.2 ∧ val.1 = true then .DETERMINED_ON
    else if val.1 ≠ val.2 ∧ val.2 = true then .DETERMINED_OFF
    else .INDETERMINATE
  let dnp3 : TypedMeasurement DoubleBit :=
    { value, flags := opendnp3.DoubleBitBinaryQuality.fromODC quality }
  let dnp3 := if val.1 then dnp3.set (1#8 <<< opendnp3.STATE1) else dnp3
  let dnp3 := if val.2 then dnp3.set (1#8 <<< opendnp3.STATE2) else dnp3
  { dnp3 with time := timestamp }

/-- The other measurements: the flags are set beside those of the constructor. -/
def measurementFromODC {α : Type} {flags : List QualityFlag} (enumeration : QualityEnum flags)
    (value : α) : TypedMeasurement α :=
  { (TypedMeasurement.ofValue enumeration value).set (enumeration.fromODC quality) with
    time := timestamp }

def controlFromODC (control : ControlRelayOutputBlock) : DNP3ControlRelayOutputBlock :=
  let code : OperationType × TripCloseCode :=
    match control.functionCode with
    | .NUL => (.NUL, .NUL)
    | .PULSE_ON => (.PULSE_ON, .NUL)
    | .PULSE_OFF => (.PULSE_OFF, .NUL)
    | .LATCH_ON => (.LATCH_ON, .NUL)
    | .LATCH_OFF => (.LATCH_OFF, .NUL)
    | .CLOSE_PULSE_ON => (.PULSE_ON, .CLOSE)
    | .TRIP_PULSE_ON => (.PULSE_ON, .TRIP)
    | .UNDEFINED => (.Undefined, .NUL)
  { opType := code.1
    tcc := code.2
    rawCode := opendnp3.to_type code.1
    count := control.count
    onTimeMS := control.onTimeMS
    offTimeMS := control.offTimeMS
    status := statusFromODC control.status }

end FromODC

/-- `FromODC`, to the object that goes with the type of an event. -/
def fromODC (opendnp3 : Opendnp3) (event : EventInfo D F) : DNP3Object D F :=
  let timestamp := event.timestamp
  let quality := event.quality
  match event.payload with
  | .Binary value => .Binary (binaryFromODC opendnp3 timestamp quality value)
  | .DoubleBitBinary val =>
    .DoubleBitBinary (doubleBitBinaryFromODC opendnp3 timestamp quality val)
  | .Analog value => .Analog (measurementFromODC timestamp quality opendnp3.AnalogQuality value)
  | .Counter value => .Counter (measurementFromODC timestamp quality opendnp3.CounterQuality value)
  | .FrozenCounter value =>
    .FrozenCounter (measurementFromODC timestamp quality opendnp3.CounterQuality value)
  | .BinaryOutputStatus value =>
    .BinaryOutputStatus
      (measurementFromODC timestamp quality opendnp3.BinaryOutputStatusQuality value)
  | .AnalogOutputStatus value =>
    .AnalogOutputStatus (measurementFromODC timestamp quality opendnp3.AnalogQuality value)
  | .ControlRelayOutputBlock control => .ControlRelayOutputBlock (controlFromODC opendnp3 control)
  | .AnalogOutputInt16 control => .AnalogOutputInt16 control.1 (statusFromODC control.2)
  | .AnalogOutputInt32 control => .AnalogOutputInt32 control.1 (statusFromODC control.2)
  | .AnalogOutputFloat32 control => .AnalogOutputFloat32 control.1 (statusFromODC control.2)
  | .AnalogOutputDouble64 control => .AnalogOutputDouble64 control.1 (statusFromODC control.2)

/-! ## To events -/

def doubleBitToODC : DoubleBit → Bool × Bool
  | .INTERMEDIATE => (false, false)
  | .DETERMINED_OFF => (false, true)
  | .DETERMINED_ON => (true, false)
  | .INDETERMINATE => (true, true)

def controlToODC (dnp3 : DNP3ControlRelayOutputBlock) : ControlRelayOutputBlock where
  functionCode :=
    match dnp3.opType with
    | .LATCH_ON => .LATCH_ON
    | .LATCH_OFF => .LATCH_OFF
    | .PULSE_ON =>
      if dnp3.tcc = .TRIP then .TRIP_PULSE_ON
      else if dnp3.tcc = .CLOSE then .CLOSE_PULSE_ON
      else .PULSE_ON
    | .PULSE_OFF => .PULSE_OFF
    | .NUL => .NUL
    | .Undefined => .UNDEFINED
  count := dnp3.count
  onTimeMS := dnp3.onTimeMS
  offTimeMS := dnp3.offTimeMS
  status := statusToODC dnp3.status

section ToODC

variable (opendnp3 : Opendnp3) (ind : Nat) (source : String)

/-- The event for a measurement. -/
def measurementToODC {α : Type} (dnp3 : TypedMeasurement α) (quality : BitVec 8 → QualityFlags)
    (payload : α → Payload D F) : EventInfo D F where
  index := ind
  sourcePort := source
  timestamp := dnp3.time
  quality := quality dnp3.flags
  payload := payload dnp3.value

/-- The event for a control, which has no quality and the current time. -/
def commandToODC (now : BitVec 64) (payload : Payload D F) : EventInfo D F where
  index := ind
  sourcePort := source
  timestamp := now
  quality := QualityFlags.NONE
  payload := payload

/-- `ToODC`. -/
def toODC (now : BitVec 64) : DNP3Object D F → EventInfo D F
  | .Binary dnp3 => measurementToODC ind source dnp3 (binaryQuality opendnp3) .Binary
  | .DoubleBitBinary dnp3 =>
    measurementToODC ind source dnp3 (doubleBitBinaryQuality opendnp3)
      fun value => .DoubleBitBinary (doubleBitToODC value)
  | .Analog dnp3 => measurementToODC ind source dnp3 (analogQuality opendnp3) .Analog
  | .Counter dnp3 => measurementToODC ind source dnp3 (counterQuality opendnp3) .Counter
  | .FrozenCounter dnp3 =>
    measurementToODC ind source dnp3 (counterQuality opendnp3) .FrozenCounter
  | .BinaryOutputStatus dnp3 =>
    measurementToODC ind source dnp3 (binaryOutputStatusQuality opendnp3) .BinaryOutputStatus
  | .AnalogOutputStatus dnp3 =>
    measurementToODC ind source dnp3 (analogQuality opendnp3) .AnalogOutputStatus
  | .ControlRelayOutputBlock dnp3 =>
    commandToODC ind source now (.ControlRelayOutputBlock (controlToODC dnp3))
  | .AnalogOutputInt16 value status =>
    commandToODC ind source now (.AnalogOutputInt16 (value, statusToODC status))
  | .AnalogOutputInt32 value status =>
    commandToODC ind source now (.AnalogOutputInt32 (value, statusToODC status))
  | .AnalogOutputFloat32 value status =>
    commandToODC ind source now (.AnalogOutputFloat32 (value, statusToODC status))
  | .AnalogOutputDouble64 value status =>
    commandToODC ind source now (.AnalogOutputDouble64 (value, statusToODC status))

end ToODC

/-! ## There and back -/

/-- The flags of the object for an event; a control has none. -/
def Payload.flags : Payload D F → Option (List QualityFlag)
  | .Binary _ | .DoubleBitBinary _ => some binaryFlags
  | .Analog _ | .AnalogOutputStatus _ => some analogFlags
  | .Counter _ | .FrozenCounter _ => some counterFlags
  | .BinaryOutputStatus _ => some binaryOutputStatusFlags
  | _ => none

/-- An event is the one before: with its index and payload, and if it is a measurement with its
time and those of its flags that the object can hold. -/
structure Preserved (before after : EventInfo D F) : Prop where
  index : after.index = before.index
  sourcePort : after.sourcePort = before.sourcePort
  payload : after.payload = before.payload
  time : ∀ flags ∈ before.payload.flags, after.timestamp = before.timestamp
  quality : ∀ flags ∈ before.payload.flags,
    after.quality = before.quality &&& mask 16 QualityFlag.place flags

def IsOnline (quality : QualityFlags) : Prop := quality &&& QualityFlags.ONLINE ≠ QualityFlags.NONE

/-- The events that come back as they were: a double-bit value is on or off or both, and the
measurements with a constructor from their value are online. -/
def Converts (event : EventInfo D F) : Prop :=
  match event.payload with
  | .DoubleBitBinary value => value ≠ (false, false)
  | .Analog _ | .Counter _ | .FrozenCounter _ | .BinaryOutputStatus _ | .AnalogOutputStatus _ =>
    IsOnline event.quality
  | _ => True

section Enumerations

variable {flags order : List QualityFlag} (enumeration : QualityEnum flags)
  (same : ∀ flag, flag ∈ order ↔ flag ∈ flags)

include same in
/-- **A byte made from flags has those that it can hold.** -/
theorem quality_fromODC (qual : QualityFlags) :
    enumeration.toODC order (enumeration.fromODC qual) =
      qual &&& mask 16 QualityFlag.place flags := by
  refine translate_translate ?_ same enumeration.inByte enumeration.distinct qual
  intro flag _
  exact flag.place_lt

include same in
theorem quality_inByte : ∀ flag ∈ order, enumeration.place flag < 8 := by
  intro flag member
  exact enumeration.inByte flag ((same flag).mp member)

include same in
/-- Beside the online flag of a constructor, the online flag is among them. -/
theorem quality_beside (online : .ONLINE ∈ flags) (qual : QualityFlags) :
    enumeration.toODC order
        (1#8 <<< enumeration.place .ONLINE ||| enumeration.fromODC qual) =
      QualityFlags.ONLINE ||| (qual &&& mask 16 QualityFlag.place flags) := by
  rw [QualityEnum.toODC, translate_or (quality_inByte enumeration same)]
  refine congrArg₂ _ ?_ (quality_fromODC enumeration same qual)
  refine translate_flag (quality_inByte enumeration same) ?_ ((same _).mpr online)
  intro flag member other otherMember place
  exact enumeration.distinct flag ((same flag).mp member) other ((same other).mp otherMember) place

include same in
/-- A bit for the state of a value is not among them. -/
theorem quality_state {state : Nat} (other : ∀ flag ∈ flags, enumeration.place flag ≠ state)
    (dnp3 : BitVec 8) :
    enumeration.toODC order (dnp3 ||| (1#8 <<< state)) = enumeration.toODC order dnp3 := by
  rw [QualityEnum.toODC, translate_or (quality_inByte enumeration same), translate_other,
    BitVec.or_zero]
  · rfl
  · exact quality_inByte enumeration same
  · intro flag member
    exact other flag ((same flag).mp member)

end Enumerations

/-- The online flag changes nothing exactly where it is. -/
theorem online_or_eq_iff {flags : List QualityFlag} (online : .ONLINE ∈ flags)
    (quality : QualityFlags) :
    QualityFlags.ONLINE ||| (quality &&& mask 16 QualityFlag.place flags) =
        quality &&& mask 16 QualityFlag.place flags ↔ IsOnline quality := by
  have named : (mask 16 QualityFlag.place flags).getLsbD QualityFlag.ONLINE.place = true :=
    (getLsbD_mask (by decide)).mpr ⟨_, online, rfl⟩
  rw [IsOnline, QualityFlags.ONLINE, QualityFlags.NONE, and_flag_ne_zero (by decide)]
  constructor
  · intro unchanged
    have bit := congrArg (·.getLsbD QualityFlag.ONLINE.place) unchanged
    rw [BitVec.getLsbD_or, (getLsbD_flag (by decide)).mpr rfl, Bool.true_or, BitVec.getLsbD_and,
      named, Bool.and_true] at bit
    exact bit.symm
  · intro set
    apply ext_of_set
    intro k below
    rw [BitVec.getLsbD_or, Bool.or_eq_true, getLsbD_flag below, or_iff_right_iff_imp]
    rintro rfl
    rw [BitVec.getLsbD_and, set, named]
    rfl

theorem statusToODC_statusFromODC (status : CommandStatus) :
    statusToODC (statusFromODC status) = status := by
  cases status <;> rfl

theorem controlToODC_controlFromODC (opendnp3 : Opendnp3) (control : ControlRelayOutputBlock) :
    controlToODC (controlFromODC opendnp3 control) = control := by
  obtain ⟨functionCode, count, onTimeMS, offTimeMS, status⟩ := control
  cases functionCode <;>
    simp [controlToODC, controlFromODC, statusToODC_statusFromODC]

/-- Neither on nor off comes back as both. -/
theorem doubleBit_back (opendnp3 : Opendnp3) (timestamp : BitVec 64) (quality : QualityFlags)
    (val : Bool × Bool) :
    doubleBitToODC (doubleBitBinaryFromODC opendnp3 timestamp quality val).value = val ↔
      val ≠ (false, false) := by
  obtain ⟨first, second⟩ := val
  cases first <;> cases second <;> simp [doubleBitToODC, doubleBitBinaryFromODC, TypedMeasurement.set]

section Preserved

variable (opendnp3 : Opendnp3) (event : EventInfo D F)

/-- A measurement is preserved when its value and its flags are. -/
theorem preserved_measurement_iff {α : Type} {flags : List QualityFlag}
    (measured : event.payload.flags = some flags) {dnp3 : TypedMeasurement α}
    (time : dnp3.time = event.timestamp) (quality : BitVec 8 → QualityFlags)
    (payload : α → Payload D F) :
    Preserved event (measurementToODC event.index event.sourcePort dnp3 quality payload) ↔
      payload dnp3.value = event.payload ∧
        quality dnp3.flags = event.quality &&& mask 16 QualityFlag.place flags := by
  constructor
  · intro preserved
    exact ⟨preserved.payload, preserved.quality flags measured⟩
  · rintro ⟨value, held⟩
    refine ⟨rfl, rfl, value, ?_, ?_⟩
    · intro _ _
      exact time
    · intro others named
      obtain rfl := Option.some.inj (measured.symm.trans named)
      exact held

/-- A measurement whose flags are put beside those of the constructor is preserved when it is
online. -/
theorem preserved_beside_iff {α : Type} {flags order : List QualityFlag}
    (measured : event.payload.flags = some flags) (enumeration : QualityEnum flags)
    (same : ∀ flag, flag ∈ order ↔ flag ∈ flags) (online : .ONLINE ∈ flags)
    {payload : α → Payload D F} {value : α} (carried : event.payload = payload value) :
    Preserved event (measurementToODC event.index event.sourcePort
        (measurementFromODC event.timestamp event.quality enumeration value)
        (enumeration.toODC order) payload) ↔ IsOnline event.quality := by
  have time : (measurementFromODC event.timestamp event.quality enumeration value).time =
      event.timestamp := rfl
  have held : payload (measurementFromODC event.timestamp event.quality enumeration value).value =
      event.payload := carried.symm
  rw [preserved_measurement_iff event measured time, and_iff_right held,
    ← online_or_eq_iff online, ← quality_beside enumeration same online]
  rfl

/-- A control is preserved when its payload is. -/
theorem preserved_command (control : event.payload.flags = none) (now : BitVec 64)
    {payload : Payload D F} (same : payload = event.payload) :
    Preserved event (commandToODC event.index event.sourcePort now payload) := by
  refine ⟨rfl, rfl, same, ?_, ?_⟩
  · intro flags named
    rw [control] at named
    cases named
  · intro flags named
    rw [control] at named
    cases named

theorem binary_flags (timestamp : BitVec 64) (quality : QualityFlags) (value : Bool) :
    binaryQuality opendnp3 (binaryFromODC opendnp3 timestamp quality value).flags =
      quality &&& mask 16 QualityFlag.place binaryFlags := by
  have order : ∀ flag, flag ∈ [QualityFlag.CHATTER_FILTER, .COMM_LOST, .LOCAL_FORCED, .ONLINE,
      .REMOTE_FORCED, .RESTART] ↔ flag ∈ binaryFlags := by
    intro flag
    cases flag <;> decide
  rw [← quality_fromODC opendnp3.BinaryQuality order]
  cases value with
  | false => rfl
  | true => exact quality_state opendnp3.BinaryQuality order opendnp3.state_other _

theorem doubleBit_flags (timestamp : BitVec 64) (quality : QualityFlags) (val : Bool × Bool) :
    doubleBitBinaryQuality opendnp3
        (doubleBitBinaryFromODC opendnp3 timestamp quality val).flags =
      quality &&& mask 16 QualityFlag.place binaryFlags := by
  have order : ∀ flag, flag ∈ [QualityFlag.CHATTER_FILTER, .COMM_LOST, .LOCAL_FORCED, .ONLINE,
      .REMOTE_FORCED, .RESTART] ↔ flag ∈ binaryFlags := by
    intro flag
    cases flag <;> decide
  have first := quality_state opendnp3.DoubleBitBinaryQuality order opendnp3.state1_other
  have second := quality_state opendnp3.DoubleBitBinaryQuality order opendnp3.state2_other
  rw [← quality_fromODC opendnp3.DoubleBitBinaryQuality order]
  obtain ⟨one, two⟩ := val
  cases one with
  | false =>
      cases two with
      | false => rfl
      | true => exact second _
  | true =>
      cases two with
      | false => exact first _
      | true => exact (second _).trans (first _)

/-- **DNP3 conversions.** For every event of these types, with any payload, time and flags, the
event that comes back has its index and payload and, if it is a measurement, its time and exactly
those of its flags that the object can hold, if and only if it is not a double-bit value that is
neither on nor off, and not a measurement of the other types that is offline. -/
theorem toODC_fromODC_iff (now : BitVec 64) :
    Preserved event (toODC opendnp3 event.index event.sourcePort now (fromODC opendnp3 event)) ↔
      Converts event := by
  obtain ⟨index, sourcePort, timestamp, quality, payload⟩ := event
  have analog : ∀ flag, flag ∈ [QualityFlag.OVERRANGE, .COMM_LOST, .LOCAL_FORCED, .ONLINE,
      .REMOTE_FORCED, .RESTART, .REFERENCE_ERR] ↔ flag ∈ analogFlags := by
    intro flag
    cases flag <;> decide
  have counter : ∀ flag, flag ∈ [QualityFlag.COMM_LOST, .LOCAL_FORCED, .ONLINE, .REMOTE_FORCED,
      .RESTART, .ROLLOVER, .DISCONTINUITY] ↔ flag ∈ counterFlags := by
    intro flag
    cases flag <;> decide
  have binaryOutputStatus : ∀ flag, flag ∈ [QualityFlag.COMM_LOST, .LOCAL_FORCED, .ONLINE,
      .REMOTE_FORCED, .RESTART] ↔ flag ∈ binaryOutputStatusFlags := by
    intro flag
    cases flag <;> decide
  cases payload with
  | Binary value =>
      refine (preserved_measurement_iff _ rfl ?_ _ _).trans (iff_of_true ⟨?_, ?_⟩ trivial)
      · cases value <;> rfl
      · cases value <;> rfl
      · exact binary_flags opendnp3 timestamp quality value
  | DoubleBitBinary value =>
      have time : (doubleBitBinaryFromODC opendnp3 timestamp quality value).time = timestamp := by
        obtain ⟨one, two⟩ := value
        cases one <;> cases two <;> rfl
      refine (preserved_measurement_iff ⟨index, sourcePort, timestamp, quality, _⟩ rfl time _
        fun dnp3 => .DoubleBitBinary (doubleBitToODC dnp3)).trans ?_
      rw [and_iff_left (doubleBit_flags opendnp3 timestamp quality value),
        Payload.DoubleBitBinary.injEq, doubleBit_back]
      rfl
  | Analog value =>
      exact preserved_beside_iff _ rfl opendnp3.AnalogQuality analog (by decide) rfl
  | Counter value =>
      exact preserved_beside_iff _ rfl opendnp3.CounterQuality counter (by decide) rfl
  | FrozenCounter value =>
      exact preserved_beside_iff _ rfl opendnp3.CounterQuality counter (by decide) rfl
  | BinaryOutputStatus value =>
      exact preserved_beside_iff _ rfl opendnp3.BinaryOutputStatusQuality binaryOutputStatus
        (by decide) rfl
  | AnalogOutputStatus value =>
      exact preserved_beside_iff _ rfl opendnp3.AnalogQuality analog (by decide) rfl
  | ControlRelayOutputBlock control =>
      refine iff_of_true (preserved_command _ rfl now ?_) trivial
      rw [controlToODC_controlFromODC]
  | AnalogOutputInt16 control =>
      refine iff_of_true (preserved_command _ rfl now ?_) trivial
      rw [statusToODC_statusFromODC]
  | AnalogOutputInt32 control =>
      refine iff_of_true (preserved_command _ rfl now ?_) trivial
      rw [statusToODC_statusFromODC]
  | AnalogOutputFloat32 control =>
      refine iff_of_true (preserved_command _ rfl now ?_) trivial
      rw [statusToODC_statusFromODC]
  | AnalogOutputDouble64 control =>
      refine iff_of_true (preserved_command _ rfl now ?_) trivial
      rw [statusToODC_statusFromODC]

end Preserved

/-- The flags of the DNP3 objects. -/
def objectFlags : Opendnp3 where
  to_type
    | .NUL => 0#8
    | .PULSE_ON => 1#8
    | .PULSE_OFF => 2#8
    | .LATCH_ON => 3#8
    | .LATCH_OFF => 4#8
    | .Undefined => 255#8
  BinaryQuality :=
    { place := fun flag => if flag = .CHATTER_FILTER then 5 else flag.place
      inByte := by decide
      distinct := by decide }
  STATE := 7
  state_other := by decide
  DoubleBitBinaryQuality :=
    { place := fun flag => if flag = .CHATTER_FILTER then 5 else flag.place
      inByte := by decide
      distinct := by decide }
  STATE1 := 6
  state1_other := by decide
  STATE2 := 7
  state2_other := by decide
  AnalogQuality := { place := QualityFlag.place, inByte := by decide, distinct := by decide }
  CounterQuality :=
    { place := fun flag =>
        if flag = .ROLLOVER then 5 else if flag = .DISCONTINUITY then 6 else flag.place
      inByte := by decide
      distinct := by decide }
  BinaryOutputStatusQuality :=
    { place := QualityFlag.place, inByte := by decide, distinct := by decide }

/-- A lost counter comes back online, and a double-bit value that is neither on nor off as both. -/
theorem toODC_fromODC_apart :
    (¬Preserved (D := Unit) (F := Unit) ⟨3, "port", 1000#64, QualityFlags.COMM_LOST, .Counter 7#32⟩
      (toODC objectFlags 3 "port" 0#64 (fromODC objectFlags
        ⟨3, "port", 1000#64, QualityFlags.COMM_LOST, .Counter 7#32⟩))) ∧
    ¬Preserved (D := Unit) (F := Unit)
      ⟨3, "port", 1000#64, QualityFlags.ONLINE, .DoubleBitBinary (false, false)⟩
      (toODC objectFlags 3 "port" 0#64 (fromODC objectFlags
        ⟨3, "port", 1000#64, QualityFlags.ONLINE, .DoubleBitBinary (false, false)⟩)) := by
  constructor
  · intro preserved
    have held := preserved.quality counterFlags rfl
    revert held
    decide
  · intro preserved
    cases preserved.payload

end OpenDataCon.DNP3Port
