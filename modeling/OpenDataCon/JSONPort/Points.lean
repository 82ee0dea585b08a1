import OpenDataCon.Connectors.QualityFlags
import OpenDataCon.Connectors.Transforms
import OpenDataCon.Foundations.Loops
import OpenDataCon.JSON.Values
import OpenDataCon.MD3Port.Controls

/-!
# Messages at a JSON port

`JSONPort::ProcessBraced` reads a text as a JSON value and looks for the points that are
configured: the path of a point leads through objects to a value, which the point's type
decodes. Measurements are decoded first and published together; controls are published
one by one.
-/

set_option autoImplicit false

namespace OpenDataCon.JSONPort

open Connectors Exceptions JSON Outcome
open FileTransfer (Bytes ascii isDigit stoul)
open MD3Port (ControlCode ControlRelayOutputBlock)

/-! ## Points and events -/

/-- The index of a point has 16 bits. -/
abbrev Index := Fin (2 ^ 16)

/-- The configuration of a point: the members of an object. -/
abbrev Point (D : Type) := List (Bytes × Value D)

/-- Points by their index, in its order. -/
structure PointMap (D : Type) where
  points : List (Index × Point D)
  sorted : (points.map Prod.fst).Pairwise (· < ·)

namespace PointMap

variable {D : Type}

def empty : PointMap D := ⟨[], .nil⟩

def single (index : Index) (point : Point D) : PointMap D :=
  ⟨[(index, point)], List.pairwise_singleton _ _⟩

end PointMap

structure JSONPointConf (D : Type) where
  Binaries : PointMap D := .empty
  Analogs : PointMap D := .empty
  OctetStrings : PointMap D := .empty
  Controls : PointMap D := .empty
  AnalogControls : PointMap D := .empty
  TimestampPath : Value D := .null

structure Port (D : Type) where
  name : String
  pointConf : JSONPointConf D
  /-- Whether there is a logger, whatever its level. -/
  logging : Bool := true

inductive Payload (D : Type) where
  | Analog (value : D)
  | Binary (value : Bool)
  | OctetString (data : Bytes)
  | ControlRelayOutputBlock (command : ControlRelayOutputBlock)
  | AnalogOutputInt16 (value : BitVec 16) (status : CommandStatus)

def Payload.type {D : Type} : Payload D → EventType
  | .Analog _ => .Analog
  | .Binary _ => .Binary
  | .OctetString _ => .OctetString
  | .ControlRelayOutputBlock _ => .ControlRelayOutputBlock
  | .AnalogOutputInt16 _ _ => .AnalogOutputInt16

structure Event (D : Type) where
  index : Index
  sourcePort : String
  quality : QualityFlags
  timestamp : BitVec 64
  payload : Payload D

def OVERRANGE : QualityFlags := 1#16 <<< QualityFlag.OVERRANGE.place

variable {D : Type} [Doubles D]

/-! ## Paths -/

/-- The path of a point leads on from an object to an object. -/
def walk : Value D → List (Value D) → Except Thrown (Value D)
  | val, [] => .ok val
  | val, node :: nodes => do
    let key ← node.asCString
    let next ← val.member key
    if next.isNull then .ok next else walk next nodes

/-- `TraversePath`. -/
def traversePath (JSONRoot nodes : Value D) : Except Thrown (Value D) := do
  walk JSONRoot (← nodes.elements)

/-- The value of a point whose path exists goes to its decoder. -/
def atPath {α : Type} (JSONRoot : Value D) (point : Point D) (missing : α)
    (decode : Value D → Except Thrown α) : Except Thrown α :=
  match point.lookup (ascii "JSONPath") with
  | none => .ok missing
  | some nodes => do
    let val ← traversePath JSONRoot nodes
    if val.isNull then .ok missing else decode val

/-! ## Measurements -/

/-- The value and the quality of an analog point. -/
def analogValue (val : Value D) : Except Thrown (D × QualityFlags) :=
  if val.isNumeric then do
    return (← val.asDouble, QualityFlags.ONLINE)
  else
    match val with
    | .string text =>
      match Doubles.ofText text with
      | .ok value => .ok (value, QualityFlags.ONLINE)
      | .error _ => .ok (Doubles.ofInt 0, OVERRANGE)
    | _ => .ok (Doubles.ofInt 0, OVERRANGE)

section Binary

variable [DecidableEq D]

/-- The value and the quality of a binary point. -/
def binaryValue (point : Point D) (val : Value D) : Except Thrown (Bool × QualityFlags) :=
  match point.lookup (ascii "TrueVal"), point.lookup (ascii "FalseVal") with
  | some trueVal, some falseVal =>
    .ok (val = trueVal,
      if val ≠ trueVal ∧ val ≠ falseVal then QualityFlags.COMM_LOST else QualityFlags.ONLINE)
  | some trueVal, none => .ok (val = trueVal, QualityFlags.ONLINE)
  | none, some falseVal => .ok (val ≠ falseVal, QualityFlags.ONLINE)
  | none, none =>
    if val.isNumeric || val.isBool then do
      return (← val.asBool, QualityFlags.ONLINE)
    else
      match val with
      | .string text =>
        .ok (text = ascii "true",
          if text ≠ ascii "true" ∧ text ≠ ascii "false" then QualityFlags.COMM_LOST
          else QualityFlags.ONLINE)
      | _ => .ok (false, QualityFlags.COMM_LOST)

end Binary

inductive DataToStringMethod where
  | Raw | Hex
deriving DecidableEq, Repr

def getOctetStringFormat (point : Point D) : Except Thrown DataToStringMethod :=
  match point.lookup (ascii "Format") with
  | none => .ok .Raw
  | some format => do
    return if (← format.asString) = ascii "Hex" then .Hex else .Raw

def hexchar2byte (hexChar : UInt8) : Except Thrown UInt8 :=
  if isDigit hexChar then .ok (hexChar - 0x30)
  else if 0x61 ≤ hexChar.toNat ∧ hexChar.toNat ≤ 0x66 then .ok (hexChar - 0x61 + 10)
  else if 0x41 ≤ hexChar.toNat ∧ hexChar.toNat ≤ 0x46 then .ok (hexChar - 0x41 + 10)
  else .error (.invalidArgument "hexchar2byte(): require characters [0-9a-fA-F]")

/-- Two characters for each byte. -/
def hexPairs : Bytes → Except Thrown Bytes
  | high :: low :: rest => do
    let byte := (← hexchar2byte high) <<< 4 + (← hexchar2byte low)
    return byte :: (← hexPairs rest)
  | _ => .ok []

def hex2buf (hexStr : Bytes) : Except Thrown Bytes :=
  if hexStr.length % 2 = 1 then
    .error (.invalidArgument "hex2buf(): require even number of hex nibbles to covert to bytes")
  else hexPairs hexStr

/-- The data of an octet string point; what is no hexadecimal text is told in its place. -/
def octetStringData (point : Point D) (val : Value D) : Except Thrown Bytes := do
  let format ← getOctetStringFormat point
  let text ← val.asString
  match format with
  | .Raw => .ok text
  | .Hex =>
    match hex2buf text with
    | .ok data => .ok data
    | .error e =>
      .ok (ascii "Invalid hex string '" ++ text ++ ascii "': " ++ ascii e.what)

/-! ## Controls -/

section Control

variable [DecidableEq D]

/-- The default words for on and close. -/
def onWords : List Bytes :=
  ["true", "True", "TRUE", "on", "On", "ON", "close", "Close", "CLOSE"].map ascii

/-- The default words for off and trip. -/
def offWords : List Bytes :=
  ["false", "False", "FALSE", "off", "Off", "OFF", "trip", "Trip", "TRIP"].map ascii

/-- `check_val`: an unexpected value raises a runtime error, which the caller catches. -/
def checkVal (point : Point D) (val : Value D) (truename falsename : String) :
    Except Thrown Bool :=
  match point.lookup (ascii truename), point.lookup (ascii falsename) with
  | some trueVal, some falseVal =>
    if val ≠ trueVal ∧ val ≠ falseVal then .error (.runtimeError "Unexpected control value")
    else .ok (val = trueVal)
  | some trueVal, none => .ok (val = trueVal)
  | none, some falseVal => .ok (val ≠ falseVal)
  | none, none =>
    if val.isNumeric || val.isBool then val.asBool
    else
      match val with
      | .string text =>
        if text ∉ onWords ∧ text ∉ offWords then
          .error (.runtimeError "Unexpected control value")
        else .ok (text ∈ onWords)
      | _ => .ok true

/-- The code of a control with two directions; without a direction, there is no control. -/
def directionCode (point : Point D) (val : Value D) (truename falsename : String)
    (trueCode falseCode : ControlCode) : Except Thrown (Option ControlCode) :=
  match checkVal point val truename falsename with
  | .ok direction => .ok (some (if direction then trueCode else falseCode))
  | .error thrown => if thrown.isRuntimeError then .ok none else .error thrown

/-- The control code to send. -/
def functionCode (point : Point D) (val : Value D) : Except Thrown (Option ControlCode) :=
  match point.lookup (ascii "ControlMode") with
  | some (.string cm) =>
    if cm = ascii "LATCH" then
      directionCode point val "OnVal" "OffVal" .LATCH_ON .LATCH_OFF
    else if cm = ascii "TRIPCLOSE" then
      directionCode point val "TripVal" "CloseVal" .TRIP_PULSE_ON .CLOSE_PULSE_ON
    else if cm = ascii "PULSE" then .ok (some .PULSE_ON)
    else .ok none
  | _ => .ok (some .PULSE_ON)

/-- A number of the configuration, or its default. -/
def numberOf (point : Point D) (name : String) (default : Nat) : Except Thrown Nat :=
  match point.lookup (ascii name) with
  | none => .ok default
  | some number => do return (← number.asUInt).toNat

/-- The control of a point with a value, if there is one; the count has eight bits. -/
def controlCommand (point : Point D) (val : Value D) :
    Except Thrown (Option ControlRelayOutputBlock) := do
  match ← functionCode point val with
  | none => return none
  | some functionCode =>
    let count ← numberOf point "PulseCount" 1
    let onTimeMS ← numberOf point "OnTimems" 100
    let offTimeMS ← numberOf point "OffTimems" 100
    return some { functionCode, count := count % 2 ^ 8, onTimeMS, offTimeMS }

/-- The value of an analog control; any value but a number or a text ends the function. -/
def analogControlValue (logging : Bool) (val : Value D) :
    Except Thrown (Option (BitVec 16)) := do
  -- the text is made for the log, whatever its level
  if logging then
    let _ ← val.asString
  if val.isNumeric then
    return some (BitVec.ofInt 16 (← val.asUInt))
  else
    match val with
    | .string text => return some (BitVec.ofNat 16 ((stoul text).getD 0))
    | _ => return none

end Control

/-! ## The message -/

section Message

variable [DecidableEq D] (port : Port D) (JSONRoot : Value D)

/-- The timestamp of a message: only runtime errors of the standard library are caught, and a
time of zero, which raises one, stays. -/
def messageTime (now : BitVec 64) : Except Thrown (BitVec 64) :=
  if port.pointConf.TimestampPath.isNull then .ok now
  else
    match traversePath JSONRoot port.pointConf.TimestampPath >>= Value.asUInt64 with
    | .ok timestamp => .ok (BitVec.ofInt 64 timestamp)
    | .error thrown => if thrown.isRuntimeError then .ok now else .error thrown

variable (timestamp : BitVec 64)

def analogEvent : Index × Point D → Except Thrown (Option (Event D))
  | (index, point) =>
    atPath JSONRoot point none fun val => do
      let (value, quality) ← analogValue val
      return some ⟨index, port.name, quality, timestamp, .Analog value⟩

def binaryEvent : Index × Point D → Except Thrown (Option (Event D))
  | (index, point) =>
    atPath JSONRoot point none fun val => do
      let (value, quality) ← binaryValue point val
      return some ⟨index, port.name, quality, timestamp, .Binary value⟩

def octetStringEvent : Index × Point D → Except Thrown (Option (Event D))
  | (index, point) =>
    atPath JSONRoot point none fun val => do
      let data ← octetStringData point val
      return some ⟨index, port.name, QualityFlags.ONLINE, timestamp, .OctetString data⟩

def controlTurn : Index × Point D → Except Thrown (Turn (Event D))
  | (index, point) =>
    atPath JSONRoot point .skip fun val => do
      match ← controlCommand point val with
      | some command => return .yield ⟨index, port.name, QualityFlags.NONE, timestamp,
          .ControlRelayOutputBlock command⟩
      | none => return .skip

def analogControlTurn : Index × Point D → Except Thrown (Turn (Event D))
  | (index, point) =>
    atPath JSONRoot point .skip fun val => do
      match ← analogControlValue port.logging val with
      | some value => return .yield ⟨index, port.name, QualityFlags.ONLINE, timestamp,
          .AnalogOutputInt16 value .SUCCESS⟩
      | none => return .stop

/-- The measurements of a message. -/
def measurements : Except Thrown (List (Event D)) := do
  let analogs ← collect (analogEvent port JSONRoot timestamp) port.pointConf.Analogs.points
  let binaries ← collect (binaryEvent port JSONRoot timestamp) port.pointConf.Binaries.points
  let octetStrings ←
    collect (octetStringEvent port JSONRoot timestamp) port.pointConf.OctetStrings.points
  return analogs ++ binaries ++ octetStrings

/-- The events of a message whose value was read. -/
def processValue (now : BitVec 64) : Outcome (Event D) Thrown PUnit := do
  let timestamp ← ofExcept (messageTime port JSONRoot now)
  let events ← ofExcept (measurements port JSONRoot timestamp)
  (⟨events, .ok ⟨⟩⟩ : Outcome (Event D) Thrown PUnit)
  each (controlTurn port JSONRoot timestamp) port.pointConf.Controls.points
  each (analogControlTurn port JSONRoot timestamp) port.pointConf.AnalogControls.points

/-- `ProcessBraced`, with the parser: it reads a value, rejects the text, or throws. -/
def processBraced (parse : Bytes → Except Thrown (Option (Value D))) (now : BitVec 64)
    (braced : Bytes) : Outcome (Event D) Thrown PUnit := do
  match ← ofExcept (parse braced) with
  | some JSONRoot => processValue port JSONRoot now
  | none => pure ⟨⟩

end Message

end OpenDataCon.JSONPort
