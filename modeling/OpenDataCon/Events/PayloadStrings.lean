import OpenDataCon.Events.Strings

/-!
# Payloads as texts

A payload has a text if it is one number, a control, a connection state, a quality or an
octet string. All other payloads have the text of what has none.
-/

set_option autoImplicit false

namespace OpenDataCon.Events

open Exceptions
open FileTransfer (Bytes ascii toDecimal)

variable {D F : Type}

/-- What the standard library makes of floating-point numbers. -/
class FloatTexts (D F : Type) where
  /-- `std::to_string` of a double. -/
  doubleString : D → Bytes
  /-- `std::to_string` of a float. -/
  floatString : F → Bytes
  stod : Bytes → Except Thrown D
  stof : Bytes → Except Thrown F

inductive DataToStringMethod where
  | Raw | Hex
deriving DecidableEq, Repr

def hexNibble (nibble : Nat) : UInt8 := (ascii "0123456789abcdef").getD nibble 0

def buf2hex (data : Bytes) : Bytes :=
  data.flatMap fun byte => [hexNibble (byte.toNat / 16), hexNibble (byte.toNat % 16)]

def octetStringToString (method : DataToStringMethod) (data : Bytes) : Bytes :=
  match method with
  | .Raw => data
  | .Hex => buf2hex data

/-- The conversion of a control to a text. -/
def controlToString (control : ControlRelayOutputBlock) : Bytes :=
  ascii "|" ++ controlCodeToString control.functionCode ++ ascii "|Count " ++
    toDecimal control.count.toNat ++ ascii "|ON " ++ toDecimal control.onTimeMS.toNat ++
    ascii "ms|OFF " ++ toDecimal control.offTimeMS.toNat ++ ascii "ms|"

/-- The types of payloads that have texts. -/
def PayloadType.hasString : PayloadType → Bool
  | .DBB => false
  | .CommandStatus => false
  | .TAI => false
  | .SS => false
  | .char => false
  | _ => true

/-- The text of a payload. -/
def Payload.string [FloatTexts D F] (method : DataToStringMethod) : Payload D F → Bytes
  | .ConnectState state => connectStateToString state
  | .bool value => toDecimal value.toNat
  | .double value => FloatTexts.doubleString F value
  | .uint32 value => toDecimal value.toNat
  | .ControlRelayOutputBlock control => controlToString control
  | .AO16 value _ => signedDecimal value.toInt
  | .AO32 value _ => signedDecimal value.toInt
  | .AOF value _ => FloatTexts.floatString D value
  | .AOD value _ => FloatTexts.doubleString F value
  | .OctetStringBuffer data => octetStringToString method data
  | .QualityFlags quality => qualityFlagsToString quality
  | _ => noString

/-- `GetPayloadString`. -/
def EventInfo.payloadString [FloatTexts D F] (event : EventInfo D F)
    (method : DataToStringMethod) : Except Thrown Bytes :=
  match payloadType event.type with
  | none => .ok noString
  | some type =>
    if type.hasString then
      match event.payload with
      | some payload => .ok (payload.string method)
      | none => .error (.runtimeError "Called GetPayload on uninitialised odc::EventInfo payload")
    else .ok noString

theorem EventInfo.payloadString_of_payload [FloatTexts D F] {event : EventInfo D F}
    {payload : Payload D F} (carries : event.payload = some payload)
    (text : payload.type.hasString = true) (method : DataToStringMethod) :
    event.payloadString method = .ok (payload.string method) := by
  unfold EventInfo.payloadString
  rw [event.typed payload carries]
  dsimp only
  rw [if_pos text, carries]

end OpenDataCon.Events
