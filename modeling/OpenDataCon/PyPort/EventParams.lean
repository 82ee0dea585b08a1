import OpenDataCon.Events.PayloadStrings

/-!
# Events from the texts of a Python port

Python code publishes an event with texts for its type, its quality and its payload. An
event object is made before its payload is read, so a payload that is not read leaves an
event without one.
-/

set_option autoImplicit false

namespace OpenDataCon.PyPort

open Connectors (EventType QualityFlags)
open Events
open Exceptions
open FileTransfer (Bytes ascii isDigit)
open Separators (pieces)

/-! ## Controls -/

abbrev split (text : Bytes) (delim : UInt8) : List Bytes := pieces delim text

/-- The digits of a text, wherever they are. -/
def getNumber (input : Bytes) : Bytes := input.filter isDigit

/-- The message of an exception that quotes a text. -/
def quoting (message : String) (text : Bytes) : Thrown :=
  .runtimeError (message ++ String.ofList (text.map fun byte => Char.ofNat byte.toNat))

/-- The number in a section that is marked. -/
def sectionNumber (mark : String) (part : Bytes) : Except Thrown Int :=
  if ascii mark <:+: part then stoi (getNumber part)
  else .error (quoting (mark ++ " field of ControlRelayOutputBlock not in ") part)

/-- The text of a control: "|LATCH_ON|Count 1|ON 100ms|OFF 100ms|". -/
def controlFromString (PayloadStr : Bytes) : Except Thrown ControlRelayOutputBlock :=
  match split PayloadStr bar with
  | [_, code, count, onTime, offTime] =>
    if controlCodeFromString code = 15#8 then
      .error (quoting "ControlCode field of ControlRelayOutputBlock not in " code)
    else do
      let count ← sectionNumber "Count" count
      let onTimeMS ← sectionNumber "ON" onTime
      let offTimeMS ← sectionNumber "OFF" offTime
      return {
        functionCode := controlCodeFromString code
        count := BitVec.ofInt 8 count
        onTimeMS := BitVec.ofInt 32 onTimeMS
        offTimeMS := BitVec.ofInt 32 offTimeMS }
  | _ => .error (quoting "Payload for ControlRelayOutputBlock does not have enough sections "
      PayloadStr)

/-! ## Events -/

section Events

variable {D F : Type}

/-- An event, with its payload if that is read. -/
def withPayload (pubevent : EventInfo D F) (payload : Except Thrown (Payload D F)) :
    EventInfo D F :=
  match payload >>= pubevent.setPayload with
  | .ok event => event
  | .error _ => pubevent

theorem withPayload_ok {pubevent : EventInfo D F} {payload : Payload D F}
    (matching : payloadType pubevent.type = some payload.type) :
    ∃ event, withPayload pubevent (.ok payload) = event ∧ event.type = pubevent.type ∧
      event.index = pubevent.index ∧ event.quality = pubevent.quality ∧
      event.payload = some payload := by
  obtain ⟨event, sets, type, index, -, quality, -, held⟩ := EventInfo.setPayload_of_type matching
  refine ⟨event, ?_, type, index, quality, held⟩
  have bound : (.ok payload >>= pubevent.setPayload : Except Thrown (EventInfo D F)) = .ok event :=
    sets
  rw [withPayload, bound]

theorem withPayload_error (pubevent : EventInfo D F) (thrown : Thrown) :
    withPayload pubevent (.error thrown) = pubevent :=
  rfl

variable [FloatTexts D F]

/-- The payload that a text is read as, for the types of payloads that are read with a check. -/
def payloadFromString (type : EventType) (PayloadStr : Bytes) :
    Option (Except Thrown (Payload D F)) :=
  match type with
  | .Binary => some (.ok (.bool (PayloadStr.contains 0x31)))
  | .Analog => some ((FloatTexts.stod F PayloadStr).map .double)
  | .ControlRelayOutputBlock =>
    some ((controlFromString PayloadStr).map .ControlRelayOutputBlock)
  | .AnalogOutputInt16 =>
    some ((stoi PayloadStr).map fun value => .AO16 (BitVec.ofInt 16 value) 0#8)
  | .AnalogOutputInt32 =>
    some ((stoi PayloadStr).map fun value => .AO32 (BitVec.ofInt 32 value) 0#8)
  | .AnalogOutputFloat32 =>
    some ((FloatTexts.stof D PayloadStr).map fun value => .AOF value 0#8)
  | .AnalogOutputDouble64 =>
    some ((FloatTexts.stod F PayloadStr).map fun value => .AOD value 0#8)
  | .OctetString => some (.ok (.OctetStringBuffer PayloadStr))
  -- the other types are not implemented
  | _ => none

def createEventFromStrParams (now : BitVec 64) (EventTypeStr : Bytes) (ODCIndex : BitVec 64)
    (QualityStr PayloadStr SourcePort : Bytes) : Option (EventInfo D F) :=
  let type := eventTypeFromString EventTypeStr
  if AfterRange.toNat ≤ type.toNat then none
  else if qualityFlagsFromString QualityStr = Connectors.QualityFlags.NONE then none
  else
    match named type with
    | some .ConnectState =>
      let state := connectStateFromString PayloadStr
      if state = 4#32 then none
      else
        -- without the index and the quality
        some (withPayload { type, sourcePort := SourcePort, timestamp := now }
          (.ok (.ConnectState state)))
    | some name =>
      (payloadFromString name PayloadStr).map (withPayload {
        type
        index := ODCIndex
        sourcePort := SourcePort
        quality := qualityFlagsFromString QualityStr
        timestamp := now })
    | none => none

end Events

end OpenDataCon.PyPort
