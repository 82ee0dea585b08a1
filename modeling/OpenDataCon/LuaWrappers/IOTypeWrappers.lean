import OpenDataCon.Events.EventInfo
import OpenDataCon.LuaWrappers.LuaState

/-!
# Events in Lua

An event becomes a table with a field for each part, and the payload in it a value of
its own kind. On the way back the parts are fetched one after another, and each value
fetched is a new top of the stack, so the payloads with several parts are read at
positions that grow by one with each part.
-/

set_option autoImplicit false

namespace OpenDataCon.LuaWrappers

open Connectors (QualityFlags)
open Events
open Exceptions
open FileTransfer (Bytes ascii)

variable {D F : Type}

/-! ## Pushing -/

section Pushing

variable [Floats D F]

open LuaM

/-- An unsigned number of at most 64 bits, as an integer. -/
def unsigned {w : Nat} (value : BitVec w) : LuaValue D := .integer (value.setWidth 64)

/-- A signed number of at most 64 bits, as an integer. -/
def signed {w : Nat} (value : BitVec w) : LuaValue D := .integer (value.signExtend 64)

def pushPayload : Payload D F → LuaM D Unit
  | .bool value => push (.boolean value)
  | .DBB first second => do
    push (.table [])
    setField "First" (.boolean first)
    setField "Second" (.boolean second)
  | .double value => push (.number value)
  | .uint32 value => push (unsigned value)
  | .CommandStatus status => push (unsigned status)
  | .OctetStringBuffer data => push (.string data)
  | .TAI timestamp interval units => do
    push (.table [])
    setField "Timestamp" (unsigned timestamp)
    setField "Interval" (unsigned interval)
    setField "Units" (unsigned units)
  | .SS first second => do
    push (.table [])
    setField "First" (unsigned first)
    setField "Second" (unsigned second)
  | .ControlRelayOutputBlock control => do
    push (.table [])
    setField "ControlCode" (unsigned control.functionCode)
    setField "Count" (unsigned control.count)
    setField "msOnTime" (unsigned control.onTimeMS)
    setField "msOffTime" (unsigned control.offTimeMS)
    setField "CommandStatus" (unsigned control.status)
  | .AO16 value status => do
    push (.table [])
    setField "Value" (signed value)
    setField "CommandStatus" (unsigned status)
  | .AO32 value status => do
    push (.table [])
    setField "Value" (signed value)
    setField "CommandStatus" (unsigned status)
  | .AOF value status => do
    push (.table [])
    setField "Value" (.number (Floats.widen value))
    setField "CommandStatus" (unsigned status)
  | .AOD value status => do
    push (.table [])
    setField "Value" (.number value)
    setField "CommandStatus" (unsigned status)
  | .QualityFlags quality => push (unsigned quality)
  | .char value => push (signed value)
  | .ConnectState state => push (signed state)

/-- `PushPayload` of an event, by its type. -/
def pushPayloadOf (event : EventInfo D F) : LuaM D Unit :=
  match payloadType event.type with
  | some _ =>
    match event.payload with
    | some payload => pushPayload payload
    | none => throw (.runtimeError "Called GetPayload on uninitialised odc::EventInfo payload")
  | none => push .nil

def pushEventInfo (event : EventInfo D F) : LuaM D Unit := do
  push (.table [])
  setField "EventType" (unsigned event.type)
  setField "Index" (unsigned event.index)
  -- a string of C ends at its first zero
  setField "SourcePort" (.string (event.sourcePort.takeWhile (· ≠ 0)))
  setField "QualityFlags" (unsigned event.quality)
  setField "Timestamp" (unsigned event.timestamp)
  push (.string (ascii "Payload"))
  pushPayloadOf event
  setTable

end Pushing

/-! ## Popping -/

section Popping

variable [Floats D F] [LuaNumbers D]

open LuaM

def popBool : LuaM D (Payload D F) := do
  expect LuaValue.isBoolean "Payload is not a lua boolean value."
  return .bool (← valueAt (-1)).toBoolean

def popDBB : LuaM D (Payload D F) := do
  let err := "Payload is not a lua table with 'First' and 'Second' member booleans."
  expect LuaValue.isTable err
  fetch (-1) "First" LuaValue.isBoolean err
  fetch (-2) "Second" LuaValue.isBoolean err
  return .DBB (← valueAt (-2)).toBoolean (← valueAt (-1)).toBoolean

def popDouble : LuaM D (Payload D F) := do
  expect LuaValue.isNumber "Payload is not a lua number value."
  return .double (← valueAt (-1)).toNumber

/-- The integer of a payload that is one. -/
def popInteger : LuaM D (BitVec 64) := do
  expect LuaValue.isInteger "Payload is not a lua integer value."
  return (← valueAt (-1)).toInteger

def popUint32 : LuaM D (Payload D F) := do
  return .uint32 ((← popInteger).setWidth 32)

def popCommandStatus : LuaM D (Payload D F) := do
  return .CommandStatus ((← popInteger).setWidth 8)

def popOctetStringBuffer : LuaM D (Payload D F) := do
  expect LuaValue.isString "Payload is not a lua string value."
  return .OctetStringBuffer (← toLString)

def popTAI : LuaM D (Payload D F) := do
  let err :=
    "Payload is not a lua table with 'Timestamp', 'Interval' and 'Units' member integers."
  expect LuaValue.isTable err
  fetch (-1) "Timestamp" LuaValue.isInteger err
  fetch (-2) "Interval" LuaValue.isInteger err
  fetch (-3) "Units" LuaValue.isInteger err
  return .TAI (← valueAt (-3)).toInteger ((← valueAt (-2)).toInteger.setWidth 32)
    ((← valueAt (-1)).toInteger.setWidth 8)

def popSS : LuaM D (Payload D F) := do
  let err := "Payload is not a lua table with 'First' and 'Second' member integers."
  expect LuaValue.isTable err
  fetch (-1) "First" LuaValue.isInteger err
  fetch (-2) "Second" LuaValue.isInteger err
  return .SS ((← valueAt (-2)).toInteger.setWidth 16) ((← valueAt (-1)).toInteger.setWidth 32)

def popControlRelayOutputBlock : LuaM D (Payload D F) := do
  let err := "Payload is not a lua table with 'ControlCode', 'Count', 'msOnTime', 'msOffTime' "
    ++ "and 'CommandStatus' member integers."
  expect LuaValue.isTable err
  fetch (-1) "ControlCode" LuaValue.isInteger err
  fetch (-2) "Count" LuaValue.isInteger err
  fetch (-3) "msOnTime" LuaValue.isInteger err
  fetch (-4) "msOffTime" LuaValue.isInteger err
  fetch (-5) "CommandStatus" LuaValue.isInteger err
  return .ControlRelayOutputBlock {
    functionCode := (← valueAt (-5)).toInteger.setWidth 8
    count := (← valueAt (-4)).toInteger.setWidth 8
    onTimeMS := (← valueAt (-3)).toInteger.setWidth 32
    offTimeMS := (← valueAt (-2)).toInteger.setWidth 32
    status := (← valueAt (-1)).toInteger.setWidth 8 }

/-- What the analog outputs of integers are checked for. -/
def fetchIntegerOutput : LuaM D Unit := do
  let err := "Payload is not a lua table with 'Value' and 'CommandStatus' member integers."
  expect LuaValue.isTable err
  fetch (-1) "Value" LuaValue.isInteger err
  fetch (-2) "CommandStatus" LuaValue.isInteger err

def popAO16 : LuaM D (Payload D F) := do
  fetchIntegerOutput
  return .AO16 ((← valueAt (-2)).toInteger.setWidth 16) ((← valueAt (-1)).toInteger.setWidth 8)

def popAO32 : LuaM D (Payload D F) := do
  fetchIntegerOutput
  return .AO32 ((← valueAt (-2)).toInteger.setWidth 32) ((← valueAt (-1)).toInteger.setWidth 8)

/-- What the analog outputs of floating-point numbers are checked for. -/
def fetchNumberOutput : LuaM D Unit := do
  let err :=
    "Payload is not a lua table with 'Value' (number) and 'CommandStatus' (integer) members."
  expect LuaValue.isTable err
  fetch (-1) "Value" LuaValue.isNumber err
  fetch (-2) "CommandStatus" LuaValue.isInteger err

def popAOF : LuaM D (Payload D F) := do
  fetchNumberOutput
  return .AOF (Floats.narrow (← valueAt (-2)).toNumber) ((← valueAt (-1)).toInteger.setWidth 8)

def popAOD : LuaM D (Payload D F) := do
  fetchNumberOutput
  return .AOD (← valueAt (-2)).toNumber ((← valueAt (-1)).toInteger.setWidth 8)

def popQualityFlags : LuaM D (Payload D F) := do
  return .QualityFlags ((← popInteger).setWidth 16)

def popChar : LuaM D (Payload D F) := do
  return .char ((← popInteger).setWidth 8)

def popConnectState : LuaM D (Payload D F) := do
  return .ConnectState ((← popInteger).setWidth 32)

/-- `PopPayload` of a type. -/
def popPayload : PayloadType → LuaM D (Payload D F)
  | .bool => popBool
  | .DBB => popDBB
  | .double => popDouble
  | .uint32 => popUint32
  | .CommandStatus => popCommandStatus
  | .OctetStringBuffer => popOctetStringBuffer
  | .TAI => popTAI
  | .SS => popSS
  | .ControlRelayOutputBlock => popControlRelayOutputBlock
  | .AO16 => popAO16
  | .AO32 => popAO32
  | .AOF => popAOF
  | .AOD => popAOD
  | .QualityFlags => popQualityFlags
  | .char => popChar
  | .ConnectState => popConnectState

/-- What a function throws that does not look at the stack. -/
def orThrow {α : Type} (result : Except Thrown α) : LuaM D α := ExceptT.mk (pure result)

/-- `PopPayload` of an event, by its type. -/
def popPayloadOf (event : EventInfo D F) : LuaM D (EventInfo D F) :=
  match payloadType event.type with
  | some type => do
    let value ← popPayload type
    orThrow (event.setPayload value)
  | none => throw (.runtimeError
      "Can't parse Payload for unknown EventType <no_string_representation>")

/-- A field of the event that is left as it is when it is no integer. -/
def integerField (idx : Int) (key : String) : LuaM D (Option (BitVec 64)) := do
  getField idx key
  let value ← valueAt (-1)
  return if value.isInteger then some value.toInteger else none

/-- A field of the event that is left as it is when it is no string. -/
def stringField (idx : Int) (key : String) : LuaM D (Option Bytes) := do
  getField idx key
  if (← valueAt (-1)).isString then
    let text ← toLString
    return some (text.takeWhile (· ≠ 0))
  else
    return none

def eventInfoFromLua [Zero D] [Zero F] (now : BitVec 64) (idx : Int) :
    LuaM D (Option (EventInfo D F)) := do
  let stack : LuaStack D ← get
  let idx : Int := if idx < 0 then stack.length + (idx + 1) else idx
  if (stack.value idx).isTable then
    match ← integerField idx "EventType" with
    | none => return none
    | some et =>
      let index ← integerField idx "Index"
      let source ← stringField idx "SourcePort"
      let quality ← integerField idx "QualityFlags"
      let timestamp ← integerField idx "Timestamp"
      let event : EventInfo D F := {
        type := et.setWidth 8
        index := index.getD 0
        sourcePort := source.getD []
        quality := (quality.map (BitVec.setWidth 16)).getD Connectors.QualityFlags.ONLINE
        timestamp := timestamp.getD now }
      getField idx "Payload"
      let event ← tryCatch (popPayloadOf event) fun thrown =>
        if thrown.isStandard then orThrow event.setDefaultPayload else throw thrown
      return some event
  else
    return none

end Popping

/-! ## Payloads come back -/

section Payloads

variable [Floats D F]

open LuaM

/-- What a payload is in Lua. -/
def luaValue : Payload D F → LuaValue D
  | .bool value => .boolean value
  | .DBB first second =>
    .table [(ascii "Second", .boolean second), (ascii "First", .boolean first)]
  | .double value => .number value
  | .uint32 value => unsigned value
  | .CommandStatus status => unsigned status
  | .OctetStringBuffer data => .string data
  | .TAI timestamp interval units =>
    .table [(ascii "Units", unsigned units), (ascii "Interval", unsigned interval),
      (ascii "Timestamp", unsigned timestamp)]
  | .SS first second =>
    .table [(ascii "Second", unsigned second), (ascii "First", unsigned first)]
  | .ControlRelayOutputBlock control =>
    .table [(ascii "CommandStatus", unsigned control.status),
      (ascii "msOffTime", unsigned control.offTimeMS),
      (ascii "msOnTime", unsigned control.onTimeMS), (ascii "Count", unsigned control.count),
      (ascii "ControlCode", unsigned control.functionCode)]
  | .AO16 value status =>
    .table [(ascii "CommandStatus", unsigned status), (ascii "Value", signed value)]
  | .AO32 value status =>
    .table [(ascii "CommandStatus", unsigned status), (ascii "Value", signed value)]
  | .AOF value status =>
    .table [(ascii "CommandStatus", unsigned status), (ascii "Value", .number (Floats.widen value))]
  | .AOD value status =>
    .table [(ascii "CommandStatus", unsigned status), (ascii "Value", .number value)]
  | .QualityFlags quality => unsigned quality
  | .char value => signed value
  | .ConnectState state => signed state

theorem on_pushPayload (payload : Payload D F) (below : LuaStack D) :
    on (pushPayload payload) below = (.ok (), luaValue payload :: below) := by
  cases payload <;> rfl

/-- A number of at most 64 bits comes back from an integer. -/
theorem narrow_unsigned {w : Nat} (value : BitVec w) (fits : w ≤ 64) :
    (value.setWidth 64).setWidth w = value := by
  rw [BitVec.setWidth_setWidth_of_le _ fits, BitVec.setWidth_eq]

theorem narrow_signed {w : Nat} (value : BitVec w) (fits : w ≤ 64) :
    (value.signExtend 64).setWidth w = value := by
  apply BitVec.eq_of_getLsbD_eq
  intro i bound
  simp only [BitVec.getLsbD_setWidth, BitVec.getLsbD_signExtend, bound, decide_true,
    Bool.true_and, show i < 64 by omega, if_true]

variable [LuaNumbers D]

/-- **Every payload comes back from its value in Lua.** -/
theorem popPayload_returns (payload : Payload D F) (below : LuaStack D) :
    Returns (popPayload payload.type) (luaValue payload :: below) payload := by
  cases payload with
  | bool value => exact ⟨_, rfl⟩
  | DBB first second => exact ⟨_, rfl⟩
  | double value => exact ⟨_, rfl⟩
  | uint32 value =>
      have read : Returns (popPayload .uint32) (unsigned value :: below)
          (.uint32 ((value.setWidth 64).setWidth 32) : Payload D F) := ⟨_, rfl⟩
      rw [narrow_unsigned value (by decide)] at read
      exact read
  | CommandStatus status =>
      have read : Returns (popPayload .CommandStatus) (unsigned status :: below)
          (.CommandStatus ((status.setWidth 64).setWidth 8) : Payload D F) := ⟨_, rfl⟩
      rw [narrow_unsigned status (by decide)] at read
      exact read
  | OctetStringBuffer data => exact ⟨_, rfl⟩
  | TAI timestamp interval units =>
      have read : Returns (popPayload .TAI)
          (luaValue (.TAI timestamp interval units : Payload D F) :: below)
          (.TAI (timestamp.setWidth 64) ((interval.setWidth 64).setWidth 32)
            ((units.setWidth 64).setWidth 8) : Payload D F) := ⟨_, rfl⟩
      rw [BitVec.setWidth_eq, narrow_unsigned interval (by decide),
        narrow_unsigned units (by decide)] at read
      exact read
  | SS first second =>
      have read : Returns (popPayload .SS) (luaValue (.SS first second : Payload D F) :: below)
          (.SS ((first.setWidth 64).setWidth 16) ((second.setWidth 64).setWidth 32) :
            Payload D F) := ⟨_, rfl⟩
      rw [narrow_unsigned first (by decide), narrow_unsigned second (by decide)] at read
      exact read
  | ControlRelayOutputBlock control =>
      have read : Returns (popPayload .ControlRelayOutputBlock)
          (luaValue (.ControlRelayOutputBlock control : Payload D F) :: below)
          (.ControlRelayOutputBlock {
            functionCode := (control.functionCode.setWidth 64).setWidth 8
            count := (control.count.setWidth 64).setWidth 8
            onTimeMS := (control.onTimeMS.setWidth 64).setWidth 32
            offTimeMS := (control.offTimeMS.setWidth 64).setWidth 32
            status := (control.status.setWidth 64).setWidth 8 } : Payload D F) := ⟨_, rfl⟩
      rw [narrow_unsigned control.functionCode (by decide),
        narrow_unsigned control.count (by decide), narrow_unsigned control.onTimeMS (by decide),
        narrow_unsigned control.offTimeMS (by decide),
        narrow_unsigned control.status (by decide)] at read
      exact read
  | AO16 value status =>
      have read : Returns (popPayload .AO16) (luaValue (.AO16 value status : Payload D F) :: below)
          (.AO16 ((value.signExtend 64).setWidth 16) ((status.setWidth 64).setWidth 8) :
            Payload D F) := ⟨_, rfl⟩
      rw [narrow_signed value (by decide), narrow_unsigned status (by decide)] at read
      exact read
  | AO32 value status =>
      have read : Returns (popPayload .AO32) (luaValue (.AO32 value status : Payload D F) :: below)
          (.AO32 ((value.signExtend 64).setWidth 32) ((status.setWidth 64).setWidth 8) :
            Payload D F) := ⟨_, rfl⟩
      rw [narrow_signed value (by decide), narrow_unsigned status (by decide)] at read
      exact read
  | AOF value status =>
      have read : Returns (popPayload .AOF) (luaValue (.AOF value status : Payload D F) :: below)
          (.AOF (Floats.narrow (Floats.widen value : D)) ((status.setWidth 64).setWidth 8) :
            Payload D F) := ⟨_, rfl⟩
      rw [Floats.narrow_widen, narrow_unsigned status (by decide)] at read
      exact read
  | AOD value status =>
      have read : Returns (popPayload .AOD) (luaValue (.AOD value status : Payload D F) :: below)
          (.AOD value ((status.setWidth 64).setWidth 8) : Payload D F) := ⟨_, rfl⟩
      rw [narrow_unsigned status (by decide)] at read
      exact read
  | QualityFlags quality =>
      have read : Returns (popPayload .QualityFlags) (unsigned quality :: below)
          (.QualityFlags ((quality.setWidth 64).setWidth 16) : Payload D F) := ⟨_, rfl⟩
      rw [narrow_unsigned quality (by decide)] at read
      exact read
  | char value =>
      have read : Returns (popPayload .char) (signed value :: below)
          (.char ((value.signExtend 64).setWidth 8) : Payload D F) := ⟨_, rfl⟩
      rw [narrow_signed value (by decide)] at read
      exact read
  | ConnectState state =>
      have read : Returns (popPayload .ConnectState) (signed state :: below)
          (.ConnectState ((state.signExtend 64).setWidth 32) : Payload D F) := ⟨_, rfl⟩
      rw [narrow_signed state (by decide)] at read
      exact read

end Payloads

end OpenDataCon.LuaWrappers
