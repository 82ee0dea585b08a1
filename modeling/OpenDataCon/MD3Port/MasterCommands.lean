import Mathlib.Data.BitVec
import OpenDataCon.MasterQueue.CommandQueue

/-!
# The commands of an MD3 master

An MD3 master is a `MasterPort` that sends whether it is enabled or not. Which
functions answer a command depends on the command, and the handler of the
answer judges its length. Only an event scan is judged by what is unloaded from
it; that result comes with the answer (`MD3Answer`). The answers to an event
scan and to a flag scan queue further commands without callback.
-/

set_option autoImplicit false

namespace OpenDataCon.MD3Port

open MasterQueue

/-- The function codes the master acts on. -/
def ANALOG_UNCONDITIONAL : Nat := 5
def ANALOG_DELTA_SCAN : Nat := 6
def DIGITAL_CHANGE_OF_STATE_TIME_TAGGED : Nat := 11
def DIGITAL_UNCONDITIONAL : Nat := 12
def ANALOG_NO_CHANGE_REPLY : Nat := 13
def DIGITAL_NO_CHANGE_REPLY : Nat := 14
def CONTROL_REQUEST_OK : Nat := 15
def FREEZE_AND_RESET : Nat := 16
def POM_TYPE_CONTROL : Nat := 17
def DOM_TYPE_CONTROL : Nat := 19
def AOM_TYPE_CONTROL : Nat := 23
def SYSTEM_SIGNON_CONTROL : Nat := 40
def SYSTEM_SET_DATETIME_CONTROL : Nat := 43
def SYSTEM_SET_DATETIME_CONTROL_NEW : Nat := 44
def SYSTEM_FLAG_SCAN : Nat := 52

/-- The four bytes of a block; the check byte plays no part here. -/
structure MD3BlockData where
  data : BitVec 32 := 0#32
deriving DecidableEq, Repr, Inhabited

abbrev MD3Message := List MD3BlockData

namespace MD3BlockData

def combineFormattedBytes (mastertostation : Bool)
    (stationAddress functioncode moduleaddress b4 : BitVec 8) : BitVec 32 :=
  let direction : BitVec 8 := if mastertostation then 0x00 else 0x80
  ((direction ||| (stationAddress &&& 0x7f)).setWidth 32 <<< 24) |||
    (functioncode.setWidth 32 <<< 16) ||| (moduleaddress.setWidth 32 <<< 8) ||| b4.setWidth 32

def isMasterToStationMessage (block : MD3BlockData) : Bool :=
  !(block.data &&& 0x80000000#32 == 0x80000000#32)

def getStationAddress (block : MD3BlockData) : Nat := ((block.data >>> 24) &&& 0x7F#32).toNat

def getFunctionCode (block : MD3BlockData) : Nat := ((block.data >>> 16) &&& 0xFF#32).toNat

/-- Zero on the wire is one channel. -/
def getChannels (block : MD3BlockData) : Nat := (block.data &&& 0x0F#32).toNat + 1

/-- In a sign-on block the address and the function are repeated in complement. -/
def isSignOnValid (block : MD3BlockData) : Bool :=
  (block.data >>> 24) &&& 0x7f#32 == (~~~block.data >>> 8) &&& 0x7F#32 &&
    (block.data >>> 16) &&& 0xff#32 == ~~~block.data &&& 0xFF#32

end MD3BlockData

/-- An answer; for an event scan, whether it was unloaded to its end; and the
commands that its processing queues. -/
structure MD3Answer where
  message : MD3Message
  unloaded : Bool := true
  commands : List MD3Message := []
deriving DecidableEq, Repr

structure MD3MasterConf where
  outstationAddr : Nat
  md3CommandRetries : Nat := 3
  md3CommandTimeoutmsec : Nat := 5000
deriving DecidableEq, Repr

namespace MD3MasterConf

variable (conf : MD3MasterConf)

/-- The function code of a command is in its first block. -/
def commandFunctionCode (message : MD3Message) : Nat := (message.headD {}).getFunctionCode

/-- Two analogs share a block. -/
def processAnalogUnconditionalReturn (header : MD3BlockData) (message : MD3Message) : Bool :=
  header.getChannels / 2 + header.getChannels % 2 == message.length - 1

/-- Four differences share a block; the count of blocks adds the remainder. -/
def processAnalogDeltaScanReturn (header : MD3BlockData) (message : MD3Message) : Bool :=
  header.getChannels / 4 + header.getChannels % 4 == message.length - 1

/-- The answers that carry nothing but their header. -/
def processOneBlockReturn (message : MD3Message) : Bool := message.length == 1

def processSystemSignOnReturn (header : MD3BlockData) (message : MD3Message) : Bool :=
  message.length == 1 && header.isSignOnValid

/-- The success of an answer, by the function of the current command and the
function of the answer. -/
def responseSuccess (code : Nat) (header : MD3BlockData) (answer : MD3Answer) : Bool :=
  let reply := header.getFunctionCode
  let message := answer.message
  if code = ANALOG_UNCONDITIONAL then
    reply == ANALOG_UNCONDITIONAL && processAnalogUnconditionalReturn header message
  else if code = ANALOG_DELTA_SCAN then
    if reply = ANALOG_UNCONDITIONAL then processAnalogUnconditionalReturn header message
    else if reply = ANALOG_DELTA_SCAN then processAnalogDeltaScanReturn header message
    else reply == ANALOG_NO_CHANGE_REPLY && processOneBlockReturn message
  else if code = DIGITAL_CHANGE_OF_STATE_TIME_TAGGED then
    if reply = DIGITAL_NO_CHANGE_REPLY then processOneBlockReturn message
    else reply == DIGITAL_CHANGE_OF_STATE_TIME_TAGGED && answer.unloaded
  else if code = DIGITAL_UNCONDITIONAL then
    if reply = DIGITAL_NO_CHANGE_REPLY then processOneBlockReturn message
    else
      (reply == DIGITAL_UNCONDITIONAL || reply == DIGITAL_CHANGE_OF_STATE_TIME_TAGGED) &&
        answer.unloaded
  else if code = FREEZE_AND_RESET ∨ code = POM_TYPE_CONTROL ∨ code = DOM_TYPE_CONTROL ∨
      code = AOM_TYPE_CONTROL ∨ code = SYSTEM_SET_DATETIME_CONTROL ∨
      code = SYSTEM_SET_DATETIME_CONTROL_NEW then
    reply == CONTROL_REQUEST_OK && processOneBlockReturn message
  else if code = SYSTEM_SIGNON_CONTROL then
    reply == SYSTEM_SIGNON_CONTROL && processSystemSignOnReturn header message
  else if code = SYSTEM_FLAG_SCAN then reply == SYSTEM_FLAG_SCAN
  else false

/-- The commands that an answer queues: another event scan after events, the
polls of a restarted outstation after a flag scan. -/
def responseCommands (code : Nat) (header : MD3BlockData) (answer : MD3Answer) :
    List MD3Message :=
  if code = DIGITAL_CHANGE_OF_STATE_TIME_TAGGED ∧
      header.getFunctionCode = DIGITAL_CHANGE_OF_STATE_TIME_TAGGED ∨
      code = SYSTEM_FLAG_SCAN ∧ header.getFunctionCode = SYSTEM_FLAG_SCAN then
    answer.commands
  else []

/-- An answer is accepted from the outstation of the port. -/
def acceptsResponse (data : MasterCommandData MD3Message) (answer : MD3Answer) :
    Option (List MD3Message) :=
  match answer.message with
  | [] => none
  | header :: _ =>
    if header.isMasterToStationMessage then none
    else if header.getStationAddress = 0 then none
    else if header.getStationAddress ≠ conf.outstationAddr then none
    else if responseSuccess data.currentFunctionCode header answer then
      some (responseCommands data.currentFunctionCode header answer)
    else none

/-- An answer is accepted from the outstation of the port when it is a success. -/
theorem acceptsResponse_isSome_iff (data : MasterCommandData MD3Message) {header : MD3BlockData}
    {rest : MD3Message} (unloaded : Bool) (commands : List MD3Message) :
    let answer : MD3Answer := { message := header :: rest, unloaded, commands }
    (conf.acceptsResponse data answer).isSome = true ↔
      header.isMasterToStationMessage = false ∧ header.getStationAddress ≠ 0 ∧
        header.getStationAddress = conf.outstationAddr ∧
        responseSuccess data.currentFunctionCode header answer = true := by
  intro answer
  simp only [acceptsResponse, answer]
  by_cases request : header.isMasterToStationMessage = true
  · simp [request]
  · by_cases broadcast : header.getStationAddress = 0
    · simp [broadcast]
    · by_cases same : header.getStationAddress = conf.outstationAddr
      · cases success : responseSuccess data.currentFunctionCode header
            { message := header :: rest, unloaded, commands } with
        | true => simp [request, same]
        | false => simp [request, same]
      · simp [request, broadcast, same]

/-- The queue of an MD3 master. -/
def masterPort : MasterPort MD3Message MD3Answer where
  commandRetries := conf.md3CommandRetries
  commandTimeoutmsec := conf.md3CommandTimeoutmsec
  requireEnabled := false
  getFunctionCode := commandFunctionCode
  accepts := conf.acceptsResponse

@[simp] theorem masterPort_canSend (enabled : Bool) :
    conf.masterPort.canSend enabled = true := by
  cases enabled <;> rfl

end MD3MasterConf

end OpenDataCon.MD3Port
