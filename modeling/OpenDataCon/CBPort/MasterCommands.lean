import OpenDataCon.CBPort.Block
import OpenDataCon.MasterQueue.CommandQueue

/-!
# The commands of a Conitel master

A Conitel master is a `MasterPort` that does not send while it is disabled. An
answer must come from the outstation of the port and carry the function of the
command. Scans, events and station requests are then accepted as they are; the
answer to a control must repeat its header (`checkResponseHeaderMatch`).
-/

set_option autoImplicit false

namespace OpenDataCon.CBPort

open MasterQueue

/-- The settings of a master. -/
structure CBMasterConf where
  outstationAddr : Nat
  cbCommandRetries : Nat := 3
  cbCommandTimeoutmsec : Nat := 5000
deriving DecidableEq, Repr

namespace CBMasterConf

variable (conf : CBMasterConf)

/-- Does the header repeat the group and the B data that was sent? -/
def checkResponseHeaderMatch (receivedHeader sentHeader : CBBlockData) : Bool :=
  receivedHeader.getGroup == sentHeader.getGroup && receivedHeader.getB == sentHeader.getB

/-- The function code of a command is in its first block. -/
def commandFunctionCode (message : CBMessage) : Nat := (message.headD {}).getFunctionCode

/-- The success of an answer, by the function of the current command. A scan
and an event answer are processed to the end whatever they hold. -/
def responseSuccess (data : MasterCommandData CBMessage) (header : CBBlockData) : Bool :=
  let code := data.currentFunctionCode
  let sentHeader := data.currentCommand.message.headD {}
  if code = FUNC_SCAN_DATA then true
  else if code = FUNC_EXECUTE_COMMAND ∨ code = FUNC_TRIP ∨ code = FUNC_SETPOINT_A ∨
      code = FUNC_CLOSE ∨ code = FUNC_SETPOINT_B then
    checkResponseHeaderMatch header sentHeader
  else if code = FUNC_MASTER_STATION_REQUEST then true
  else if code = FUNC_SEND_NEW_SOE ∨ code = FUNC_REPEAT_SOE then true
  else false

/-- An answer is accepted from the outstation of the port, for the function of
the current command. Its processing queues nothing. -/
def acceptsResponse (data : MasterCommandData CBMessage) (message : CBMessage) :
    Option (List CBMessage) :=
  match message with
  | [] => none
  | header :: _ =>
    if header.getStationAddress = 0 then none
    else if header.getStationAddress ≠ conf.outstationAddr then none
    else if header.getFunctionCode ≠ data.currentFunctionCode then none
    else if responseSuccess data header then some []
    else none

/-- The queue of a Conitel master. -/
def masterPort : MasterPort CBMessage CBMessage where
  commandRetries := conf.cbCommandRetries
  commandTimeoutmsec := conf.cbCommandTimeoutmsec
  requireEnabled := true
  getFunctionCode := commandFunctionCode
  accepts := conf.acceptsResponse

@[simp] theorem masterPort_canSend (enabled : Bool) :
    conf.masterPort.canSend enabled = enabled := by
  cases enabled <;> rfl

/-- The poll of the event queue. -/
def sendFn10SOEScanCommand (group : Nat) : CBMessage :=
  [.addressBlock conf.outstationAddr group FUNC_SEND_NEW_SOE 0#16 true]

/-- The poll of a group. -/
def sendF0ScanCommand (group : Nat) : CBMessage :=
  [.addressBlock conf.outstationAddr group FUNC_SCAN_DATA 0#16 true]

end CBMasterConf

end OpenDataCon.CBPort
