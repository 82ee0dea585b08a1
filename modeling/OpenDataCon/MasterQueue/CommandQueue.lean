import Mathlib
import OpenDataCon.Foundations.Runs

/-!
# The command queue of a master

A master sends one command at a time. Commands wait in a queue; the one in
flight is kept to be sent again after a timeout, a limited number of times. An
answer that is accepted, or the last timeout, moves the master on to the next
command, and the status callback of the finished command is posted.

The two master ports have the same queue. They differ in the settings and
functions of a `MasterPort`: whether a disabled port still sends, how a message
names its function, and which answers are accepted.

Every function returns what it does to the outside as a list of effects. The
run of a port (`MasterSystem`) keeps the timer beside the data: a wait that has
expired is a handler queued on the strand, and neither a cancel nor a new wait
recalls it.
-/

set_option autoImplicit false

namespace OpenDataCon.MasterQueue

universe u v

/-! ## The protected data and its functions -/

inductive CommandStatus where
  | SUCCESS | UNDEFINED
deriving DecidableEq, Repr

/-- A command and its status callback. A callback is known by a number. -/
structure MasterCommandQueueItem (M : Type u) where
  message : M
  callback : Option Nat := none
deriving DecidableEq, Repr

/-- The variables that the strand protects. Numbers of retries are 32-bit words. -/
structure MasterCommandData (M : Type u) where
  maxCommandQueueSize : Nat := 20
  masterCommandQueue : List (MasterCommandQueueItem M) := []
  currentCommand : MasterCommandQueueItem M
  currentFunctionCode : Nat := 0
  processingCommand : Bool := false
  timerExpireTime : Nat := 0
  retriesLeft : Nat := 0
deriving DecidableEq, Repr

/-- What a step does to the outside: send, start or cancel the timer, post a
callback, mark the points as having lost communications. -/
inductive Effect (M : Type u) where
  | send (message : M)
  | armTimer (endtime : Nat)
  | cancelTimer
  | post (callback : Nat) (status : CommandStatus)
  | commsLost
deriving DecidableEq, Repr

/-- What the two ports differ in. -/
structure MasterPort (M : Type u) (R : Type v) where
  commandRetries : Nat
  commandTimeoutmsec : Nat
  /-- A disabled port does not send. -/
  requireEnabled : Bool
  getFunctionCode : M → Nat
  /-- An accepted answer, and the commands its processing queues without callback. -/
  accepts : MasterCommandData M → R → Option (List M)

namespace MasterPort

variable {M : Type u} {R : Type v} (port : MasterPort M R)

/-- Just schedule the callback; there may be none. -/
def postCallbackCall (callback : Option Nat) (status : CommandStatus) : List (Effect M) :=
  match callback with
  | none => []
  | some id => [.post id status]

/-- One less, as a 32-bit word. -/
def decremented (n : Nat) : Nat := if n = 0 then 2 ^ 32 - 1 else n - 1

/-- After a timeout: use up a retry, or report the command as failed. -/
def retryCommand (data : MasterCommandData M) : MasterCommandData M × List (Effect M) :=
  let left := data.retriesLeft
  let data := { data with retriesLeft := decremented left }
  if 0 < left then ({ data with processingCommand := true }, [])
  else (data, postCallbackCall data.currentCommand.callback .UNDEFINED ++ [.commsLost])

/-- Take the next command from the queue, unless the current one is being retried. -/
def takeNextCommand (data : MasterCommandData M) : MasterCommandData M :=
  match data.masterCommandQueue with
  | [] => data
  | front :: rest =>
    if data.processingCommand then data
    else
      { data with
        processingCommand := true
        retriesLeft := port.commandRetries
        currentCommand := front
        masterCommandQueue := rest
        currentFunctionCode := port.getFunctionCode front.message }

/-- Send the current command and start its timer. -/
def transmit (data : MasterCommandData M) : MasterCommandData M × List (Effect M) :=
  if data.processingCommand then
    ({ data with timerExpireTime := port.commandTimeoutmsec },
      [.send data.currentCommand.message, .armTimer port.commandTimeoutmsec])
  else (data, [])

/-- A port that is disabled may be unable to send. -/
def canSend (enabled : Bool) : Bool := !port.requireEnabled || enabled

def unprotectedSendNextMasterCommand (enabled : Bool) (data : MasterCommandData M)
    (timeoutoccured : Bool) : MasterCommandData M × List (Effect M) :=
  if !port.canSend enabled then (data, [])
  else if data.processingCommand then (data, [])
  else
    let first := if timeoutoccured then retryCommand data else (data, [])
    let last := port.transmit (port.takeNextCommand first.1)
    (last.1, first.2 ++ last.2)

def queueCommand (enabled : Bool) (data : MasterCommandData M) (item : MasterCommandQueueItem M) :
    MasterCommandData M × List (Effect M) :=
  if data.masterCommandQueue.length < data.maxCommandQueueSize then
    port.unprotectedSendNextMasterCommand enabled
      { data with masterCommandQueue := data.masterCommandQueue ++ [item] } false
  else
    let sent := port.unprotectedSendNextMasterCommand enabled data false
    (sent.1, postCallbackCall item.callback .UNDEFINED ++ sent.2)

/-- The handler of an expired wait, which kept the expiry time it was started with. -/
def timeoutHandler (enabled : Bool) (data : MasterCommandData M) (endtime : Nat) :
    MasterCommandData M × List (Effect M) :=
  if endtime = data.timerExpireTime then
    port.unprotectedSendNextMasterCommand enabled { data with processingCommand := false } true
  else (data, [])

def clearCommandQueue (data : MasterCommandData M) : MasterCommandData M :=
  { data with masterCommandQueue := [], currentFunctionCode := 0, processingCommand := false }

/-- The end of a successful answer. -/
def finishCommand (enabled : Bool) (data : MasterCommandData M) :
    MasterCommandData M × List (Effect M) :=
  let next := port.unprotectedSendNextMasterCommand enabled
    { data with processingCommand := false } false
  (next.1, .cancelTimer :: postCallbackCall data.currentCommand.callback .SUCCESS ++ next.2)

/-- An answer arrives. Commands that its processing queues go first. -/
def processMessage (enabled : Bool) (data : MasterCommandData M) (response : R) :
    MasterCommandData M × List (Effect M) :=
  match port.accepts data response with
  | none => (data, [])
  | some commands =>
    let queued := Runs.run (fun data message => port.queueCommand enabled data { message := message })
      data commands
    let finished := port.finishCommand enabled queued.1
    (finished.1, queued.2 ++ finished.2)

end MasterPort

/-! ## Runs of a port -/

/-- A wait on the timer, for the transmission that started it. -/
structure Wait where
  transmission : Nat
  endtime : Nat
deriving DecidableEq, Repr

/-- A port in a run: its data, its timer, the handlers queued on the strand,
and a record of what happened. -/
structure MasterSystem (M : Type u) where
  data : MasterCommandData M
  enabled : Bool := true
  /-- The wait that can still expire or be cancelled. -/
  pending : Option Wait := none
  /-- The waits that expired, whose handlers have not run. -/
  handlers : List Wait := []
  transmissions : Nat := 0
  /-- The transmissions that were answered successfully. -/
  answered : List Nat := []
  /-- How many commands with a callback were queued; they are numbered in order. -/
  commands : Nat := 0
  posted : List (Nat × CommandStatus) := []
deriving DecidableEq, Repr

/-- A step of the strand or of its surroundings. -/
inductive Action (M : Type u) (R : Type v) where
  | queue (message : M) (withCallback : Bool)
  | response (message : R)
  | expire
  | runHandler (position : Nat)
  | clear
  | setEnabled (enabled : Bool)
deriving DecidableEq, Repr

namespace MasterSystem

variable {M : Type u} {R : Type v} (port : MasterPort M R)

/-- Record one effect. A new wait replaces the pending one. -/
def record (system : MasterSystem M) : Effect M → MasterSystem M
  | .send _ => { system with transmissions := system.transmissions + 1 }
  | .armTimer endtime =>
    { system with
      pending := some { transmission := system.transmissions - 1, endtime := endtime } }
  | .cancelTimer => { system with pending := none }
  | .post callback status => { system with posted := system.posted ++ [(callback, status)] }
  | .commsLost => system

/-- The data after a function of the port, and the record of its effects. -/
def update (system : MasterSystem M) (result : MasterCommandData M × List (Effect M)) :
    MasterSystem M :=
  { result.2.foldl record system with data := result.1 }

def step (system : MasterSystem M) : Action M R → MasterSystem M × List (Effect M)
  | .queue message withCallback =>
    let callback := if withCallback then some system.commands else none
    let result := port.queueCommand system.enabled system.data
      { message := message, callback := callback }
    ({ system with
        commands := if withCallback then system.commands + 1 else system.commands }.update result,
      result.2)
  | .response message =>
    let result := port.processMessage system.enabled system.data message
    ({ system with
        answered :=
          if (port.accepts system.data message).isSome && 0 < system.transmissions then
            system.answered ++ [system.transmissions - 1]
          else system.answered }.update result, result.2)
  | .expire =>
    match system.pending with
    | none => (system, [])
    | some wait => ({ system with pending := none, handlers := system.handlers ++ [wait] }, [])
  | .runHandler position =>
    match system.handlers[position]? with
    | none => (system, [])
    | some wait =>
      let result := port.timeoutHandler system.enabled system.data wait.endtime
      ({ system with handlers := system.handlers.eraseIdx position }.update result, result.2)
  | .clear => ({ system with data := MasterPort.clearCommandQueue system.data }, [])
  | .setEnabled enabled => ({ system with enabled := enabled }, [])

/-- A port as it is built, before anything is sent. -/
def start (enabled : Bool) (message : M) : MasterSystem M :=
  { data := { currentCommand := { message := message } }, enabled := enabled }

end MasterSystem

end OpenDataCon.MasterQueue
