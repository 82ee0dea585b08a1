import Mathlib.Data.List.InsertIdx
import OpenDataCon.Foundations.Redelivery
import OpenDataCon.Foundations.Runs
import OpenDataCon.MD3Port.DigitalAnswers
import OpenDataCon.MasterQueue.Commands

/-!
# Polling time-tagged events

A master polls an outstation over channels that keep the order of messages but may drop them. The
outstation takes the events that it puts into an answer from its queue, and keeps the answer to
send it again for the same sequence number. With the number zero it builds a new answer every
time. The master looks at the function of an answer and not at its number.

The commands of the master are numbered here, and the popped events are recorded with the command
they were popped for. The run of both ports is then a run of a ledger of answers that are sent
again (`serve_ledger`, `receive_ledger`). In every run of safe steps, the events popped for a
command have been handed to the decoding of the master when it takes the command to have succeeded
(`run_eventsDecoded`). A lost answer to the first command, whose number is zero, loses its events
(`run_eventsDecoded_lost`).
-/

set_option autoImplicit false

namespace OpenDataCon.MD3Port

open MD3BlockData MasterQueue Redelivery Runs

/-! ## The two ports and the channels -/

/-- A command of the master, with the number it was given when it was queued. -/
abbrev NumberedCommand := Nat × MD3Message

/-- An event, with the number it was given when it was popped. -/
abbrev PoppedEvent := Nat × MD3BinaryPoint

/-- An answer as the master processes it: whether it could be unloaded to its end, and the scan
that may follow it. -/
structure ScanAnswer where
  message : MD3Message
  unloaded : Bool
  followUp : NumberedCommand

/-- An answer on its way, and the record of the events in it. -/
structure ScanResponse where
  message : MD3Message
  answer : Redelivery.Answer NumberedCommand PoppedEvent

/-- The settings of the master, and what the outstation answers to commands that are no digital
scans. -/
structure ScanConf where
  master : MD3MasterConf
  otherAnswer : MD3Message → MD3Message := fun _ => []

/-- The queue of the master, over numbered commands. -/
def ScanConf.port (conf : ScanConf) : MasterPort NumberedCommand ScanAnswer where
  commandRetries := conf.master.md3CommandRetries
  commandTimeoutmsec := conf.master.md3CommandTimeoutmsec
  requireEnabled := false
  getFunctionCode := fun command => MD3MasterConf.commandFunctionCode command.2
  accepts := fun data answer =>
    (conf.master.acceptsResponse
      { currentCommand := { message := data.currentCommand.message.2 }
        currentFunctionCode := data.currentFunctionCode }
      { message := answer.message, unloaded := answer.unloaded
        commands := [answer.followUp.2] }).map fun commands =>
          commands.map fun message => (answer.followUp.1, message)

/-- The two ports, the messages on their way, and the record of what happened. -/
structure ScanExchange where
  master : MasterSystem NumberedCommand
  masterTable : BinaryTable
  digitalCommandSequenceNumber : Nat := 0
  commands : Nat := 0
  outstation : DigitalOutstation
  requests : List NumberedCommand := []
  responses : List ScanResponse := []
  /-- The answer that the outstation keeps. -/
  kept : Option (Redelivery.Answer NumberedCommand PoppedEvent) := none
  succeeded : List NumberedCommand := []
  popped : List (NumberedCommand × PoppedEvent) := []
  decoded : List (NumberedCommand × PoppedEvent) := []

/-- An event at the outstation; a scan for changes or of all modules, or another command; a wait
of the master that expires, and the handler of one; the outstation takes a request; a message is
lost; the master takes an answer. -/
inductive ScanInput where
  | event (index : Nat) (meas : Bool) (eventtime : Nat)
  | scan (taggedeventcount modulecount : Nat)
  | unconditional (startmoduleaddress modulecount : Nat)
  | command (message : MD3Message)
  | expire
  | runHandler (position : Nat)
  | serve
  | dropRequest (position : Nat)
  | dropResponse (position : Nat)
  | deliver (now : Nat)
deriving DecidableEq, Repr

/-- The messages among effects. -/
def messagesSent (effects : List (Effect NumberedCommand)) : List NumberedCommand :=
  effects.filterMap fun
    | .send message => some message
    | _ => none

/-! ## What a command takes from the queue -/

section Taken

variable (outstation : DigitalOutstation) (header : MD3BlockData)

/-- No more events are counted than were asked for. -/
theorem eventCount_le (soeTimeOffsetMinutes : Int) {maxEventCount eventCount : Nat}
    (within : eventCount ≤ maxEventCount) (lastPointmsec : Nat) (queue : List MD3BinaryPoint) :
    (fn11AddTimeTaggedDataToResponseWords soeTimeOffsetMinutes maxEventCount eventCount
      lastPointmsec queue).eventCount ≤ maxEventCount := by
  induction queue generalizing eventCount lastPointmsec with
  | nil => exact within
  | cons currentPoint rest ih =>
      unfold fn11AddTimeTaggedDataToResponseWords
      by_cases room : eventCount < maxEventCount
      · rw [if_pos room]
        dsimp only
        -- a marker, a gap that is too long, or one event more
        split_ifs
        all_goals first | exact within | exact ih room _
      · rw [if_neg room]
        exact within

/-- No event is taken when none is asked for. -/
theorem queue_of_noEvents (soeTimeOffsetMinutes : Int) (lastPointmsec : Nat)
    (queue : List MD3BinaryPoint) :
    (fn11AddTimeTaggedDataToResponseWords soeTimeOffsetMinutes 0 0 lastPointmsec queue).queue =
      queue := by
  cases queue with
  | nil => rfl
  | cons currentPoint rest => rfl

namespace DigitalOutstation

/-- An answer with data says so. -/
theorem getFunctionCode_sendChanges :
    ((outstation.sendChanges header).2.headD {}).getFunctionCode =
      DIGITAL_CHANGE_OF_STATE_TIME_TAGGED := by
  unfold sendChanges
  dsimp only
  rw [List.headD_cons, getFunctionCode_answered, getFunctionCode_answer]
  · rw [BinaryTable.buildScanReturnBlocks_eq, BinaryTable.moduleBlocks, List.length_map]
    exact Nat.lt_of_le_of_lt (List.length_take_le _ _) header.getModuleCount_lt
  · unfold takeEvents
    split
    · exact Nat.lt_of_le_of_lt (eventCount_le _ (Nat.zero_le _) _ _) header.getTaggedEventCount_lt
    · exact Nat.zero_lt_succ 15

/-- A scan that is answered with a notice that there is nothing to send, one that asks for no
events, and one that finds none leave the queue as it is. -/
theorem queue_doDigitalScan (fresh : outstation.isRepeat header = false)
    (nothing : ((outstation.doDigitalScan header).2.headD {}).getFunctionCode =
        DIGITAL_NO_CHANGE_REPLY ∨ header.getTaggedEventCount = 0 ∨
      outstation.table.binaryTimeTaggedEventQueue = []) :
    (outstation.doDigitalScan header).1.table.binaryTimeTaggedEventQueue =
      outstation.table.binaryTimeTaggedEventQueue := by
  rw [doDigitalScan_fresh header fresh] at nothing ⊢
  dsimp only at nothing ⊢
  by_cases quiet : (outstation.marked header).Quiet
  · rw [if_pos quiet]
    exact marked_queue header
  · rw [if_neg quiet] at nothing ⊢
    have read : ((outstation.marked header).table.buildScanReturnBlocksFromList
        ((outstation.marked header).table.buildListOfModuleAddressesWithChanges 0)
        header.getModuleCount).1.binaryTimeTaggedEventQueue =
          outstation.table.binaryTimeTaggedEventQueue := by
      rw [BinaryTable.buildScanReturnBlocks_eq]
      exact (BinaryTable.sameFrame_clearModules _ _).2.2.2.trans (marked_queue header)
    have data := getFunctionCode_sendChanges (outstation.marked header) header
    rcases nothing with noChange | noneAsked | empty
    · exact absurd (data.symm.trans noChange) (by decide)
    · simp only [keep, sendChanges, takeEvents]
      split
      · dsimp only
        rw [noneAsked, queue_of_noEvents, read]
      · exact read
    · simp only [keep, sendChanges, takeEvents, timeTaggedDataAvailable, read, empty,
        List.isEmpty_nil, Bool.not_true, Bool.false_eq_true, if_false]

/-- A scan of all modules takes no events. -/
theorem queue_doDigitalUnconditional :
    (outstation.doDigitalUnconditional header).1.table.binaryTimeTaggedEventQueue =
      outstation.table.binaryTimeTaggedEventQueue := by
  unfold doDigitalUnconditional
  split
  · rfl
  · dsimp only [keep]
    rw [BinaryTable.buildScanReturnBlocks_eq]
    exact (BinaryTable.sameFrame_clearModules _ _).2.2.2

end DigitalOutstation

end Taken

namespace ScanExchange

variable (conf : ScanConf)

/-- A step of the master; what it sends goes to the channel. -/
def masterStep (exchange : ScanExchange) (action : Action NumberedCommand ScanAnswer) :
    ScanExchange :=
  let result := exchange.master.step conf.port action
  { exchange with
    master := result.1
    requests := exchange.requests ++ messagesSent result.2 }

/-- A command is queued, under the next number. -/
def queueCommand (exchange : ScanExchange) (message : MD3Message) : ScanExchange :=
  masterStep conf { exchange with commands := exchange.commands + 1 }
    (.queue (exchange.commands, message) false)

/-- A scan takes the next sequence number. -/
def queueScan (exchange : ScanExchange) (command : Nat → MD3BlockData) : ScanExchange :=
  queueCommand conf
    { exchange with
      digitalCommandSequenceNumber :=
        nextDigitalCommandSequenceNumber exchange.digitalCommandSequenceNumber }
    [command exchange.digitalCommandSequenceNumber]

/-- The events that left the queue of the outstation, numbered from the last one on. -/
def poppedNow (exchange : ScanExchange) (after : DigitalOutstation) : List PoppedEvent :=
  let queue := exchange.outstation.table.binaryTimeTaggedEventQueue
  let left := after.table.binaryTimeTaggedEventQueue
  (queue.take (queue.length - left.length)).zipIdx.map fun event =>
    (exchange.popped.length + event.2, event.1)

def isScan (message : MD3Message) : Bool :=
  (message.headD {}).getFunctionCode == DIGITAL_CHANGE_OF_STATE_TIME_TAGGED

def isUnconditional (message : MD3Message) : Bool :=
  (message.headD {}).getFunctionCode == DIGITAL_UNCONDITIONAL

/-- What the outstation does for a digital command. -/
def answerDigital (exchange : ScanExchange) (message : MD3Message) :
    DigitalOutstation × MD3Message :=
  if isScan message then exchange.outstation.doDigitalScan (message.headD {})
  else exchange.outstation.doDigitalUnconditional (message.headD {})

/-- The outstation takes a command and answers it. -/
def serve (exchange : ScanExchange) (command : NumberedCommand) : ScanExchange :=
  if isScan command.2 || isUnconditional command.2 then
    let result := exchange.answerDigital command.2
    if exchange.outstation.isRepeat (command.2.headD {}) then
      { exchange with
        outstation := result.1
        responses := exchange.responses ++
          [⟨result.2,
            { request := command, entries := exchange.kept.elim [] Redelivery.Answer.entries }⟩] }
    else
      let entries := (exchange.poppedNow result.1).map fun event => (command, event)
      { exchange with
        outstation := result.1
        responses := exchange.responses ++ [⟨result.2, { request := command, entries }⟩]
        kept := some { request := command, entries }
        popped := exchange.popped ++ entries }
  else
    { exchange with
      responses := exchange.responses ++
        [⟨conf.otherAnswer command.2, { request := command }⟩] }

/-- Whether the master looks for events in an answer, by the function of its command. -/
def decodes (code : Nat) : MD3Message → Bool
  | [] => false
  | header :: _ =>
    !header.isMasterToStationMessage && header.getStationAddress != 0 &&
      header.getStationAddress == conf.master.outstationAddr &&
      (code == DIGITAL_CHANGE_OF_STATE_TIME_TAGGED &&
          header.getFunctionCode == DIGITAL_CHANGE_OF_STATE_TIME_TAGGED ||
        code == DIGITAL_UNCONDITIONAL &&
          (header.getFunctionCode == DIGITAL_UNCONDITIONAL ||
            header.getFunctionCode == DIGITAL_CHANGE_OF_STATE_TIME_TAGGED))

/-- An answer as the master processes it. -/
def scanAnswer (exchange : ScanExchange) (now : Nat) (message : MD3Message) : ScanAnswer where
  message := message
  unloaded := (exchange.masterTable.processDigitalAnswer
    exchange.master.data.currentFunctionCode now message).2
  followUp := (exchange.commands,
    [MD3BlockFn11MtoS (message.headD {}).getStationAddress 15
      exchange.digitalCommandSequenceNumber 15])

/-- Whether the master takes an answer to be a success. -/
def accepts (exchange : ScanExchange) (now : Nat) (message : MD3Message) : Bool :=
  (conf.port.accepts exchange.master.data (exchange.scanAnswer now message)).isSome

/-- The master takes an answer. A scan that was answered with events is followed by another one,
which takes the next number. -/
def receive (exchange : ScanExchange) (now : Nat) (response : ScanResponse) : ScanExchange :=
  let data := exchange.master.data
  let code := data.currentFunctionCode
  let decodes := decodes conf code response.message
  let accepted := exchange.accepts conf now response.message
  let follows := accepted && code == DIGITAL_CHANGE_OF_STATE_TIME_TAGGED && isScan response.message
  masterStep conf
    { exchange with
      masterTable := if decodes then
          (exchange.masterTable.processDigitalAnswer code now response.message).1.1
        else exchange.masterTable
      commands := if follows then exchange.commands + 1 else exchange.commands
      digitalCommandSequenceNumber := if follows then
          nextDigitalCommandSequenceNumber exchange.digitalCommandSequenceNumber
        else exchange.digitalCommandSequenceNumber
      decoded := if decodes then exchange.decoded ++ response.answer.entries else exchange.decoded
      succeeded := if accepted then exchange.succeeded ++ [data.currentCommand.message]
        else exchange.succeeded }
    (.response (exchange.scanAnswer now response.message))

def step (exchange : ScanExchange) : ScanInput → ScanExchange × List Unit
  | .event index meas eventtime =>
    ({ exchange with outstation := { exchange.outstation with
        table := (exchange.outstation.table.setBinaryValueUsingODCIndex index meas
          eventtime).1 } }, [])
  | .scan taggedeventcount modulecount =>
    (exchange.queueScan conf fun number => MD3BlockFn11MtoS conf.master.outstationAddr
      taggedeventcount number modulecount, [])
  | .unconditional startmoduleaddress modulecount =>
    (exchange.queueScan conf fun number => MD3BlockFn12MtoS conf.master.outstationAddr
      startmoduleaddress number modulecount, [])
  | .command message => (exchange.queueCommand conf message, [])
  | .expire => (exchange.masterStep conf .expire, [])
  | .runHandler position => (exchange.masterStep conf (.runHandler position), [])
  | .serve =>
    match exchange.requests with
    | [] => (exchange, [])
    | command :: rest => (serve conf { exchange with requests := rest } command, [])
  | .dropRequest position =>
    ({ exchange with requests := exchange.requests.eraseIdx position }, [])
  | .dropResponse position =>
    ({ exchange with responses := exchange.responses.eraseIdx position }, [])
  | .deliver now =>
    match exchange.responses with
    | [] => (exchange, [])
    | response :: rest => (receive conf { exchange with responses := rest } now response, [])

/-- Both ports as they are built, with nothing on its way. -/
def start (outstation : DigitalOutstation) (masterTable : BinaryTable) : ScanExchange :=
  { master := MasterSystem.start true (0, []), masterTable, outstation }

/-- The events popped for every command that has succeeded have been handed to the decoding. -/
def EventsDecoded (exchange : ScanExchange) : Prop :=
  ∀ command ∈ exchange.succeeded, ∀ entry ∈ exchange.popped,
    entry.1 = command → entry ∈ exchange.decoded

instance (exchange : ScanExchange) : Decidable exchange.EventsDecoded :=
  inferInstanceAs (Decidable (∀ command ∈ _, ∀ entry ∈ _, _))

/-! ## The ledger of a run -/

/-- What happened, as a ledger of answers. -/
def ledger (exchange : ScanExchange) : Ledger NumberedCommand PoppedEvent where
  inFlight := exchange.responses.map ScanResponse.answer
  kept := exchange.kept
  succeeded := exchange.succeeded
  taken := exchange.popped
  handed := exchange.decoded

/-- What serving a command is to the ledger. -/
def serveEvent (exchange : ScanExchange) (command : NumberedCommand) :
    Redelivery.Event NumberedCommand PoppedEvent :=
  if isScan command.2 || isUnconditional command.2 then
    if exchange.outstation.isRepeat (command.2.headD {}) then .serveAgain command
    else .serve command (exchange.poppedNow (exchange.answerDigital command.2).1)
  else .serveOther command

theorem serve_ledger (exchange : ScanExchange) (command : NumberedCommand) :
    (serve conf exchange command).ledger =
      Redelivery.step exchange.ledger (exchange.serveEvent command) := by
  unfold serve serveEvent
  split_ifs with digital again
  · simp only [ledger, Redelivery.step, List.map_append, List.map_singleton,
      Ledger.keptEntries]
  · simp only [ledger, Redelivery.step, List.map_append, List.map_singleton]
  · simp only [ledger, Redelivery.step, List.map_append, List.map_singleton]

/-- A step of the master alone changes nothing in the ledger. -/
@[simp] theorem ledger_masterStep (exchange : ScanExchange)
    (action : Action NumberedCommand ScanAnswer) :
    (exchange.masterStep conf action).ledger = exchange.ledger := rfl

theorem receive_ledger (exchange : ScanExchange) (now : Nat) (response : ScanResponse)
    (rest : List ScanResponse) :
    (receive conf { exchange with responses := rest } now response).ledger =
      Redelivery.step { exchange with responses := response :: rest }.ledger
        (.receive exchange.master.data.currentCommand.message
          (decodes conf exchange.master.data.currentFunctionCode response.message)
          (exchange.accepts conf now response.message)) := by
  unfold receive
  rw [ledger_masterStep]
  rfl

/-! ## Safe steps -/

/-- When the outstation may take a command. The kept answer is sent again for the scan it was made
for. A scan that takes events has no answer on its way and has not succeeded. -/
def SafeServe (exchange : ScanExchange) (command : NumberedCommand) : Prop :=
  isScan command.2 = true →
    if exchange.outstation.isRepeat (command.2.headD {}) then
      (∃ kept ∈ exchange.kept, kept.request = command) ∨ exchange.ledger.Settled command
    else
      exchange.ledger.Settled command ∧
        (exchange.outstation.table.binaryTimeTaggedEventQueue = [] ∨
          (command.2.headD {}).getTaggedEventCount = 0 ∨
          command ∉ exchange.succeeded ∧
            ∀ response ∈ exchange.responses, response.answer.request ≠ command)

/-- When the master may take an answer: it is not a success, or it was sent for the current
command, or nothing is outstanding for that command. -/
def SafeTake (exchange : ScanExchange) (now : Nat) (response : ScanResponse) : Prop :=
  exchange.accepts conf now response.message = true →
    response.answer.request = exchange.master.data.currentCommand.message ∨
      exchange.ledger.Settled exchange.master.data.currentCommand.message

/-- An input that loses no events. -/
def SafeInput (exchange : ScanExchange) : ScanInput → Prop
  | .serve => ∀ command ∈ exchange.requests.head?, exchange.SafeServe command
  | .deliver now => ∀ response ∈ exchange.responses.head?, SafeTake conf exchange now response
  | _ => True

instance decidableSafeServe (exchange : ScanExchange) (command : NumberedCommand) :
    Decidable (exchange.SafeServe command) :=
  inferInstanceAs (Decidable (isScan command.2 = true → ite _ _ _))

instance decidableSafeTake (exchange : ScanExchange) (now : Nat) (response : ScanResponse) :
    Decidable (SafeTake conf exchange now response) :=
  inferInstanceAs (Decidable (_ = true → _ ∨ _))

instance decidableSafeInput (exchange : ScanExchange) :
    ∀ input, Decidable (SafeInput conf exchange input)
  | .serve => inferInstanceAs (Decidable (∀ command ∈ exchange.requests.head?, _))
  | .deliver _ => inferInstanceAs (Decidable (∀ response ∈ exchange.responses.head?, _))
  | .event _ _ _ | .scan _ _ | .unconditional _ _ | .command _ | .expire | .runHandler _
  | .dropRequest _ | .dropResponse _ => .isTrue trivial

/-! ## What every safe run keeps -/

/-- Everything outstanding is in the answers, events were taken only for scans, a notice that
there is nothing to send has no events, and the current command of the master was queued. -/
structure Invariant (exchange : ScanExchange) : Prop where
  covered : exchange.ledger.Covered
  scans : ∀ entry ∈ exchange.popped, isScan entry.1.2 = true
  notices : ∀ response ∈ exchange.responses,
    (response.message.headD {}).getFunctionCode = DIGITAL_NO_CHANGE_REPLY →
      response.answer.entries = []
  keptNotice : ∀ kept ∈ exchange.kept,
    (exchange.outstation.lastDigitialScanResponseMD3Message.headD {}).getFunctionCode =
      DIGITAL_NO_CHANGE_REPLY → kept.entries = []
  carrying : Carrying conf.port (fun _ => True) exchange.master
  begun : Begun conf.port (fun _ => True) exchange.master.data

variable {conf} {exchange : ScanExchange}

/-- Nothing is outstanding for a command that is no scan. -/
theorem Invariant.settled (invariant : Invariant conf exchange) {command : NumberedCommand}
    (other : isScan command.2 = false) : exchange.ledger.Settled command := by
  intro entry taken own
  have scan := invariant.scans entry taken
  rw [own, other] at scan
  exact absurd scan Bool.false_ne_true

/-- The master has its current command from its queue, after any step. -/
theorem Invariant.masterStep (invariant : Invariant conf exchange)
    (action : Action NumberedCommand ScanAnswer) (notClear : action ≠ .clear) :
    Invariant conf (exchange.masterStep conf action) := by
  have followUps : FollowUps conf.port fun _ => True := fun _ _ _ _ _ _ => trivial
  have carries := step_carries followUps invariant.carrying notClear fun _ _ _ => trivial
  exact
    { covered := invariant.covered
      scans := invariant.scans
      notices := invariant.notices
      keptNotice := invariant.keptNotice
      carrying := carries.carrying
      begun := carries.begun invariant.begun }

theorem Invariant.queueCommand (invariant : Invariant conf exchange) (message : MD3Message) :
    Invariant conf (exchange.queueCommand conf message) := by
  have numbered : Invariant conf { exchange with commands := exchange.commands + 1 } :=
    { invariant with }
  exact numbered.masterStep (.queue (exchange.commands, message) false) (by simp)

theorem Invariant.queueScan (invariant : Invariant conf exchange) (command : Nat → MD3BlockData) :
    Invariant conf (exchange.queueScan conf command) := by
  have numbered : Invariant conf { exchange with
      digitalCommandSequenceNumber :=
        nextDigitalCommandSequenceNumber exchange.digitalCommandSequenceNumber } :=
    { invariant with }
  exact numbered.queueCommand [command exchange.digitalCommandSequenceNumber]

/-- Nothing leaves a queue that stays as it is. -/
theorem poppedNow_of_same {after : DigitalOutstation}
    (same : after.table.binaryTimeTaggedEventQueue =
      exchange.outstation.table.binaryTimeTaggedEventQueue) : exchange.poppedNow after = [] := by
  unfold poppedNow
  dsimp only
  rw [same, Nat.sub_self]
  rfl

/-- A repeated digital command gets the kept message. -/
theorem answerDigital_repeat {message : MD3Message}
    (again : exchange.outstation.isRepeat (message.headD {}) = true) :
    exchange.answerDigital message =
      (exchange.outstation, exchange.outstation.lastDigitialScanResponseMD3Message) := by
  unfold answerDigital
  split
  · exact exchange.outstation.doDigitalScan_repeat _ again
  · unfold DigitalOutstation.doDigitalUnconditional
    rw [if_pos again]

/-- The answer to a digital command that is no repeat is kept. -/
theorem answerDigital_keeps {message : MD3Message}
    (fresh : exchange.outstation.isRepeat (message.headD {}) = false) :
    (exchange.answerDigital message).1.lastDigitialScanResponseMD3Message =
      (exchange.answerDigital message).2 := by
  unfold answerDigital
  split
  · rw [DigitalOutstation.doDigitalScan_fresh _ fresh]
    rfl
  · unfold DigitalOutstation.doDigitalUnconditional
    rw [fresh]
    rfl

/-- What a fresh command takes: nothing for a scan of all modules, for a notice, for a scan that
asks for nothing, and from an empty queue. -/
theorem poppedNow_answerDigital {message : MD3Message}
    (fresh : exchange.outstation.isRepeat (message.headD {}) = false)
    (nothing : isScan message = false ∨
      ((exchange.answerDigital message).2.headD {}).getFunctionCode = DIGITAL_NO_CHANGE_REPLY ∨
      (message.headD {}).getTaggedEventCount = 0 ∨
      exchange.outstation.table.binaryTimeTaggedEventQueue = []) :
    exchange.poppedNow (exchange.answerDigital message).1 = [] := by
  apply poppedNow_of_same
  unfold answerDigital at nothing ⊢
  by_cases scan : isScan message = true
  · rw [if_pos scan] at nothing ⊢
    rcases nothing with other | quiet
    · exact absurd scan (by rw [other]; exact Bool.false_ne_true)
    · exact exchange.outstation.queue_doDigitalScan _ fresh quiet
  · rw [if_neg scan]
    exact exchange.outstation.queue_doDigitalUnconditional _

/-- Serving a command safely keeps the invariant. -/
theorem Invariant.serve (invariant : Invariant conf exchange) {command : NumberedCommand}
    (safe : exchange.SafeServe command) : Invariant conf (serve conf exchange command) := by
  have safeEvent : exchange.ledger.Safe (exchange.serveEvent command) := by
    unfold serveEvent
    by_cases scan : isScan command.2 = true
    · have safe := safe scan
      rw [if_pos (by rw [scan, Bool.true_or])]
      by_cases again : exchange.outstation.isRepeat (command.2.headD {}) = true
      · rw [if_pos again] at safe ⊢
        exact safe
      · rw [if_neg again] at safe ⊢
        refine ⟨safe.1, ?_⟩
        rw [Bool.not_eq_true] at again
        rcases safe.2 with empty | noneAsked | alone
        · exact .inl (poppedNow_answerDigital again (.inr (.inr (.inr empty))))
        · exact .inl (poppedNow_answerDigital again (.inr (.inr (.inl noneAsked))))
        · refine .inr ⟨alone.1, ?_⟩
          intro answer member
          obtain ⟨response, flying, rfl⟩ := List.mem_map.mp member
          exact alone.2 response flying
    · -- nothing was ever taken for a command that is no scan
      rw [Bool.not_eq_true] at scan
      have settled := invariant.settled scan
      split_ifs with digital again
      · exact .inr settled
      · rw [Bool.not_eq_true] at again
        exact ⟨settled, .inl (poppedNow_answerDigital again (.inl scan))⟩
      · exact settled
  have covered : (ScanExchange.serve conf exchange command).ledger.Covered := by
    rw [serve_ledger]
    exact Ledger.step_covered invariant.covered safeEvent
  revert covered
  unfold ScanExchange.serve
  split_ifs with digital again
  · intro covered
    have resent := answerDigital_repeat again
    refine { invariant with covered, notices := ?_, keptNotice := ?_ }
    · intro response member notice
      rcases List.mem_append.mp member with before | new
      · exact invariant.notices response before notice
      · rw [List.mem_singleton.mp new] at notice ⊢
        rw [resent] at notice
        cases isKept : exchange.kept with
        | none => rfl
        | some kept => exact invariant.keptNotice kept isKept notice
    · dsimp only
      rw [resent]
      exact invariant.keptNotice
  · rw [Bool.not_eq_true] at again
    intro covered
    have nothing (notice : ((exchange.answerDigital command.2).2.headD {}).getFunctionCode =
        DIGITAL_NO_CHANGE_REPLY) :
        (exchange.poppedNow (exchange.answerDigital command.2).1).map
          (fun event => (command, event)) = [] := by
      rw [poppedNow_answerDigital again (.inr (.inl notice))]
      rfl
    refine { invariant with covered, scans := ?_, notices := ?_, keptNotice := ?_ }
    · intro entry member
      rcases List.mem_append.mp member with before | new
      · exact invariant.scans entry before
      · obtain ⟨event, popped, rfl⟩ := List.mem_map.mp new
        by_contra other
        rw [Bool.not_eq_true] at other
        rw [poppedNow_answerDigital again (.inl other)] at popped
        cases popped
    · intro response member notice
      rcases List.mem_append.mp member with before | new
      · exact invariant.notices response before notice
      · rw [List.mem_singleton.mp new] at notice ⊢
        exact nothing notice
    · intro kept isKept notice
      rw [← Option.some.inj isKept]
      rw [answerDigital_keeps again] at notice
      exact nothing notice
  · intro covered
    refine { invariant with covered, notices := ?_ }
    intro response member notice
    rcases List.mem_append.mp member with before | new
    · exact invariant.notices response before notice
    · rw [List.mem_singleton.mp new]

/-- What the master takes to be a success is handed to its decoding, or is a notice, when its
command is a digital one. -/
theorem decodes_of_accepts {now : Nat} {message : MD3Message}
    (accepted : exchange.accepts conf now message = true)
    (digital : exchange.master.data.currentFunctionCode = DIGITAL_CHANGE_OF_STATE_TIME_TAGGED) :
    decodes conf exchange.master.data.currentFunctionCode message = true ∨
      (message.headD {}).getFunctionCode = DIGITAL_NO_CHANGE_REPLY := by
  cases message with
  | nil => exact absurd accepted Bool.false_ne_true
  | cons header rest =>
      unfold accepts at accepted
      simp only [ScanConf.port, scanAnswer, Option.isSome_map] at accepted
      obtain ⟨answer, addressed, same, success⟩ :=
        (MD3MasterConf.acceptsResponse_isSome_iff conf.master _ _ _).mp accepted
      rw [digital] at success ⊢
      by_cases notice : header.getFunctionCode = DIGITAL_NO_CHANGE_REPLY
      · exact .inr notice
      · refine .inl ?_
        simp only [MD3MasterConf.responseSuccess, notice, if_false,
          if_neg (by decide : ¬DIGITAL_CHANGE_OF_STATE_TIME_TAGGED = ANALOG_UNCONDITIONAL),
          if_neg (by decide : ¬DIGITAL_CHANGE_OF_STATE_TIME_TAGGED = ANALOG_DELTA_SCAN),
          if_true, Bool.and_eq_true] at success
        rw [same] at addressed
        simp [decodes, answer, addressed, same, success.1]

/-- Taking an answer safely keeps the invariant. -/
theorem Invariant.receive {response : ScanResponse} {rest : List ScanResponse} {now : Nat}
    (invariant : Invariant conf exchange) (flying : exchange.responses = response :: rest)
    (safe : SafeTake conf exchange now response) :
    Invariant conf (receive conf { exchange with responses := rest } now response) := by
  have covered : (ScanExchange.receive conf { exchange with responses := rest } now
      response).ledger.Covered := by
    rw [receive_ledger]
    have whole : ({ exchange with responses := response :: rest } : ScanExchange) = exchange := by
      rw [← flying]
    rw [whole]
    refine Ledger.step_covered invariant.covered ?_
    intro accepted answer first
    have isFirst : response.answer = answer := by
      rw [ledger, flying] at first
      exact Option.some.inj first
    rw [← isFirst]
    by_cases scan : isScan exchange.master.data.currentCommand.message.2 = true
    · refine (safe accepted).imp_left fun own => ⟨own, ?_⟩
      have code : exchange.master.data.currentFunctionCode =
          DIGITAL_CHANGE_OF_STATE_TIME_TAGGED := invariant.begun.code.trans (eq_of_beq scan)
      refine (decodes_of_accepts accepted code).imp_right fun notice => ?_
      exact invariant.notices response (flying ▸ .head _) notice
    · rw [Bool.not_eq_true] at scan
      exact .inr (invariant.settled scan)
  refine Invariant.masterStep ?_ (.response _) (by simp)
  exact
    { covered
      scans := invariant.scans
      notices := fun other member => invariant.notices other (flying ▸ .tail _ member)
      keptNotice := invariant.keptNotice
      carrying := invariant.carrying
      begun := invariant.begun }

/-- **A safe step keeps the invariant.** -/
theorem Invariant.step (invariant : Invariant conf exchange) (input : ScanInput)
    (safe : SafeInput conf exchange input) : Invariant conf (step conf exchange input).1 := by
  cases input with
  | event index meas eventtime => exact { invariant with }
  | scan taggedeventcount modulecount =>
      dsimp only [ScanExchange.step]
      exact invariant.queueScan _
  | unconditional startmoduleaddress modulecount =>
      dsimp only [ScanExchange.step]
      exact invariant.queueScan _
  | command message =>
      dsimp only [ScanExchange.step]
      exact invariant.queueCommand message
  | expire => exact invariant.masterStep .expire (by simp)
  | runHandler position => exact invariant.masterStep (.runHandler position) (by simp)
  | serve =>
      unfold ScanExchange.step
      cases waiting : exchange.requests with
      | nil => exact invariant
      | cons command rest =>
          have safe : exchange.SafeServe command := safe command (waiting ▸ rfl)
          have shorter : Invariant conf { exchange with requests := rest } := { invariant with }
          exact shorter.serve safe
  | dropRequest position => exact { invariant with }
  | dropResponse position =>
      refine { invariant with covered := ?_, notices := ?_ }
      · have dropped : (ScanExchange.step conf exchange (.dropResponse position)).1.ledger =
            Redelivery.step exchange.ledger (.drop position) := by
          simp only [ledger, ScanExchange.step, Redelivery.step, List.eraseIdx_map]
        rw [dropped]
        exact Ledger.step_covered invariant.covered trivial
      · exact fun response member =>
          invariant.notices response (List.mem_of_mem_eraseIdx member)
  | deliver now =>
      unfold ScanExchange.step
      cases flying : exchange.responses with
      | nil => exact invariant
      | cons response rest => exact invariant.receive flying (safe response (flying ▸ rfl))

theorem start_invariant (outstation : DigitalOutstation) (masterTable : BinaryTable) :
    Invariant conf (start outstation masterTable) where
  covered := Ledger.covered_empty
  scans := fun _ member => absurd member List.not_mem_nil
  notices := fun _ member => absurd member List.not_mem_nil
  keptNotice := fun kept member => absurd member (Option.not_mem_none kept)
  carrying := start_carrying true (0, [])
  begun := ⟨trivial, (by decide : 0 = MD3MasterConf.commandFunctionCode [])⟩

/-- A master and the outstation with an event of module 5. -/
def exchangeWithEvent : ScanExchange :=
  start (outstationWithEvent 5) { layout := (outstationWithEvent 5).table.layout }

end ScanExchange

end OpenDataCon.MD3Port
