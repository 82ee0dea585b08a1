import OpenDataCon.CBPort.ExecutedControls
import OpenDataCon.CBPort.MasterControls
import OpenDataCon.MasterQueue.Turns

/-!
# Controls on their way

A control is given to the master, which queues its select and its execute. Each has its turn, and
is transmitted until an answer is accepted or no retry is left. The outstation performs what is
pending in the group, and a subscriber answers each control at once. No message is lost, and every
answer comes before the timeout.

However often they are transmitted, of the selects only the last one counts (`attempts_select`)
and of the executes only the first one (`attempts_execute`). An execute publishes the controls that
are selected (`mem_publishedControls_execute`) and is answered when one of them succeeds
(`answer_execute`).
-/

set_option autoImplicit false

namespace OpenDataCon.CBPort

open Runs CBOutstation MasterQueue
open MD3Port (ControlCode ControlRelayOutputBlock)

/-! ## The link -/

/-- A station has an address of four bits, and the master takes no answers from zero. -/
structure StationAddress where
  address : Nat
  positive : 0 < address
  fits : address < 16

/-- A command on its way: the queue of the master when it is given and when its turn comes, and
when each of its transmissions arrives. -/
structure CommandTurn where
  given : MasterCommandData CBMessage := { currentCommand := { message := [] } }
  atTurn : MasterCommandData CBMessage := { currentCommand := { message := [] } }
  arrives : Nat → Nat

/-- There is room in the queue when the command is given. -/
def CommandTurn.HasRoom (turn : CommandTurn) : Prop :=
  turn.given.masterCommandQueue.length < turn.given.maxCommandQueueSize

instance (turn : CommandTurn) : Decidable turn.HasRoom := Nat.decLt ..

/-- A master and an outstation whose control points are loaded from the same additions, as they
are when a control is given. -/
structure CBControlLink where
  conf : CBOutstationConf := {}
  calls : List PointTable.PointCall
  station : StationAddress
  cbCommandRetries : Nat := 3
  cbCommandTimeoutmsec : Nat := 5000
  masterEnabled : Bool := true
  outstation : CBOutstation
  sameControls : SameMaps (PointTable.load {} calls).1 outstation.pointTable
  select : CommandTurn
  execute : CommandTurn
  subscriber : ControlEvent → ControlStatus := fun _ => .SUCCESS

/-- What became of a command: the outstation after it, what the outstation put out, and what the
master did. -/
structure Exchanged where
  outstation : CBOutstation
  outputs : List OutstationOutput := []
  effects : List (Effect CBMessage) := []

/-- The controls that were published, and what was posted to the callback. -/
structure PairOutcome where
  events : List ControlEvent := []
  posted : List CommandStatus := []
deriving DecidableEq, Repr

/-- The controls among what the outstation puts out. -/
def publishedControls (outputs : List OutstationOutput) : List ControlEvent :=
  outputs.filterMap fun
    | .publish _ event _ => some event
    | .send _ => none

namespace CBControlLink

variable (link : CBControlLink)

/-- The table of the master. -/
def table : PointTable := (PointTable.load {} link.calls).1

def masterConf : CBMasterConf where
  outstationAddr := link.station.address
  cbCommandRetries := link.cbCommandRetries
  cbCommandTimeoutmsec := link.cbCommandTimeoutmsec

/-- The subscriber answers a control that waits for its result. -/
def answerControl (outstation : CBOutstation) :
    OutstationOutput → CBOutstation × List OutstationOutput
  | .publish _ event (some header) => outstation.executeCallback header (link.subscriber event)
  | _ => (outstation, [])

/-- A message arrives at the outstation, and what it publishes at the subscriber. -/
def deliver (message : CBMessage) (outstation : CBOutstation) (now : Nat) :
    CBOutstation × List OutstationOutput :=
  let handled := outstation.processCBMessage link.conf message now
  let answered := run link.answerControl handled.1 handled.2
  (answered.1, handled.2 ++ answered.2)

/-- So many transmissions of a message. -/
def attempts (message : CBMessage) (arrives : Nat → Nat) (outstation : CBOutstation)
    (count : Nat) : CBOutstation × List OutstationOutput :=
  run (link.deliver message) outstation ((List.range count).map arrives)

/-- The answer to a transmission. Further answers to it come when the command is finished. -/
def answer (message : CBMessage) (arrives : Nat → Nat) (outstation : CBOutstation)
    (attempt : Nat) : CBMessage :=
  (sentMessages (link.deliver message (link.attempts message arrives outstation attempt).1
    (arrives attempt)).2).headD []

/-- A command is queued and has its turn; a full queue refuses it. -/
def exchange (turn : CommandTurn) (item : MasterCommandQueueItem CBMessage)
    (outstation : CBOutstation) : Exchanged :=
  if turn.HasRoom then
    let exchanged := link.masterConf.masterPort.turn link.masterEnabled
      (link.answer item.message turn.arrives outstation) turn.atTurn item
    let delivered := link.attempts item.message turn.arrives outstation exchanged.1
    { outstation := delivered.1, outputs := delivered.2, effects := exchanged.2 }
  else
    { outstation := outstation, effects := MasterPort.postCallbackCall item.callback .UNDEFINED }

/-- The callback goes with the execute. -/
def sendPair (id : Nat) (pair : ControlPair) : PairOutcome :=
  let selected := link.exchange link.select { message := pair.select } link.outstation
  let executed := link.exchange link.execute { message := pair.execute, callback := some id }
    selected.outstation
  { events := publishedControls (selected.outputs ++ executed.outputs)
    posted := postedFor id (selected.effects ++ executed.effects) }

/-- A master that is disabled sends nothing, nor does one that does not know the point. -/
def outcome (id : Nat) (pair : Option ControlPair) : PairOutcome :=
  if !link.masterEnabled then { posted := [.UNDEFINED] }
  else
    match pair with
    | none => { posted := [.UNDEFINED] }
    | some pair => link.sendPair id pair

/-- A control for a binary point. -/
def control (id index : Nat) (command : ControlRelayOutputBlock) : PairOutcome :=
  link.outcome id
    (link.masterConf.writeObject link.conf.isBakerDevice link.table command index)

/-- A value for an analog point. -/
def analogControl (id index : Nat) (command : BitVec 16) : PairOutcome :=
  link.outcome id (link.masterConf.writeAnalogObject link.table command index)

/-- The status of the control is a success. An outstation on its own takes it to be one. -/
def Succeeds (event : ControlEvent) : Prop :=
  link.conf.standAloneOutstation = true ∨ link.subscriber event = .SUCCESS

instance : DecidablePred link.Succeeds := fun _ => inferInstanceAs (Decidable (_ ∨ _))

end CBControlLink

/-! ## A select at the outstation -/

/-- The data that an accepted select leaves: its own, or that of another channel. -/
def storedData (outstation : CBOutstation) (command : CommandType) (data : BitVec 16) :
    BitVec 16 :=
  if outstation.failControlResponse ∧ (command = .Trip ∨ command = .Close) then
    corruptedControlData data
  else data

/-- The outstation after an accepted select. -/
def selectedAt (outstation : CBOutstation) (header : CBBlockData) (now : Nat) : CBOutstation :=
  let command := selectedCommand header.getFunctionCode
  let stored := storedData outstation command header.getB
  { outstation with
    pendingCommands := Function.update outstation.pendingCommands header.getGroup
      { command := command, data := stored, expiryTime := now + CommandValidTimemsec }
    lastSentCBMessage := [answerBlock header stored] }

section Selects

variable {conf : CBOutstationConf} {outstation : CBOutstation} {header : CBBlockData}

/-- The condition on a select: that it is one, and accepted. -/
def AcceptsSelect (conf : CBOutstationConf) (outstation : CBOutstation) (header : CBBlockData) :
    Prop :=
  Accepts conf outstation.pointTable header.getGroup (selectedCommand header.getFunctionCode)
    header.getB

theorem funcTripClose_accepted {pCommand : CommandType}
    (binary : pCommand = .Trip ∨ pCommand = .Close)
    (command : selectedCommand header.getFunctionCode = pCommand)
    (accepts : AcceptsSelect conf outstation header) (now : Nat) :
    outstation.funcTripClose conf header pCommand now =
      (selectedAt outstation header now,
        [.send [answerBlock header (storedData outstation pCommand header.getB)]]) := by
  rw [AcceptsSelect, command] at accepts
  obtain ⟨named, single⟩ := accepts
  have found : (outstation.pointTable.getBinaryControlODCIndexUsingCBIndex header.getGroup
      (controlChannel conf header.getB)).isSome := by
    rcases binary with rfl | rfl
    · rwa [controlOf, Option.isSome_map] at named
    · rwa [controlOf, Option.isSome_map] at named
  obtain ⟨index, found⟩ := Option.isSome_iff_exists.mp found
  simp only [funcTripClose, single binary, if_true, setPending_pointTable, found,
    setPending_failControlResponse, setPending_setPending, selectedAt, command, storedData, binary,
    and_true]
  split
  · simp [sendCBMessage, setPending]
  · simp [sendCBMessage, setPending]

theorem funcSetAB_accepted {pCommand : CommandType}
    (setpoint : pCommand = .SetA ∨ pCommand = .SetB)
    (command : selectedCommand header.getFunctionCode = pCommand)
    (accepts : AcceptsSelect conf outstation header) (now : Nat) :
    outstation.funcSetAB header pCommand now =
      (selectedAt outstation header now,
        [.send [answerBlock header (storedData outstation pCommand header.getB)]]) := by
  rw [AcceptsSelect, command] at accepts
  have found : (outstation.pointTable.getAnalogControlODCIndexUsingCBIndex header.getGroup
      (setpointChannel pCommand)).isSome := by
    have named := accepts.1
    rcases setpoint with rfl | rfl
    · rwa [controlOf, Option.isSome_map] at named
    · rwa [controlOf, Option.isSome_map] at named
  have stored : storedData outstation pCommand header.getB = header.getB := by
    rcases setpoint with rfl | rfl
    · simp [storedData]
    · simp [storedData]
  obtain ⟨index, found⟩ := Option.isSome_iff_exists.mp found
  simp [funcSetAB, found, selectedAt, command, stored, sendCBMessage, setPending]

theorem AcceptsSelect.chosen (accepts : AcceptsSelect conf outstation header) :
    selectedCommand header.getFunctionCode ≠ .None := by
  intro none
  rw [AcceptsSelect, none] at accepts
  cases accepts.1

/-- **A select that is accepted** is stored for its time, and answered with what is stored. -/
theorem processCBMessage_select (enabled : outstation.enabled = true)
    (accepts : AcceptsSelect conf outstation header) (rest : CBMessage) (now : Nat) :
    outstation.processCBMessage conf (header :: rest) now =
      (selectedAt outstation header now,
        [.send [answerBlock header
          (storedData outstation (selectedCommand header.getFunctionCode) header.getB)]]) := by
  have chosen := accepts.chosen
  simp only [processCBMessage, enabled, Bool.not_true, Bool.false_eq_true, if_false]
  by_cases trip : header.getFunctionCode = FUNC_TRIP
  · have command : selectedCommand header.getFunctionCode = .Trip := by rw [trip]; rfl
    rw [command, ← funcTripClose_accepted (.inl rfl) command accepts now, trip]
    rfl
  by_cases setA : header.getFunctionCode = FUNC_SETPOINT_A
  · have command : selectedCommand header.getFunctionCode = .SetA := by rw [setA]; rfl
    rw [command, ← funcSetAB_accepted (.inl rfl) command accepts now, setA]
    rfl
  by_cases close : header.getFunctionCode = FUNC_CLOSE
  · have command : selectedCommand header.getFunctionCode = .Close := by rw [close]; rfl
    rw [command, ← funcTripClose_accepted (.inr rfl) command accepts now, close]
    rfl
  by_cases setB : header.getFunctionCode = FUNC_SETPOINT_B
  · have command : selectedCommand header.getFunctionCode = .SetB := by rw [setB]; rfl
    rw [command, ← funcSetAB_accepted (.inr rfl) command accepts now, setB]
    rfl
  · rw [selectedCommand, if_neg trip, if_neg close, if_neg setA, if_neg setB] at chosen
    exact absurd rfl chosen

/-- A select after a select is as if it was the first. -/
theorem selectedAt_selectedAt (before now : Nat) :
    selectedAt (selectedAt outstation header before) header now =
      selectedAt outstation header now := by
  simp only [selectedAt, Function.update_idem]
  rfl

/-- **The controls that are pending after an accepted select.** -/
theorem pendingControl_selectedAt (accepts : AcceptsSelect conf outstation header)
    (before now group : Nat) :
    pendingControl conf now (selectedAt outstation header before) group =
      if group = header.getGroup then
        if now ≤ before + CommandValidTimemsec then
          controlOf conf outstation.pointTable group (selectedCommand header.getFunctionCode)
            (storedData outstation (selectedCommand header.getFunctionCode) header.getB)
        else none
      else pendingControl conf now outstation group := by
  by_cases here : group = header.getGroup
  · subst here
    simp only [pendingControl, selectedAt, Function.update_self, if_true]
    by_cases inTime : now ≤ before + CommandValidTimemsec
    · rw [if_neg (by omega), if_pos inTime]
    · rw [if_pos ⟨by omega, accepts.chosen⟩, if_neg inTime]
  · simp only [pendingControl, selectedAt, Function.update_of_ne here, if_neg here]

end Selects

/-! ## Transmissions -/

theorem publishedControls_append (first second : List OutstationOutput) :
    publishedControls (first ++ second) = publishedControls first ++ publishedControls second :=
  List.filterMap_append ..

namespace CBControlLink

variable (link : CBControlLink) {outstation : CBOutstation} {header : CBBlockData}
  (rest : CBMessage) (arrives : Nat → Nat)

theorem attempts_succ (message : CBMessage) (count : Nat) :
    link.attempts message arrives outstation (count + 1) =
      ((link.deliver message (link.attempts message arrives outstation count).1 (arrives count)).1,
        (link.attempts message arrives outstation count).2 ++
          (link.deliver message (link.attempts message arrives outstation count).1
            (arrives count)).2) := by
  simp only [attempts, List.range_succ, List.map_append, run_append, List.map_singleton,
    run_singleton]

/-- An outstation that is disabled is silent. -/
theorem deliver_disabled (disabled : outstation.enabled = false) (message : CBMessage)
    (now : Nat) : link.deliver message outstation now = (outstation, []) := by
  simp [deliver, processCBMessage, disabled]

theorem attempts_disabled (disabled : outstation.enabled = false) (message : CBMessage)
    (count : Nat) : link.attempts message arrives outstation count = (outstation, []) := by
  induction count with
  | zero => rfl
  | succ count ih => rw [attempts_succ, ih, deliver_disabled link disabled, List.append_nil]

theorem answer_disabled (disabled : outstation.enabled = false) (message : CBMessage)
    (attempt : Nat) : link.answer message arrives outstation attempt = [] := by
  rw [answer, attempts_disabled link arrives disabled, deliver_disabled link disabled]
  rfl

/-! ## Transmissions of a select -/

section Selects

variable (enabled : outstation.enabled = true) (accepts : AcceptsSelect link.conf outstation header)

include enabled accepts

theorem deliver_select (now : Nat) :
    link.deliver (header :: rest) outstation now =
      (selectedAt outstation header now,
        [.send [answerBlock header
          (storedData outstation (selectedCommand header.getFunctionCode) header.getB)]]) := by
  rw [deliver, processCBMessage_select enabled accepts]
  rfl

/-- **Only the last of the selects counts**, and they publish nothing. -/
theorem attempts_select (count : Nat) :
    (link.attempts (header :: rest) arrives outstation (count + 1)).1 =
        selectedAt outstation header (arrives count) ∧
      publishedControls (link.attempts (header :: rest) arrives outstation (count + 1)).2 = [] := by
  induction count with
  | zero =>
      rw [attempts_succ]
      exact ⟨congrArg Prod.fst (link.deliver_select rest enabled accepts _),
        congrArg publishedControls
          (congrArg Prod.snd (link.deliver_select rest enabled accepts (arrives 0)))⟩
  | succ count ih =>
      obtain ⟨state, silent⟩ := ih
      have again := link.deliver_select rest
        (show (selectedAt outstation header (arrives count)).enabled = true from enabled) accepts
        (arrives (count + 1))
      rw [selectedAt_selectedAt] at again
      rw [attempts_succ, state, again, publishedControls_append, silent]
      exact ⟨rfl, rfl⟩

theorem answer_select :
    link.answer (header :: rest) arrives outstation 0 =
      [answerBlock header
        (storedData outstation (selectedCommand header.getFunctionCode) header.getB)] := by
  have first := link.deliver_select rest enabled accepts (arrives 0)
  exact congrArg (fun delivered => (sentMessages delivered.2).headD []) first

end Selects

/-! ## Transmissions of an execute -/

/-- What the outstation sends when a control is answered. -/
def controlAnswer : OutstationOutput → List OutstationOutput
  | .publish _ event (some header) =>
    if link.subscriber event = .SUCCESS then [.send [answerBlock header 0#16]] else []
  | _ => []

theorem answerControl_outputs (outstation : CBOutstation) (output : OutstationOutput) :
    (link.answerControl outstation output).2 = link.controlAnswer output := by
  unfold answerControl controlAnswer
  split
  · unfold executeCallback
    split <;> rfl
  · rfl

/-- The groups of the execute have no pending command. -/
structure Executed (header : CBBlockData) (outstation : CBOutstation) : Prop where
  enabled : outstation.enabled = true
  cleared : ∀ group ∈ executeGroups link.conf header,
    (outstation.pendingCommands group).command = .None

theorem Executed.answerControl {link : CBControlLink} (executed : link.Executed header outstation)
    (output : OutstationOutput) :
    link.Executed header (link.answerControl outstation output).1 := by
  unfold CBControlLink.answerControl
  split
  · next event waiting =>
      have same := (executeCallback_quiet outstation waiting (link.subscriber event)).same
      refine ⟨(executeCallback_enabled outstation waiting _).trans executed.enabled, ?_⟩
      rw [same.pending]
      exact executed.cleared
  · exact executed

/-- What a delivered execute puts out: the pending controls, and the answers to them. -/
theorem deliver_execute_outputs (enabled : outstation.enabled = true)
    (execute : header.getFunctionCode = FUNC_EXECUTE_COMMAND) (now : Nat) :
    (link.deliver (header :: rest) outstation now).2 =
      let performed :=
        pendingOutputs link.conf now outstation header (executeGroups link.conf header)
      performed ++ performed.flatMap link.controlAnswer := by
  rw [deliver, processCBMessage_execute enabled execute]
  dsimp only
  rw [executeCommand_outputs enabled, run_stateless link.answerControl_outputs]

theorem deliver_execute_executed (enabled : outstation.enabled = true)
    (execute : header.getFunctionCode = FUNC_EXECUTE_COMMAND) (now : Nat) :
    link.Executed header (link.deliver (header :: rest) outstation now).1 := by
  rw [deliver, processCBMessage_execute enabled execute]
  refine run_invariant (link.Executed header) (fun _ output executed =>
    executed.answerControl output) ?_ _
  rw [executeCommand_eq]
  refine ⟨?_, fun group member => run_executeAndClear_command link.conf header _ now outstation _
    member⟩
  exact run_invariant (fun outstation => outstation.enabled = true)
    (fun outstation group holds => (executeAndClear_enabled outstation header group _).trans holds)
    enabled _

/-- A group without a pending command has no pending control. -/
theorem pendingControl_none {conf : CBOutstationConf} {now group : Nat}
    (none : (outstation.pendingCommands group).command = .None) :
    pendingControl conf now outstation group = .none := by
  simp [pendingControl, none, controlOf]

/-- **An execute after an execute finds nothing to perform.** -/
theorem Executed.silent {link : CBControlLink} (executed : link.Executed header outstation)
    (execute : header.getFunctionCode = FUNC_EXECUTE_COMMAND) (rest : CBMessage) (now : Nat) :
    (link.deliver (header :: rest) outstation now).2 = [] := by
  have nothing : pendingOutputs link.conf now outstation header
      (executeGroups link.conf header) = [] := by
    refine List.flatMap_eq_nil_iff.mpr fun group member => ?_
    rw [pendingControl_none (executed.cleared group member)]
    rfl
  rw [deliver_execute_outputs link rest executed.enabled execute, nothing]
  rfl

/-- **Only the first of the executes counts.** -/
theorem attempts_execute (enabled : outstation.enabled = true)
    (execute : header.getFunctionCode = FUNC_EXECUTE_COMMAND) (count : Nat) :
    link.Executed header (link.attempts (header :: rest) arrives outstation (count + 1)).1 ∧
      (link.attempts (header :: rest) arrives outstation (count + 1)).2 =
        (link.deliver (header :: rest) outstation (arrives 0)).2 := by
  induction count with
  | zero =>
      rw [attempts_succ]
      exact ⟨link.deliver_execute_executed rest enabled execute (arrives 0), List.nil_append _⟩
  | succ count ih =>
      obtain ⟨executed, outputs⟩ := ih
      rw [attempts_succ]
      refine ⟨link.deliver_execute_executed rest executed.enabled execute _, ?_⟩
      rw [outputs, executed.silent execute, List.append_nil]

theorem answer_execute_later (enabled : outstation.enabled = true)
    (execute : header.getFunctionCode = FUNC_EXECUTE_COMMAND) (attempt : Nat) :
    link.answer (header :: rest) arrives outstation (attempt + 1) = [] := by
  obtain ⟨executed, -⟩ := link.attempts_execute rest arrives enabled execute attempt
  rw [answer, executed.silent execute]
  rfl

/-! ## What an execute publishes, and how it is answered -/

/-- A performed control is published, once or twice. -/
theorem mem_publishedControls_performOutputs {conf : CBOutstationConf} {group : Nat}
    {event other : ControlEvent} :
    other ∈ publishedControls (performOutputs conf header group event) ↔ other = event := by
  cases alone : conf.standAloneOutstation with
  | false => simp [publishedControls, performOutputs, alone]
  | true => simp [publishedControls, performOutputs, alone]

/-- **The controls that an execute publishes** are those that are selected. -/
theorem mem_publishedControls_execute (enabled : outstation.enabled = true)
    (execute : header.getFunctionCode = FUNC_EXECUTE_COMMAND) (now : Nat) (event : ControlEvent) :
    event ∈ publishedControls (link.deliver (header :: rest) outstation now).2 ↔
      event ∈ selectedControls link.conf now outstation header := by
  have unpublished (outputs : List OutstationOutput) :
      publishedControls (outputs.flatMap link.controlAnswer) = [] := by
    refine List.filterMap_eq_nil_iff.mpr fun output member => ?_
    obtain ⟨asked, -, answered⟩ := List.mem_flatMap.mp member
    unfold controlAnswer at answered
    split at answered
    · split at answered
      · rw [List.mem_singleton.mp answered]
      · cases answered
    · cases answered
  rw [deliver_execute_outputs link rest enabled execute]
  dsimp only
  rw [publishedControls_append, unpublished, List.append_nil, selectedControls,
    List.mem_filterMap, publishedControls, pendingOutputs, List.filterMap_flatMap,
    List.mem_flatMap]
  refine exists_congr fun group => and_congr_right fun _ => ?_
  rw [List.filterMap_flatMap, List.mem_flatMap]
  simp only [Option.mem_toList]
  constructor
  · rintro ⟨performed, pending, published⟩
    rw [mem_publishedControls_performOutputs.mp published, pending]
  · intro pending
    exact ⟨event, pending, mem_publishedControls_performOutputs.mpr rfl⟩

/-- A performed control is answered when it succeeds. -/
theorem send_mem_performed (group : Nat) (event : ControlEvent) (message : CBMessage) :
    (.send message ∈ performOutputs link.conf header group event ∨
        ∃ output ∈ performOutputs link.conf header group event,
          .send message ∈ link.controlAnswer output) ↔
      message = [answerBlock header 0#16] ∧ link.Succeeds event := by
  by_cases success : link.subscriber event = .SUCCESS
  · cases alone : link.conf.standAloneOutstation with
    | false => simp [performOutputs, alone, controlAnswer, success, Succeeds]
    | true => simp [performOutputs, alone, controlAnswer, success, Succeeds]
  · cases alone : link.conf.standAloneOutstation with
    | false => simp [performOutputs, alone, controlAnswer, success, Succeeds]
    | true => simp [performOutputs, alone, controlAnswer, success, Succeeds]

/-- The answers to an execute are alike. -/
theorem mem_sentMessages_execute (enabled : outstation.enabled = true)
    (execute : header.getFunctionCode = FUNC_EXECUTE_COMMAND) (now : Nat) (message : CBMessage) :
    message ∈ sentMessages (link.deliver (header :: rest) outstation now).2 ↔
      message = [answerBlock header 0#16] ∧
        ∃ event ∈ selectedControls link.conf now outstation header, link.Succeeds event := by
  have sent (outputs : List OutstationOutput) :
      message ∈ sentMessages outputs ↔ .send message ∈ outputs := by
    rw [sentMessages, List.mem_filterMap]
    constructor
    · rintro ⟨output, member, isSent⟩
      cases output with
      | send other =>
          cases isSent
          exact member
      | publish => cases isSent
    · intro member
      exact ⟨.send message, member, rfl⟩
  rw [deliver_execute_outputs link rest enabled execute, sent]
  simp only [List.mem_append, List.mem_flatMap, pendingOutputs, selectedControls,
    List.mem_filterMap, Option.mem_toList]
  constructor
  · rintro (⟨group, member, event, pending, performed⟩ |
      ⟨output, ⟨group, member, event, pending, performed⟩, answered⟩)
    · obtain ⟨same, succeeds⟩ :=
        (link.send_mem_performed group event message).mp (.inl performed)
      exact ⟨same, event, ⟨group, member, pending⟩, succeeds⟩
    · obtain ⟨same, succeeds⟩ :=
        (link.send_mem_performed group event message).mp (.inr ⟨output, performed, answered⟩)
      exact ⟨same, event, ⟨group, member, pending⟩, succeeds⟩
  · rintro ⟨same, event, ⟨group, member, pending⟩, succeeds⟩
    rcases (link.send_mem_performed group event message).mpr ⟨same, succeeds⟩ with
      performed | ⟨output, performed, answered⟩
    · exact .inl ⟨group, member, event, pending, performed⟩
    · exact .inr ⟨output, ⟨group, member, event, pending, performed⟩, answered⟩

/-- **The answer to an execute**: there is one when a control succeeds that is selected. -/
theorem answer_execute (enabled : outstation.enabled = true)
    (execute : header.getFunctionCode = FUNC_EXECUTE_COMMAND) :
    link.answer (header :: rest) arrives outstation 0 =
      if ∃ event ∈ selectedControls link.conf (arrives 0) outstation header, link.Succeeds event
      then [answerBlock header 0#16] else [] := by
  have sent := link.mem_sentMessages_execute rest enabled execute (arrives 0)
  change (sentMessages (link.deliver (header :: rest) outstation (arrives 0)).2).headD [] = _
  cases messages : sentMessages (link.deliver (header :: rest) outstation (arrives 0)).2 with
  | nil =>
      rw [if_neg]
      · rfl
      · intro succeeds
        have member := (sent _).mpr ⟨rfl, succeeds⟩
        rw [messages] at member
        cases member
  | cons first others =>
      obtain ⟨same, succeeds⟩ := (sent first).mp (messages ▸ List.mem_cons_self)
      rw [if_pos succeeds, ← same]
      rfl

end CBControlLink

end OpenDataCon.CBPort
