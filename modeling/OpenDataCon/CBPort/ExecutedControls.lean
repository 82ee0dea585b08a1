import OpenDataCon.CBPort.SelectBeforeOperate
import OpenDataCon.Outstations.Performing

/-!
# The controls of an execute

An execute performs the pending control of its group, or those of all groups when a Baker device
receives it for group zero. A control is pending when it was selected, has not expired, and has a
control point. What an execute puts out is what performing these controls one after the other puts
out (`executeCommand_outputs`) and asks for (`executeCommand_actions`): a response is sent for each
call of its callback that is a success.
-/

set_option autoImplicit false

namespace OpenDataCon.CBPort

open Runs CBOutstation

/-- A message that is put out while a control is performed is the response to a success. -/
def OutstationOutput.action : OutstationOutput → Outstations.Action ControlEvent
  | .send _ => .call .SUCCESS
  | .publish _ event callback => .publish event callback.isSome

/-- The actions of a message. -/
def actions (outputs : List OutstationOutput) : List (Outstations.Action ControlEvent) :=
  outputs.map OutstationOutput.action

/-- The responses to an execute: one for each call of its callback with a success. -/
def executeResponses (called : List Connectors.CommandStatus) : List Connectors.CommandStatus :=
  called.filter (· == .SUCCESS)

section Pending

variable (conf : CBOutstationConf) (now : Nat)

/-- The control that is pending in a group, if it has not expired. -/
def pendingControl (outstation : CBOutstation) (group : Nat) : Option ControlEvent :=
  let pending := outstation.pendingCommands group
  if now > pending.expiryTime ∧ pending.command ≠ .None then none
  else controlOf conf outstation.pointTable group pending.command pending.data

/-- The controls that an execute performs. -/
def selectedControls (outstation : CBOutstation) (header : CBBlockData) : List ControlEvent :=
  (executeGroups conf header).filterMap (pendingControl conf now outstation)

variable {conf now}

/-- A status that is no success is told to nobody. -/
theorem executeCallback_refused {outstation : CBOutstation} {header : CBBlockData}
    {status : ControlStatus} (refused : status ≠ .SUCCESS) :
    outstation.executeCallback header status = (outstation, []) := if_neg refused

/-- What is put out while a control is performed. -/
def performOutputs (conf : CBOutstationConf) (header : CBBlockData) (group : Nat)
    (event : ControlEvent) : List OutstationOutput :=
  (if conf.standAloneOutstation then
    [.publish group event none, .send [answerBlock header 0#16]] else []) ++
    [.publish group event (some header)]

theorem perform_outputs {outstation : CBOutstation} (enabled : outstation.enabled = true)
    (header : CBBlockData) (group : Nat) (event : ControlEvent) :
    (outstation.perform conf header group event).2 = performOutputs conf header group event := by
  cases alone : conf.standAloneOutstation with
  | false => simp [perform, enabled, alone, andThen, performOutputs]
  | true => simp [perform, enabled, alone, andThen, performOutputs, executeCallback, sendCBMessage]

/-- A control is performed as by the other outstation. -/
theorem performOutputs_actions (header : CBBlockData) (group : Nat) (event : ControlEvent) :
    actions (performOutputs conf header group event) =
      Outstations.perform true (!conf.standAloneOutstation) event := by
  cases alone : conf.standAloneOutstation with
  | false => simp [performOutputs, alone, actions, Outstations.perform, OutstationOutput.action]
  | true => simp [performOutputs, alone, actions, Outstations.perform, OutstationOutput.action]

theorem executeBinaryControl_outputs {outstation : CBOutstation}
    (enabled : outstation.enabled = true) (header : CBBlockData) (group channel : Nat)
    (pointOn : Bool) :
    (outstation.executeBinaryControl conf header group channel pointOn now).2 =
      ((outstation.pointTable.getBinaryControlODCIndexUsingCBIndex group channel).map
        (.controlRelayOutputBlock · pointOn)).toList.flatMap
          (performOutputs conf header group) := by
  unfold executeBinaryControl
  split
  · next absent =>
      rw [absent, executeCallback_refused (by decide)]
      rfl
  · next index found =>
      rw [found, Option.map_some, Option.toList_some, List.flatMap_singleton]
      exact perform_outputs (by exact enabled) header group _

theorem executeAnalogControl_outputs {outstation : CBOutstation}
    (enabled : outstation.enabled = true) (header : CBBlockData) (group channel : Nat)
    (data : BitVec 16) :
    (outstation.executeAnalogControl conf header group channel data now).2 =
      ((outstation.pointTable.getAnalogControlODCIndexUsingCBIndex group channel).map
        (.analogOutputInt16 · data)).toList.flatMap
          (performOutputs conf header group) := by
  unfold executeAnalogControl
  split
  · next absent =>
      rw [absent, executeCallback_refused (by decide)]
      rfl
  · next index found =>
      rw [found, Option.map_some, Option.toList_some, List.flatMap_singleton]
      exact perform_outputs (by exact enabled) header group _

/-- **A group performs its pending control**, and nothing else. -/
theorem executeCommandOnGroup_outputs {outstation : CBOutstation}
    (enabled : outstation.enabled = true) (header : CBBlockData) (group : Nat)
    (singlecommand : Bool) :
    (outstation.executeCommandOnGroup conf header group singlecommand now).2 =
      (pendingControl conf now outstation group).toList.flatMap
        (performOutputs conf header group) := by
  simp only [executeCommandOnGroup, pendingControl]
  split
  · rw [executeCallback_refused (by decide)]
    rfl
  · split
    · next command =>
        have refused : (if singlecommand then ControlStatus.NO_SELECT else .UNDEFINED) ≠
            .SUCCESS := by
          cases singlecommand <;> decide
        rw [executeCallback_refused refused, command]
        rfl
    · next command => rw [command, executeBinaryControl_outputs enabled, controlOf]
    · next command => rw [command, executeBinaryControl_outputs enabled, controlOf]
    · next command => rw [command, executeAnalogControl_outputs enabled, controlOf]
    · next command => rw [command, executeAnalogControl_outputs enabled, controlOf]

/-! ## One group after the other -/

theorem executeAndClear_outputs {outstation : CBOutstation} (enabled : outstation.enabled = true)
    (header : CBBlockData) (group : Nat) (singlecommand : Bool) :
    (executeAndClear conf header singlecommand now outstation group).2 =
      (pendingControl conf now outstation group).toList.flatMap
        (performOutputs conf header group) := by
  rw [executeAndClear, andThen]
  simp only [List.append_nil]
  exact executeCommandOnGroup_outputs enabled header group singlecommand

theorem executeCallback_enabled (outstation : CBOutstation) (header : CBBlockData)
    (status : ControlStatus) :
    (outstation.executeCallback header status).1.enabled = outstation.enabled := by
  unfold executeCallback
  split <;> rfl

theorem perform_enabled (outstation : CBOutstation) (header : CBBlockData) (group : Nat)
    (event : ControlEvent) :
    (outstation.perform conf header group event).1.enabled = outstation.enabled := by
  have disabled : (if !outstation.enabled then outstation.executeCallback header .UNDEFINED
      else (outstation, [])).1.enabled = outstation.enabled := by
    split
    · exact executeCallback_enabled outstation header _
    · rfl
  simp only [perform, andThen]
  split
  · exact (executeCallback_enabled _ header _).trans disabled
  · exact disabled

theorem executeCommandOnGroup_enabled (outstation : CBOutstation) (header : CBBlockData)
    (group : Nat) (singlecommand : Bool) :
    (outstation.executeCommandOnGroup conf header group singlecommand now).1.enabled =
      outstation.enabled := by
  have binary (channel : Nat) (pointOn : Bool) :
      (outstation.executeBinaryControl conf header group channel pointOn now).1.enabled =
        outstation.enabled := by
    unfold executeBinaryControl
    split
    · exact executeCallback_enabled outstation header _
    · exact perform_enabled _ header group _
  have analog (channel : Nat) (data : BitVec 16) :
      (outstation.executeAnalogControl conf header group channel data now).1.enabled =
        outstation.enabled := by
    unfold executeAnalogControl
    split
    · exact executeCallback_enabled outstation header _
    · exact perform_enabled _ header group _
  simp only [executeCommandOnGroup]
  split
  · exact executeCallback_enabled outstation header _
  · split
    · exact executeCallback_enabled outstation header _
    · exact binary _ _
    · exact binary _ _
    · exact analog _ _
    · exact analog _ _

theorem executeAndClear_enabled (outstation : CBOutstation) (header : CBBlockData) (group : Nat)
    (singlecommand : Bool) :
    (executeAndClear conf header singlecommand now outstation group).1.enabled =
      outstation.enabled :=
  executeCommandOnGroup_enabled outstation header group singlecommand

/-- The controls of the other groups stay pending. -/
theorem executeAndClear_pendingControl (outstation : CBOutstation) (header : CBBlockData)
    (singlecommand : Bool) {group other : Nat} (apart : other ≠ group) :
    pendingControl conf now (executeAndClear conf header singlecommand now outstation group).1
      other = pendingControl conf now outstation other := by
  have same := (executeCommandOnGroup_keeps conf outstation header group singlecommand now).same
  have pending : (executeAndClear conf header singlecommand now outstation
      group).1.pendingCommands other = outstation.pendingCommands other := by
    simp only [executeAndClear, andThen, setPending_pendingCommands,
      Function.update_of_ne apart, same.pending]
  simp only [pendingControl, pending]
  rw [controlOf_congr (by exact same.maps)]

/-- What some groups put out for the controls that are pending in them. -/
def pendingOutputs (conf : CBOutstationConf) (now : Nat) (outstation : CBOutstation)
    (header : CBBlockData) (groups : List Nat) : List OutstationOutput :=
  groups.flatMap fun group =>
    (pendingControl conf now outstation group).toList.flatMap (performOutputs conf header group)

/-- The groups perform the controls that were pending before the first of them. -/
theorem run_executeAndClear_outputs {outstation : CBOutstation}
    (enabled : outstation.enabled = true) (header : CBBlockData) (singlecommand : Bool)
    {groups : List Nat} (apart : groups.Nodup) :
    (run (executeAndClear conf header singlecommand now) outstation groups).2 =
      pendingOutputs conf now outstation header groups := by
  induction groups generalizing outstation with
  | nil => rfl
  | cons group rest ih =>
      obtain ⟨fresh, restApart⟩ := List.nodup_cons.mp apart
      have same : pendingOutputs conf now
          (executeAndClear conf header singlecommand now outstation group).1 header rest =
          pendingOutputs conf now outstation header rest := by
        refine List.flatMap_congr fun other later => ?_
        rw [executeAndClear_pendingControl outstation header singlecommand
          (ne_of_mem_of_not_mem later fresh)]
      rw [run_cons, executeAndClear_outputs enabled,
        ih ((executeAndClear_enabled outstation header group singlecommand).trans enabled)
          restApart, same]
      rfl

theorem executeGroups_nodup (header : CBBlockData) : (executeGroups conf header).Nodup := by
  unfold executeGroups
  split
  · exact List.nodup_range
  · exact List.nodup_singleton _

/-- **An execute performs the pending controls of its groups**, each of them once. -/
theorem executeCommand_outputs {outstation : CBOutstation} (enabled : outstation.enabled = true)
    (header : CBBlockData) :
    (outstation.executeCommand conf header now).2 =
      pendingOutputs conf now outstation header (executeGroups conf header) := by
  rw [executeCommand_eq]
  exact run_executeAndClear_outputs enabled header _ (executeGroups_nodup header)

/-- **The actions of an execute** are those of performing the controls that are selected. -/
theorem executeCommand_actions {outstation : CBOutstation} (enabled : outstation.enabled = true)
    (header : CBBlockData) :
    actions (outstation.executeCommand conf header now).2 =
      Outstations.performAll (!conf.standAloneOutstation)
        (selectedControls conf now outstation header) := by
  rw [executeCommand_outputs enabled, Outstations.performAll, selectedControls,
    List.filterMap_eq_flatMap_toList, List.flatMap_assoc]
  simp only [pendingOutputs, actions, List.map_flatMap]
  refine List.flatMap_congr fun group _ => List.flatMap_congr fun event _ => ?_
  exact performOutputs_actions header group event

/-- The message is an execute. -/
theorem processCBMessage_execute {outstation : CBOutstation} (enabled : outstation.enabled = true)
    {header : CBBlockData} (execute : header.getFunctionCode = FUNC_EXECUTE_COMMAND)
    (rest : CBMessage) :
    outstation.processCBMessage conf (header :: rest) now =
      outstation.executeCommand conf header now := by
  have noScan : FUNC_EXECUTE_COMMAND ≠ FUNC_SCAN_DATA := by decide
  simp [processCBMessage, enabled, execute, noScan]

/-- **The controls of an execute.** With all events answered each subscriber has received the
selected controls once, and there are no more responses than controls, exactly at an outstation
that is not on its own, if there are any. -/
theorem controlledOnce_execute_iff {outstation : CBOutstation}
    (enabled : outstation.enabled = true) {header : CBBlockData}
    (execute : header.getFunctionCode = FUNC_EXECUTE_COMMAND) (rest : CBMessage)
    {subscribers : Nat} (positive : 0 < subscribers) {inputs : List Outstations.Input} :
    let todo := actions (outstation.processCBMessage conf (header :: rest) now).2
    let performed := run (Outstations.step subscribers) { todo } inputs
    Outstations.Done performed.1 →
      (Outstations.ControlledOnce subscribers (selectedControls conf now outstation header)
          (selectedControls conf now outstation header).length performed.2
          (executeResponses (Outstations.called performed.2)).length ↔
        conf.standAloneOutstation = false ∨ selectedControls conf now outstation header = []) := by
  intro todo performed
  have actions : todo = Outstations.performAll (!conf.standAloneOutstation)
      (selectedControls conf now outstation header) := by
    rw [← executeCommand_actions enabled header, ← processCBMessage_execute enabled execute rest]
  subst performed
  rw [actions]
  intro done
  refine (Outstations.controlledOnce_iff positive _ _ done ?_).trans ?_
  · intro length
    exact le_of_le_of_eq (List.length_filter_le _ _) length
  · rw [Bool.not_eq_true']

end Pending

end OpenDataCon.CBPort
