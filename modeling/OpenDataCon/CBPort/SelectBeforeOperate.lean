import OpenDataCon.CBPort.OutstationRequests

/-!
# Select before operate

A control is carried out in two messages. A select names a control of a group,
and an execute publishes it, once and within 30 seconds.

`Selects` is the account that a reader of the messages would keep: for every
group the last select that was accepted and not yet executed. A published control
is `Justified` when it is the control of that select and in time. The pending
commands of the outstation agree with the account (`Agrees`) as long as no select
is corrupted into another control point (`ResponseKept`): the switch that makes
control responses fail moves the bit of the pending command itself. Under that
condition every control of every run is justified (`run_justified`).
-/

set_option autoImplicit false

namespace OpenDataCon.CBPort

open Runs

namespace CBOutstation

/-! ## The account of selects -/

/-- A select that was accepted. -/
structure AcceptedSelect where
  command : CommandType
  data : BitVec 16
  acceptedAt : Nat
deriving DecidableEq, Repr

/-- The last accepted select of a group that was not executed. -/
abbrev Selects := Nat → Option AcceptedSelect

/-- The control that a command with its data stands for. -/
def controlOf (conf : CBOutstationConf) (table : PointTable) (group : Nat)
    (command : CommandType) (data : BitVec 16) : Option ControlEvent :=
  match command with
  | .None => none
  | .Trip =>
    (table.getBinaryControlODCIndexUsingCBIndex group (controlChannel conf data)).map
      (.controlRelayOutputBlock · false)
  | .Close =>
    (table.getBinaryControlODCIndexUsingCBIndex group (controlChannel conf data)).map
      (.controlRelayOutputBlock · true)
  | .SetA =>
    (table.getAnalogControlODCIndexUsingCBIndex group 1).map (.analogOutputInt16 · data)
  | .SetB =>
    (table.getAnalogControlODCIndexUsingCBIndex group 2).map (.analogOutputInt16 · data)

/-- The command that a function selects. -/
def selectedCommand (functionCode : Nat) : CommandType :=
  if functionCode = FUNC_TRIP then .Trip
  else if functionCode = FUNC_CLOSE then .Close
  else if functionCode = FUNC_SETPOINT_A then .SetA
  else if functionCode = FUNC_SETPOINT_B then .SetB
  else .None

/-- A select is accepted when it names a control point. A binary select must
have exactly one bit set. -/
def Accepts (conf : CBOutstationConf) (table : PointTable) (group : Nat)
    (command : CommandType) (data : BitVec 16) : Prop :=
  (controlOf conf table group command data).isSome ∧
    ((command = .Trip ∨ command = .Close) → getBitsSet data 12 = 1)

instance (conf : CBOutstationConf) (table : PointTable) (group : Nat) (command : CommandType)
    (data : BitVec 16) : Decidable (Accepts conf table group command data) :=
  inferInstanceAs (Decidable (_ ∧ (_ → _)))

/-- The accepted select in a message, with its group. -/
def acceptedSelect (conf : CBOutstationConf) (outstation : CBOutstation) (message : CBMessage)
    (now : Nat) : Option (Nat × AcceptedSelect) :=
  match message with
  | [] => none
  | header :: _ =>
    let command := selectedCommand header.getFunctionCode
    if outstation.enabled ∧
        Accepts conf outstation.pointTable header.getGroup command header.getB then
      some (header.getGroup, { command := command, data := header.getB, acceptedAt := now })
    else none

/-- The groups of an execute: all of them for group 0 of a Baker device. -/
def executeGroups (conf : CBOutstationConf) (header : CBBlockData) : List Nat :=
  if conf.isBakerDevice && header.getGroup == 0 then List.range 16 else [header.getGroup]

/-- The groups that a message executes. -/
def executedGroups (conf : CBOutstationConf) (outstation : CBOutstation) (message : CBMessage) :
    List Nat :=
  match message with
  | [] => []
  | header :: _ =>
    if outstation.enabled ∧ header.getFunctionCode = FUNC_EXECUTE_COMMAND then
      executeGroups conf header
    else []

/-- The account after a message. -/
def selectsAfter (conf : CBOutstationConf) (outstation : CBOutstation) (selects : Selects)
    (message : CBMessage) (now : Nat) : Selects :=
  match acceptedSelect conf outstation message now with
  | some (group, select) => Function.update selects group (some select)
  | none => fun group =>
    if group ∈ executedGroups conf outstation message then none else selects group

/-- A published control, with the select that the account has for its group. -/
structure Publication where
  group : Nat
  event : ControlEvent
  now : Nat
  select : Option AcceptedSelect
deriving DecidableEq

/-- The control is that of the select, and the select is not too old. -/
def Publication.Justified (conf : CBOutstationConf) (table : PointTable)
    (publication : Publication) : Prop :=
  ∃ select, publication.select = some select ∧
    publication.now ≤ select.acceptedAt + CommandValidTimemsec ∧
    controlOf conf table publication.group select.command select.data = some publication.event

/-- The published controls among the outputs of a message. -/
def publications (selects : Selects) (now : Nat) (outputs : List OutstationOutput) :
    List Publication :=
  outputs.filterMap fun output =>
    match output with
    | .publish group event _ =>
      some { group := group, event := event, now := now, select := selects group }
    | .send _ => none

/-- A step of the outstation, with the account beside it. -/
def accountedStep (conf : CBOutstationConf) (state : CBOutstation × Selects) :
    OutstationAction → (CBOutstation × Selects) × List Publication
  | .message message now =>
    let result := state.1.step conf (.message message now)
    ((result.1, selectsAfter conf state.1 state.2 message now),
      publications state.2 now result.2)
  | action =>
    let result := state.1.step conf action
    ((result.1, state.2), publications state.2 0 result.2)

/-! ## Handlers that leave the controls alone -/

/-- The control points are at the same places. -/
structure SameMaps (table after : PointTable) : Prop where
  binary : after.binaryControl.cbPointMap = table.binaryControl.cbPointMap
  analog : after.analogControl.cbPointMap = table.analogControl.cbPointMap

theorem SameMaps.trans {first second third : PointTable} (one : SameMaps first second)
    (other : SameMaps second third) : SameMaps first third :=
  ⟨other.binary.trans one.binary, other.analog.trans one.analog⟩

theorem controlOf_congr {table after : PointTable} (same : SameMaps table after)
    (conf : CBOutstationConf) (group : Nat) (command : CommandType) (data : BitVec 16) :
    controlOf conf after group command data = controlOf conf table group command data := by
  cases command <;>
    simp only [controlOf, PointTable.getBinaryControlODCIndexUsingCBIndex,
      PointTable.getAnalogControlODCIndexUsingCBIndex, same.binary, same.analog]

/-- The pending commands and the places of the control points are the same. -/
structure SameControls (outstation after : CBOutstation) : Prop where
  pending : after.pendingCommands = outstation.pendingCommands
  maps : SameMaps outstation.pointTable after.pointTable

theorem SameControls.refl (outstation : CBOutstation) : SameControls outstation outstation :=
  ⟨rfl, rfl, rfl⟩

theorem SameControls.trans {first second third : CBOutstation} (one : SameControls first second)
    (other : SameControls second third) : SameControls first third :=
  ⟨other.pending.trans one.pending, one.maps.trans other.maps⟩

/-- A step that leaves the controls alone and puts out good things only. -/
structure Keeps (outstation : CBOutstation) (Good : OutstationOutput → Prop)
    (result : CBOutstation × List OutstationOutput) : Prop where
  same : SameControls outstation result.1
  outputs : ∀ output ∈ result.2, Good output

theorem Keeps.nothing (outstation : CBOutstation) (Good : OutstationOutput → Prop) :
    Keeps outstation Good (outstation, []) :=
  ⟨SameControls.refl outstation, fun _ member => nomatch member⟩

theorem Keeps.mono {outstation : CBOutstation} {Good Better : OutstationOutput → Prop}
    {result : CBOutstation × List OutstationOutput} (keeps : Keeps outstation Better result)
    (weaker : ∀ output, Better output → Good output) : Keeps outstation Good result :=
  ⟨keeps.same, fun output member => weaker output (keeps.outputs output member)⟩

theorem Keeps.andThen {outstation : CBOutstation} {Good : OutstationOutput → Prop}
    {first : CBOutstation × List OutstationOutput}
    {second : CBOutstation → CBOutstation × List OutstationOutput}
    (one : Keeps outstation Good first) (other : Keeps first.1 Good (second first.1)) :
    Keeps outstation Good (andThen first second) := by
  refine ⟨one.same.trans other.same, fun output member => ?_⟩
  rcases List.mem_append.mp member with early | late
  · exact one.outputs output early
  · exact other.outputs output late

/-- A message is put out, not a control. -/
def IsSend (output : OutstationOutput) : Prop := ∃ message, output = .send message

/-- A step that leaves the controls alone and publishes nothing. -/
abbrev Quiet (outstation : CBOutstation) (result : CBOutstation × List OutstationOutput) : Prop :=
  Keeps outstation IsSend result

theorem Quiet.nothing (outstation : CBOutstation) : Quiet outstation (outstation, []) :=
  Keeps.nothing outstation IsSend

theorem sendCBMessage_isSend (outstation : CBOutstation) (message : CBMessage) :
    ∀ output ∈ (outstation.sendCBMessage message).2, IsSend output := by
  intro output member
  simp only [sendCBMessage] at member
  split at member
  · cases member
  · exact ⟨message, List.mem_singleton.mp member⟩

/-- A message is sent by an outstation with the same controls. -/
theorem Quiet.send {outstation after : CBOutstation} (same : SameControls outstation after)
    (message : CBMessage) : Quiet outstation (after.sendCBMessage message) :=
  ⟨⟨same.pending, same.maps⟩, sendCBMessage_isSend after message⟩

theorem executeCallback_quiet (outstation : CBOutstation) (header : CBBlockData)
    (status : ControlStatus) : Quiet outstation (outstation.executeCallback header status) := by
  unfold executeCallback
  split
  · exact Quiet.send (SameControls.refl outstation) _
  · exact Quiet.nothing outstation

/-- A table that differs in its binary points has the same control points. -/
theorem foldl_readBinaryPoint_frame (isBakerDevice : Bool) (indexes : List Nat)
    (state : PointTable × BitVec 16) :
    ∃ binary, (indexes.foldl (readBinaryPoint isBakerDevice) state).1 =
      { state.1 with binary := binary } := by
  induction indexes generalizing state with
  | nil => exact ⟨state.1.binary, rfl⟩
  | cons index rest ih =>
      obtain ⟨binary, frame⟩ := ih (readBinaryPoint isBakerDevice state index)
      exact ⟨binary, frame⟩

/-- Reading the points of a place changes binary points only. -/
theorem readPoints_frame (isBakerDevice : Bool) (table : PointTable) (group : Nat)
    (payloadLocation : PayloadLocationType) :
    ∃ binary, (readPoints isBakerDevice table group payloadLocation).1 =
      { table with binary := binary } := by
  simp only [readPoints]
  split
  · exact ⟨table.binary, rfl⟩
  · split
    · exact ⟨table.binary, rfl⟩
    · exact foldl_readBinaryPoint_frame isBakerDevice _ (table, 0#16)

theorem getStatusPayload_sameControls (outstation : CBOutstation) (payload : BitVec 16) :
    SameControls outstation (outstation.getStatusPayload payload).1 :=
  ⟨rfl, rfl, rfl⟩

theorem getPayload_sameControls (conf : CBOutstationConf) (outstation : CBOutstation)
    (group : Nat) (payloadLocation : PayloadLocationType) :
    SameControls outstation (outstation.getPayload conf group payloadLocation).1 := by
  obtain ⟨binary, frame⟩ :=
    readPoints_frame conf.isBakerDevice outstation.pointTable group payloadLocation
  have read : SameControls outstation
      { outstation with
        pointTable :=
          (readPoints conf.isBakerDevice outstation.pointTable group payloadLocation).1 } := by
    rw [frame]
    exact ⟨rfl, rfl, rfl⟩
  simp only [getPayload]
  split
  · exact read.trans (getStatusPayload_sameControls _ _)
  · exact read

theorem buildScanRequestResponseData_sameControls (conf : CBOutstationConf)
    (outstation : CBOutstation) (group : Nat) :
    SameControls outstation (outstation.buildScanRequestResponseData conf group).1 := by
  unfold buildScanRequestResponseData
  exact run_invariant (SameControls outstation)
    (fun state payloadLocation same =>
      same.trans (getPayload_sameControls conf state group payloadLocation))
    (SameControls.refl outstation) _

theorem scanRequest_quiet (conf : CBOutstationConf) (outstation : CBOutstation)
    (header : CBBlockData) : Quiet outstation (outstation.scanRequest conf header) :=
  Quiet.send (buildScanRequestResponseData_sameControls conf outstation header.getGroup) _

theorem processUpdateTimeRequest_quiet (outstation : CBOutstation) (header second : CBBlockData)
    (now : Nat) : Quiet outstation (outstation.processUpdateTimeRequest header second now) := by
  apply Quiet.send
  exact ⟨rfl, rfl, rfl⟩

theorem funcMasterStationRequest_quiet (outstation : CBOutstation) (header : CBBlockData)
    (completeCBMessage : CBMessage) (now : Nat) :
    Quiet outstation (outstation.funcMasterStationRequest header completeCBMessage now) := by
  unfold funcMasterStationRequest
  split
  case h_6 =>
    split
    · next second =>
        simp only
        split
        · exact processUpdateTimeRequest_quiet outstation header second now
        · exact Quiet.nothing outstation
    · exact Quiet.nothing outstation
  case h_7 => exact Quiet.send (getStatusPayload_sameControls outstation 0#16) _
  case h_9 => exact Quiet.nothing outstation
  all_goals exact Quiet.send (SameControls.refl outstation) _

theorem funcSendSOEResponse_quiet (outstation : CBOutstation) (header : CBBlockData) :
    Quiet outstation (outstation.funcSendSOEResponse header) := by
  apply Quiet.send
  exact ⟨rfl, rfl, rfl⟩

theorem event_sameControls (conf : CBOutstationConf) (outstation : CBOutstation)
    (pointEvent : PointEvent) (now : Nat) :
    SameControls outstation (outstation.event conf pointEvent now) := by
  have analogSame (index meas : Nat) : SameControls outstation
      { outstation with
        pointTable := (outstation.pointTable.setAnalogValueUsingODCIndex index meas now).1 } := by
    obtain ⟨analog, frame⟩ :=
      outstation.pointTable.setAnalogValueUsingODCIndex_frame index meas now
    rw [frame]
    exact ⟨rfl, rfl, rfl⟩
  have counterSame (index meas : Nat) : SameControls outstation
      { outstation with
        pointTable := (outstation.pointTable.setCounterValueUsingODCIndex index meas now).1 } := by
    obtain ⟨counter, frame⟩ :=
      outstation.pointTable.setCounterValueUsingODCIndex_frame index meas now
    rw [frame]
    exact ⟨rfl, rfl, rfl⟩
  have binarySame (index : Nat) (meas : Bool) (eventtime : Nat) : SameControls outstation
      { outstation with
        pointTable :=
          (outstation.pointTable.setBinaryValueUsingODCIndex index meas eventtime now).1 } := by
    obtain ⟨binary, soe, frame⟩ :=
      outstation.pointTable.setBinaryValueUsingODCIndex_frame index meas eventtime now
    rw [frame]
    exact ⟨rfl, rfl, rfl⟩
  simp only [event]
  split
  · exact SameControls.refl outstation
  · cases pointEvent with
    | Analog index meas => exact analogSame index meas
    | Counter index meas => exact counterSame index meas
    | Binary index meas timestamp => exact binarySame index meas _
    | AnalogQuality index online =>
        simp only
        split
        · exact SameControls.refl outstation
        · exact analogSame index 0
    | CounterQuality index online =>
        simp only
        split
        · exact SameControls.refl outstation
        · exact counterSame index 0

/-! ## Selects -/

/-- A step that changes the pending command of one group and publishes nothing. -/
structure Books (outstation : CBOutstation) (group : Nat) (pending : PendingCommandType)
    (result : CBOutstation × List OutstationOutput) : Prop where
  pending :
    result.1.pendingCommands = Function.update outstation.pendingCommands group pending
  maps : SameMaps outstation.pointTable result.1.pointTable
  sends : ∀ output ∈ result.2, IsSend output

theorem clearPending_books (outstation : CBOutstation) (group : Nat) :
    Books outstation group { outstation.pendingCommands group with command := .None }
      (outstation.setPending group fun pending => { pending with command := .None }, []) :=
  ⟨rfl, ⟨rfl, rfl⟩, fun _ member => nomatch member⟩

/-- What a select handler does: a refused select drops the pending command, an
accepted one is pending for its time with the data that is stored for it. -/
structure Selecting (conf : CBOutstationConf) (outstation : CBOutstation) (group : Nat)
    (command : CommandType) (data stored : BitVec 16) (now : Nat)
    (result : CBOutstation × List OutstationOutput) : Prop where
  refused : ¬ Accepts conf outstation.pointTable group command data →
    ∃ pending, pending.command = .None ∧ Books outstation group pending result
  accepted : Accepts conf outstation.pointTable group command data →
    Books outstation group
      { command := command, data := stored, expiryTime := now + CommandValidTimemsec } result

/-- A binary select stores its data, corrupted when responses are made to fail. -/
theorem funcTripClose_selecting (conf : CBOutstationConf) (outstation : CBOutstation)
    (header : CBBlockData) {pCommand : CommandType} (binary : pCommand = .Trip ∨ pCommand = .Close)
    (now : Nat) :
    Selecting conf outstation header.getGroup pCommand header.getB
      (if outstation.failControlResponse then corruptedControlData header.getB else header.getB)
      now (outstation.funcTripClose conf header pCommand now) := by
  have named : (controlOf conf outstation.pointTable header.getGroup pCommand
      header.getB).isSome =
      (outstation.pointTable.getBinaryControlODCIndexUsingCBIndex header.getGroup
        (controlChannel conf header.getB)).isSome := by
    rcases binary with rfl | rfl <;> exact Option.isSome_map
  constructor
  · intro refused
    refine ⟨{ outstation.pendingCommands header.getGroup with
      command := .None
      data := header.getB }, rfl, ?_⟩
    simp only [funcTripClose, setPending_pointTable, setPending_setPending]
    split
    · next single =>
        split
        · exact ⟨rfl, ⟨rfl, rfl⟩, fun _ member => nomatch member⟩
        · next index found =>
            have accepted : Accepts conf outstation.pointTable header.getGroup pCommand
                header.getB := ⟨by rw [named, found]; rfl, fun _ => single⟩
            exact absurd accepted refused
    · exact ⟨rfl, ⟨rfl, rfl⟩, fun _ member => nomatch member⟩
  · rintro ⟨control, single⟩
    obtain ⟨index, found⟩ := Option.isSome_iff_exists.mp (named ▸ control)
    simp only [funcTripClose, single binary, if_true, setPending_pointTable, found,
      setPending_failControlResponse, setPending_setPending]
    split
    · exact ⟨rfl, ⟨rfl, rfl⟩, sendCBMessage_isSend _ _⟩
    · exact ⟨rfl, ⟨rfl, rfl⟩, sendCBMessage_isSend _ _⟩

theorem funcSetAB_selecting (conf : CBOutstationConf) (outstation : CBOutstation)
    (header : CBBlockData) {pCommand : CommandType} (setpoint : pCommand = .SetA ∨ pCommand = .SetB)
    (now : Nat) :
    Selecting conf outstation header.getGroup pCommand header.getB header.getB now
      (outstation.funcSetAB header pCommand now) := by
  have named : (controlOf conf outstation.pointTable header.getGroup pCommand
      header.getB).isSome =
      (outstation.pointTable.getAnalogControlODCIndexUsingCBIndex header.getGroup
        (setpointChannel pCommand)).isSome := by
    rcases setpoint with rfl | rfl <;> exact Option.isSome_map
  constructor
  · intro refused
    refine ⟨{ outstation.pendingCommands header.getGroup with command := .None }, rfl, ?_⟩
    simp only [funcSetAB]
    split
    · exact ⟨rfl, ⟨rfl, rfl⟩, fun _ member => nomatch member⟩
    · next index found =>
        have accepted : Accepts conf outstation.pointTable header.getGroup pCommand
            header.getB := by
          refine ⟨by rw [named, found]; rfl, fun binary => ?_⟩
          rcases setpoint with rfl | rfl <;> simp at binary
        exact absurd accepted refused
  · rintro ⟨control, _⟩
    obtain ⟨index, found⟩ := Option.isSome_iff_exists.mp (named ▸ control)
    simp only [funcSetAB, found]
    exact ⟨rfl, ⟨rfl, rfl⟩, sendCBMessage_isSend _ _⟩

/-! ## Executes -/

/-- A message, or one control of one group. -/
def IsControl (group : Nat) (event : ControlEvent) (output : OutstationOutput) : Prop :=
  IsSend output ∨ ∃ callback, output = .publish group event callback

theorem perform_keeps (conf : CBOutstationConf) (outstation : CBOutstation)
    (header : CBBlockData) (group : Nat) (event : ControlEvent) :
    Keeps outstation (IsControl group event) (outstation.perform conf header group event) := by
  have callback (outstation : CBOutstation) (status : ControlStatus) :
      Keeps outstation (IsControl group event) (outstation.executeCallback header status) :=
    (executeCallback_quiet outstation header status).mono fun _ send => .inl send
  have publish (outstation : CBOutstation) (waiting : Option CBBlockData) :
      Keeps outstation (IsControl group event) (outstation, [.publish group event waiting]) :=
    ⟨SameControls.refl outstation, fun output member =>
      .inr ⟨waiting, List.mem_singleton.mp member⟩⟩
  have disabled : Keeps outstation (IsControl group event)
      (if !outstation.enabled then outstation.executeCallback header .UNDEFINED
        else (outstation, [])) := by
    split
    · exact callback outstation _
    · exact Keeps.nothing outstation _
  have alone (outstation : CBOutstation) : Keeps outstation (IsControl group event)
      (if conf.standAloneOutstation then
        CBOutstation.andThen (outstation, [.publish group event none])
          (·.executeCallback header .SUCCESS)
      else (outstation, [])) := by
    split
    · exact (publish outstation none).andThen (callback outstation .SUCCESS)
    · exact Keeps.nothing outstation _
  unfold perform
  refine Keeps.andThen (Keeps.andThen disabled ?_) ?_
  · exact alone _
  · exact publish _ _

theorem executeBinaryControl_keeps (conf : CBOutstationConf) (outstation : CBOutstation)
    (header : CBBlockData) (group channel : Nat) (pointOn : Bool) (now : Nat)
    (Good : OutstationOutput → Prop) (sends : ∀ output, IsSend output → Good output)
    (controls : ∀ index,
      outstation.pointTable.getBinaryControlODCIndexUsingCBIndex group channel = some index →
      ∀ output, IsControl group (.controlRelayOutputBlock index pointOn) output → Good output) :
    Keeps outstation Good
      (outstation.executeBinaryControl conf header group channel pointOn now) := by
  unfold executeBinaryControl
  split
  · exact (executeCallback_quiet outstation header _).mono sends
  · next index found =>
      have stored : SameControls outstation
          { outstation with
            pointTable :=
              outstation.pointTable.setBinaryControlValueUsingODCIndex index pointOn now } :=
        ⟨rfl, rfl, rfl⟩
      have performed := perform_keeps conf
        { outstation with
          pointTable :=
            outstation.pointTable.setBinaryControlValueUsingODCIndex index pointOn now }
        header group (.controlRelayOutputBlock index pointOn)
      exact ⟨stored.trans performed.same, fun output member =>
        controls index found output (performed.outputs output member)⟩

theorem executeAnalogControl_keeps (conf : CBOutstationConf) (outstation : CBOutstation)
    (header : CBBlockData) (group channel : Nat) (data : BitVec 16) (now : Nat)
    (Good : OutstationOutput → Prop) (sends : ∀ output, IsSend output → Good output)
    (controls : ∀ index,
      outstation.pointTable.getAnalogControlODCIndexUsingCBIndex group channel = some index →
      ∀ output, IsControl group (.analogOutputInt16 index data) output → Good output) :
    Keeps outstation Good
      (outstation.executeAnalogControl conf header group channel data now) := by
  unfold executeAnalogControl
  split
  · exact (executeCallback_quiet outstation header _).mono sends
  · next index found =>
      have stored : SameControls outstation
          { outstation with
            pointTable :=
              outstation.pointTable.setAnalogControlValueUsingODCIndex index data.toNat now } :=
        ⟨rfl, rfl, rfl⟩
      have performed := perform_keeps conf
        { outstation with
          pointTable :=
            outstation.pointTable.setAnalogControlValueUsingODCIndex index data.toNat now }
        header group (.analogOutputInt16 index data)
      exact ⟨stored.trans performed.same, fun output member =>
        controls index found output (performed.outputs output member)⟩

/-- A message, or the control of a pending command that is in time. -/
def IsPending (conf : CBOutstationConf) (outstation : CBOutstation) (group now : Nat)
    (output : OutstationOutput) : Prop :=
  IsSend output ∨ ∃ event callback, output = .publish group event callback ∧
    (outstation.pendingCommands group).command ≠ .None ∧
    now ≤ (outstation.pendingCommands group).expiryTime ∧
    controlOf conf outstation.pointTable group (outstation.pendingCommands group).command
      (outstation.pendingCommands group).data = some event

/-- **An execute of a group publishes the pending control of the group, in time.** -/
theorem executeCommandOnGroup_keeps (conf : CBOutstationConf) (outstation : CBOutstation)
    (header : CBBlockData) (group : Nat) (singlecommand : Bool) (now : Nat) :
    Keeps outstation (IsPending conf outstation group now)
      (outstation.executeCommandOnGroup conf header group singlecommand now) := by
  have sends (output : OutstationOutput) (send : IsSend output) :
      IsPending conf outstation group now output := .inl send
  have controls (event : ControlEvent)
      (chosen : (outstation.pendingCommands group).command ≠ .None)
      (inTime : now ≤ (outstation.pendingCommands group).expiryTime)
      (control : controlOf conf outstation.pointTable group
        (outstation.pendingCommands group).command
        (outstation.pendingCommands group).data = some event)
      (output : OutstationOutput) (good : IsControl group event output) :
      IsPending conf outstation group now output := by
    rcases good with send | ⟨callback, publish⟩
    · exact .inl send
    · exact .inr ⟨event, callback, publish, chosen, inTime, control⟩
  simp only [executeCommandOnGroup]
  split
  · exact (executeCallback_quiet outstation header _).mono sends
  · next expired =>
      have inTime (chosen : (outstation.pendingCommands group).command ≠ .None) :
          now ≤ (outstation.pendingCommands group).expiryTime := by
        by_contra late
        exact expired ⟨by omega, chosen⟩
      split
      · exact (executeCallback_quiet outstation header _).mono sends
      case h_2 command | h_3 command =>
        have chosen : (outstation.pendingCommands group).command ≠ .None := by simp [command]
        exact executeBinaryControl_keeps conf outstation header group _ _ now _ sends
          fun index found => controls _ chosen (inTime chosen) (by simp [controlOf, command, found])
      case h_4 command | h_5 command =>
        have chosen : (outstation.pendingCommands group).command ≠ .None := by simp [command]
        exact executeAnalogControl_keeps conf outstation header group _ _ now _ sends
          fun index found => controls _ chosen (inTime chosen) (by simp [controlOf, command, found])

/-- An execute, one group after the other. -/
theorem executeCommand_eq (conf : CBOutstationConf) (outstation : CBOutstation)
    (header : CBBlockData) (now : Nat) :
    outstation.executeCommand conf header now =
      run (executeAndClear conf header (!(conf.isBakerDevice && header.getGroup == 0)) now)
        outstation (executeGroups conf header) := by
  unfold executeCommand executeGroups
  cases global : conf.isBakerDevice && header.getGroup == 0 with
  | true => simp
  | false => simp [run_singleton]

/-- A group that is executed has no pending command then, and no group gets one. -/
theorem executeAndClear_command (conf : CBOutstationConf) (outstation : CBOutstation)
    (header : CBBlockData) (singlecommand : Bool) (now group other : Nat)
    (cleared : other = group ∨ (outstation.pendingCommands other).command = .None) :
    ((executeAndClear conf header singlecommand now outstation group).1.pendingCommands
      other).command = .None := by
  have same := (executeCommandOnGroup_keeps conf outstation header group singlecommand now).same
  simp only [executeAndClear, CBOutstation.andThen, setPending_pendingCommands, same.pending,
    Function.update_apply]
  split
  · rfl
  · next elsewhere => exact cleared.resolve_left elsewhere

/-- All the groups that are executed have no pending command in the end. -/
theorem run_executeAndClear_command (conf : CBOutstationConf) (header : CBBlockData)
    (singlecommand : Bool) (now : Nat) (outstation : CBOutstation) (groups : List Nat)
    {group : Nat} (member : group ∈ groups) :
    ((run (executeAndClear conf header singlecommand now) outstation
      groups).1.pendingCommands group).command = .None := by
  induction groups generalizing outstation with
  | nil => cases member
  | cons first rest ih =>
      rw [run_cons]
      rcases List.mem_cons.mp member with rfl | later
      · exact run_invariant
          (fun outstation => (outstation.pendingCommands group).command = .None)
          (fun state other cleared =>
            executeAndClear_command conf state header singlecommand now other group (.inr cleared))
          (executeAndClear_command conf outstation header singlecommand now group group
            (.inl rfl)) rest
      · exact ih _ later

/-- The data that is stored for a select: its own, or corrupted. -/
def StoredFor (outstation : CBOutstation) (command : CommandType) (data stored : BitVec 16) :
    Prop :=
  stored = data ∨ outstation.failControlResponse = true ∧
    (command = .Trip ∨ command = .Close) ∧ stored = corruptedControlData data

/-- What a message is: an execute, a select, or neither. -/
inductive Handled (conf : CBOutstationConf) (outstation : CBOutstation) (header : CBBlockData)
    (now : Nat) (result : CBOutstation × List OutstationOutput) : Prop where
  | execute (code : header.getFunctionCode = FUNC_EXECUTE_COMMAND)
      (executed : result = outstation.executeCommand conf header now)
  | select (notExecute : header.getFunctionCode ≠ FUNC_EXECUTE_COMMAND) (stored : BitVec 16)
      (selecting : Selecting conf outstation header.getGroup
        (selectedCommand header.getFunctionCode) header.getB stored now result)
      (data : StoredFor outstation (selectedCommand header.getFunctionCode) header.getB stored)
  | neither (notExecute : header.getFunctionCode ≠ FUNC_EXECUTE_COMMAND)
      (noCommand : selectedCommand header.getFunctionCode = .None)
      (quiet : Quiet outstation result)

theorem handled_funcTripClose {conf : CBOutstationConf} {outstation : CBOutstation}
    {header : CBBlockData} {pCommand : CommandType} {now : Nat}
    (notExecute : header.getFunctionCode ≠ FUNC_EXECUTE_COMMAND)
    (command : selectedCommand header.getFunctionCode = pCommand)
    (binary : pCommand = .Trip ∨ pCommand = .Close) :
    Handled conf outstation header now (outstation.funcTripClose conf header pCommand now) := by
  subst command
  refine .select notExecute _ (funcTripClose_selecting conf outstation header binary now) ?_
  split
  · next failing => exact .inr ⟨failing, binary, rfl⟩
  · exact .inl rfl

theorem handled_funcSetAB {conf : CBOutstationConf} {outstation : CBOutstation}
    {header : CBBlockData} {pCommand : CommandType} {now : Nat}
    (notExecute : header.getFunctionCode ≠ FUNC_EXECUTE_COMMAND)
    (command : selectedCommand header.getFunctionCode = pCommand)
    (setpoint : pCommand = .SetA ∨ pCommand = .SetB) :
    Handled conf outstation header now (outstation.funcSetAB header pCommand now) := by
  subst command
  exact .select notExecute _ (funcSetAB_selecting conf outstation header setpoint now) (.inl rfl)

/-- **Every message is handled as an execute, a select, or neither.** -/
theorem processCBMessage_handled (conf : CBOutstationConf) (outstation : CBOutstation)
    (header : CBBlockData) (rest : CBMessage) (now : Nat) (enabled : outstation.enabled = true) :
    Handled conf outstation header now
      (outstation.processCBMessage conf (header :: rest) now) := by
  simp only [processCBMessage, enabled, Bool.not_true, Bool.false_eq_true, if_false]
  by_cases scan : header.getFunctionCode = FUNC_SCAN_DATA
  · rw [if_pos scan]
    exact .neither (by rw [scan]; decide) (by rw [scan]; rfl)
      (scanRequest_quiet conf outstation header)
  rw [if_neg scan]
  by_cases execute : header.getFunctionCode = FUNC_EXECUTE_COMMAND
  · rw [if_pos execute]
    exact .execute execute rfl
  rw [if_neg execute]
  by_cases trip : header.getFunctionCode = FUNC_TRIP
  · rw [if_pos trip]
    exact handled_funcTripClose execute (by rw [trip]; rfl) (.inl rfl)
  rw [if_neg trip]
  by_cases setA : header.getFunctionCode = FUNC_SETPOINT_A
  · rw [if_pos setA]
    exact handled_funcSetAB execute (by rw [setA]; rfl) (.inl rfl)
  rw [if_neg setA]
  by_cases close : header.getFunctionCode = FUNC_CLOSE
  · rw [if_pos close]
    exact handled_funcTripClose execute (by rw [close]; rfl) (.inr rfl)
  rw [if_neg close]
  by_cases setB : header.getFunctionCode = FUNC_SETPOINT_B
  · rw [if_pos setB]
    exact handled_funcSetAB execute (by rw [setB]; rfl) (.inr rfl)
  rw [if_neg setB]
  have noCommand : selectedCommand header.getFunctionCode = .None := by
    rw [selectedCommand, if_neg trip, if_neg close, if_neg setA, if_neg setB]
  refine .neither execute noCommand ?_
  split
  · exact funcMasterStationRequest_quiet outstation header _ now
  · split
    · exact funcSendSOEResponse_quiet outstation header
    · split
      · exact Quiet.send (SameControls.refl outstation) _
      · exact Quiet.nothing outstation

/-! ## The pending commands and the account -/

/-- The pending command of a group is the select of the account, or there is
none. Its data is that of the select, or names no control point. -/
def PendingAgrees (conf : CBOutstationConf) (table : PointTable) (group : Nat)
    (pending : PendingCommandType) (select : Option AcceptedSelect) : Prop :=
  pending.command = .None ∨ ∃ accepted, select = some accepted ∧
    pending.command = accepted.command ∧
    pending.expiryTime = accepted.acceptedAt + CommandValidTimemsec ∧
    (pending.data = accepted.data ∨
      controlOf conf table group pending.command pending.data = none)

/-- The pending commands agree with the account. -/
structure Agrees (conf : CBOutstationConf) (table : PointTable) (outstation : CBOutstation)
    (selects : Selects) : Prop where
  maps : SameMaps table outstation.pointTable
  pending : ∀ group,
    PendingAgrees conf table group (outstation.pendingCommands group) (selects group)

section Agrees

variable {conf : CBOutstationConf} {table : PointTable} {outstation : CBOutstation}
  {selects : Selects}

theorem Agrees.same (agrees : Agrees conf table outstation selects) {after : CBOutstation}
    (same : SameControls outstation after) : Agrees conf table after selects :=
  ⟨agrees.maps.trans same.maps, fun group => by rw [same.pending]; exact agrees.pending group⟩

/-- The account follows a booked select. -/
theorem Agrees.books (agrees : Agrees conf table outstation selects) {group : Nat}
    {pending : PendingCommandType} {result : CBOutstation × List OutstationOutput}
    (books : Books outstation group pending result) {after : Selects}
    (booked : PendingAgrees conf table group pending (after group))
    (others : ∀ other, other ≠ group → after other = selects other) :
    Agrees conf table result.1 after := by
  refine ⟨agrees.maps.trans books.maps, fun other => ?_⟩
  rw [books.pending, Function.update_apply]
  split
  · next here => exact here ▸ booked
  · next elsewhere =>
      rw [others other elsewhere]
      exact agrees.pending other

/-- A message, or a justified control. -/
def IsJustified (conf : CBOutstationConf) (table : PointTable) (selects : Selects) (now : Nat)
    (output : OutstationOutput) : Prop :=
  IsSend output ∨ ∃ group event callback, output = .publish group event callback ∧
    Publication.Justified conf table
      { group := group, event := event, now := now, select := selects group }

/-- A pending control that agrees with the account is justified by it. -/
theorem Agrees.justified (agrees : Agrees conf table outstation selects) {group now : Nat}
    {output : OutstationOutput} (pending : IsPending conf outstation group now output) :
    IsJustified conf table selects now output := by
  rcases pending with send | ⟨event, callback, publish, chosen, inTime, control⟩
  · exact .inl send
  · rw [controlOf_congr agrees.maps] at control
    rcases agrees.pending group with dropped | ⟨select, account, command, expiry, data⟩
    · exact absurd dropped chosen
    · refine .inr ⟨group, event, callback, publish, select, account, expiry ▸ inTime, ?_⟩
      rcases data with data | missing
      · rw [← command, ← data]
        exact control
      · rw [missing] at control
        cases control

/-- The groups that are executed are taken off the account. -/
theorem Agrees.executeCommand (agrees : Agrees conf table outstation selects)
    (header : CBBlockData) (now : Nat) :
    Agrees conf table (outstation.executeCommand conf header now).1
        (fun group => if group ∈ executeGroups conf header then none else selects group) ∧
      ∀ output ∈ (outstation.executeCommand conf header now).2,
        IsJustified conf table selects now output := by
  rw [executeCommand_eq]
  generalize (!(conf.isBakerDevice && header.getGroup == 0)) = singlecommand
  have keeps (state : CBOutstation) (group : Nat) (agrees : Agrees conf table state selects) :
      Agrees conf table (executeAndClear conf header singlecommand now state group).1
        selects := by
    have executed := agrees.same
      (executeCommandOnGroup_keeps conf state header group singlecommand now).same
    exact executed.books (clearPending_books _ group) (.inl rfl) fun _ _ => rfl
  have puts (state : CBOutstation) (group : Nat) (agrees : Agrees conf table state selects) :
      ∀ output ∈ (executeAndClear conf header singlecommand now state group).2,
        IsJustified conf table selects now output := by
    intro output member
    rw [executeAndClear, CBOutstation.andThen, List.append_nil] at member
    exact agrees.justified ((executeCommandOnGroup_keeps conf state header group
      singlecommand now).outputs output member)
  refine ⟨?_, run_outputs (fun state => Agrees conf table state selects) keeps puts
    agrees _⟩
  have after := run_invariant (fun state => Agrees conf table state selects) keeps
    agrees (executeGroups conf header)
  refine ⟨after.maps, fun group => ?_⟩
  by_cases member : group ∈ executeGroups conf header
  · exact .inl (run_executeAndClear_command conf header singlecommand now outstation _ member)
  · rw [if_neg member]
    exact after.pending group

/-- The account follows a select handler, when the stored data is that of the
select or names no control point. -/
theorem Agrees.selecting (agrees : Agrees conf table outstation selects) {group now : Nat}
    {command : CommandType} {data stored : BitVec 16}
    {result : CBOutstation × List OutstationOutput}
    (selecting : Selecting conf outstation group command data stored now result)
    (kept : Accepts conf outstation.pointTable group command data →
      stored = data ∨ controlOf conf outstation.pointTable group command stored = none) :
    Agrees conf table result.1
        (if Accepts conf outstation.pointTable group command data then
          Function.update selects group
            (some { command := command, data := data, acceptedAt := now })
        else selects) ∧
      ∀ output ∈ result.2, IsJustified conf table selects now output := by
  by_cases accepted : Accepts conf outstation.pointTable group command data
  · have books := selecting.accepted accepted
    rw [if_pos accepted]
    refine ⟨agrees.books books (.inr ?_) fun other elsewhere =>
      Function.update_of_ne elsewhere _ _, fun output member => .inl (books.sends output member)⟩
    refine ⟨_, Function.update_self _ _ _, rfl, rfl, ?_⟩
    rw [← controlOf_congr agrees.maps]
    exact kept accepted
  · obtain ⟨pending, dropped, books⟩ := selecting.refused accepted
    rw [if_neg accepted]
    exact ⟨agrees.books books (.inl dropped) fun _ _ => rfl, fun output member =>
      .inl (books.sends output member)⟩

/-- A message without a select and without an execute leaves the account alone. -/
theorem Agrees.quiet (agrees : Agrees conf table outstation selects)
    {result : CBOutstation × List OutstationOutput} (quiet : Quiet outstation result) (now : Nat) :
    Agrees conf table result.1 selects ∧
      ∀ output ∈ result.2, IsJustified conf table selects now output :=
  ⟨agrees.same quiet.same, fun output member => .inl (quiet.outputs output member)⟩

/-- No select is corrupted into another control point. -/
def SelectKept (conf : CBOutstationConf) (outstation : CBOutstation) (message : CBMessage)
    (now : Nat) : Prop :=
  outstation.failControlResponse = true → ∀ group select,
    acceptedSelect conf outstation message now = some (group, select) →
    (select.command = .Trip ∨ select.command = .Close) →
    controlOf conf outstation.pointTable group select.command
      (corruptedControlData select.data) = none

theorem selectsAfter_cons (conf : CBOutstationConf) (outstation : CBOutstation)
    (selects : Selects) (header : CBBlockData) (rest : CBMessage) (now : Nat)
    (enabled : outstation.enabled = true)
    (notExecute : header.getFunctionCode ≠ FUNC_EXECUTE_COMMAND) :
    selectsAfter conf outstation selects (header :: rest) now =
      if Accepts conf outstation.pointTable header.getGroup
          (selectedCommand header.getFunctionCode) header.getB then
        Function.update selects header.getGroup
          (some
            { command := selectedCommand header.getFunctionCode, data := header.getB
              acceptedAt := now })
      else selects := by
  by_cases accepted : Accepts conf outstation.pointTable header.getGroup
      (selectedCommand header.getFunctionCode) header.getB
  · simp [selectsAfter, acceptedSelect, enabled, accepted]
  · simp [selectsAfter, acceptedSelect, enabled, accepted, executedGroups, notExecute]

/-- **The account follows every message, and what a message publishes is justified by it.** -/
theorem Agrees.message (agrees : Agrees conf table outstation selects) (message : CBMessage)
    (now : Nat) (kept : SelectKept conf outstation message now) :
    Agrees conf table (outstation.processCBMessage conf message now).1
        (selectsAfter conf outstation selects message now) ∧
      ∀ output ∈ (outstation.processCBMessage conf message now).2,
        IsJustified conf table selects now output := by
  cases enabled : outstation.enabled with
  | false =>
      have unchanged : selectsAfter conf outstation selects message now = selects := by
        cases message <;> simp [selectsAfter, acceptedSelect, executedGroups, enabled]
      simp only [processCBMessage, enabled, unchanged]
      exact agrees.quiet (Quiet.nothing outstation) now
  | true =>
      cases message with
      | nil =>
          simp only [processCBMessage, enabled]
          exact agrees.quiet (Quiet.nothing outstation) now
      | cons header rest =>
          have accepted (accepts : Accepts conf outstation.pointTable header.getGroup
              (selectedCommand header.getFunctionCode) header.getB) :
              acceptedSelect conf outstation (header :: rest) now =
                some (header.getGroup,
                  { command := selectedCommand header.getFunctionCode, data := header.getB
                    acceptedAt := now }) := by
            simp [acceptedSelect, enabled, accepts]
          cases processCBMessage_handled conf outstation header rest now enabled with
          | execute code executed =>
              have after : selectsAfter conf outstation selects (header :: rest) now =
                  fun group => if group ∈ executeGroups conf header then none
                    else selects group := by
                simp [selectsAfter, acceptedSelect, executedGroups, enabled, code,
                  selectedCommand, Accepts, controlOf, FUNC_EXECUTE_COMMAND, FUNC_TRIP,
                  FUNC_CLOSE, FUNC_SETPOINT_A, FUNC_SETPOINT_B]
              rw [executed, after]
              exact agrees.executeCommand header now
          | select notExecute stored selecting data =>
              rw [selectsAfter_cons conf outstation selects header rest now enabled notExecute]
              refine agrees.selecting selecting fun accepts => data.imp_right ?_
              rintro ⟨failing, binary, corrupted⟩
              rw [corrupted]
              exact kept failing _ _ (accepted accepts) binary
          | neither notExecute noCommand quiet =>
              rw [selectsAfter_cons conf outstation selects header rest now enabled notExecute,
                if_neg (by simp [noCommand, Accepts, controlOf])]
              exact agrees.quiet quiet now

/-! ## Runs -/

/-- The condition on a step: a message selects no control that is then corrupted into another. -/
def ResponseKept (conf : CBOutstationConf) (state : CBOutstation × Selects) :
    OutstationAction → Prop
  | .message message now => SelectKept conf state.1 message now
  | _ => True

/-- What is published is justified when the outputs are. -/
theorem publications_justified {now : Nat} {outputs : List OutstationOutput}
    (justified : ∀ output ∈ outputs, IsJustified conf table selects now output) :
    ∀ publication ∈ publications selects now outputs, publication.Justified conf table := by
  intro publication member
  obtain ⟨output, among, published⟩ := List.mem_filterMap.mp member
  rcases justified output among with ⟨message, rfl⟩ | ⟨group, event, callback, rfl, good⟩
  · cases published
  · cases published
    exact good

/-- **One step**: the account agrees afterwards, and what is published is justified. -/
theorem accountedStep_agrees (action : OutstationAction)
    (agrees : Agrees conf table outstation selects)
    (kept : ResponseKept conf (outstation, selects) action) :
    Agrees conf table (accountedStep conf (outstation, selects) action).1.1
        (accountedStep conf (outstation, selects) action).1.2 ∧
      ∀ publication ∈ (accountedStep conf (outstation, selects) action).2,
        publication.Justified conf table := by
  have noPublication (publication : Publication) (member : publication ∈ ([] : List Publication)) :
      publication.Justified conf table := nomatch member
  cases action with
  | message message now =>
      obtain ⟨after, outputs⟩ := agrees.message message now kept
      exact ⟨after, publications_justified outputs⟩
  | event pointEvent now =>
      exact ⟨agrees.same (event_sameControls conf outstation pointEvent now), noPublication⟩
  | executeResult header status =>
      obtain ⟨after, outputs⟩ := agrees.quiet (executeCallback_quiet outstation header status) 0
      exact ⟨after, publications_justified outputs⟩
  | setEnabled enabled => exact ⟨agrees.same ⟨rfl, rfl, rfl⟩, noPublication⟩
  | failControl active => exact ⟨agrees.same ⟨rfl, rfl, rfl⟩, noPublication⟩
  | setRTUReStartFlag active => exact ⟨agrees.same ⟨rfl, rfl, rfl⟩, noPublication⟩
  | setRTUControlIsolateFlag active => exact ⟨agrees.same ⟨rfl, rfl, rfl⟩, noPublication⟩
  | adjustTimeOffsetMilliSeconds millisecondoffset =>
      exact ⟨agrees.same ⟨rfl, rfl, rfl⟩, noPublication⟩

end Agrees

/-- **Every published control is that of the last accepted select of its group**,
not yet executed and not older than 30 seconds, in every run from an outstation
without pending commands, as long as no select is corrupted into another control. -/
theorem run_justified (conf : CBOutstationConf) (start : CBOutstation)
    (actions : List OutstationAction)
    (idle : ∀ group, (start.pendingCommands group).command = .None)
    (kept : Guarded (accountedStep conf) (ResponseKept conf) (start, fun _ => none) actions) :
    ∀ publication ∈ (run (accountedStep conf) (start, fun _ => none) actions).2,
      publication.Justified conf start.pointTable :=
  guarded_outputs (fun state => Agrees conf start.pointTable state.1 state.2)
    (fun _ action agrees kept => (accountedStep_agrees action agrees kept).1)
    (fun _ action agrees kept => (accountedStep_agrees action agrees kept).2)
    ⟨⟨rfl, rfl⟩, fun group => .inl (idle group)⟩ kept

/-- An outstation with two binary controls in group 1. -/
def breakerStation : CBOutstation :=
  { pointTable :=
      (PointTable.load {} [.binaryControl 0 1 1 .BINCONTROL, .binaryControl 1 1 2 .BINCONTROL]).1 }

/-- Trip the first control of group 1, and execute the command of the group. -/
def tripMessage : CBMessage := [.addressBlock 1 1 FUNC_TRIP 0x800#16 true]

def executeMessage : CBMessage := [.addressBlock 1 1 FUNC_EXECUTE_COMMAND 0#16 true]

/-- A select and an execute ten seconds later publish the control. -/
theorem run_justified_trip :
    Publication.Justified {} breakerStation.pointTable
      { group := 1, event := .controlRelayOutputBlock 0 false, now := 11000
        select := some { command := .Trip, data := 0x800#16, acceptedAt := 1000 } } :=
  run_justified {} breakerStation [.message tripMessage 1000, .message executeMessage 11000]
    (fun _ => rfl) ⟨nofun, nofun, trivial⟩ _ (by decide +kernel)

/-- A select whose response is made to fail is moved to the next control, and
the execute publishes that one. -/
theorem run_corruptedSelect :
    ¬ ∀ publication ∈ (run (accountedStep {}) (breakerStation, fun _ => none)
        [.failControl true, .message tripMessage 1000, .message executeMessage 11000]).2,
      publication.Justified {} breakerStation.pointTable := by
  intro justified
  obtain ⟨select, account, _, control⟩ := justified
    { group := 1, event := .controlRelayOutputBlock 1 false, now := 11000
      select := some { command := .Trip, data := 0x800#16, acceptedAt := 1000 } }
    (by decide +kernel)
  cases account
  exact absurd control (by decide +kernel)

end CBOutstation

end OpenDataCon.CBPort
