import OpenDataCon.CBPort.ControlLink

/-!
# Agreement about controls

A binary control is published on its own index and as it is meant whenever its execute reaches the
outstation in time after an accepted select. An analog value crosses twelve bits only: a value
that does not fit is published without its upper bits, and the master is told of a success when
the subscriber accepts it, since both ends compare what is left of the value.

`controls_agree_iff` says exactly when the two ends agree.
-/

set_option autoImplicit false

namespace OpenDataCon.CBPort

open CBOutstation MasterQueue
open MD3Port (ControlRelayOutputBlock)

/-- The point is published, and whenever it is, with the state that was meant. -/
def PairOutcome.BinaryAgrees (outcome : PairOutcome) (index : Nat)
    (command : ControlRelayOutputBlock) : Prop :=
  .controlRelayOutputBlock index (controlOn command.functionCode) ∈ outcome.events ∧
    ∀ latchOn, .controlRelayOutputBlock index latchOn ∈ outcome.events →
      latchOn = controlOn command.functionCode

/-- The value is published, or the callback is called with a failure. -/
def PairOutcome.AnalogAgrees (outcome : PairOutcome) (index : Nat) (command : BitVec 16) : Prop :=
  .analogOutputInt16 index command ∈ outcome.events ∨
    ∃ status ∈ outcome.posted, status ≠ .SUCCESS

instance (outcome : PairOutcome) (index : Nat) (command : BitVec 16) :
    Decidable (outcome.AnalogAgrees index command) := inferInstanceAs (Decidable (_ ∨ _))

/-! ## When a control is carried out -/

namespace CBControlLink

variable (link : CBControlLink)

/-- The execute is queued by a master that is enabled, and reaches an outstation that is. -/
def Reached : Prop :=
  link.masterEnabled = true ∧ link.execute.HasRoom ∧ link.outstation.enabled = true

/-- The execute arrives while the select is valid. -/
def InTime : Prop := link.execute.arrives 0 ≤ link.select.arrives 0 + CommandValidTimemsec

/-- The control that is pending in a group before the pair is sent. -/
def pendingBefore (group : Nat) : Option ControlEvent :=
  pendingControl link.conf (link.execute.arrives 0) link.outstation group

/-- The groups of the execute of a group. -/
def groups (group : Nat) : List Nat :=
  if link.conf.isBakerDevice && group == 0 then List.range 16 else [group]

/-- The controls that were pending before and that an execute of a group takes along: those of the
other groups, and that of its own if the select is refused by the queue. -/
def takenAlong (group : Nat) : List ControlEvent :=
  let others := (link.groups group).filter fun other =>
    !(decide link.select.HasRoom && other == group)
  others.filterMap link.pendingBefore

/-- When a binary control is carried out: the execute is reached, and either the select is queued,
its response not made to fail, and the execute in time; or the same control is still pending. -/
def BinaryCarriedOut (group index : Nat) (command : ControlRelayOutputBlock) : Prop :=
  link.Reached ∧
    if link.select.HasRoom then link.outstation.failControlResponse = false ∧ link.InTime
    else link.pendingBefore group =
      some (.controlRelayOutputBlock index (controlOn command.functionCode))

/-- When an analog value is carried out or known to have failed: the execute is not reached; or
the select is queued, the execute in time, and the value one of twelve bits; or the same control
is taken along; or nothing that is performed succeeds. -/
def AnalogCarriedOut (group index : Nat) (command : BitVec 16) : Prop :=
  ¬link.Reached ∨
    (link.select.HasRoom ∧ link.InTime ∧ 0 ≤ command.toInt ∧ command.toInt ≤ 4095) ∨
    .analogOutputInt16 index command ∈ link.takenAlong group ∨
    (link.select.HasRoom → link.InTime →
      ¬link.Succeeds (.analogOutputInt16 index (command &&& 0xFFF#16))) ∧
      ∀ event ∈ link.takenAlong group, ¬link.Succeeds event

end CBControlLink

/-! ## The answers that the master accepts -/

namespace CBMasterConf

variable (conf : CBMasterConf)

/-- Whether an answer is accepted while a command is in flight. -/
def accepted (item : MasterCommandQueueItem CBMessage) (response : CBMessage) : Bool :=
  (conf.acceptsResponse { currentCommand := item
                          currentFunctionCode := commandFunctionCode item.message }
    response).isSome

/-- An answer is judged by the command in flight, and queues nothing. -/
theorem masterPort_judgesCommand (item : MasterCommandQueueItem CBMessage) :
    conf.masterPort.JudgesCommand item (conf.accepted item) := by
  intro data response current code
  have same : conf.acceptsResponse data response =
      conf.acceptsResponse { currentCommand := item
                             currentFunctionCode := commandFunctionCode item.message }
        response := by
    have function : data.currentFunctionCode = commandFunctionCode item.message := code
    simp only [acceptsResponse, responseSuccess, current, function]
  change conf.acceptsResponse data response = _
  rw [same, accepted]
  cases verdict : conf.acceptsResponse
      { currentCommand := item, currentFunctionCode := commandFunctionCode item.message }
      response with
  | none => rfl
  | some commands =>
      unfold acceptsResponse at verdict
      split at verdict
      · cases verdict
      · split_ifs at verdict
        rw [← Option.some_inj.mp verdict]
        rfl

/-- The functions of the two commands of a control. -/
def IsControlFunction (functionCode : Nat) : Prop :=
  functionCode = FUNC_EXECUTE_COMMAND ∨ functionCode = FUNC_TRIP ∨
    functionCode = FUNC_SETPOINT_A ∨ functionCode = FUNC_CLOSE ∨ functionCode = FUNC_SETPOINT_B

/-- **An answer is accepted when it repeats the data of the command**, as far as it has gone out. -/
theorem accepted_answerBlock (positive : 0 < conf.outstationAddr) (fits : conf.outstationAddr < 16)
    {functionCode : Nat} (control : IsControlFunction functionCode) (group : Nat)
    (bData data : BitVec 16) (callback : Option Nat) :
    let header := CBBlockData.addressBlock conf.outstationAddr group functionCode bData true
    conf.accepted { message := [header], callback := callback } [answerBlock header data] =
      (data &&& 0xFFF#16 == bData &&& 0xFFF#16) := by
  have small : functionCode % 16 = functionCode := by
    rcases control with rfl | rfl | rfl | rfl | rfl <;> rfl
  have noScan : functionCode ≠ FUNC_SCAN_DATA := by
    rcases control with rfl | rfl | rfl | rfl | rfl <;> decide
  have station : conf.outstationAddr % 16 = conf.outstationAddr := Nat.mod_eq_of_lt fits
  have judgedByHeader : functionCode = FUNC_EXECUTE_COMMAND ∨ functionCode = FUNC_TRIP ∨
      functionCode = FUNC_SETPOINT_A ∨ functionCode = FUNC_CLOSE ∨
      functionCode = FUNC_SETPOINT_B := control
  intro header
  have judged : conf.acceptsResponse
      { currentCommand := { message := [header], callback := callback }
        currentFunctionCode := functionCode } [answerBlock header data] =
      if data &&& 0xFFF#16 == bData &&& 0xFFF#16 then some [] else none := by
    simp [acceptsResponse, answerBlock, header, station, small, Nat.pos_iff_ne_zero.mp positive,
      responseSuccess, noScan, judgedByHeader, checkResponseHeaderMatch]
  have code : commandFunctionCode [header] = functionCode := by
    simp [commandFunctionCode, header, small]
  rw [accepted, code, judged]
  cases data &&& 0xFFF#16 == bData &&& 0xFFF#16 with
  | true => rfl
  | false => rfl

end CBMasterConf

/-! ## The turns of the pair -/

namespace CBControlLink

variable (link : CBControlLink)

/-- The header of a select. -/
def selectHeader (group functionCode : Nat) (bData : BitVec 16) : CBBlockData :=
  .addressBlock link.station.address group functionCode bData true

def executeHeader (group : Nat) : CBBlockData :=
  .addressBlock link.station.address group FUNC_EXECUTE_COMMAND 0#16 true

variable {link} {outstation : CBOutstation}

/-- At its turn a command is delivered at least once. -/
theorem exchange_turn (turn : CommandTurn) (room : turn.HasRoom)
    (item : MasterCommandQueueItem CBMessage) (outstation : CBOutstation) :
    ∃ count effects,
      link.masterConf.masterPort.turn link.masterEnabled
          (link.answer item.message turn.arrives outstation) turn.atTurn item =
        (count + 1, effects) ∧
      link.exchange turn item outstation =
        { outstation := (link.attempts item.message turn.arrives outstation (count + 1)).1
          outputs := (link.attempts item.message turn.arrives outstation (count + 1)).2
          effects := effects } := by
  have positive := link.masterConf.masterPort.exchange_pos link.masterEnabled
    (link.answer item.message turn.arrives outstation) link.masterConf.masterPort.commandRetries 0
    (link.masterConf.masterPort.atTurn turn.atTurn item)
  obtain ⟨count, counted⟩ := Nat.exists_eq_succ_of_ne_zero (Nat.pos_iff_ne_zero.mp positive)
  refine ⟨count, (link.masterConf.masterPort.turn link.masterEnabled
    (link.answer item.message turn.arrives outstation) turn.atTurn item).2, ?_, ?_⟩
  · exact Prod.ext counted rfl
  · rw [exchange, if_pos room]
    dsimp only
    rw [MasterPort.turn, counted]

theorem canSend (masterEnabled : link.masterEnabled = true) :
    link.masterConf.masterPort.canSend link.masterEnabled = true := by
  rw [CBMasterConf.masterPort_canSend, masterEnabled]

/-- The select posts nothing, whatever becomes of it. -/
theorem exchange_silent (masterEnabled : link.masterEnabled = true) (turn : CommandTurn)
    (message : CBMessage) (outstation : CBOutstation) (id : Nat) :
    postedFor id (link.exchange turn { message := message } outstation).effects = [] := by
  by_cases room : turn.HasRoom
  · obtain ⟨count, effects, turned, exchanged⟩ :=
      link.exchange_turn turn room { message := message } outstation
    have silent := @MasterPort.turn_silent _ _ link.masterConf.masterPort _
      (canSend masterEnabled) id _ { message := message }
      (link.answer message turn.arrives outstation)
      (link.masterConf.masterPort_judgesCommand _) turn.atTurn rfl
    rw [exchanged]
    rw [turned] at silent
    exact silent
  · rw [exchange, if_neg room]
    rfl

/-- **The turn of an accepted select**: it publishes nothing, and is transmitted once when it is
answered with its own data. -/
theorem exchange_select (enabled : outstation.enabled = true) {turn : CommandTurn}
    (room : turn.HasRoom) {functionCode : Nat}
    (control : CBMasterConf.IsControlFunction functionCode) (group : Nat) (bData : BitVec 16)
    (accepts : AcceptsSelect link.conf outstation (link.selectHeader group functionCode bData)) :
    let header := link.selectHeader group functionCode bData
    ∃ count,
      (storedData outstation (selectedCommand header.getFunctionCode) header.getB = header.getB →
        count = 0) ∧
      (link.exchange turn { message := [header] } outstation).outstation =
        selectedAt outstation header (turn.arrives count) ∧
      publishedControls (link.exchange turn { message := [header] } outstation).outputs = [] := by
  intro header
  obtain ⟨count, effects, turned, exchanged⟩ :=
    link.exchange_turn turn room { message := [header] } outstation
  obtain ⟨state, silent⟩ := link.attempts_select [] turn.arrives enabled accepts count
  refine ⟨count, ?_, ?_, ?_⟩
  · intro kept
    have first : link.masterConf.accepted { message := [header] }
        (link.answer [header] turn.arrives outstation 0) = true := by
      rw [link.answer_select [] turn.arrives enabled accepts, kept]
      refine (link.masterConf.accepted_answerBlock link.station.positive link.station.fits control
        group bData _ none).trans ?_
      simp [header, selectHeader, BitVec.and_assoc]
    have once := @MasterPort.turn_accepted _ _ link.masterConf.masterPort link.masterEnabled
      _ turn.atTurn _ _ (link.masterConf.masterPort_judgesCommand { message := [header] }) first
    rw [turned] at once
    exact Nat.succ.inj once
  · rw [exchanged]
    exact state
  · rw [exchanged]
    exact silent

/-- **The turn of an execute**: it publishes the selected controls, and its callback is posted
once, with success when one of them succeeds. -/
theorem exchange_execute (masterEnabled : link.masterEnabled = true)
    (enabled : outstation.enabled = true) {turn : CommandTurn} (room : turn.HasRoom)
    (group id : Nat) :
    let header := link.executeHeader group
    let exchanged := link.exchange turn { message := [header], callback := some id } outstation
    let controls := selectedControls link.conf (turn.arrives 0) outstation header
    (∀ event, event ∈ publishedControls exchanged.outputs ↔ event ∈ controls) ∧
      ∃ status, postedFor id exchanged.effects = [status] ∧
        (status = .SUCCESS ↔ ∃ event ∈ controls, link.Succeeds event) := by
  intro header
  let item : MasterCommandQueueItem CBMessage := { message := [header], callback := some id }
  have execute : header.getFunctionCode = FUNC_EXECUTE_COMMAND := by
    simp [header, executeHeader, FUNC_EXECUTE_COMMAND]
  obtain ⟨count, effects, turned, exchanged⟩ := link.exchange_turn turn room item outstation
  obtain ⟨-, outputs⟩ := link.attempts_execute [] turn.arrives enabled execute count
  obtain ⟨status, posted, success⟩ := @MasterPort.turn_posted_command _ _
    link.masterConf.masterPort _ (canSend masterEnabled) id _ item
    (link.answer [header] turn.arrives outstation) (link.masterConf.masterPort_judgesCommand item)
    turn.atTurn rfl
  rw [turned] at posted success
  rw [exchanged]
  refine ⟨?_, status, posted, success.trans ?_⟩
  · intro event
    rw [outputs]
    exact link.mem_publishedControls_execute [] enabled execute _ event
  · have answered : link.masterConf.accepted item (link.answer [header] turn.arrives outstation 0) =
        true ↔ ∃ event ∈ selectedControls link.conf (turn.arrives 0) outstation header,
          link.Succeeds event := by
      rw [link.answer_execute [] turn.arrives enabled execute]
      split
      · next succeeds =>
          refine iff_of_true ?_ succeeds
          exact (link.masterConf.accepted_answerBlock link.station.positive link.station.fits
            (.inl rfl) group 0#16 0#16 (some id)).trans rfl
      · next fails => exact iff_of_false Bool.false_ne_true fails
    rw [← answered]
    constructor
    · rintro ⟨attempt, -, accepted⟩
      cases attempt with
      | zero => exact accepted
      | succ attempt =>
          rw [link.answer_execute_later [] turn.arrives enabled execute] at accepted
          cases accepted
    · intro accepted
      exact ⟨0, Nat.succ_pos count, accepted⟩

/-- At an outstation that is disabled a turn does nothing. -/
theorem exchange_disabled (disabled : outstation.enabled = false) (turn : CommandTurn)
    (item : MasterCommandQueueItem CBMessage) :
    (link.exchange turn item outstation).outstation = outstation ∧
      (link.exchange turn item outstation).outputs = [] := by
  by_cases room : turn.HasRoom
  · obtain ⟨count, effects, -, exchanged⟩ := link.exchange_turn turn room item outstation
    rw [exchanged, link.attempts_disabled turn.arrives disabled]
    exact ⟨rfl, rfl⟩
  · rw [exchange, if_neg room]
    exact ⟨rfl, rfl⟩

/-- A command that is refused by the queue or not answered is a failure. -/
theorem exchange_failed (masterEnabled : link.masterEnabled = true) {turn : CommandTurn}
    (unreached : ¬turn.HasRoom ∨ outstation.enabled = false) (message : CBMessage) (id : Nat) :
    postedFor id (link.exchange turn { message := message, callback := some id }
      outstation).effects = [.UNDEFINED] := by
  by_cases room : turn.HasRoom
  · let item : MasterCommandQueueItem CBMessage := { message := message, callback := some id }
    have disabled := unreached.resolve_left (not_not_intro room)
    obtain ⟨count, effects, turned, exchanged⟩ := link.exchange_turn turn room item outstation
    obtain ⟨status, posted, success⟩ := @MasterPort.turn_posted_command _ _
      link.masterConf.masterPort _ (canSend masterEnabled) id _ item
      (link.answer message turn.arrives outstation) (link.masterConf.masterPort_judgesCommand item)
      turn.atTurn rfl
    rw [turned] at posted
    rw [exchanged, posted]
    cases status with
    | UNDEFINED => rfl
    | SUCCESS =>
        obtain ⟨attempt, -, accepted⟩ := success.mp rfl
        rw [link.answer_disabled turn.arrives disabled] at accepted
        cases accepted
  · rw [exchange, if_neg room]
    exact MasterQueue.postedFor_postCallbackCall id .UNDEFINED

/-! ## The controls that the execute performs -/

section Pair

variable {group : Nat} (groupSmall : group < 16) {functionCode : Nat}
  (control : CBMasterConf.IsControlFunction functionCode) {bData : BitVec 16}

/-- The control that a select leaves pending. -/
def selectedControl (link : CBControlLink) (group functionCode : Nat) (bData : BitVec 16) :
    Option ControlEvent :=
  controlOf link.conf link.table group (selectedCommand functionCode)
    (storedData link.outstation (selectedCommand functionCode) (bData &&& 0xFFF#16))

/-- The select of a control names it at the outstation. -/
def Names (link : CBControlLink) (group functionCode : Nat) (bData : BitVec 16) : Prop :=
  Accepts link.conf link.table group (selectedCommand functionCode) (bData &&& 0xFFF#16)

/-- The outstation when the execute has its turn. -/
def afterSelect (link : CBControlLink) (group functionCode : Nat) (bData : BitVec 16) :
    CBOutstation :=
  (link.exchange link.select { message := [link.selectHeader group functionCode bData] }
    link.outstation).outstation

include groupSmall

theorem executeGroups_executeHeader :
    executeGroups link.conf (link.executeHeader group) = link.groups group := by
  simp [executeGroups, groups, executeHeader, Nat.mod_eq_of_lt groupSmall]

theorem groups_small {other : Nat} (member : other ∈ link.groups group) : other < 16 := by
  unfold groups at member
  split at member
  · exact List.mem_range.mp member
  · rw [List.mem_singleton.mp member]
    exact groupSmall

theorem group_mem_groups : group ∈ link.groups group := by
  unfold groups
  split
  · exact List.mem_range.mpr groupSmall
  · exact List.mem_singleton.mpr rfl

/-- The controls of an execute whose select was refused by the queue were pending before. -/
theorem mem_selectedControls_refused (full : ¬link.select.HasRoom) (event : ControlEvent) :
    event ∈ selectedControls link.conf (link.execute.arrives 0)
        (link.afterSelect group functionCode bData) (link.executeHeader group) ↔
      event ∈ link.takenAlong group := by
  rw [afterSelect, exchange, if_neg full, selectedControls,
    executeGroups_executeHeader groupSmall, takenAlong]
  simp only [full, decide_false, Bool.false_and, Bool.not_false, List.filter_true]
  rfl

include control

theorem selectHeader_fields :
    (link.selectHeader group functionCode bData).getGroup = group ∧
      (link.selectHeader group functionCode bData).getFunctionCode = functionCode ∧
      (link.selectHeader group functionCode bData).getB = bData &&& 0xFFF#16 := by
  have small : functionCode % 16 = functionCode := by
    rcases control with rfl | rfl | rfl | rfl | rfl <;> rfl
  simp [selectHeader, Nat.mod_eq_of_lt groupSmall, small]

/-- The outstation has the control points of the master. -/
theorem Names.accepts (names : link.Names group functionCode bData) :
    AcceptsSelect link.conf link.outstation (link.selectHeader group functionCode bData) := by
  obtain ⟨sameGroup, sameCode, sameData⟩ :=
    @selectHeader_fields link _ groupSmall _ control bData
  rw [AcceptsSelect, sameGroup, sameCode, sameData, Accepts,
    controlOf_congr link.sameControls]
  exact names

/-- **The controls of an execute**: the one that was selected, if it is in time, and those that
are taken along. -/
theorem Names.mem_selectedControls (names : link.Names group functionCode bData)
    (enabled : link.outstation.enabled = true) (room : link.select.HasRoom) :
    ∃ count,
      (storedData link.outstation (selectedCommand functionCode) (bData &&& 0xFFF#16) =
        bData &&& 0xFFF#16 → count = 0) ∧
      ∀ event,
        event ∈ selectedControls link.conf (link.execute.arrives 0)
            (link.afterSelect group functionCode bData) (link.executeHeader group) ↔
          (link.execute.arrives 0 ≤ link.select.arrives count + CommandValidTimemsec ∧
            link.selectedControl group functionCode bData = some event) ∨
          event ∈ link.takenAlong group := by
  obtain ⟨sameGroup, sameCode, sameData⟩ :=
    @selectHeader_fields link _ groupSmall _ control bData
  have accepts := names.accepts groupSmall control
  obtain ⟨count, once, state, -⟩ :=
    exchange_select enabled room control group bData accepts
  rw [sameCode, sameData] at once
  refine ⟨count, once, ?_⟩
  intro event
  have pending (other : Nat) := pendingControl_selectedAt accepts (link.select.arrives count)
    (link.execute.arrives 0) other
  simp only [sameGroup, sameCode, sameData, controlOf_congr link.sameControls] at pending
  rw [afterSelect, state, selectedControls, executeGroups_executeHeader groupSmall]
  simp only [List.mem_filterMap, takenAlong, List.mem_filter, room, decide_true, Bool.true_and,
    Bool.not_eq_true', beq_eq_false_iff_ne, pending]
  constructor
  · rintro ⟨other, member, performed⟩
    by_cases own : other = group
    · subst own
      rw [if_pos rfl] at performed
      split at performed
      · next inTime => exact .inl ⟨inTime, performed⟩
      · cases performed
    · rw [if_neg own] at performed
      exact .inr ⟨other, ⟨member, own⟩, performed⟩
  · rintro (⟨inTime, selected⟩ | ⟨other, ⟨member, own⟩, performed⟩)
    · refine ⟨group, group_mem_groups groupSmall, ?_⟩
      rw [if_pos rfl, if_pos inTime]
      exact selected
    · refine ⟨other, member, ?_⟩
      rw [if_neg own]
      exact performed

/-- The select publishes nothing, and the outstation stays enabled or disabled. -/
theorem Names.afterSelect_spec (names : link.Names group functionCode bData) :
    publishedControls (link.exchange link.select
        { message := [link.selectHeader group functionCode bData] } link.outstation).outputs = [] ∧
      (link.afterSelect group functionCode bData).enabled = link.outstation.enabled := by
  by_cases room : link.select.HasRoom
  · cases enabled : link.outstation.enabled with
    | false =>
        obtain ⟨state, outputs⟩ := exchange_disabled enabled link.select
          { message := [link.selectHeader group functionCode bData] }
        rw [afterSelect, state, outputs]
        exact ⟨rfl, enabled⟩
    | true =>
        obtain ⟨count, -, state, silent⟩ := exchange_select enabled room control group bData
          (names.accepts groupSmall control)
        rw [afterSelect, state]
        exact ⟨silent, enabled⟩
  · rw [afterSelect, exchange, if_neg room]
    exact ⟨rfl, rfl⟩

/-- What becomes of a pair is what becomes of its execute. -/
theorem Names.outcome_enabled (names : link.Names group functionCode bData)
    (masterEnabled : link.masterEnabled = true) (id : Nat) :
    let executed := link.exchange link.execute
      { message := [link.executeHeader group], callback := some id }
      (link.afterSelect group functionCode bData)
    link.outcome id (some (link.masterConf.controlPair group functionCode bData)) =
      { events := publishedControls executed.outputs
        posted := postedFor id executed.effects } := by
  have silent := (names.afterSelect_spec groupSmall control).1
  have nothing := exchange_silent masterEnabled link.select
    [link.selectHeader group functionCode bData] link.outstation id
  simp only [outcome, masterEnabled, Bool.not_true, Bool.false_eq_true, if_false, sendPair,
    publishedControls_append, postedFor_append]
  exact congrArg₂ PairOutcome.mk (congrArg (· ++ _) silent) (congrArg (· ++ _) nothing)

/-- **What becomes of a pair whose execute is reached.** -/
theorem Names.outcome_reached (names : link.Names group functionCode bData)
    (reached : link.Reached) (id : Nat) :
    let outcome := link.outcome id (some (link.masterConf.controlPair group functionCode bData))
    let controls := selectedControls link.conf (link.execute.arrives 0)
      (link.afterSelect group functionCode bData) (link.executeHeader group)
    (∀ event, event ∈ outcome.events ↔ event ∈ controls) ∧
      ∃ status, outcome.posted = [status] ∧
        (status = .SUCCESS ↔ ∃ event ∈ controls, link.Succeeds event) := by
  obtain ⟨masterEnabled, room, enabled⟩ := reached
  have after := (names.afterSelect_spec groupSmall control).2.trans enabled
  rw [names.outcome_enabled groupSmall control masterEnabled]
  exact exchange_execute masterEnabled after room group id

/-- **What becomes of a pair whose execute is not reached**: nothing, and the callback tells so. -/
theorem Names.outcome_unreached (names : link.Names group functionCode bData)
    (unreached : ¬link.Reached) (id : Nat) :
    link.outcome id (some (link.masterConf.controlPair group functionCode bData)) =
      { posted := [.UNDEFINED] } := by
  cases masterEnabled : link.masterEnabled with
  | false => simp [outcome, masterEnabled]
  | true =>
      have missed : ¬link.execute.HasRoom ∨
          (link.afterSelect group functionCode bData).enabled = false := by
        rw [(names.afterSelect_spec groupSmall control).2]
        by_cases room : link.execute.HasRoom
        · refine .inr (Bool.eq_false_iff.mpr ?_)
          intro enabled
          exact unreached ⟨masterEnabled, room, enabled⟩
        · exact .inl room
      have unpublished : publishedControls (link.exchange link.execute
          { message := [link.executeHeader group], callback := some id }
          (link.afterSelect group functionCode bData)).outputs = [] := by
        rcases missed with full | disabled
        · rw [exchange, if_neg full]
          rfl
        · rw [(exchange_disabled disabled link.execute _).2]
          rfl
      rw [names.outcome_enabled groupSmall control masterEnabled]
      exact congrArg₂ PairOutcome.mk unpublished
        (exchange_failed masterEnabled missed [link.executeHeader group] id)

end Pair

/-! ## Agreement -/

section Agreement

variable {index : Nat}

theorem table_laid (link : CBControlLink) : ControlsLaid link.table :=
  load_controlsLaid link.calls controlsLaid_empty

/-- A binary control that is taken along is the one of its own group. -/
theorem mem_takenAlong_binary {point : CBBinaryPoint}
    (known : link.table.binaryControl.odcPointMap index = some point)
    (groupSmall : point.group < 16) (channelSmall : point.channel < 16) (latchOn : Bool) :
    .controlRelayOutputBlock index latchOn ∈ link.takenAlong point.group ↔
      ¬link.select.HasRoom ∧
        link.pendingBefore point.group = some (.controlRelayOutputBlock index latchOn) := by
  have own {group : Nat} (member : group ∈ link.groups point.group)
      (pending : link.pendingBefore group = some (.controlRelayOutputBlock index latchOn)) :
      group = point.group := by
    simp only [pendingBefore, pendingControl] at pending
    split at pending
    · cases pending
    · rw [controlOf_congr link.sameControls] at pending
      exact (link.table_laid.named link.conf known groupSmall channelSmall
        (groups_small groupSmall member) pending).1
  simp only [takenAlong, List.mem_filterMap, List.mem_filter, Bool.not_eq_true',
    Bool.and_eq_false_iff, decide_eq_false_iff_not, beq_eq_false_iff_ne]
  constructor
  · rintro ⟨group, ⟨member, kept⟩, pending⟩
    have same := own member pending
    subst same
    exact ⟨kept.resolve_right (not_not_intro rfl), pending⟩
  · rintro ⟨full, pending⟩
    exact ⟨point.group, ⟨group_mem_groups groupSmall, .inl full⟩, pending⟩

/-- **A binary control is published as it was meant exactly when it is carried out.** -/
theorem binary_agrees_iff {point : CBBinaryPoint}
    (known : link.table.binaryControl.odcPointMap index = some point)
    (groupSmall : point.group < 16) (first : 1 ≤ point.channel) (last : point.channel ≤ 12)
    (id : Nat) (command : ControlRelayOutputBlock) :
    (link.control id index command).BinaryAgrees index command ↔
      link.BinaryCarriedOut point.group index command := by
  have laid := link.table_laid
  obtain ⟨fits, single, channel, moved⟩ := controlBData_spec link.conf first last
  let on := controlOn command.functionCode
  let bData := controlBData link.conf.isBakerDevice point.channel
  have control : CBMasterConf.IsControlFunction (binaryFunction on) := by
    cases on with
    | false => exact .inr (.inl rfl)
    | true => exact .inr (.inr (.inr (.inl rfl)))
  have selected := laid.binarySelect link.conf known channel on
  have names : link.Names point.group (binaryFunction on) bData := by
    rw [Names, fits]
    exact ⟨by rw [selected]; rfl, fun _ => single⟩
  have written : link.control id index command = link.outcome id
      (some (link.masterConf.controlPair point.group (binaryFunction on) bData)) := by
    rw [CBControlLink.control, link.masterConf.writeObject_eq known]
  rw [written, BinaryCarriedOut]
  by_cases reached : link.Reached
  · obtain ⟨published, -⟩ := names.outcome_reached groupSmall control reached id
    have channelSmall : point.channel < 16 := by omega
    simp only [PairOutcome.BinaryAgrees, published, reached, true_and]
    by_cases room : link.select.HasRoom
    · rw [if_pos room]
      obtain ⟨count, once, performed⟩ :=
        names.mem_selectedControls groupSmall control reached.2.2 room
      simp only [performed, mem_takenAlong_binary known groupSmall channelSmall, room,
        not_true_eq_false, false_and, or_false]
      rw [fits] at once
      have command01 : selectedCommand (binaryFunction on) = .Trip ∨
          selectedCommand (binaryFunction on) = .Close := by
        cases on with
        | false => exact .inl rfl
        | true => exact .inr rfl
      cases failing : link.outstation.failControlResponse with
      | false =>
          have kept : storedData link.outstation (selectedCommand (binaryFunction on)) bData =
              bData := by
            simp [storedData, failing]
          have pending : link.selectedControl point.group (binaryFunction on) bData =
              some (.controlRelayOutputBlock index on) := by
            rw [selectedControl, fits, kept, selected]
          rw [once kept, pending]
          simp [InTime, on, eq_comm]
      | true =>
          have corrupted :
              storedData link.outstation (selectedCommand (binaryFunction on)) bData =
                corruptedControlData bData := by
            simp [storedData, failing, command01]
          refine iff_of_false ?_ fun carried => Bool.noConfusion carried.1
          rintro ⟨⟨-, pending⟩, -⟩
          rw [selectedControl, fits, corrupted] at pending
          exact moved (laid.named link.conf known groupSmall channelSmall groupSmall pending).2
    · rw [if_neg room]
      simp only [mem_selectedControls_refused groupSmall room,
        mem_takenAlong_binary known groupSmall channelSmall, room, not_false_eq_true, true_and]
      constructor
      · rintro ⟨pending, -⟩
        exact pending
      · intro pending
        refine ⟨pending, ?_⟩
        intro latchOn other
        cases pending.symm.trans other
        rfl
  · rw [names.outcome_unreached groupSmall control reached]
    refine iff_of_false ?_ fun carried => reached carried.1
    rintro ⟨⟨⟩, -⟩

/-- The values that twelve bits hold. -/
theorem received_eq_iff (command : BitVec 16) :
    command &&& 0xFFF#16 = command ↔ 0 ≤ command.toInt ∧ command.toInt ≤ 4095 := by
  have masked : (command &&& 0xFFF#16).toNat = command.toNat % 2 ^ 12 := by
    rw [BitVec.toNat_and]
    exact Nat.and_two_pow_sub_one_eq_mod command.toNat 12
  have small := command.isLt
  rw [← BitVec.toNat_inj, masked, BitVec.toInt_eq_toNat_cond]
  split <;> omega

/-- **An analog value is published or known to have failed exactly when it is carried out.** -/
theorem analog_agrees_iff {point : CBAnalogCounterPoint}
    (known : link.table.analogControl.odcPointMap index = some point)
    (groupSmall : point.group < 16) (channel : point.channel = 1 ∨ point.channel = 2)
    (id : Nat) (command : BitVec 16) :
    (link.analogControl id index command).AnalogAgrees index command ↔
      link.AnalogCarriedOut point.group index command := by
  let functionCode := setpointFunction point.channel
  have control : CBMasterConf.IsControlFunction functionCode := by
    rcases channel with first | second
    · simp [functionCode, first, CBMasterConf.IsControlFunction, setpointFunction]
    · simp [functionCode, second, CBMasterConf.IsControlFunction, setpointFunction]
  have setpoint : selectedCommand functionCode = .SetA ∨ selectedCommand functionCode = .SetB := by
    rcases channel with first | second
    · refine .inl ?_
      rw [show functionCode = FUNC_SETPOINT_A by simp [functionCode, first, setpointFunction]]
      rfl
    · refine .inr ?_
      rw [show functionCode = FUNC_SETPOINT_B by simp [functionCode, second, setpointFunction]]
      rfl
  have selected := link.table_laid.analogSelect link.conf known channel (command &&& 0xFFF#16)
  have names : link.Names point.group functionCode command := by
    refine ⟨by rw [selected]; rfl, ?_⟩
    rcases setpoint with setA | setB
    · simp [setA]
    · simp [setB]
  have kept : storedData link.outstation (selectedCommand functionCode) (command &&& 0xFFF#16) =
      command &&& 0xFFF#16 := by
    rcases setpoint with setA | setB
    · simp [storedData, setA]
    · simp [storedData, setB]
  have own : link.selectedControl point.group functionCode command =
      some (.analogOutputInt16 index (command &&& 0xFFF#16)) := by
    rw [selectedControl, kept, selected]
  have written : link.analogControl id index command =
      link.outcome id (some (link.masterConf.controlPair point.group functionCode command)) := by
    rw [CBControlLink.analogControl, CBMasterConf.writeAnalogObject, known]
    rfl
  rw [written, AnalogCarriedOut]
  by_cases reached : link.Reached
  · obtain ⟨published, status, posted, success⟩ :=
      names.outcome_reached groupSmall control reached id
    have performed (event : ControlEvent) :
        event ∈ selectedControls link.conf (link.execute.arrives 0)
            (link.afterSelect point.group functionCode command)
            (link.executeHeader point.group) ↔
          (link.select.HasRoom ∧ link.InTime ∧
            event = .analogOutputInt16 index (command &&& 0xFFF#16)) ∨
          event ∈ link.takenAlong point.group := by
      by_cases room : link.select.HasRoom
      · obtain ⟨count, once, performed⟩ :=
          names.mem_selectedControls groupSmall control reached.2.2 room
        rw [performed, own, once kept]
        simp [room, InTime, eq_comm]
      · rw [mem_selectedControls_refused groupSmall room]
        simp [room]
    have value : .analogOutputInt16 index command ∈ (link.outcome id
          (some (link.masterConf.controlPair point.group functionCode command))).events ↔
        (link.select.HasRoom ∧ link.InTime ∧ 0 ≤ command.toInt ∧ command.toInt ≤ 4095) ∨
          .analogOutputInt16 index command ∈ link.takenAlong point.group := by
      rw [published, performed, ← received_eq_iff, ControlEvent.analogOutputInt16.injEq,
        eq_self_iff_true, true_and, eq_comm]
    have failure : (∃ status ∈ (link.outcome id
          (some (link.masterConf.controlPair point.group functionCode command))).posted,
          status ≠ .SUCCESS) ↔
        (link.select.HasRoom → link.InTime →
          ¬link.Succeeds (.analogOutputInt16 index (command &&& 0xFFF#16))) ∧
          ∀ event ∈ link.takenAlong point.group, ¬link.Succeeds event := by
      simp only [posted, List.mem_singleton, exists_eq_left, ne_eq, success, performed, not_exists,
        not_and]
      constructor
      · intro fails
        refine ⟨?_, fun event along => fails event (.inr along)⟩
        intro room inTime
        exact fails _ (.inl ⟨room, inTime, rfl⟩)
      · rintro ⟨ownFails, othersFail⟩ event (⟨room, inTime, rfl⟩ | along)
        · exact ownFails room inTime
        · exact othersFail event along
    rw [PairOutcome.AnalogAgrees, value, failure]
    simp only [reached, not_true_eq_false, false_or, or_assoc]
  · rw [names.outcome_unreached groupSmall control reached]
    have failed : CommandStatus.UNDEFINED ≠ .SUCCESS := by
      decide
    refine iff_of_true (.inr ⟨.UNDEFINED, List.mem_singleton.mpr rfl, failed⟩) (.inl reached)

end Agreement

/-- **The two ends agree about a control exactly when it is carried out.** A binary control has one
of the sixteen groups and twelve channels, and an analog one of the two channels of a group. -/
theorem controls_agree_iff (link : CBControlLink) (id index : Nat) :
    (∀ point, link.table.binaryControl.odcPointMap index = some point → point.group < 16 →
      1 ≤ point.channel → point.channel ≤ 12 → ∀ command,
        ((link.control id index command).BinaryAgrees index command ↔
          link.BinaryCarriedOut point.group index command)) ∧
      ∀ point, link.table.analogControl.odcPointMap index = some point → point.group < 16 →
        point.channel = 1 ∨ point.channel = 2 → ∀ command,
          ((link.analogControl id index command).AnalogAgrees index command ↔
            link.AnalogCarriedOut point.group index command) := by
  constructor
  · intro point known groupSmall first last command
    exact binary_agrees_iff known groupSmall first last id command
  · intro point known groupSmall channel command
    exact analog_agrees_iff known groupSmall channel id command

end CBControlLink

/-- A Baker outstation with a binary and an analog control in group 3. -/
def pumpLink : CBControlLink where
  conf := { isBakerDevice := true }
  calls := [.binaryControl 5 3 2 .BINCONTROL, .analogControl 7 3 1 .ANACONTROL]
  station := ⟨9, by decide, by decide⟩
  outstation := { pointTable := (PointTable.load {} [.binaryControl 5 3 2 .BINCONTROL,
    .analogControl 7 3 1 .ANACONTROL]).1 }
  sameControls := ⟨rfl, rfl⟩
  select := { arrives := fun _ => 1000 }
  execute := { arrives := fun _ => 2000 }

/-- Its pump is switched off, and its setpoint is 100. -/
theorem controls_agree_pump :
    (pumpLink.control 0 5 { functionCode := .TRIP_PULSE_ON }).BinaryAgrees 5
        { functionCode := .TRIP_PULSE_ON } ∧
      (pumpLink.analogControl 0 7 100#16).AnalogAgrees 7 100#16 := by
  have inTime : pumpLink.InTime := Nat.le_of_ble_eq_true rfl
  have reached : pumpLink.Reached := ⟨rfl, by decide, rfl⟩
  constructor
  · refine ((CBControlLink.controls_agree_iff pumpLink 0 5).1
      { index := 5, group := 3, channel := 2, payloadLocation := ⟨1, .PositionB⟩
        pointType := .BINCONTROL } rfl (by decide) (by decide) (by decide) _).mpr ?_
    exact ⟨reached, by rw [if_pos (by decide)]; exact ⟨rfl, inTime⟩⟩
  · refine ((CBControlLink.controls_agree_iff pumpLink 0 7).2
      { index := 7, group := 3, channel := 1, payloadLocation := ⟨1, .PositionB⟩
        pointType := .ANACONTROL } rfl (by decide) (.inl rfl) _).mpr ?_
    exact .inr (.inl ⟨by decide, inTime, by decide, by decide⟩)

/-- **A setpoint of -1 is published as 4095**, and the master is told of a success. -/
theorem controls_agree_negative :
    pumpLink.analogControl 0 7 (BitVec.ofInt 16 (-1)) =
        { events := [.analogOutputInt16 7 4095#16], posted := [.SUCCESS] } ∧
      ¬(pumpLink.analogControl 0 7 (BitVec.ofInt 16 (-1))).AnalogAgrees 7
        (BitVec.ofInt 16 (-1)) := by
  decide +kernel

end OpenDataCon.CBPort
