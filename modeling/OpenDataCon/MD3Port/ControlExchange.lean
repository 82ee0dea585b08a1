import OpenDataCon.MD3Port.DOMCommands
import OpenDataCon.MD3Port.AnalogScan
import OpenDataCon.MasterQueue.Turns

/-!
# Controls from end to end

A control is given to the master, waits for its turn, and is sent to the outstation, which
publishes it and answers with the status of the subscriber. No message is lost, and every answer
comes before the timeout. An answer that the master does not accept is a failure to it: it sends
the command again, and the outstation publishes it again.

So a control that is rejected is published once more for every retry. An input point control is
never accepted, because the master does not know its function, and a value for an analog point is
sent as something else and its callback is called twice. `control_endToEnd_iff` says exactly
which controls are published once and answered once.
-/

set_option autoImplicit false

namespace OpenDataCon.MD3Port

open MD3BlockData MasterQueue Runs

/-! ## What the outstation answers -/

/-- What a subscriber does with an event: the status it answers, and whether it answers only after
the outstation has published everything. -/
structure SubscriberAnswer where
  status : Connectors.CommandStatus := .SUCCESS
  later : Bool := false
deriving DecidableEq, Repr

/-- One call of the closure for an output word: whether all were successes, and how many calls
there were. The sixteenth call answers. -/
def countStatus (state : Bool × Nat) (status : Connectors.CommandStatus) :
    (Bool × Nat) × List Bool :=
  let success := state.1 && status == .SUCCESS
  let execCount := state.2 + 1
  ((success, execCount), if execCount = 16 then [success] else [])

/-- The statuses that the closure is called with while the outputs are published: for an output
its answer, if it comes at once, and for every channel a success. -/
def publishedStatuses (answers : Nat → SubscriberAnswer) (channels : List (Option ControlEvent)) :
    List Connectors.CommandStatus :=
  channels.zipIdx.flatMap fun channel =>
    (if channel.1.isSome && !(answers channel.2).later then [(answers channel.2).status] else []) ++
      [.SUCCESS]

/-- The statuses that come later. -/
def laterStatuses (answers : Nat → SubscriberAnswer) (channels : List (Option ControlEvent)) :
    List Connectors.CommandStatus :=
  channels.zipIdx.flatMap fun channel =>
    if channel.1.isSome && (answers channel.2).later then [(answers channel.2).status] else []

/-- The answers to a command, as successes or rejections. -/
def ControlAction.verdicts (answers : Nat → SubscriberAnswer) : ControlAction → List Bool
  | .ignored => []
  | .rejected => [false]
  | .performed _ => [(answers 0).status == .SUCCESS]
  | .performedWord channels =>
    (run countStatus (true, 0)
      (publishedStatuses answers channels ++ laterStatuses answers channels)).2

def sendControlOK (header : MD3BlockData) : MD3Message := [MD3BlockFn15StoM header]

def sendControlOrScanRejected (flags : SystemFlags) (header : MD3BlockData) : MD3Message :=
  [(MD3BlockFn30StoM header).setFlags flags.RSF flags.HRP flags.DCP]

/-! ## The link -/

/-- A master and an outstation, as they are when a control is given and when its turn comes. -/
structure ControlLink where
  tables : ControlTables
  station : OutstationAddress
  md3CommandRetries : Nat := 3
  md3CommandTimeoutmsec : Nat := 5000
  failControlResponse : Bool := false
  flags : SystemFlags := {}
  /-- The binary inputs of the master. -/
  inputs : BinaryTable := {}
  /-- What the subscriber does, by attempt and channel. -/
  subscriber : Nat → Nat → SubscriberAnswer := fun _ _ => {}
  /-- The queue of the master, when the control is given and when its turn comes. -/
  given : MasterCommandData MD3Message
  atTurn : MasterCommandData MD3Message
  enabled : Bool := true

/-- What was published, answered, and posted to the callback. -/
structure ControlOutcome where
  events : List ControlEvent := []
  answers : List MD3Message := []
  posted : List CommandStatus := []
deriving DecidableEq, Repr

namespace ControlLink

variable (link : ControlLink)

def conf : MD3MasterConf where
  outstationAddr := link.station.address
  md3CommandRetries := link.md3CommandRetries
  md3CommandTimeoutmsec := link.md3CommandTimeoutmsec

/-- The outstation's part of an attempt. -/
def action (message : MD3Message) : ControlAction :=
  link.tables.processMD3Message link.failControlResponse message

def answersTo (message : MD3Message) (attempt : Nat) : List MD3Message :=
  ((link.action message).verdicts (link.subscriber attempt)).map fun ok =>
    if ok then sendControlOK (message.headD {})
    else sendControlOrScanRejected link.flags (message.headD {})

/-- There is room in the queue when the control is given. -/
def HasRoom : Prop := link.given.masterCommandQueue.length < link.given.maxCommandQueueSize

instance : Decidable link.HasRoom := Nat.decLt ..

/-- A command is queued with a callback, and has its turn; a full queue refuses it. -/
def queueMD3Command (id : Nat) (message : MD3Message) : ControlOutcome :=
  if link.HasRoom then
    let exchanged := link.conf.masterPort.turn link.enabled
      (fun attempt => { message := (link.answersTo message attempt).headD [] }) link.atTurn
      { message := message, callback := some id }
    { events := (List.range exchanged.1).flatMap fun _ => (link.action message).events
      answers := (List.range exchanged.1).flatMap (link.answersTo message)
      posted := postedFor id exchanged.2 }
  else { posted := [.UNDEFINED] }

/-- What the master writes, and the callback it may post itself. -/
def outcome (id : Nat) (written : WriteResult) : ControlOutcome :=
  let queued : ControlOutcome := match written.command with
    | none => {}
    | some message => link.queueMD3Command id message
  { queued with posted := queued.posted ++ if written.posted then [.UNDEFINED] else [] }

/-- A control for a binary point. -/
def control (id index : Nat) (block : ControlRelayOutputBlock) : ControlOutcome :=
  link.outcome id (link.tables.writeObject link.station link.inputs block index)

/-- A value for an analog point. -/
def analogControl (id index : Nat) (value : Int) : ControlOutcome :=
  link.outcome id (link.tables.writeAnalogObject link.station value index)

end ControlLink

def ControlEvent.index : ControlEvent → Nat
  | .controlRelayOutputBlock index _ => index
  | .analogOutputInt16 index _ => index

/-- The control is published once for its index; and the callback is posted once, with success
exactly when the outstation has answered with success. -/
def ControlOutcome.EndToEnd (outcome : ControlOutcome) (expected : ControlEvent) : Prop :=
  outcome.events.filter (fun event => event.index == expected.index) = [expected] ∧
    ∃ status, outcome.posted = [status] ∧
      (status = .SUCCESS ↔
        ∃ answer ∈ outcome.answers, (answer.headD {}).getFunctionCode = CONTROL_REQUEST_OK)

/-- What a control of a point is to be published as: a pulse as a pulse, an output word as the
state of the point, an input point control as its code goes through both switches. -/
def expectedControl (key : MD3PointKey) (functionCode : ControlCode) : ControlEvent :=
  .controlRelayOutputBlock key.index
    { functionCode := match key.pointType with
        | .DOMOUTPUT => if commandedState functionCode then .LATCH_ON else .LATCH_OFF
        | .DIMOUTPUT => ((dimSelection functionCode).map dimCode).getD functionCode
        | _ => .PULSE_ON }

/-! ## When a control is carried out -/

namespace ControlLink

variable (link : ControlLink)

/-- The statuses of the first attempt that decide the answer for an output word: the first
sixteen that the closure is called with are successes. -/
def AnsweredInTime (key : MD3PointKey) (outputbits : BitVec 16) : Prop :=
  ∀ status ∈ (publishedStatuses (link.subscriber 0) ((List.range 16).map
    (link.tables.channelEvent key.moduleAddress outputbits))).take 16, status = .SUCCESS

/-- The control is queued and not rejected, and not sent a second time. -/
def CarriedOut (key : MD3PointKey) (functionCode : ControlCode) : Prop :=
  link.HasRoom ∧ link.failControlResponse = false ∧
    match key.pointType with
    | .POMOUTPUT => link.md3CommandRetries = 0 ∨ (link.subscriber 0 0).status = .SUCCESS
    | .DOMOUTPUT =>
      functionCode ≠ .PULSE_OFF ∧
        link.tables.getBinaryControlODCIndexUsingMD3Index key.moduleAddress 0 ≠ none ∧
        OutputFits (link.inputs.outputWord key functionCode) ∧
        (link.md3CommandRetries = 0 ∨
          link.AnsweredInTime key (link.inputs.outputWord key functionCode))
    | .DIMOUTPUT =>
      dimSelection functionCode ≠ none ∧ link.md3CommandRetries = 0 ∧
        (link.subscriber 0 0).status ≠ .SUCCESS
    | _ => False

end ControlLink

/-! ## Answers -/

section Answers

/-- After the sixteenth call the closure answers no more. -/
theorem run_countStatus_done (statuses : List Connectors.CommandStatus) {success : Bool}
    {execCount : Nat} (done : 16 ≤ execCount) :
    (run countStatus (success, execCount) statuses).2 = [] := by
  induction statuses generalizing success execCount with
  | nil => rfl
  | cons status rest ih =>
      rw [run_cons, countStatus]
      dsimp only
      rw [if_neg (by omega), ih (Nat.le_succ_of_le done)]
      rfl

/-- **The closure answers once, with whether the first sixteen statuses are successes.** -/
theorem run_countStatus (statuses : List Connectors.CommandStatus) {success : Bool}
    {execCount : Nat} (running : execCount < 16)
    (enough : 16 ≤ execCount + statuses.length) :
    (run countStatus (success, execCount) statuses).2 =
      [success && (statuses.take (16 - execCount)).all (· == .SUCCESS)] := by
  induction statuses generalizing success execCount with
  | nil =>
      rw [List.length_nil] at enough
      omega
  | cons status rest ih =>
      rw [List.length_cons] at enough
      rw [run_cons, countStatus]
      dsimp only
      by_cases last : execCount + 1 = 16
      · rw [if_pos last, run_countStatus_done rest (Nat.le_of_eq last.symm),
          show 16 - execCount = 1 by omega]
        simp
      · rw [if_neg last, ih (by omega) (by omega),
          show 16 - execCount = (16 - (execCount + 1)) + 1 by omega]
        simp [Bool.and_assoc]

theorem length_publishedStatuses (answers : Nat → SubscriberAnswer)
    (channels : List (Option ControlEvent)) :
    channels.length ≤ (publishedStatuses answers channels).length := by
  unfold publishedStatuses
  rw [List.length_flatMap]
  refine Nat.le_trans (Nat.le_of_eq (by simp)) (List.length_le_sum_of_one_le _ ?_)
  intro count counted
  obtain ⟨channel, -, rfl⟩ := List.mem_map.mp counted
  rw [List.length_append, List.length_singleton]
  exact Nat.le_add_left ..

/-- Whether the master accepts an answer to a command with this function. -/
def MD3MasterConf.accepted (conf : MD3MasterConf) (functionCode : Nat) (response : MD3Answer) :
    Bool :=
  (conf.acceptsResponse { currentCommand := { message := [] }, currentFunctionCode := functionCode }
    response).isSome

variable (conf : MD3MasterConf)

/-- An answer to a control queues nothing. -/
theorem masterPort_judges {functionCode : Nat}
    (noEvents : functionCode ≠ DIGITAL_CHANGE_OF_STATE_TIME_TAGGED)
    (noFlags : functionCode ≠ SYSTEM_FLAG_SCAN) :
    conf.masterPort.Judges functionCode (conf.accepted functionCode) := by
  intro data response same
  have sameVerdict : conf.acceptsResponse data response =
      conf.acceptsResponse
        { currentCommand := { message := [] }, currentFunctionCode := functionCode } response := by
    simp only [MD3MasterConf.acceptsResponse, same]
  have noCommands : ∀ commands, conf.acceptsResponse
      { currentCommand := { message := [] }, currentFunctionCode := functionCode } response =
        some commands → commands = [] := by
    intro commands accepted
    unfold MD3MasterConf.acceptsResponse at accepted
    split at accepted
    · cases accepted
    · split_ifs at accepted
      rw [← Option.some_inj.mp accepted, MD3MasterConf.responseCommands, if_neg]
      rintro (⟨here, -⟩ | ⟨here, -⟩)
      · exact noEvents here
      · exact noFlags here
  change conf.acceptsResponse data response = _
  rw [sameVerdict, MD3MasterConf.accepted]
  cases verdict : conf.acceptsResponse
      { currentCommand := { message := [] }, currentFunctionCode := functionCode } response with
  | none => rfl
  | some commands => rw [noCommands commands verdict]; rfl

/-- An answer is accepted from the outstation of the port when it is a success. -/
theorem accepted_iff {functionCode : Nat} {header : MD3BlockData} {rest : MD3Message} :
    conf.accepted functionCode { message := header :: rest } = true ↔
      header.isMasterToStationMessage = false ∧ header.getStationAddress ≠ 0 ∧
        header.getStationAddress = conf.outstationAddr ∧
        MD3MasterConf.responseSuccess functionCode header { message := header :: rest } = true :=
  conf.acceptsResponse_isSome_iff _ true []

/-- Of the controls the master judges a pulse and an output word. -/
theorem responseSuccess_control (header : MD3BlockData) (answer : MD3Answer) :
    MD3MasterConf.responseSuccess POM_TYPE_CONTROL header answer =
        (header.getFunctionCode == CONTROL_REQUEST_OK &&
          MD3MasterConf.processOneBlockReturn answer.message) ∧
      MD3MasterConf.responseSuccess DOM_TYPE_CONTROL header answer =
        (header.getFunctionCode == CONTROL_REQUEST_OK &&
          MD3MasterConf.processOneBlockReturn answer.message) ∧
      MD3MasterConf.responseSuccess INPUT_POINT_CONTROL header answer = false :=
  ⟨rfl, rfl, rfl⟩

/-- The function of an answer says whether it is a success. -/
theorem getFunctionCode_answer_control (header : MD3BlockData) (ok : Bool) (flags : SystemFlags) :
    ((if ok then sendControlOK header else sendControlOrScanRejected flags header).headD
      {}).getFunctionCode =
      if ok then CONTROL_REQUEST_OK else CONTROL_OR_SCAN_REQUEST_REJECTED := by
  cases ok with
  | true => exact getFunctionCode_withAnswerCode _ (by decide)
  | false =>
      exact (getFunctionCode_setFlags ..).trans (getFunctionCode_withAnswerCode _ (by decide))

/-- **The answers to a control**: a success is accepted of a pulse and of an output word, and
nothing of an input point control, whose function the master does not know. -/
theorem accepted_control {header : MD3BlockData} (answered : header.getStationAddress ≠ 0)
    (same : header.getStationAddress = conf.outstationAddr) (ok : Bool) (flags : SystemFlags) :
    let response : MD3Answer := { message := if ok then sendControlOK header
      else sendControlOrScanRejected flags header }
    conf.accepted POM_TYPE_CONTROL response = ok ∧ conf.accepted DOM_TYPE_CONTROL response = ok ∧
      conf.accepted INPUT_POINT_CONTROL response = false := by
  intro response
  have code := getFunctionCode_answer_control header ok flags
  cases ok with
  | true =>
      have request : (MD3BlockFn15StoM header).isMasterToStationMessage = false :=
        isMasterToStationMessage_withAnswerCode _
      have station : (MD3BlockFn15StoM header).getStationAddress = header.getStationAddress :=
        getStationAddress_withAnswerCode _ (by decide)
      obtain ⟨pom, dom, dim⟩ := responseSuccess_control (MD3BlockFn15StoM header) response
      have success : ((MD3BlockFn15StoM header).getFunctionCode == CONTROL_REQUEST_OK &&
          MD3MasterConf.processOneBlockReturn response.message) = true := by
        rw [Bool.and_eq_true]
        exact ⟨beq_iff_eq.mpr code, rfl⟩
      refine ⟨?_, ?_, ?_⟩
      · exact (accepted_iff conf).mpr ⟨request, station ▸ answered, station ▸ same,
          pom.trans success⟩
      · exact (accepted_iff conf).mpr ⟨request, station ▸ answered, station ▸ same,
          dom.trans success⟩
      · refine Bool.eq_false_iff.mpr fun accepted => ?_
        have success := ((accepted_iff conf).mp accepted).2.2.2
        exact Bool.false_ne_true (dim.symm.trans success)
  | false =>
      let rejection := (MD3BlockFn30StoM header).setFlags flags.RSF flags.HRP flags.DCP
      obtain ⟨pom, dom, dim⟩ := responseSuccess_control rejection response
      have failure : (rejection.getFunctionCode == CONTROL_REQUEST_OK &&
          MD3MasterConf.processOneBlockReturn response.message) = false := by
        rw [show rejection.getFunctionCode = CONTROL_OR_SCAN_REQUEST_REJECTED from code]
        rfl
      have refused : ∀ functionCode, MD3MasterConf.responseSuccess functionCode rejection response =
          false → conf.accepted functionCode response = false := fun functionCode fails =>
        Bool.eq_false_iff.mpr fun accepted =>
          Bool.false_ne_true (fails.symm.trans ((accepted_iff conf).mp accepted).2.2.2)
      exact ⟨refused _ (pom.trans failure), refused _ (dom.trans failure), refused _ dim⟩

end Answers

/-! ## From end to end -/

/-- The same events for every transmission are one event when there was one. -/
theorem flatMap_range_eq_singleton {α : Type*} {count : Nat} {expected : α} :
    ((List.range count).flatMap fun _ => [expected]) = [expected] ↔ count = 1 := by
  constructor
  · intro same
    have length := congrArg List.length same
    simpa using length
  · rintro rfl
    rfl

/-- A control whose every transmission publishes it goes from end to end when there is one
transmission, and the master takes its answer as the outstation does. -/
theorem endToEnd_iff_once {outcome : ControlOutcome} {expected : ControlEvent} {count : Nat}
    {status : CommandStatus} {verdict : Nat → Bool} {known : Bool}
    (events : outcome.events.filter (fun event => event.index == expected.index) =
      (List.range count).flatMap fun _ => [expected])
    (posted : outcome.posted = [status])
    (answered : (∃ answer ∈ outcome.answers,
      (answer.headD {}).getFunctionCode = CONTROL_REQUEST_OK) ↔
        ∃ attempt < count, verdict attempt = true)
    (success : status = .SUCCESS ↔ ∃ attempt < count, (known && verdict attempt) = true) :
    outcome.EndToEnd expected ↔ count = 1 ∧ (verdict 0 = true → known = true) := by
  have first : ∀ accepts : Nat → Bool,
      (∃ attempt < 1, accepts attempt = true) ↔ accepts 0 = true := by
    intro accepts
    constructor
    · rintro ⟨attempt, before, yes⟩
      rwa [Nat.lt_one_iff.mp before] at yes
    · exact fun yes => ⟨0, Nat.one_pos, yes⟩
  rw [ControlOutcome.EndToEnd, events, flatMap_range_eq_singleton, posted, answered]
  refine and_congr_right fun once => ?_
  subst once
  rw [first] at success
  rw [first]
  constructor
  · rintro ⟨same, isStatus, agrees⟩ yes
    rw [← (List.cons.inj isStatus).1, success] at agrees
    exact (Bool.and_eq_true_iff.mp (agrees.mpr yes)).1
  · intro takes
    refine ⟨status, rfl, success.trans ?_⟩
    rw [Bool.and_eq_true]
    exact ⟨And.right, fun yes => ⟨takes yes, yes⟩⟩

namespace ControlLink

variable {link : ControlLink}

/-- The outstation has answered with success when the verdict of an attempt was. -/
theorem answered_ok_iff {message : MD3Message} {verdict : Nat → Bool} (single : ∀ attempt,
      (link.action message).verdicts (link.subscriber attempt) = [verdict attempt]) (count : Nat) :
    (∃ answer ∈ (List.range count).flatMap (link.answersTo message),
      (answer.headD {}).getFunctionCode = CONTROL_REQUEST_OK) ↔
        ∃ attempt < count, verdict attempt = true := by
  have answers : ∀ attempt, link.answersTo message attempt =
      [if verdict attempt then sendControlOK (message.headD {})
        else sendControlOrScanRejected link.flags (message.headD {})] := by
    intro attempt
    rw [answersTo, single, List.map_singleton]
  have codes : ∀ attempt, ((if verdict attempt then sendControlOK (message.headD {})
      else sendControlOrScanRejected link.flags (message.headD {})).headD {}).getFunctionCode =
        CONTROL_REQUEST_OK ↔ verdict attempt = true := by
    intro attempt
    rw [getFunctionCode_answer_control]
    cases verdict attempt with
    | true => exact ⟨fun _ => rfl, fun _ => rfl⟩
    | false => exact ⟨fun same => absurd same (by decide), fun same => absurd same (by decide)⟩
  constructor
  · rintro ⟨answer, listed, success⟩
    obtain ⟨attempt, before, here⟩ := List.mem_flatMap.mp listed
    rw [answers, List.mem_singleton] at here
    subst here
    exact ⟨attempt, List.mem_range.mp before, (codes attempt).mp success⟩
  · rintro ⟨attempt, before, success⟩
    refine ⟨_, List.mem_flatMap.mpr ⟨attempt, List.mem_range.mpr before, ?_⟩,
      (codes attempt).mpr success⟩
    rw [answers]
    exact List.mem_singleton.mpr rfl

section Exchange

variable {message : MD3Message} {functionCode : Nat} {verdict : Nat → Bool}
  (code : (message.headD {}).getFunctionCode = functionCode)
  (isControl : functionCode = POM_TYPE_CONTROL ∨ functionCode = DOM_TYPE_CONTROL ∨
    functionCode = INPUT_POINT_CONTROL)
  (address : (message.headD {}).getStationAddress = link.station.address)
  (single : ∀ attempt, (link.action message).verdicts (link.subscriber attempt) = [verdict attempt])

include code isControl address single

/-- What the master accepts of the answers to a control. -/
theorem accepted_answersTo (attempt : Nat) :
    link.conf.accepted functionCode { message := (link.answersTo message attempt).headD [] } =
      (functionCode != INPUT_POINT_CONTROL && verdict attempt) := by
  have answered : (message.headD {}).getStationAddress ≠ 0 :=
    address ▸ Nat.pos_iff_ne_zero.mp link.station.positive
  obtain ⟨pom, dom, dim⟩ :=
    accepted_control link.conf answered address (verdict attempt) link.flags
  rw [answersTo, single, List.map_singleton, List.headD_cons]
  rcases isControl with rfl | rfl | rfl
  · exact pom.trans (Bool.true_and _).symm
  · exact dom.trans (Bool.true_and _).symm
  · exact dim

/-- **A command goes from end to end exactly when there is room for it, it is published, and it
is transmitted once.** An input point control must also be rejected, as the master takes it to
be. -/
theorem queueMD3Command_endToEnd_iff (id : Nat) {expected : ControlEvent} {published : Prop}
    (once : published → (link.action message).events.filter
      (fun event => event.index == expected.index) = [expected])
    (never : ¬published → expected ∉ (link.action message).events) :
    (link.queueMD3Command id message).EndToEnd expected ↔
      link.HasRoom ∧ published ∧
        if functionCode = INPUT_POINT_CONTROL then
          link.md3CommandRetries = 0 ∧ verdict 0 = false
        else link.md3CommandRetries = 0 ∨ verdict 0 = true := by
  by_cases room : link.HasRoom
  · have judges := @masterPort_judges link.conf functionCode
      (by rcases isControl with rfl | rfl | rfl <;> decide)
      (by rcases isControl with rfl | rfl | rfl <;> decide)
    have canSend := link.conf.masterPort_canSend link.enabled
    let item : MasterCommandQueueItem MD3Message := { message := message, callback := some id }
    let answer : Nat → MD3Answer := fun attempt =>
      { message := (link.answersTo message attempt).headD [] }
    have accepts := accepted_answersTo code isControl address single
    obtain ⟨status, posted, success⟩ := @MasterPort.turn_posted _ _ link.conf.masterPort _
      canSend _ id _ item answer judges link.atTurn code rfl
    have oneTurn := @MasterPort.turn_once _ _ link.conf.masterPort _ canSend _ _ item answer
      judges link.atTurn code
    simp only [answer, accepts] at success oneTurn
    rw [queueMD3Command, if_pos room]
    by_cases isPublished : published
    · refine (endToEnd_iff_once ?_ posted (answered_ok_iff single _) success).trans ?_
      · rw [List.filter_flatMap, once isPublished]
      · refine (and_congr_left' oneTurn).trans ?_
        have retries : link.conf.masterPort.commandRetries = link.md3CommandRetries := rfl
        rw [retries]
        simp only [room, isPublished, true_and]
        by_cases dim : functionCode = INPUT_POINT_CONTROL
        · simp [dim]
        · simp [dim]
    · simp only [isPublished, false_and, and_false, iff_false]
      rintro ⟨events, -⟩
      have listed := List.mem_of_mem_filter (events.symm ▸ List.mem_singleton_self expected)
      obtain ⟨-, -, here⟩ := List.mem_flatMap.mp listed
      exact never isPublished here
  · simp only [queueMD3Command, ControlOutcome.EndToEnd, room, false_and, iff_false]
    simp

end Exchange

/-! ## Points -/

section Points

theorem outcome_queued (id : Nat) {written : WriteResult} {message : MD3Message}
    (queued : written = { command := some message }) :
    link.outcome id written = link.queueMD3Command id message := by
  rw [queued, outcome]
  simp

/-- The answer to an output word that is not rejected. -/
theorem verdicts_performedWord (answers : Nat → SubscriberAnswer)
    (channel : Nat → Option ControlEvent) :
    (ControlAction.performedWord ((List.range 16).map channel)).verdicts answers =
      [((publishedStatuses answers ((List.range 16).map channel)).take 16).all (· == .SUCCESS)] := by
  have enough := length_publishedStatuses answers ((List.range 16).map channel)
  rw [List.length_map, List.length_range] at enough
  rw [ControlAction.verdicts, run_countStatus _ (by decide), Bool.true_and, Nat.sub_zero,
    List.take_append_of_le_length enough]
  rw [List.length_append]
  omega

/-- A list of the events of distinct channels has one event where one channel has one. -/
theorem filterMap_eq_singleton {α β : Type*} {f : α → Option β} {items : List α} {item : α}
    {value : β} (apart : items.Nodup) (member : item ∈ items) (here : f item = some value)
    (others : ∀ other ∈ items, other ≠ item → f other = none) : items.filterMap f = [value] := by
  obtain ⟨before, after, rfl⟩ := List.append_of_mem member
  obtain ⟨-, -, disjoint⟩ := List.nodup_append.mp apart
  have fresh : item ∉ after := (List.nodup_cons.mp (List.nodup_append.mp apart).2.1).1
  have first : before.filterMap f = [] := List.filterMap_eq_nil_iff.mpr fun other inside =>
    others other (List.mem_append_left _ inside) (disjoint other inside item (.head _))
  have last : after.filterMap f = [] := List.filterMap_eq_nil_iff.mpr fun other inside =>
    others other (List.mem_append_right _ (.tail _ inside)) fun same => fresh (same ▸ inside)
  rw [List.filterMap_append, List.filterMap_cons_some here, first, last, List.nil_append]

variable {key : MD3PointKey} (member : key ∈ link.tables.binaryControls.keys) (id : Nat)
  (block : ControlRelayOutputBlock)

include member

/-- **A pulse.** -/
theorem pom_endToEnd_iff (kind : key.pointType = .POMOUTPUT) :
    (link.control id key.index block).EndToEnd (expectedControl key block.functionCode) ↔
      link.CarriedOut key block.functionCode := by
  let message := sendPOMOutputCommand link.station.address key.moduleAddress key.channel
  have written : link.tables.writeObject link.station link.inputs block key.index =
      { command := some message } := by
    rw [ControlTables.writeObject, BinaryLayout.findODC_eq_some.mpr ⟨member, rfl⟩]
    simp only [kind, message]
  have action : link.action message = if link.failControlResponse then .rejected
      else .performed (.controlRelayOutputBlock key.index { functionCode := .PULSE_ON }) :=
    performed_pom link.tables link.station link.failControlResponse member
  have expected : expectedControl key block.functionCode =
      .controlRelayOutputBlock key.index { functionCode := .PULSE_ON } := by
    rw [expectedControl, kind]
  rw [control, outcome_queued id written, expected]
  refine (@queueMD3Command_endToEnd_iff link message POM_TYPE_CONTROL
    (fun attempt => !link.failControlResponse &&
      (link.subscriber attempt 0).status == .SUCCESS)
    (getFunctionCode_formattedBytes ..) (.inl rfl)
    ((getStationAddress_formattedBytes ..).trans (Nat.mod_eq_of_lt link.station.fits)) ?_ id _
    (link.failControlResponse = false) ?_ ?_).trans ?_
  · intro attempt
    rw [action]
    cases link.failControlResponse <;> rfl
  · intro accepting
    rw [action, accepting]
    simp [ControlAction.events]
  · intro failing
    rw [action, eq_true_of_ne_false failing]
    exact List.not_mem_nil
  · rw [CarriedOut, kind, if_neg (by decide)]
    refine and_congr_right fun _ => and_congr_right fun accepting => ?_
    simp [accepting]

/-- **An input point control.** -/
theorem dim_endToEnd_iff (kind : key.pointType = .DIMOUTPUT) :
    (link.control id key.index block).EndToEnd (expectedControl key block.functionCode) ↔
      link.CarriedOut key block.functionCode := by
  have written : link.tables.writeObject link.station link.inputs block key.index =
      { command := (dimSelection block.functionCode).map fun action => sendDIMOutputCommand
          link.station.address key.moduleAddress key.channel action 0 } := by
    rw [ControlTables.writeObject, BinaryLayout.findODC_eq_some.mpr ⟨member, rfl⟩]
    simp only [kind]
  cases asked : dimSelection block.functionCode with
  | none =>
      rw [asked] at written
      have nothing : link.control id key.index block = {} := by
        rw [control, written]
        rfl
      rw [nothing, CarriedOut, kind, asked]
      simp [ControlOutcome.EndToEnd]
  | some selection =>
      rw [asked] at written
      have plain : selection ≠ .SETPOINT := by
        rintro rfl
        cases code : block.functionCode <;> simp [dimSelection, code] at asked
      obtain ⟨moduleFits, channelFits⟩ := link.tables.binaryControls.inRange key member
      let header := MD3BlockFn20MtoS link.station.address key.moduleAddress key.channel selection
      let message := sendDIMOutputCommand link.station.address key.moduleAddress key.channel
        selection 0
      have first : message.headD {} = header := by
        simp only [message, sendDIMOutputCommand]
        split
        · rfl
        · rfl
      have action : link.action message = if link.failControlResponse then .rejected
          else .performed (.controlRelayOutputBlock key.index
            { functionCode := dimCode selection }) :=
        performed_dim link.tables link.station link.failControlResponse member plain 0
      have expected : expectedControl key block.functionCode =
          .controlRelayOutputBlock key.index { functionCode := dimCode selection } := by
        rw [expectedControl, kind, asked]
        rfl
      rw [control, outcome_queued id written, expected]
      refine (@queueMD3Command_endToEnd_iff link message INPUT_POINT_CONTROL
        (fun attempt => !link.failControlResponse &&
          (link.subscriber attempt 0).status == .SUCCESS)
        (first ▸ getFunctionCode_formattedBytes ..) (.inr (.inr rfl))
        (first ▸ (getStationAddress_formattedBytes ..).trans (Nat.mod_eq_of_lt link.station.fits))
        ?_ id _ (link.failControlResponse = false) ?_ ?_).trans ?_
      · intro attempt
        rw [action]
        cases link.failControlResponse <;> rfl
      · intro accepting
        rw [action, accepting]
        simp [ControlAction.events]
      · intro failing
        rw [action, eq_true_of_ne_false failing]
        exact List.not_mem_nil
      · rw [CarriedOut, kind, if_pos rfl, asked]
        refine and_congr_right fun _ => and_congr_right fun accepting => ?_
        simp [accepting]

/-- An output word publishes one event for each of its points. -/
theorem filter_channelEvents (output : BitVec 16) :
    (ControlAction.performedWord ((List.range 16).map
      (link.tables.channelEvent key.moduleAddress output))).events.filter
        (fun event => event.index == key.index) =
      [.controlRelayOutputBlock key.index
        { functionCode := if output.getLsbD (15 - key.channel) then .LATCH_ON else .LATCH_OFF }] := by
  obtain ⟨moduleFits, inModule⟩ := link.tables.binaryControls.inRange key member
  have events : (ControlAction.performedWord ((List.range 16).map
      (link.tables.channelEvent key.moduleAddress output))).events =
        (List.range 16).filterMap (link.tables.channelEvent key.moduleAddress output) :=
    List.filterMap_map
  rw [events, List.filter_filterMap]
  refine filterMap_eq_singleton List.nodup_range (List.mem_range.mpr inModule) ?_ ?_
  · rw [ControlTables.channelEvent, find_control link.tables member, Option.map_some]
    simp [ControlEvent.index]
  · intro other inRange apart
    rw [ControlTables.channelEvent, ControlTables.getBinaryControlODCIndexUsingMD3Index]
    cases found : link.tables.binaryControls.findMD3 key.moduleAddress other with
    | none => rfl
    | some point =>
        obtain ⟨isPoint, -, rfl⟩ :=
          (BinaryLayout.findMD3_eq_some moduleFits (List.mem_range.mp inRange)).mp found
        have otherIndex : point.index ≠ key.index := fun same =>
          apart (congrArg MD3PointKey.channel
            (List.inj_on_of_nodup_map link.tables.binaryControls.named isPoint member same))
        simp [ControlEvent.index, otherIndex]

/-- **An output word.** -/
theorem dom_endToEnd_iff (kind : key.pointType = .DOMOUTPUT) :
    (link.control id key.index block).EndToEnd (expectedControl key block.functionCode) ↔
      link.CarriedOut key block.functionCode := by
  obtain ⟨moduleFits, inModule⟩ := link.tables.binaryControls.inRange key member
  let word := link.inputs.outputWord key block.functionCode
  let message := sendDOMOutputCommand link.station.address key.moduleAddress word
  let channels := (List.range 16).map (link.tables.channelEvent key.moduleAddress word)
  let Accepting : Prop := OutputFits word ∧
    link.tables.getBinaryControlODCIndexUsingMD3Index key.moduleAddress 0 ≠ none ∧
      link.failControlResponse = false
  have written : link.tables.writeObject link.station link.inputs block key.index =
      { command := some message } := by
    rw [ControlTables.writeObject, BinaryLayout.findODC_eq_some.mpr ⟨member, rfl⟩]
    simp only [kind, message, word]
  have action : link.action message =
      if Accepting then .performedWord channels else .rejected :=
    performed_dom link.tables link.station link.failControlResponse moduleFits word
  have bit : word.getLsbD (15 - key.channel) = domState block.functionCode := by
    simp only [word, BinaryTable.outputWord]
    rw [getLsbD_withOutput _ inModule inModule, if_pos rfl]
  have events := filter_channelEvents member word
  rw [bit] at events
  have expected : expectedControl key block.functionCode = .controlRelayOutputBlock key.index
      { functionCode := if commandedState block.functionCode then .LATCH_ON else .LATCH_OFF } := by
    rw [expectedControl, kind]
  rw [control, outcome_queued id written, expected]
  refine (@queueMD3Command_endToEnd_iff link message DOM_TYPE_CONTROL
    (fun attempt => decide Accepting &&
      ((publishedStatuses (link.subscriber attempt) channels).take 16).all (· == .SUCCESS))
    (getFunctionCode_formattedBytes ..) (.inr (.inl rfl))
    ((getStationAddress_formattedBytes ..).trans (Nat.mod_eq_of_lt link.station.fits)) ?_ id _
    (Accepting ∧ block.functionCode ≠ .PULSE_OFF) ?_ ?_).trans ?_
  · intro attempt
    rw [action]
    by_cases accepting : Accepting
    · simp only [accepting, decide_true, Bool.true_and, channels]
      exact verdicts_performedWord _ _
    · simp only [accepting, decide_false, Bool.false_and]
      rfl
  · rintro ⟨accepting, notPulse⟩
    have state : domState block.functionCode = commandedState block.functionCode := by
      cases code : block.functionCode <;> first | rfl | exact absurd code notPulse
    rw [action, if_pos accepting, ← state]
    exact events
  · intro refused listed
    rw [action] at listed
    by_cases accepting : Accepting
    · rw [if_pos accepting] at listed
      have pulse : block.functionCode = .PULSE_OFF :=
        not_not.mp fun notPulse => refused ⟨accepting, notPulse⟩
      have here := (@List.mem_filter _ (fun event : ControlEvent => event.index == key.index)
        _ _).mpr ⟨listed, beq_self_eq_true key.index⟩
      rw [events, List.mem_singleton, pulse] at here
      exact absurd here (by simp [commandedState, domState])
    · rw [if_neg accepting] at listed
      exact List.not_mem_nil listed
  · have inTime : ((publishedStatuses (link.subscriber 0) channels).take 16).all (· == .SUCCESS) =
        true ↔ link.AnsweredInTime key word := by
      simp only [List.all_eq_true, beq_iff_eq, AnsweredInTime, channels]
    rw [CarriedOut, kind, if_neg (by decide), Bool.and_eq_true, inTime, decide_eq_true_eq]
    simp only [Accepting, word]
    tauto

end Points

/-- A control command posts its callback once. -/
theorem length_posted {message : MD3Message} {functionCode : Nat}
    (code : (message.headD {}).getFunctionCode = functionCode)
    (isControl : functionCode = POM_TYPE_CONTROL ∨ functionCode = DOM_TYPE_CONTROL ∨
      functionCode = INPUT_POINT_CONTROL) (id : Nat) :
    (link.queueMD3Command id message).posted.length = 1 := by
  have judges := @masterPort_judges link.conf functionCode
    (by rcases isControl with rfl | rfl | rfl <;> decide)
    (by rcases isControl with rfl | rfl | rfl <;> decide)
  unfold queueMD3Command
  split
  · obtain ⟨status, posted, -⟩ := @MasterPort.turn_posted _ _ link.conf.masterPort _
      (link.conf.masterPort_canSend link.enabled) _ id _
      { message := message, callback := some id }
      (fun attempt => { message := (link.answersTo message attempt).headD [] }) judges link.atTurn
      code rfl
    exact congrArg List.length posted
  · rfl

/-- **A value for an analog point**: its callback is called twice. -/
theorem not_analog_endToEnd {key : MD3PointKey} (member : key ∈ link.tables.analogControls.keys)
    (id : Nat) (value : Int) (expected : ControlEvent) :
    ¬(link.analogControl id key.index value).EndToEnd expected := by
  let message := sendDIMOutputCommand link.station.address key.moduleAddress key.channel .ON 0
  have written : link.tables.writeAnalogObject link.station value key.index =
      { command := some message, posted := true } := by
    rw [ControlTables.writeAnalogObject, BinaryLayout.findODC_eq_some.mpr ⟨member, rfl⟩]
  have code : (message.headD {}).getFunctionCode = INPUT_POINT_CONTROL := by
    simp only [message, sendDIMOutputCommand]
    split
    · exact getFunctionCode_formattedBytes ..
    · exact getFunctionCode_formattedBytes ..
  have once := link.length_posted code (.inr (.inr rfl)) id
  rintro ⟨-, status, posted, -⟩
  rw [analogControl, written, outcome] at posted
  have length := congrArg List.length posted
  simp only [if_true, List.length_append, once, List.length_singleton] at length
  omega

end ControlLink

/-- **Exactly these controls are published once and answered once**: those that are carried out,
and no value for an analog point. -/
theorem control_endToEnd_iff (link : ControlLink) (id : Nat) :
    (∀ key ∈ link.tables.binaryControls.keys, ∀ block : ControlRelayOutputBlock,
      key.pointType = .POMOUTPUT ∨ key.pointType = .DOMOUTPUT ∨ key.pointType = .DIMOUTPUT →
        ((link.control id key.index block).EndToEnd (expectedControl key block.functionCode) ↔
          link.CarriedOut key block.functionCode)) ∧
    ∀ key ∈ link.tables.analogControls.keys, ∀ value : Int, 0 ≤ value ∧ value ≤ 4095 →
      ¬(link.analogControl id key.index value).EndToEnd (.analogOutputInt16 key.index value) := by
  constructor
  · rintro key member block (kind | kind | kind)
    · exact ControlLink.pom_endToEnd_iff member id block kind
    · exact ControlLink.dom_endToEnd_iff member id block kind
    · exact ControlLink.dim_endToEnd_iff member id block kind
  · intro key member value _
    exact ControlLink.not_analog_endToEnd member id value _

/-- A pulse, an output word of two points, an input point, and an analog point. -/
def controlTables : ControlTables where
  binaryControls := processBinaryPoints
    [{ start := 0, stop := 0, module := 1, pointType := .POMOUTPUT },
      { start := 1, stop := 2, module := 2, pointType := .DOMOUTPUT },
      { start := 3, stop := 3, module := 3, pointType := .DIMOUTPUT }] {}
  analogControls := processBinaryPoints [{ start := 0, stop := 0, module := 4 }] {}

/-- A master with an empty queue, and a subscriber that answers every control with a status. -/
def idleLink (status : Connectors.CommandStatus) : ControlLink where
  tables := controlTables
  station := stationFive
  subscriber := fun _ _ => { status }
  given := { currentCommand := { message := [] } }
  atTurn := { currentCommand := { message := [] } }

/-- A pulse and an output word that succeed, and a value for an analog point. -/
theorem control_endToEnd_success :
    ((idleLink .SUCCESS).control 7 0 {}).EndToEnd
        (.controlRelayOutputBlock 0 { functionCode := .PULSE_ON }) ∧
      ((idleLink .SUCCESS).control 7 2 {}).EndToEnd
        (.controlRelayOutputBlock 2 { functionCode := .LATCH_ON }) ∧
      ¬((idleLink .SUCCESS).analogControl 7 0 100).EndToEnd (.analogOutputInt16 0 100) := by
  obtain ⟨binary, analog⟩ := control_endToEnd_iff (idleLink .SUCCESS) 7
  refine ⟨?_, ?_, ?_⟩
  · refine (binary { index := 0, moduleAddress := 1, channel := 0, pointType := .POMOUTPUT }
      (by decide +kernel) {} (.inl rfl)).mpr ⟨by decide, rfl, .inr rfl⟩
  · refine (binary { index := 2, moduleAddress := 2, channel := 1, pointType := .DOMOUTPUT }
      (by decide +kernel) {} (.inr (.inl rfl))).mpr
        ⟨by decide, rfl, by decide, by decide +kernel, by decide +kernel, .inr ?_⟩
    unfold ControlLink.AnsweredInTime
    decide +kernel
  · exact analog { index := 0, moduleAddress := 4, channel := 0 } (by decide +kernel) 100
      (by decide)

/-- A pulse that the subscriber refuses, and an input point control that it carries out, are
published four times; a value for an analog point is not published. -/
theorem control_not_endToEnd :
    ¬((idleLink .HARDWARE_ERROR).control 7 0 {}).EndToEnd
        (.controlRelayOutputBlock 0 { functionCode := .PULSE_ON }) ∧
      ¬((idleLink .SUCCESS).control 7 3 {}).EndToEnd
        (.controlRelayOutputBlock 3 { functionCode := .LATCH_ON }) ∧
      ¬((idleLink .SUCCESS).analogControl 7 0 100).EndToEnd (.analogOutputInt16 0 100) :=
  ⟨fun endToEnd => absurd endToEnd.1 (by decide +kernel),
    fun endToEnd => absurd endToEnd.1 (by decide +kernel),
    fun endToEnd => absurd endToEnd.1 (by decide +kernel)⟩

end OpenDataCon.MD3Port
