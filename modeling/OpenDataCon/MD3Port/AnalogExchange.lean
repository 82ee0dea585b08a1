import OpenDataCon.Foundations.Differences
import OpenDataCon.MD3Port.AnalogAnswers

/-!
# The exchange of analog scans

A master polls an outstation over two channels that keep the order of the messages and may
lose any of them. The polls go through the command queue of the master, with its
timeouts and retries; the outstation has value events between the requests; the master may be
restarted, with the table as it was loaded and without the messages on their way.

An answer moves what was last read at the outstation whether it arrives or not. `outOfStep`
records the slots in which the master cannot hold that value any more: those that a lost or
refused answer has moved, the analogs after communications were lost, and after a restart all
slots that were read before. An answer that carries values brings its slots back into step.

Where the answers that are accepted are for uniform ranges (`AcceptsUniform`), the master holds in
every slot in step what the outstation has last read, up to the answers on their way
(`ExchangeInStep`, `run_inStep`).
-/

set_option autoImplicit false

namespace OpenDataCon.MD3Port

open MD3BlockData MasterQueue Runs Differences

/-! ## Polls and answers -/

inductive PollGroupType where
  | analogPoints | counterPoints
deriving DecidableEq, Repr

/-- A poll group scans one module, up to 16 channels. -/
structure AnalogPollGroup where
  polltype : PollGroupType
  moduleAddress : Nat
  channels : Nat
  forceUnconditional : Bool := false
  moduleAddress_lt : moduleAddress < 256
  channels_bounds : 1 ≤ channels ∧ channels ≤ 16
deriving DecidableEq

/-- A poll that was queued, with its number and the function it uses. -/
structure Poll where
  id : Nat
  group : AnalogPollGroup
  unconditional : Bool
deriving DecidableEq

/-- An answer, with the request it is for and the points of the outstation when it was
built. -/
structure Answer where
  request : Poll
  before : AnalogTable
  message : MD3Message

structure AnalogConf where
  master : MD3MasterConf
  updateAnalogCounterTimeStamps : Bool := false
  points : List AnalogTable.PointEntry

/-- The command of a poll is a formatted block. -/
def Poll.header (conf : AnalogConf) (poll : Poll) : MD3BlockData :=
  formatted conf.master.outstationAddr true
    (if poll.unconditional then ANALOG_UNCONDITIONAL else ANALOG_DELTA_SCAN)
    poll.group.moduleAddress poll.group.channels

def Poll.message (conf : AnalogConf) (poll : Poll) : MD3Message := [poll.header conf]

/-- The channels of the group include the slot. -/
def Poll.Covers (poll : Poll) (slot : Slot) : Prop :=
  slot.md3index ∈ rangeIndexes poll.group.moduleAddress poll.group.channels

instance (poll : Poll) (slot : Slot) : Decidable (poll.Covers slot) :=
  inferInstanceAs (Decidable (_ ∈ _))

/-- Some analog of the range has not been set. -/
def unconditionalCommandRequired (table : AnalogTable) (moduleAddress channels : Nat) : Bool :=
  (List.range channels).any fun idx =>
    (table.getAnalogValueUsingMD3Index moduleAddress idx).any fun res => !res.2

/-- Whether the poll is unconditional. For counters too the analogs are looked at. -/
def AnalogPollGroup.doPoll (group : AnalogPollGroup) (table : AnalogTable) : Bool :=
  match group.polltype with
  | .analogPoints =>
    unconditionalCommandRequired table group.moduleAddress group.channels ||
      group.forceUnconditional
  | .counterPoints =>
    unconditionalCommandRequired table group.moduleAddress group.channels ||
      group.forceUnconditional

/-- The command queue of the master, with polls for commands. -/
def AnalogConf.port (conf : AnalogConf) : MasterPort Poll Answer where
  commandRetries := conf.master.md3CommandRetries
  commandTimeoutmsec := conf.master.md3CommandTimeoutmsec
  requireEnabled := false
  getFunctionCode poll := MD3MasterConf.commandFunctionCode (poll.message conf)
  accepts data answer :=
    (conf.master.acceptsResponse
      { currentCommand := { message := data.currentCommand.message.message conf }
        currentFunctionCode := data.currentFunctionCode }
      { message := answer.message }).map fun _ => []

/-! ## The exchange -/

/-- Both ports, the messages on their way, and a record of what happened: the answers that
were built, and the slots that are out of step. -/
structure AnalogExchange where
  master : MasterSystem Poll
  masterPoints : AnalogTable
  outstationPoints : AnalogTable
  polls : Nat := 0
  requests : List Poll := []
  answers : List Answer := []
  /-- How many handlers are to set the points to lost communications. -/
  commsLost : Nat := 0
  built : List Answer := []
  outOfStep : Slot → Bool := fun _ => false

/-- What can happen. -/
inductive AnalogInput where
  | event (kind : AnalogCounterModuleType) (index : Nat) (meas : BitVec 16)
  | poll (group : AnalogPollGroup)
  | serve (flags : SystemFlags)
  | loseRequest
  | deliver
  | loseAnswer
  | expire
  | runHandler (position : Nat)
  | setCommsLost
  | restart
deriving DecidableEq

/-- An answer was accepted: the poll it completes, and the points of the master after it. -/
structure Accepted where
  poll : Poll
  answer : Answer
  points : AnalogTable
  built : List Answer

namespace AnalogExchange

variable (conf : AnalogConf)

theorem one_channel : 1 ≤ 1 ∧ 1 ≤ 16 := by decide

/-- A poll with number zero stands for the command before the first. -/
def noPoll : Poll :=
  { id := 0
    group :=
      { polltype := .analogPoints, moduleAddress := 0, channels := 1
        moduleAddress_lt := by decide, channels_bounds := one_channel }
    unconditional := false }

def start : AnalogExchange where
  master := MasterSystem.start true noPoll
  masterPoints := AnalogTable.load conf.points
  outstationPoints := AnalogTable.load conf.points

/-- The polls that are sent by the effects of a step. -/
def sentPolls (effects : List (Effect Poll)) : List Poll :=
  effects.filterMap fun
    | .send poll => some poll
    | _ => none

/-- A step of the command queue. -/
def queueStep (exchange : AnalogExchange) (action : Action Poll Answer) : AnalogExchange :=
  let result := exchange.master.step conf.port action
  { exchange with
    master := result.1
    requests := exchange.requests ++ sentPolls result.2
    commsLost := exchange.commsLost + result.2.count .commsLost }

end AnalogExchange

namespace Answer

variable (conf : AnalogConf) (answer : Answer)

/-- The slots that were read for an answer. -/
def slots : List Slot := answer.before.scanSlots (answer.request.header conf)

/-- The answer was built from values that differ from those last read. -/
def moves (slot : Slot) : Bool :=
  decide (slot ∈ answer.slots conf) && answer.before.value slot != answer.before.lastRead slot

end Answer

namespace AnalogExchange

variable (conf : AnalogConf)

/-- An answer is lost or refused. -/
def lose (exchange : AnalogExchange) (answer : Answer) : AnalogExchange :=
  { exchange with outOfStep := fun slot => exchange.outOfStep slot || answer.moves conf slot }

/-- The outstation takes a request. -/
def serve (exchange : AnalogExchange) (request : Poll) (flags : SystemFlags) : AnalogExchange :=
  match processAnalogRequest exchange.outstationPoints flags (request.message conf) with
  | (after, none) => { exchange with outstationPoints := after }
  | (after, some reply) =>
    let answer : Answer := { request, before := exchange.outstationPoints, message := reply }
    { exchange with
      outstationPoints := after
      answers := exchange.answers ++ [answer]
      built := exchange.built ++ [answer] }

/-- The master takes an answer. -/
def receive (exchange : AnalogExchange) (answer : Answer) : AnalogExchange × List Accepted :=
  if (conf.port.accepts exchange.master.data answer).isSome then
    let points := exchange.masterPoints.processAnalogAnswer conf.updateAnalogCounterTimeStamps
      exchange.master.data.currentFunctionCode answer.message
    ({ exchange.queueStep conf (.response answer) with
        masterPoints := points
        outOfStep := fun slot =>
          exchange.outOfStep slot &&
            !(carriesValues answer.message && decide (slot ∈ answer.slots conf)) },
      [{ poll := exchange.master.data.currentCommand.message, answer, points
         built := exchange.built }])
  else ((exchange.lose conf answer).queueStep conf (.response answer), [])

def step (exchange : AnalogExchange) : AnalogInput → AnalogExchange × List Accepted
  | .event .counterModule index meas =>
    ({ exchange with
      outstationPoints := exchange.outstationPoints.setCounterValueUsingODCIndex index meas }, [])
  | .event .analogModule index meas =>
    ({ exchange with
      outstationPoints := exchange.outstationPoints.setAnalogValueUsingODCIndex index meas }, [])
  | .poll group =>
    let poll : Poll :=
      { id := exchange.polls + 1, group, unconditional := group.doPoll exchange.masterPoints }
    ({ exchange with polls := exchange.polls + 1 }.queueStep conf (.queue poll false), [])
  | .serve flags =>
    match exchange.requests with
    | [] => (exchange, [])
    | request :: rest => ({ exchange with requests := rest }.serve conf request flags, [])
  | .loseRequest => ({ exchange with requests := exchange.requests.drop 1 }, [])
  | .deliver =>
    match exchange.answers with
    | [] => (exchange, [])
    | answer :: rest => { exchange with answers := rest }.receive conf answer
  | .loseAnswer =>
    match exchange.answers with
    | [] => (exchange, [])
    | answer :: rest => ({ exchange with answers := rest }.lose conf answer, [])
  | .expire => (exchange.queueStep conf .expire, [])
  | .runHandler position => (exchange.queueStep conf (.runHandler position), [])
  | .setCommsLost =>
    if exchange.commsLost = 0 then (exchange, [])
    else
      ({ exchange with
        masterPoints := exchange.masterPoints.setAllPointsQualityToCommsLost
        commsLost := exchange.commsLost - 1
        outOfStep := fun slot => exchange.outOfStep slot || slot.kind == .analogModule }, [])
  | .restart =>
    ({ exchange with
      master := MasterSystem.start true noPoll
      masterPoints := AnalogTable.load conf.points
      requests := []
      answers := []
      commsLost := 0
      outOfStep := fun slot => exchange.outstationPoints.lastRead slot != 0x8000#16 }, [])

/-- An answer that is accepted is for a uniform range. -/
def AcceptsUniform (exchange : AnalogExchange) : AnalogInput → Prop
  | .deliver => ∀ answer ∈ exchange.answers.head?,
    (conf.port.accepts exchange.master.data answer).isSome = true →
      exchange.masterPoints.Uniform answer.request.group.moduleAddress answer.request.group.channels
  | _ => True

end AnalogExchange

/-! ## What holds in every exchange -/

section Headers

variable (conf : AnalogConf)

@[simp] theorem Poll.getModuleAddress_header (poll : Poll) :
    (poll.header conf).getModuleAddress = poll.group.moduleAddress := by
  rw [Poll.header, getModuleAddress_formatted, Nat.mod_eq_of_lt poll.group.moduleAddress_lt]

@[simp] theorem Poll.getChannels_header (poll : Poll) :
    (poll.header conf).getChannels = poll.group.channels :=
  getChannels_formatted _ _ _ _ _ poll.group.channels_bounds

/-- The update that an answer is. -/
def Answer.update (answer : Answer) : Update Slot (BitVec 16) where
  covers slot := decide (slot ∈ answer.slots conf)
  base := answer.before.lastRead
  value := answer.before.value

theorem Answer.moves_iff (answer : Answer) (slot : Slot) :
    answer.moves conf slot = true ↔ (answer.update conf).Moves slot := by
  simp [Answer.moves, Update.Moves, Answer.update]

/-- The answer was built by the outstation, from points in the slots of its table. -/
def Answer.Genuine (points : AnalogTable) (answer : Answer) : Prop :=
  answer.before.SamePoints points ∧
    ∃ flags, AnswersScan answer.before flags (answer.request.header conf) answer.message

theorem Answer.Genuine.congr {points other : AnalogTable} {answer : Answer}
    (genuine : answer.Genuine conf points) (same : points.SamePoints other) :
    answer.Genuine conf other :=
  ⟨genuine.1.trans same, genuine.2⟩

end Headers

namespace AnalogExchange

variable (conf : AnalogConf)

/-- Both tables have points in the slots that were loaded, the answers on their way were
built by the outstation, and up to them the master holds in every slot in step what the
outstation has last read. -/
structure ExchangeInStep (exchange : AnalogExchange) : Prop where
  loaded : (AnalogTable.load conf.points).SamePoints exchange.outstationPoints
  same : exchange.masterPoints.SamePoints exchange.outstationPoints
  genuine : ∀ answer ∈ exchange.answers, answer.Genuine conf exchange.outstationPoints
  known : ∀ answer ∈ exchange.answers, answer ∈ exchange.built
  inStep : InStep (fun slot => exchange.outOfStep slot = true) exchange.masterPoints.value
    (exchange.answers.map (Answer.update conf)) exchange.outstationPoints.lastRead

section Steps

variable {conf} {exchange : AnalogExchange}

theorem start_inStep : (start conf).ExchangeInStep conf where
  loaded := .refl _
  same := .refl _
  genuine := fun answer member => absurd member List.not_mem_nil
  known := fun answer member => absurd member List.not_mem_nil
  inStep := by
    refine ⟨(AnalogTable.load conf.points).lastRead, rfl, fun slot fresh => ?_⟩
    change (AnalogTable.load conf.points).value slot = (AnalogTable.load conf.points).lastRead slot
    rw [AnalogTable.value_load, AnalogTable.lastRead_load]

/-- A step of the command queue leaves the points and the answers as they are. -/
theorem ExchangeInStep.queueStep (inStep : exchange.ExchangeInStep conf)
    (action : Action Poll Answer) : (exchange.queueStep conf action).ExchangeInStep conf :=
  { inStep with }

/-- What is last read at the outstation does not change, nor do the slots of its points. -/
theorem ExchangeInStep.event (inStep : exchange.ExchangeInStep conf) {points : AnalogTable}
    (same : points.SamePoints exchange.outstationPoints)
    (lastRead : points.lastRead = exchange.outstationPoints.lastRead) :
    ExchangeInStep conf { exchange with outstationPoints := points } where
  loaded := inStep.loaded.trans same.symm
  same := inStep.same.trans same.symm
  genuine := fun answer member => Answer.Genuine.congr conf (inStep.genuine answer member) same.symm
  known := inStep.known
  inStep := by
    change InStep _ _ _ points.lastRead
    rw [lastRead]
    exact inStep.inStep

theorem modifyUsingODCIndex_event (inStep : exchange.ExchangeInStep conf)
    (kind : AnalogCounterModuleType) (index : Nat) (meas : BitVec 16) :
    ExchangeInStep conf { exchange with
      outstationPoints :=
        exchange.outstationPoints.modifyUsingODCIndex kind index fun pt => pt.setAnalog meas } := by
  refine inStep.event (fun slot => AnalogTable.isSome_modifyUsingODCIndex _ _ _ _ _) ?_
  funext slot
  exact AnalogTable.lastRead_modifyUsingODCIndex _ (fun pt => pt.setAnalog meas)
    (fun pt => rfl) kind index slot

/-- The outstation builds an answer, or ignores the request. -/
theorem ExchangeInStep.serve (inStep : exchange.ExchangeInStep conf) (request : Poll)
    (flags : SystemFlags) : (exchange.serve conf request flags).ExchangeInStep conf := by
  unfold AnalogExchange.serve
  split
  · next after ignored =>
    rw [processAnalogRequest_ignored _ _ ignored]
    exact inStep
  · next after reply processed =>
    obtain ⟨read, answers⟩ := processAnalogRequest_answers _ _ processed
    have slots : after = exchange.outstationPoints.readSlots
        (exchange.outstationPoints.scanSlots (request.header conf)) := read
    have same : exchange.outstationPoints.SamePoints after := by
      rw [slots]
      exact (AnalogTable.samePoints_readSlots _ _).symm
    let answer : Answer := { request, before := exchange.outstationPoints, message := reply }
    refine ⟨inStep.loaded.trans same, inStep.same.trans same, ?_, ?_, ?_⟩
    · intro other member
      rcases List.mem_append.mp member with old | new
      · exact Answer.Genuine.congr conf (inStep.genuine other old) same
      · obtain rfl := List.mem_singleton.mp new
        exact ⟨same, flags, answers⟩
    · intro other member
      rcases List.mem_append.mp member with old | new
      · exact List.mem_append_left _ (inStep.known other old)
      · exact List.mem_append_right _ new
    · have sent := inStep.inStep.send (answer.update conf) rfl
      have base : (answer.update conf).after = after.lastRead := by
        funext slot
        rw [slots, AnalogTable.lastRead_readSlots _ (AnalogTable.nodup_scanSlots _ _)]
        by_cases inside : slot ∈ exchange.outstationPoints.scanSlots (request.header conf)
        · simp [Update.after, Answer.update, Answer.slots, answer, inside]
        · simp [Update.after, Answer.update, Answer.slots, answer, inside]
      rw [base] at sent
      change InStep _ _ ((exchange.answers ++ [answer]).map (Answer.update conf)) after.lastRead
      rw [List.map_append]
      exact sent

/-- An answer is lost or refused. -/
theorem ExchangeInStep.lose (inStep : exchange.ExchangeInStep conf) {answer : Answer}
    {rest : List Answer} (waiting : exchange.answers = answer :: rest) :
    ({ exchange with answers := rest }.lose conf answer).ExchangeInStep conf := by
  have members : ∀ other ∈ rest, other ∈ exchange.answers := fun other member =>
    waiting ▸ List.mem_cons_of_mem _ member
  refine ⟨inStep.loaded, inStep.same, fun other member => inStep.genuine other (members other member),
    fun other member => inStep.known other (members other member), ?_⟩
  have coming := inStep.inStep
  rw [waiting, List.map_cons] at coming
  refine coming.lose fun slot lost => ?_
  rcases lost with old | moved
  · simp [AnalogExchange.lose, old]
  · have moves : answer.moves conf slot = true := (answer.moves_iff conf slot).mpr moved
    simp [AnalogExchange.lose, moves]

/-- An answer that is accepted is a success. -/
theorem success_of_accepts {data : MasterCommandData Poll} {answer : Answer}
    (accepted : (conf.port.accepts data answer).isSome = true) :
    MD3MasterConf.responseSuccess data.currentFunctionCode (answer.message.headD {})
      { message := answer.message } = true := by
  rw [AnalogConf.port, Option.isSome_map, MD3MasterConf.acceptsResponse] at accepted
  cases shape : answer.message with
  | nil => simp [shape] at accepted
  | cons header rest =>
      by_contra failed
      have refused : MD3MasterConf.responseSuccess data.currentFunctionCode header
          { message := header :: rest } = false := by simpa using failed
      simp [shape, refused] at accepted

/-- What an accepted answer does to the points of the master. -/
theorem applied_of_accepts (inStep : exchange.ExchangeInStep conf) {answer : Answer}
    (waiting : answer ∈ exchange.answers)
    (accepted : (conf.port.accepts exchange.master.data answer).isSome = true)
    (uniform : exchange.masterPoints.Uniform answer.request.group.moduleAddress
      answer.request.group.channels) :
    AnswersScan.Applied answer.before exchange.masterPoints (answer.request.header conf)
      answer.message
      (exchange.masterPoints.processAnalogAnswer conf.updateAnalogCounterTimeStamps
        exchange.master.data.currentFunctionCode answer.message) := by
  obtain ⟨same, flags, answers⟩ := inStep.genuine answer waiting
  refine answers.applied_of_success (inStep.same.trans same.symm) ?_ _ rfl
    (success_of_accepts accepted)
  rw [Poll.getModuleAddress_header, Poll.getChannels_header]
  exact uniform

/-- The master takes an answer. -/
theorem ExchangeInStep.receive (inStep : exchange.ExchangeInStep conf) {answer : Answer}
    {rest : List Answer} (waiting : exchange.answers = answer :: rest)
    (guard : exchange.AcceptsUniform conf .deliver) :
    ({ exchange with answers := rest }.receive conf answer).1.ExchangeInStep conf := by
  have lost := inStep.lose waiting
  unfold AnalogExchange.receive
  split
  · next accepted =>
    have members : ∀ other ∈ rest, other ∈ exchange.answers := fun other member =>
      waiting ▸ List.mem_cons_of_mem _ member
    have first : answer ∈ exchange.answers := waiting ▸ List.mem_cons_self
    obtain ⟨same, others, covered⟩ := applied_of_accepts inStep first accepted
      (guard answer (by simp [waiting]) accepted)
    have coming := inStep.inStep
    rw [waiting, List.map_cons] at coming
    refine ⟨inStep.loaded, same.trans inStep.same,
      fun other member => inStep.genuine other (members other member),
      fun other member => inStep.known other (members other member), coming.receive ?_ ?_⟩
    · intro slot inside fresh
      have member : slot ∈ answer.slots conf := of_decide_eq_true inside
      refine covered slot member ?_
      cases carries : carriesValues answer.message with
      | true => exact .inl rfl
      | false =>
          refine .inr (coming.refers fun old => fresh ?_)
          simp [old, carries]
    · intro slot outside fresh
      have absent : slot ∉ answer.slots conf := of_decide_eq_false outside
      refine ⟨fun old => fresh ?_, others slot absent⟩
      simp [old, absent]
  · exact lost.queueStep _

/-- Communications are lost. -/
theorem ExchangeInStep.setCommsLost (inStep : exchange.ExchangeInStep conf) (left : Nat) :
    ExchangeInStep conf { exchange with
      masterPoints := exchange.masterPoints.setAllPointsQualityToCommsLost
      commsLost := left
      outOfStep := fun slot => exchange.outOfStep slot || slot.kind == .analogModule } where
  loaded := inStep.loaded
  same slot := (AnalogTable.isSome_setAllPointsQualityToCommsLost _ slot).trans (inStep.same slot)
  genuine := inStep.genuine
  known := inStep.known
  inStep := by
    refine inStep.inStep.disturb fun slot fresh => ?_
    simp only [Bool.or_eq_true, not_or, beq_iff_eq] at fresh
    refine ⟨fresh.1, AnalogTable.value_setAllPointsQualityToCommsLost _ _ ?_⟩
    cases kind : slot.kind with
    | counterModule => rfl
    | analogModule => exact absurd kind fresh.2

/-- The master is restarted. -/
theorem ExchangeInStep.restart (inStep : exchange.ExchangeInStep conf) :
    (exchange.step conf .restart).1.ExchangeInStep conf where
  loaded := inStep.loaded
  same := inStep.loaded
  genuine := fun answer member => absurd member List.not_mem_nil
  known := fun answer member => absurd member List.not_mem_nil
  inStep := by
    refine ⟨exchange.outstationPoints.lastRead, rfl, fun slot fresh => ?_⟩
    have unread : exchange.outstationPoints.lastRead slot = 0x8000#16 := by
      by_contra read
      exact fresh (by simpa [AnalogExchange.step] using read)
    exact (AnalogTable.value_load _ _).trans unread.symm

/-- **A step whose accepted answers are for uniform ranges keeps the exchange in step.** -/
theorem ExchangeInStep.step (inStep : exchange.ExchangeInStep conf) {input : AnalogInput}
    (guard : exchange.AcceptsUniform conf input) :
    (exchange.step conf input).1.ExchangeInStep conf := by
  cases input with
  | event kind index meas =>
      cases kind with
      | counterModule => exact modifyUsingODCIndex_event inStep .counterModule index meas
      | analogModule => exact modifyUsingODCIndex_event inStep .analogModule index meas
  | poll group =>
      have counted : ExchangeInStep conf { exchange with polls := exchange.polls + 1 } :=
        { inStep with }
      exact counted.queueStep _
  | serve flags =>
      unfold AnalogExchange.step
      cases exchange.requests with
      | nil => exact inStep
      | cons request rest =>
          have taken : ExchangeInStep conf { exchange with requests := rest } := { inStep with }
          exact taken.serve request flags
  | loseRequest => exact { inStep with }
  | deliver =>
      unfold AnalogExchange.step
      cases waiting : exchange.answers with
      | nil => exact inStep
      | cons answer rest => exact inStep.receive waiting guard
  | loseAnswer =>
      unfold AnalogExchange.step
      cases waiting : exchange.answers with
      | nil => exact inStep
      | cons answer rest => exact inStep.lose waiting
  | expire => exact inStep.queueStep _
  | runHandler position => exact inStep.queueStep _
  | setCommsLost =>
      unfold AnalogExchange.step
      dsimp only
      split
      · exact inStep
      · exact inStep.setCommsLost _
  | restart => exact inStep.restart

end Steps

end AnalogExchange

end OpenDataCon.MD3Port
