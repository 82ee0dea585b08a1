import Mathlib.Data.List.InsertIdx
import OpenDataCon.CBPort.MasterCommands
import OpenDataCon.CBPort.OutstationRequests
import OpenDataCon.CBPort.SOERoundTrip
import OpenDataCon.Foundations.Handover
import OpenDataCon.MasterQueue.Commands

/-!
# Polling the events

A master polls the event queue of an outstation. The outstation pops the events
that it puts into its answer, and the channel may drop any answer. After a
timeout the master sends its poll again, as it was: it asks for new events once
more, not for the answer that was lost.

The run of the two ports and the channel keeps a ledger of every poll: the
events that were popped while it was served, and those that were handed to the
callback of the master (`SOEExchange.ledger`). Its steps are those of a ledger
of handovers (`step_ledger`). So in every run in which a poll is served again
only after the events popped for it have arrived, the events of an answered poll
have been handed over (`run_eventsHanded`). A retry that is served after its
answer was dropped loses the events of that answer (`run_lostAnswer`).
-/

set_option autoImplicit false

namespace OpenDataCon.CBPort

open Handover MasterQueue Runs

/-! ## The two ports and the channel -/

structure SOEExchangeConf where
  master : CBMasterConf
  outstation : CBOutstationConf := {}

/-- A master, an outstation, and what is on its way between them. A poll is known
by its status callback; the last three fields record what happened for it. -/
structure SOEExchange where
  master : MasterSystem CBMessage
  outstation : CBOutstation
  requests : List (Nat × CBMessage) := []
  responses : List (Nat × CBMessage) := []
  /-- The polls with an answer that reached the master. -/
  answered : List Nat := []
  popped : List (Nat × SOEReport) := []
  handed : List (Nat × SOEReport) := []

/-- A step of one of the ports, of the channel, or of the points of the outstation. -/
inductive ExchangeAction where
  | poll (group : Nat)
  | expire
  | runHandler (position : Nat)
  | event (pointEvent : CBOutstation.PointEvent) (now : Nat)
  | serve (position now : Nat)
  | dropResponse (position : Nat)
  | deliver (position : Nat)

/-- The messages among the effects of a master. -/
def commandsSent (effects : List (Effect CBMessage)) : List CBMessage :=
  effects.filterMap fun effect =>
    match effect with
    | .send message => some message
    | _ => none

/-- The reports of the events that left the queue of an outstation. -/
def poppedReports (before after : CBOutstation) : List SOEReport :=
  let queue := before.pointTable.soe.binaryTimeTaggedEventQueue
  let remaining := after.pointTable.soe.binaryTimeTaggedEventQueue
  expectedReports before.clock (queue.take (queue.length - remaining.length))
    (decide (remaining = []))

namespace SOEExchange

variable (conf : SOEExchangeConf)

/-- A step of the master; what it sends goes to the channel, for the current command. -/
def masterStep (exchange : SOEExchange) (action : Action CBMessage CBMessage) : SOEExchange :=
  let result := exchange.master.step conf.master.masterPort action
  { exchange with
    master := result.1
    requests :=
      exchange.requests ++ (commandsSent result.2).map fun message =>
        (result.1.data.currentCommand.callback.getD 0, message) }

/-- The events that the callback of the master gets with an answer: none unless it is accepted. -/
def reportsFor (exchange : SOEExchange) (message : CBMessage) : List SOEReport :=
  if (conf.master.acceptsResponse exchange.master.data message).isSome then
    processSOEScanRequestReturn message
  else []

/-- An answer reaches the master. -/
def receive (exchange : SOEExchange) (poll : Nat) (message : CBMessage) : SOEExchange :=
  masterStep conf
    { exchange with
      answered := exchange.answered ++ [poll]
      handed := exchange.handed ++ tagged poll (exchange.reportsFor conf message) }
    (.response message)

/-- The outstation takes a request and answers it. -/
def serve (exchange : SOEExchange) (poll : Nat) (message : CBMessage) (now : Nat) : SOEExchange :=
  let result := exchange.outstation.processCBMessage conf.outstation message now
  { exchange with
    outstation := result.1
    responses := exchange.responses ++ (sentMessages result.2).map fun answer => (poll, answer)
    popped := exchange.popped ++ tagged poll (poppedReports exchange.outstation result.1) }

/-- One step; it puts out the events that it hands to the callback. -/
def step (exchange : SOEExchange) : ExchangeAction → SOEExchange × List (Nat × SOEReport)
  | .poll group =>
    (exchange.masterStep conf (.queue (conf.master.sendFn10SOEScanCommand group) true), [])
  | .expire => (exchange.masterStep conf .expire, [])
  | .runHandler position => (exchange.masterStep conf (.runHandler position), [])
  | .event pointEvent now =>
    ({ exchange with outstation := exchange.outstation.event conf.outstation pointEvent now }, [])
  | .serve position now =>
    match exchange.requests[position]? with
    | none => (exchange, [])
    | some request =>
      ({ exchange with requests := exchange.requests.eraseIdx position }.serve conf request.1
        request.2 now, [])
  | .dropResponse position =>
    ({ exchange with responses := exchange.responses.eraseIdx position }, [])
  | .deliver position =>
    match exchange.responses[position]? with
    | none => (exchange, [])
    | some response =>
      ({ exchange with responses := exchange.responses.eraseIdx position }.receive conf
        response.1 response.2, tagged response.1 (exchange.reportsFor conf response.2))

/-- Both ports as they are built, with nothing on its way. -/
def start (outstation : CBOutstation) : SOEExchange :=
  { master := MasterSystem.start true [], outstation := outstation }

/-- The events popped for every answered poll have been handed to the callback. -/
def EventsHanded (exchange : SOEExchange) : Prop :=
  ∀ poll ∈ exchange.answered, itemsOf poll exchange.handed = itemsOf poll exchange.popped

/-- When a poll may be served. The events popped for it before have arrived.
Events are popped for it only while it has no answer, delivered or on its way,
and when the answer can be read: the address is one of a station, and the records
come back. -/
def Safe (exchange : SOEExchange) : ExchangeAction → Prop
  | .serve position _ =>
    ∀ request ∈ exchange.requests[position]?,
      let queue := exchange.outstation.pointTable.soe.binaryTimeTaggedEventQueue
      itemsOf request.1 exchange.handed = itemsOf request.1 exchange.popped ∧
        (queue = [] ∨
          (1 ≤ conf.master.outstationAddr ∧ conf.master.outstationAddr < 16) ∧
            (SOENumbered queue ∧ SOEFits exchange.outstation.clock queue) ∧
            request.1 ∉ exchange.answered ∧
            ∀ response ∈ exchange.responses, response.1 ≠ request.1)
  | .poll _ => True
  | .expire => True
  | .runHandler _ => True
  | .event _ _ => True
  | .dropResponse _ => True
  | .deliver _ => True

instance (exchange : SOEExchange) : Decidable (EventsHanded exchange) :=
  inferInstanceAs (Decidable (∀ poll ∈ exchange.answered, _))

instance (exchange : SOEExchange) : ∀ action, Decidable (Safe conf exchange action)
  | .serve position _ =>
    inferInstanceAs (Decidable (∀ request ∈ exchange.requests[position]?, _))
  | .poll _ => .isTrue trivial
  | .expire => .isTrue trivial
  | .runHandler _ => .isTrue trivial
  | .event _ _ => .isTrue trivial
  | .dropResponse _ => .isTrue trivial
  | .deliver _ => .isTrue trivial

/-! ## The master sends polls -/

/-- A poll of some group. -/
def IsPoll (master : CBMasterConf) (message : CBMessage) : Prop :=
  ∃ group, message = master.sendFn10SOEScanCommand group

theorem followUps_isPoll (master : CBMasterConf) :
    FollowUps master.masterPort (IsPoll master) := by
  intro data response commands accepted
  simp only [CBMasterConf.masterPort, CBMasterConf.acceptsResponse] at accepted
  split at accepted
  · cases accepted
  · split_ifs at accepted
    obtain rfl : [] = commands := Option.some.inj accepted
    nofun

/-- A master that has sent a poll expects the answer to one. -/
theorem begun_code {master : CBMasterConf} {data : MasterCommandData CBMessage}
    (begun : Begun master.masterPort (IsPoll master) data) :
    data.currentFunctionCode = FUNC_SEND_NEW_SOE := by
  obtain ⟨⟨group, poll⟩, code⟩ := begun
  rw [code, poll]
  simp [CBMasterConf.masterPort, CBMasterConf.commandFunctionCode,
    CBMasterConf.sendFn10SOEScanCommand, FUNC_SEND_NEW_SOE]

/-- An answer to a poll: without events, or from the station that was asked. -/
def IsAnswer (master : CBMasterConf) (message : CBMessage) : Prop :=
  processSOEScanRequestReturn message = [] ∨
    (1 ≤ master.outstationAddr ∧ master.outstationAddr < 16) ∧
      ∃ header rest, message = header :: rest ∧
        header.getStationAddress = master.outstationAddr % 16 ∧
        header.getFunctionCode = FUNC_SEND_NEW_SOE

/-- The events of an answer are handed over. -/
theorem reportsFor_isAnswer {exchange : SOEExchange} {message : CBMessage}
    (begun : Begun conf.master.masterPort (IsPoll conf.master) exchange.master.data)
    (answer : IsAnswer conf.master message) :
    exchange.reportsFor conf message = processSOEScanRequestReturn message := by
  unfold reportsFor
  rcases answer with none | ⟨⟨positive, small⟩, header, rest, rfl, station, code⟩
  · rw [none, ite_self]
  · have expected := begun_code begun
    rw [Nat.mod_eq_of_lt small] at station
    have accepted : conf.master.acceptsResponse exchange.master.data (header :: rest) =
        some [] := by
      have known : header.getStationAddress ≠ 0 := by omega
      simp [CBMasterConf.acceptsResponse, station, code, expected, CBMasterConf.responseSuccess,
        FUNC_SEND_NEW_SOE, FUNC_SCAN_DATA, FUNC_EXECUTE_COMMAND, FUNC_TRIP, FUNC_SETPOINT_A,
        FUNC_CLOSE, FUNC_SETPOINT_B, FUNC_MASTER_STATION_REQUEST]
      omega
    rw [accepted]
    rfl

/-! ## The outstation answers -/

/-- Events that have not left the queue are not reported. -/
theorem poppedReports_same {before after : CBOutstation}
    (same : after.pointTable.soe.binaryTimeTaggedEventQueue =
      before.pointTable.soe.binaryTimeTaggedEventQueue) : poppedReports before after = [] := by
  simp [poppedReports, same, expectedReports]

theorem processCBMessage_poll (outstationConf : CBOutstationConf) (outstation : CBOutstation)
    {header : CBBlockData} (code : header.getFunctionCode = FUNC_SEND_NEW_SOE) (now : Nat) :
    outstation.processCBMessage outstationConf [header] now =
      if outstation.enabled then outstation.funcSendSOEResponse header else (outstation, []) := by
  unfold CBOutstation.processCBMessage
  cases outstation.enabled <;>
    simp [code, FUNC_SEND_NEW_SOE, FUNC_SCAN_DATA, FUNC_EXECUTE_COMMAND, FUNC_TRIP,
      FUNC_SETPOINT_A, FUNC_CLOSE, FUNC_SETPOINT_B, FUNC_MASTER_STATION_REQUEST]

/-- An empty queue is answered with one block, which has no events. -/
theorem funcSendSOEResponse_empty {outstation : CBOutstation} (header : CBBlockData)
    (empty : outstation.pointTable.soe.binaryTimeTaggedEventQueue = []) :
    let served := outstation.funcSendSOEResponse header
    sentMessages served.2 = [[header]] ∧ processSOEScanRequestReturn [header] = [] ∧
      poppedReports outstation served.1 = [] := by
  refine ⟨?_, rfl, poppedReports_same ?_⟩
  · simp [CBOutstation.funcSendSOEResponse, SOEQueue.timeTaggedDataAvailable, empty, sentMessages,
      CBOutstation.sendCBMessage]
  · simp [CBOutstation.funcSendSOEResponse, SOEQueue.timeTaggedDataAvailable, empty,
      CBOutstation.sendCBMessage]

/-- The first block of an answer repeats the station and the function. -/
theorem convertPayloadWordsToCBMessage_header (header : CBBlockData) (words : List (BitVec 16)) :
    ∃ first rest, convertPayloadWordsToCBMessage header words = first :: rest ∧
      first.getStationAddress = header.getStationAddress ∧
      first.getFunctionCode = header.getFunctionCode := by
  have station := CBBlockData.getStationAddress_lt header
  have function := CBBlockData.getFunctionCode_lt header
  unfold convertPayloadWordsToCBMessage
  cases payloadBlocks words.tail with
  | nil =>
      refine ⟨_, [], rfl, ?_, ?_⟩
      · rw [CBBlockData.getStationAddress_eq, CBBlockData.getA_markAsEndOfMessageBlock,
          ← CBBlockData.getStationAddress_eq, CBBlockData.getStationAddress_addressBlock,
          Nat.mod_eq_of_lt station]
      · rw [CBBlockData.getFunctionCode_eq, CBBlockData.getA_markAsEndOfMessageBlock,
          ← CBBlockData.getFunctionCode_eq, CBBlockData.getFunctionCode_addressBlock,
          Nat.mod_eq_of_lt function]
  | cons block rest =>
      refine ⟨_, _, rfl, ?_, ?_⟩
      · rw [CBBlockData.getStationAddress_addressBlock, Nat.mod_eq_of_lt station]
      · rw [CBBlockData.getFunctionCode_addressBlock, Nat.mod_eq_of_lt function]

/-- The packed front of a queue goes into the answer, and the rest stays. -/
theorem funcSendSOEResponse_answer {outstation : CBOutstation} (header : CBBlockData)
    (some : outstation.pointTable.soe.binaryTimeTaggedEventQueue ≠ []) :
    let packed := buildPackedEventBitArray outstation.clock
      outstation.pointTable.soe.binaryTimeTaggedEventQueue
    let served := outstation.funcSendSOEResponse header
    (∃ first rest, sentMessages served.2 = [first :: rest] ∧
      processSOEScanRequestReturn (first :: rest) = receivedReports header packed.bitArray ∧
      first.getStationAddress = header.getStationAddress ∧
      first.getFunctionCode = header.getFunctionCode) ∧
    served.1.pointTable =
      { outstation.pointTable with
        soe :=
          { outstation.pointTable.soe with binaryTimeTaggedEventQueue := packed.remaining } } ∧
    served.1.enabled = outstation.enabled ∧ served.1.clock = outstation.clock := by
  intro packed served
  have available : outstation.pointTable.soe.timeTaggedDataAvailable = true := by
    simpa [SOEQueue.timeTaggedDataAvailable] using some
  obtain ⟨first, rest, shape, station, code⟩ := convertPayloadWordsToCBMessage_header header
    (convertBitArrayToPayloadWords packed.bitArray.length packed.bitArray)
  have answered : served =
      CBOutstation.sendCBMessage
        { outstation with
          pointTable :=
            { outstation.pointTable with
              soe :=
                { outstation.pointTable.soe with
                  binaryTimeTaggedEventQueue := packed.remaining } }
          lastSentSOEMessage := first :: rest } (first :: rest) := by
    simp only [served, packed, CBOutstation.funcSendSOEResponse, available, if_true] at shape ⊢
    rw [shape]
  refine ⟨⟨first, rest, by rw [answered]; rfl, ?_, station, code⟩, by rw [answered]; rfl,
    by rw [answered]; rfl, by rw [answered]; rfl⟩
  rw [receivedReports, shape]

/-- The events of a queue go into the answer, and come back. -/
theorem funcSendSOEResponse_events {outstation : CBOutstation} (header : CBBlockData)
    (some : outstation.pointTable.soe.binaryTimeTaggedEventQueue ≠ [])
    (numbered : SOENumbered outstation.pointTable.soe.binaryTimeTaggedEventQueue)
    (fits : SOEFits outstation.clock outstation.pointTable.soe.binaryTimeTaggedEventQueue) :
    let served := outstation.funcSendSOEResponse header
    ∃ first rest, sentMessages served.2 = [first :: rest] ∧
      processSOEScanRequestReturn (first :: rest) = poppedReports outstation served.1 ∧
      first.getStationAddress = header.getStationAddress ∧
      first.getFunctionCode = header.getFunctionCode := by
  intro served
  obtain ⟨⟨first, rest, sent, handed, same⟩, table, -⟩ := funcSendSOEResponse_answer header some
  have reports := receivedReports_packed outstation.clock header some numbered
  obtain ⟨split, -⟩ := buildPackedEvents_spec outstation.clock some numbered
  refine ⟨first, rest, sent, ?_, same⟩
  change served.1.pointTable = _ at table
  generalize buildPackedEventBitArray outstation.clock
    outstation.pointTable.soe.binaryTimeTaggedEventQueue = packed at *
  rw [handed, reports, if_pos fits]
  simp [poppedReports, table, split]

/-! ## The ledger of the exchange -/

/-- The exchange as a ledger of handovers: an answer on its way carries its events. -/
def ledger (exchange : SOEExchange) : Ledger Nat SOEReport where
  inFlight :=
    exchange.responses.map fun response => (response.1, processSOEScanRequestReturn response.2)
  answered := exchange.answered
  taken := exchange.popped
  handed := exchange.handed

/-- The master has only polls to send, and while a request or an answer is on its
way it has sent one. -/
structure Polling (exchange : SOEExchange) : Prop where
  carrying : Carrying conf.master.masterPort (IsPoll conf.master) exchange.master
  requests : ∀ request ∈ exchange.requests, IsPoll conf.master request.2 ∧
    Begun conf.master.masterPort (IsPoll conf.master) exchange.master.data
  responses : ∀ response ∈ exchange.responses, IsAnswer conf.master response.2 ∧
    Begun conf.master.masterPort (IsPoll conf.master) exchange.master.data

theorem start_polling (outstation : CBOutstation) : Polling conf (start outstation) :=
  ⟨start_carrying true [], nofun, nofun⟩

variable {conf}

/-- A step of the master sends polls only. -/
theorem masterStep_polling {exchange : SOEExchange} (polling : Polling conf exchange)
    (action : Action CBMessage CBMessage) (notClear : action ≠ .clear)
    (polls : ∀ message withCallback, action = .queue message withCallback →
      IsPoll conf.master message) : Polling conf (exchange.masterStep conf action) := by
  obtain ⟨carrying, begun, sent⟩ :=
    step_carries (followUps_isPoll conf.master) polling.carrying notClear polls
  refine ⟨carrying, fun request member => ?_, fun response member => ?_⟩
  · rcases List.mem_append.mp member with before | new
    · obtain ⟨poll, old⟩ := polling.requests request before
      exact ⟨poll, begun old⟩
    · obtain ⟨message, isSent, rfl⟩ := List.mem_map.mp new
      obtain ⟨effect, inEffects, isSend⟩ := List.mem_filterMap.mp isSent
      cases effect with
      | send other =>
          obtain rfl : other = message := by simpa using isSend
          exact sent other inEffects
      | armTimer endtime => simp at isSend
      | cancelTimer => simp at isSend
      | post callback status => simp at isSend
      | commsLost => simp at isSend
  · obtain ⟨answer, old⟩ := polling.responses response member
    exact ⟨answer, begun old⟩

/-- When a poll can be answered so that its events come back. -/
def Answerable (master : CBMasterConf) (outstation : CBOutstation) : Prop :=
  let queue := outstation.pointTable.soe.binaryTimeTaggedEventQueue
  queue = [] ∨ (1 ≤ master.outstationAddr ∧ master.outstationAddr < 16) ∧
    SOENumbered queue ∧ SOEFits outstation.clock queue

/-- The answer to a poll has the events that were popped. A disabled outstation
pops nothing and does not answer. -/
theorem processCBMessage_isPoll {outstation : CBOutstation} {message : CBMessage}
    (isPoll : IsPoll conf.master message) (answerable : Answerable conf.master outstation)
    (now : Nat) :
    let served := outstation.processCBMessage conf.outstation message now
    (sentMessages served.2 = [] ∧ poppedReports outstation served.1 = []) ∨
      ∃ answer, sentMessages served.2 = [answer] ∧ IsAnswer conf.master answer ∧
        processSOEScanRequestReturn answer = poppedReports outstation served.1 ∧
        (outstation.pointTable.soe.binaryTimeTaggedEventQueue = [] →
          poppedReports outstation served.1 = []) := by
  obtain ⟨group, rfl⟩ := isPoll
  set header : CBBlockData :=
    .addressBlock conf.master.outstationAddr group FUNC_SEND_NEW_SOE 0#16 true with isHeader
  have code : header.getFunctionCode = FUNC_SEND_NEW_SOE := by
    rw [isHeader, CBBlockData.getFunctionCode_addressBlock]
    rfl
  have station : header.getStationAddress = conf.master.outstationAddr % 16 :=
    CBBlockData.getStationAddress_addressBlock ..
  have answered : outstation.processCBMessage conf.outstation
      (conf.master.sendFn10SOEScanCommand group) now =
        if outstation.enabled then outstation.funcSendSOEResponse header else (outstation, []) :=
    processCBMessage_poll conf.outstation outstation code now
  simp only [answered]
  cases outstation.enabled with
  | false => exact Or.inl ⟨rfl, poppedReports_same rfl⟩
  | true =>
      right
      simp only [if_true]
      by_cases empty : outstation.pointTable.soe.binaryTimeTaggedEventQueue = []
      · obtain ⟨sent, noEvents, nothing⟩ := funcSendSOEResponse_empty header empty
        exact ⟨[header], sent, Or.inl noEvents, noEvents.trans nothing.symm, fun _ => nothing⟩
      · obtain ⟨inRange, numbered, fits⟩ := answerable.resolve_left empty
        obtain ⟨first, rest, sent, events, sameStation, sameCode⟩ :=
          funcSendSOEResponse_events header empty numbered fits
        refine ⟨first :: rest, sent, Or.inr ⟨inRange, first, rest, rfl, ?_, ?_⟩, events,
          fun none => absurd none empty⟩
        · exact sameStation.trans station
        · exact sameCode.trans code

/-! ## The exchange is a ledger -/

/-- **A safe step of the exchange is a covered event of its ledger**, or none. -/
theorem step_ledger {exchange : SOEExchange} (polling : Polling conf exchange)
    {action : ExchangeAction} (safe : Safe conf exchange action) :
    Polling conf (exchange.step conf action).1 ∧
      ∃ events, Guarded Handover.step Covered exchange.ledger events ∧
        (exchange.step conf action).1.ledger = (run Handover.step exchange.ledger events).1 := by
  cases action with
  | poll group =>
      refine ⟨masterStep_polling polling _ (by simp) ?_, [], trivial, rfl⟩
      intro message withCallback isQueue
      injection isQueue with isMessage
      exact ⟨group, isMessage.symm⟩
  | expire => exact ⟨masterStep_polling polling _ (by simp) (by simp), [], trivial, rfl⟩
  | runHandler position =>
      exact ⟨masterStep_polling polling _ (by simp) (by simp), [], trivial, rfl⟩
  | event pointEvent now =>
      exact ⟨⟨polling.carrying, polling.requests, polling.responses⟩, [], trivial, rfl⟩
  | serve position now =>
      cases here : exchange.requests[position]? with
      | none =>
          simp only [step, here]
          exact ⟨polling, [], trivial, rfl⟩
      | some request =>
          obtain ⟨isPoll, begun⟩ := polling.requests request (List.mem_of_getElem? here)
          obtain ⟨arrived, batch⟩ := safe request here
          simp only [step, here, serve]
          have answerable : Answerable conf.master exchange.outstation :=
            batch.imp id fun known => ⟨known.1, known.2.1⟩
          have fewer : ∀ other ∈ exchange.requests.eraseIdx position, other ∈ exchange.requests :=
            fun other => List.mem_of_mem_eraseIdx
          rcases processCBMessage_isPoll isPoll answerable now with
            ⟨silent, nothing⟩ | ⟨answer, sent, isAnswer, events, empty⟩
          · rw [silent, nothing]
            refine ⟨⟨polling.carrying, fun other member => polling.requests other (fewer other member),
              ?_⟩, [], trivial, ?_⟩
            · simpa using polling.responses
            · simp [SOEExchange.ledger, tagged]
          · refine ⟨⟨polling.carrying, fun other member => polling.requests other (fewer other member),
              ?_⟩, [.serve request.1 (poppedReports exchange.outstation
                (exchange.outstation.processCBMessage conf.outstation request.2 now).1)],
              ⟨⟨arrived, ?_⟩, trivial⟩, ?_⟩
            · intro response member
              rw [sent] at member
              rcases List.mem_append.mp member with before | new
              · exact polling.responses response before
              · rw [List.mem_singleton.mp new]
                exact ⟨isAnswer, begun⟩
            · refine batch.imp empty fun known => ⟨known.2.2.1, fun other member => ?_⟩
              obtain ⟨response, isResponse, rfl⟩ := List.mem_map.mp member
              exact known.2.2.2 response isResponse
            · rw [run_singleton]
              simp [SOEExchange.ledger, Handover.step, sent, events]
  | dropResponse position =>
      refine ⟨⟨polling.carrying, polling.requests, fun response member =>
        polling.responses response (List.mem_of_mem_eraseIdx member)⟩, [.drop position],
        ⟨trivial, trivial⟩, ?_⟩
      rw [run_singleton]
      simp [step, SOEExchange.ledger, Handover.step, List.eraseIdx_map]
  | deliver position =>
      cases here : exchange.responses[position]? with
      | none =>
          simp only [step, here]
          exact ⟨polling, [], trivial, rfl⟩
      | some response =>
          obtain ⟨isAnswer, begun⟩ := polling.responses response (List.mem_of_getElem? here)
          simp only [step, here, receive]
          have fewer : ∀ other ∈ exchange.responses.eraseIdx position,
              other ∈ exchange.responses := fun other => List.mem_of_mem_eraseIdx
          refine ⟨masterStep_polling ?_ (.response response.2) (by simp) (by simp),
            [.deliver position], ⟨trivial, trivial⟩, ?_⟩
          · exact ⟨polling.carrying, polling.requests, fun other member =>
              polling.responses other (fewer other member)⟩
          have reports : exchange.reportsFor conf response.2 =
              processSOEScanRequestReturn response.2 := reportsFor_isAnswer conf begun isAnswer
          rw [run_singleton]
          simp only [SOEExchange.ledger, Handover.step, List.getElem?_map, here, Option.map_some,
            List.eraseIdx_map, ← reports]
          rfl

/-- **A run of safe steps is a run of the ledger.** -/
theorem run_ledger {exchange : SOEExchange} (polling : Polling conf exchange)
    {actions : List ExchangeAction} (guarded : Guarded (step conf) (Safe conf) exchange actions) :
    ∃ events, Guarded Handover.step Covered exchange.ledger events ∧
      (run (step conf) exchange actions).1.ledger =
        (run Handover.step exchange.ledger events).1 := by
  induction actions generalizing exchange with
  | nil => exact ⟨[], trivial, rfl⟩
  | cons action rest ih =>
      obtain ⟨safe, later⟩ := guarded
      obtain ⟨stillPolling, first, covered, same⟩ := step_ledger polling safe
      obtain ⟨second, coveredLater, sameLater⟩ := ih stillPolling later
      rw [same] at coveredLater sameLater
      refine ⟨first ++ second, guarded_append.mpr ⟨covered, coveredLater⟩, ?_⟩
      rw [run_cons, run_append]
      exact sameLater

/-! ## The events are handed over -/

/-- **In every run of safe steps, the events popped for an answered poll have been
handed to the callback of the master.** -/
theorem run_eventsHanded (conf : SOEExchangeConf) (outstation : CBOutstation)
    {actions : List ExchangeAction}
    (guarded : Guarded (step conf) (Safe conf) (start outstation) actions) :
    EventsHanded (run (step conf) (start outstation) actions).1 := by
  obtain ⟨events, covered, same⟩ := run_ledger (start_polling conf outstation) guarded
  have settled : Settled (run Handover.step (start outstation).ledger events).1 :=
    run_settled accounted_empty covered
  rw [← same] at settled
  exact settled

/-- An outstation with one point whose events are collected, at index 5 of the events. -/
def soeOutstation : CBOutstation where
  pointTable := (PointTable.build {} true 500).load [.binary 0 3 1 ⟨1, .PositionB⟩ .DIG true 5] |>.1

def soeConf : SOEExchangeConf := { master := { outstationAddr := 9 } }

/-- A poll is answered without events, and the answer is dropped. The retry is
answered with two events, which arrive. -/
theorem run_eventsHanded_retry :
    EventsHanded (run (step soeConf) (start soeOutstation)
      [.poll 3, .serve 0 0, .dropResponse 0, .event (.Binary 0 false 36000000) 36000000,
        .event (.Binary 0 true 36000250) 36000250, .expire, .runHandler 0, .serve 0 36005000,
        .deliver 0]).1 :=
  run_eventsHanded soeConf soeOutstation (by decide +kernel)

/-- **Events are lost**: the answer with an event is dropped, and the retry asks
for new events. Its answer arrives without any, and the poll succeeds. -/
theorem run_lostAnswer :
    let exchange := (run (step soeConf) (start soeOutstation)
      [.event (.Binary 0 false 36000000) 36000000, .poll 3, .serve 0 36000100, .dropResponse 0,
        .expire, .runHandler 0, .serve 0 36005200, .deliver 0]).1
    exchange.answered = [0] ∧ exchange.handed = [] ∧
      exchange.popped =
        [(0, { group := 3, number := 5, valueBit := false,
               time := { hour := 10, min := 0, sec := 0, msec := 0 }, lastEventFlag := true })] ∧
      exchange.master.posted = [(0, .SUCCESS)] ∧ ¬ EventsHanded exchange := by
  decide +kernel

end SOEExchange

end OpenDataCon.CBPort
