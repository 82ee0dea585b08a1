import OpenDataCon.CBPort.MasterScan
import OpenDataCon.CBPort.SOEAddressing
import OpenDataCon.CBPort.SOEPoll

/-!
# The values of events

An event of a SOE point travels from the outstation to the events that the
master publishes: it is queued, packed into the answer to a poll, read back, and
looked up in the table of the master by its SOE index. Nothing is lost on the way
here, and no event finds the queue full.

The value of a momentary contact A is inverted on the wire. The master inverts it
back when it reads a scan, and not when it reads an event. So the published values
are the given ones exactly when no event is one of a momentary contact A and the
last record of every answer is read (`run_valuesPublished_iff`).
-/

set_option autoImplicit false

namespace OpenDataCon.CBPort

open MasterQueue Runs PointTable

/-! ## Events at the master -/

def CBTimeOneDay : Nat := 1000 * 60 * 60 * 24

def CBTimeOneHour : Nat := 1000 * 60 * 60

/-- The start of the day of a time. -/
def getDayStartTime (time : Nat) : Nat := time / CBTimeOneDay * CBTimeOneDay

def getHour (time : Nat) : Nat := time / CBTimeOneHour % 24

/-- The time of an event: its time of day, on the day of the master or the day before. -/
def soeChangedTime (now : Nat) (time : HMSMSEC) : Nat :=
  let now := if getHour now > time.hour then (now + (2 ^ 64 - CBTimeOneDay)) % 2 ^ 64 else now
  (getDayStartTime now +
    (((time.hour * 60 + time.min) * 60 + time.sec) * 1000 + time.msec)) % 2 ^ 64

/-- What the callback of the master does with an event: it publishes the event of
a point that it finds, and remembers the overflow record in its flag. -/
def receiveSOEEvent (table : PointTable) (now : Nat) (overflow : Bool) (report : SOEReport) :
    Bool × List PublishedEvent :=
  if (table.getBinaryODCIndexUsingSOE report.number).isSome ∨ report.number = 127 then
    if report.number = 127 then (true, [])
    else
      (overflow, [.Binary ((table.getBinaryODCIndexUsingSOE report.number).getD 0) report.valueBit
        (soeChangedTime now report.time)])
  else (overflow, [])

/-- The master expects the answer to a message. -/
def CBMasterConf.waitingFor (message : CBMessage) : MasterCommandData CBMessage where
  currentCommand := { message := message }
  currentFunctionCode := commandFunctionCode message
  processingCommand := true

/-- The events of an answer, when it is accepted. -/
def receiveSOEAnswer (conf : CBMasterConf) (table : PointTable) (request : CBMessage) (now : Nat)
    (overflow : Bool) (answer : CBMessage) : Bool × List PublishedEvent :=
  if (conf.acceptsResponse (CBMasterConf.waitingFor request) answer).isSome then
    run (receiveSOEEvent table now) overflow (processSOEScanRequestReturn answer)
  else (overflow, [])

/-! ## The link -/

structure SOELinkConf where
  master : CBMasterConf
  outstation : CBOutstationConf := {}

/-- An outstation and a master, and nothing between them that could lose a message. -/
structure SOELink where
  outstation : CBOutstation
  masterTable : PointTable
  outStationSOEBufferOverflow : Bool := false

/-- A value is given to the outstation, or the master polls its events. -/
inductive SOELinkStep where
  | event (index : Nat) (meas : Bool) (timestamp now : Nat)
  | poll (group served received : Nat)
deriving DecidableEq, Repr

namespace SOELink

variable (conf : SOELinkConf)

/-- One step; it puts out what the master publishes. -/
def step (link : SOELink) : SOELinkStep → SOELink × List PublishedEvent
  | .event index meas timestamp now =>
    ({ link with
        outstation := link.outstation.event conf.outstation (.Binary index meas timestamp) now },
      [])
  | .poll group served received =>
    let request := conf.master.sendFn10SOEScanCommand group
    let answered := link.outstation.processCBMessage conf.outstation request served
    let result := run (receiveSOEAnswer conf.master link.masterTable request received)
      link.outStationSOEBufferOverflow (sentMessages answered.2)
    ({ link with outstation := answered.1, outStationSOEBufferOverflow := result.1 }, result.2)

/-- Both ends of the link with the table of one configuration. -/
def start (outstation : CBOutstation) (loaded : PointTable) (soeQueueSize : Nat) : SOELink where
  outstation := { outstation with enabled := true, pointTable := loaded.build true soeQueueSize }
  masterTable := loaded.build false 5

def queue (link : SOELink) : List CBBinaryPoint :=
  link.outstation.pointTable.soe.binaryTimeTaggedEventQueue

/-- The event of a SOE point finds more than one place free. -/
def HasRoom (link : SOELink) : SOELinkStep → Prop
  | .event .. => link.queue.length <
      (link.outstation.pointTable.soe.binaryTimeTaggedEventQueueSize + (2 ^ 64 - 1)) % 2 ^ 64
  | .poll .. => True

instance (link : SOELink) : ∀ action, Decidable (HasRoom link action)
  | .event .. => inferInstanceAs (Decidable (_ < _))
  | .poll .. => .isTrue trivial

/-- The values that are given to SOE points of a table, with the ODC index. -/
def given (table : PointTable) : SOELinkStep → List (Nat × Bool)
  | .event index meas _ _ =>
    if (table.binary.odcPointMap index).any (·.soePoint) then [(index, meas)] else []
  | .poll .. => []

/-- The value of a binary event, with the ODC index. -/
def binaryValue : PublishedEvent → Option (Nat × Bool)
  | .Binary index meas _ => some (index, meas)
  | .Analog .. => none
  | .Counter .. => none

/-- The binary values among published events. -/
def valuesOf (events : List PublishedEvent) : List (Nat × Bool) := events.filterMap binaryValue

/-- No value of a momentary contact A is given. -/
def Upright (link : SOELink) : SOELinkStep → Prop
  | .event index _ _ _ =>
    ∀ point ∈ link.masterTable.binary.odcPointMap index, point.soePoint = true →
      point.pointType ≠ .MCA
  | .poll .. => True

/-- The last record of the answer to a poll is read. -/
def ReadWhole (link : SOELink) : SOELinkStep → Prop
  | .event .. => True
  | .poll .. => link.queue = [] ∨ SOEFits link.outstation.clock link.queue

/-- The condition on a step: no value is given that comes out inverted, and no record is missed. -/
def Undisturbed (link : SOELink) (action : SOELinkStep) : Prop :=
  Upright link action ∧ ReadWhole link action

instance (link : SOELink) : ∀ action, Decidable (Undisturbed link action)
  | .event index _ _ _ =>
    inferInstanceAs (Decidable ((∀ point ∈ link.masterTable.binary.odcPointMap index, _) ∧ True))
  | .poll .. => inferInstanceAs (Decidable (True ∧ (_ ∨ _)))

/-! ## Points of the queue -/

/-- A value as it is sent. -/
def sentValue (point : CBBinaryPoint) : Nat × Bool := (point.index, soeValueBit point)

/-- A value as it goes on the wire, by the type of its point. -/
def onWire (table : PointTable) (value : Nat × Bool) : Nat × Bool :=
  (value.1,
    if (table.binary.odcPointMap value.1).any (·.pointType == .MCA) then !value.2 else value.2)

/-- A record of the queue is one of a SOE point of the table. -/
structure Known (table : PointTable) (record : CBBinaryPoint) : Prop where
  small : record.soeIndex ≤ 120
  found : table.getBinaryODCIndexUsingSOE record.soeIndex = some record.index

/-- While the link runs the tables are those of one configuration, and the queue
holds events of its points. -/
structure Linked (table : PointTable) (link : SOELink) : Prop where
  master : link.masterTable = table
  enabled : link.outstation.enabled = true
  isOutstation : link.outstation.pointTable.isOutstation = true
  points : SameKind CBBinaryPoint.resetBinary table.binary link.outstation.pointTable.binary
  known : ∀ record ∈ link.queue, Known table record

/-- Every SOE point of the table is found by its SOE index. -/
def Found (table : PointTable) : Prop :=
  ∀ index point, table.binary.odcPointMap index = some point → point.soePoint = true →
    point.index = index ∧ point.soeIndex ≤ 120 ∧
      table.getBinaryODCIndexUsingSOE point.soeIndex = some index

variable {conf} {table : PointTable} {link : SOELink}

theorem Linked.numbered (linked : Linked table link) : SOENumbered link.queue :=
  fun record member => Or.inl (linked.known record member).small

/-- What a point of the outstation has in common with that of the table. -/
theorem Linked.counterpart (linked : Linked table link) {index : Nat} {point : CBBinaryPoint}
    (there : link.outstation.pointTable.binary.odcPointMap index = some point) :
    ∃ found, table.binary.odcPointMap index = some found ∧ found.index = point.index ∧
      found.soePoint = point.soePoint ∧ found.soeIndex = point.soeIndex ∧
      found.pointType = point.pointType := by
  obtain ⟨found, before, stripped⟩ := linked.points.counterpart there
  simp only [CBBinaryPoint.resetBinary, CBBinaryPoint.mk.injEq] at stripped
  exact ⟨found, before, by simp [stripped]⟩

/-! ## Giving a value -/

/-- A value is stored in the table of the outstation, and the event of a SOE point
is put at the end of the queue. -/
theorem setBinaryValue_linked (linked : Linked table link) (found : Found table) (index : Nat)
    (meas : Bool) (eventtime now : Nat)
    (room : link.queue.length <
      (link.outstation.pointTable.soe.binaryTimeTaggedEventQueueSize + (2 ^ 64 - 1)) % 2 ^ 64) :
    let stored := (link.outstation.pointTable.setBinaryValueUsingODCIndex index meas eventtime
      now).1
    stored.isOutstation = true ∧
      SameKind CBBinaryPoint.resetBinary table.binary stored.binary ∧
      ∃ added, stored.soe.binaryTimeTaggedEventQueue = link.queue ++ added ∧
        (∀ record ∈ added, Known table record) ∧
        added.map sentValue =
          (given table (.event index meas eventtime now)).map (onWire table) := by
  intro stored
  cases there : link.outstation.pointTable.binary.odcPointMap index with
  | none =>
      have absent : table.binary.odcPointMap index = none := by
        have points := linked.points.points index
        rw [there] at points
        exact Option.map_eq_none_iff.mp points.symm
      have same : stored = link.outstation.pointTable := by
        simp only [stored, setBinaryValueUsingODCIndex, there]
      rw [same]
      refine ⟨linked.isOutstation, linked.points, [], (List.append_nil _).symm, by simp, ?_⟩
      simp [given, absent]
  | some point =>
      obtain ⟨original, before, sameIndex, sameSOE, sameNumber, sameType⟩ :=
        linked.counterpart there
      have frame : stored.isOutstation = true ∧
          SameKind CBBinaryPoint.resetBinary table.binary stored.binary := by
        simp only [stored, setBinaryValueUsingODCIndex, there]
        have modified := linked.points.modify index
          fun point => (rfl : (point.setBinary meas eventtime).resetBinary = point.resetBinary)
        refine ⟨?_, ?_⟩
        · split <;> split <;> exact linked.isOutstation
        · split
          · split <;> exact modified
          · split <;> exact linked.points
      refine ⟨frame.1, frame.2, ?_⟩
      cases isSOE : point.soePoint with
      | false =>
          refine ⟨[], ?_, by simp, ?_⟩
          · rw [List.append_nil]
            simp only [stored, setBinaryValueUsingODCIndex, there, isSOE, Bool.false_and,
              Bool.false_eq_true, if_false]
            split <;> rfl
          · simp [given, before, sameSOE, isSOE]
      | true =>
          have queued : link.outstation.pointTable.queuedEvent index meas eventtime =
              some (SOEQueue.eventOf point meas eventtime) := by
            have free := room
            unfold queue at free
            simp only [queuedEvent, there, isSOE, linked.isOutstation, free, Bool.and_self,
              decide_true, if_true]
          obtain ⟨own, small, lookup⟩ := found index original before (sameSOE.trans isSOE)
          refine ⟨[SOEQueue.eventOf point meas eventtime],
            setBinaryValueUsingODCIndex_queues queued now, ?_, ?_⟩
          · intro record member
            rw [List.mem_singleton.mp member]
            refine ⟨by simpa [SOEQueue.eventOf, ← sameNumber] using small, ?_⟩
            simpa [SOEQueue.eventOf, ← sameNumber, ← sameIndex, own] using lookup
          · have indexed : point.index = index := sameIndex.symm.trans own
            simp [given, before, sameSOE, isSOE, onWire, sentValue, soeValueBit, SOEQueue.eventOf,
              indexed, sameType]

/-- **A given value is queued as it goes on the wire.** -/
theorem event_linked (linked : Linked table link) (found : Found table) (index : Nat)
    (meas : Bool) (timestamp now : Nat) (room : HasRoom link (.event index meas timestamp now)) :
    let stepped := step conf link (.event index meas timestamp now)
    Linked table stepped.1 ∧ stepped.1.queue.map sentValue =
      link.queue.map sentValue ++
        (given table (.event index meas timestamp now)).map (onWire table) := by
  intro stepped
  obtain ⟨eventtime, stored⟩ : ∃ eventtime, stepped.1.outstation =
      { link.outstation with
        pointTable := (link.outstation.pointTable.setBinaryValueUsingODCIndex index meas eventtime
          now).1 } := by
    simp only [stepped, step, CBOutstation.event, linked.enabled, Bool.not_true,
      Bool.false_eq_true, if_false]
    exact ⟨_, rfl⟩
  obtain ⟨isOutstation, points, added, queued, known, sent⟩ :=
    setBinaryValue_linked linked found index meas eventtime now room
  have queueIs : stepped.1.queue = link.queue ++ added := by
    rw [queue, stored]
    exact queued
  refine ⟨⟨linked.master, ?_, ?_, ?_, ?_⟩, ?_⟩
  · rw [stored]
    exact linked.enabled
  · rw [stored]
    exact isOutstation
  · rw [stored]
    exact points
  · intro record member
    rw [queueIs] at member
    exact (List.mem_append.mp member).elim (linked.known record) (known record)
  · rw [queueIs, List.map_append, sent]
    rfl

/-! ## A poll -/

/-- The value that a report gives to a point of the table. -/
def reportedValue (table : PointTable) (report : SOEReport) : Option (Nat × Bool) :=
  (table.getBinaryODCIndexUsingSOE report.number).map fun index => (index, report.valueBit)

/-- The values that the master publishes of some reports. -/
theorem valuesOf_reports (table : PointTable) (now : Nat) (overflow : Bool)
    (reports : List SOEReport) :
    valuesOf (run (receiveSOEEvent table now) overflow reports).2 =
      reports.filterMap (reportedValue table) := by
  induction reports generalizing overflow with
  | nil => rfl
  | cons report rest ih =>
      have first : valuesOf (receiveSOEEvent table now overflow report).2 =
          (reportedValue table report).toList := by
        unfold reportedValue
        by_cases full : report.number = 127
        · have absent : table.getBinaryODCIndexUsingSOE report.number = none := by
            rw [full]
            rfl
          rw [absent]
          simp [receiveSOEEvent, full, valuesOf]
        · cases lookup : table.getBinaryODCIndexUsingSOE report.number with
          | none => simp [receiveSOEEvent, lookup, full, valuesOf]
          | some index => simp [receiveSOEEvent, lookup, full, valuesOf, binaryValue]
      rw [run_cons, valuesOf, List.filterMap_append, ← valuesOf, ← valuesOf, first, ih]
      cases lookup : reportedValue table report with
      | none => rw [List.filterMap_cons_none lookup]; rfl
      | some value => rw [List.filterMap_cons_some lookup]; rfl

/-- The values of the reports of known points are the values that were sent. -/
theorem filterMap_pointReport {points : List CBBinaryPoint}
    (known : ∀ record ∈ points, Known table record) (clock : SOEClock) (flag : Bool) :
    (points.map (pointReport clock flag)).filterMap (reportedValue table) =
      points.map sentValue := by
  induction points with
  | nil => rfl
  | cons point rest ih =>
      have reported : reportedValue table (pointReport clock flag point) =
          some (sentValue point) := by
        have lookup : table.getBinaryODCIndexUsingSOE (pointReport clock flag point).number =
            some point.index := (known point (by simp)).found
        rw [reportedValue, lookup]
        rfl
      rw [List.map_cons, List.filterMap_cons_some reported,
        ih fun record member => known record (by simp [member]), List.map_cons]

theorem filterMap_expectedReports {points : List CBBinaryPoint}
    (known : ∀ record ∈ points, Known table record) (clock : SOEClock) (empty : Bool) :
    (expectedReports clock points empty).filterMap (reportedValue table) =
      points.map sentValue := by
  have split : points.dropLast ++ points.getLast?.toList = points := by
    rcases List.eq_nil_or_concat points with rfl | ⟨front, last, rfl⟩
    · rfl
    · simp
  rw [← split] at known
  rw [expectedReports, List.filterMap_append,
    filterMap_pointReport (fun record member => known record (List.mem_append_left _ member)),
    filterMap_pointReport (fun record member => known record (List.mem_append_right _ member)),
    ← List.map_append, split]

/-- The condition on the address of the master: that of a station. -/
def Addressed (master : CBMasterConf) : Prop :=
  1 ≤ master.outstationAddr ∧ master.outstationAddr < 16

/-- An answer from the station to a poll is accepted. -/
theorem acceptsResponse_poll {master : CBMasterConf} (addressed : Addressed master) (group : Nat)
    {first : CBBlockData} (rest : CBMessage)
    (station : first.getStationAddress = master.outstationAddr % 16)
    (code : first.getFunctionCode = FUNC_SEND_NEW_SOE) :
    (master.acceptsResponse (CBMasterConf.waitingFor (master.sendFn10SOEScanCommand group))
      (first :: rest)).isSome := by
  obtain ⟨positive, small⟩ := addressed
  rw [Nat.mod_eq_of_lt small] at station
  have expected : CBMasterConf.commandFunctionCode (master.sendFn10SOEScanCommand group) =
      FUNC_SEND_NEW_SOE := by
    simp [CBMasterConf.commandFunctionCode, CBMasterConf.sendFn10SOEScanCommand, FUNC_SEND_NEW_SOE]
  have nonzero : ¬ master.outstationAddr = 0 := by omega
  simp [CBMasterConf.acceptsResponse, CBMasterConf.waitingFor, expected, station, code, nonzero,
    CBMasterConf.responseSuccess, FUNC_SEND_NEW_SOE, FUNC_SCAN_DATA, FUNC_EXECUTE_COMMAND,
    FUNC_TRIP, FUNC_SETPOINT_A, FUNC_CLOSE, FUNC_SETPOINT_B, FUNC_MASTER_STATION_REQUEST]

/-- The outstation answers a poll with one message, which the master accepts. -/
theorem poll_result (addressed : Addressed conf.master) (linked : Linked table link)
    (group served received : Nat) :
    let header : CBBlockData :=
      .addressBlock conf.master.outstationAddr group FUNC_SEND_NEW_SOE 0#16 true
    let answered := link.outstation.funcSendSOEResponse header
    ∃ answer, sentMessages answered.2 = [answer] ∧
      (step conf link (.poll group served received)).1.outstation = answered.1 ∧
      (step conf link (.poll group served received)).1.masterTable = link.masterTable ∧
      valuesOf (step conf link (.poll group served received)).2 =
        (processSOEScanRequestReturn answer).filterMap (reportedValue table) := by
  intro header answered
  have code : header.getFunctionCode = FUNC_SEND_NEW_SOE :=
    CBBlockData.getFunctionCode_addressBlock ..
  have station : header.getStationAddress = conf.master.outstationAddr % 16 :=
    CBBlockData.getStationAddress_addressBlock ..
  have reply : link.outstation.processCBMessage conf.outstation
      (conf.master.sendFn10SOEScanCommand group) served = answered := by
    rw [CBMasterConf.sendFn10SOEScanCommand, SOEExchange.processCBMessage_poll conf.outstation _ code served,
      if_pos linked.enabled]
  obtain ⟨first, rest, sent, sameStation, sameCode⟩ : ∃ first rest,
      sentMessages answered.2 = [first :: rest] ∧
        first.getStationAddress = header.getStationAddress ∧
        first.getFunctionCode = header.getFunctionCode := by
    by_cases empty : link.queue = []
    · obtain ⟨sent, -⟩ := SOEExchange.funcSendSOEResponse_empty header empty
      exact ⟨header, [], sent, rfl, rfl⟩
    · obtain ⟨⟨first, rest, sent, -, same⟩, -⟩ :=
        SOEExchange.funcSendSOEResponse_answer header empty
      exact ⟨first, rest, sent, same⟩
  have accepted := acceptsResponse_poll addressed group rest (sameStation.trans station)
    (sameCode.trans code)
  refine ⟨first :: rest, sent, ?_, rfl, ?_⟩
  · simp only [step, reply]
  · simp only [step, reply, sent, run_singleton, receiveSOEAnswer, accepted, if_true,
      linked.master]
    exact valuesOf_reports ..

/-- **What a poll publishes**: the values that leave the queue, or all but the last of them. -/
theorem poll_linked (addressed : Addressed conf.master) (linked : Linked table link)
    (group served received : Nat) :
    let stepped := step conf link (.poll group served received)
    Linked table stepped.1 ∧
      (link.queue ≠ [] → stepped.1.queue.length < link.queue.length) ∧
      (ReadWhole link (.poll group served received) ∧
          valuesOf stepped.2 ++ stepped.1.queue.map sentValue = link.queue.map sentValue ∨
        ¬ ReadWhole link (.poll group served received) ∧
          (valuesOf stepped.2).length + stepped.1.queue.length < link.queue.length) := by
  intro stepped
  obtain ⟨answer, sent, outstation, sameTable, values⟩ :=
    poll_result addressed linked group served received
  set header : CBBlockData :=
    .addressBlock conf.master.outstationAddr group FUNC_SEND_NEW_SOE 0#16 true with isHeader
  by_cases empty : link.queue = []
  · obtain ⟨sentHeader, nothing, -⟩ := SOEExchange.funcSendSOEResponse_empty header empty
    have stays : (link.outstation.funcSendSOEResponse header).1.pointTable =
        link.outstation.pointTable := by
      have held : link.outstation.pointTable.soe.binaryTimeTaggedEventQueue = [] := empty
      have same : { link.outstation.pointTable.soe with binaryTimeTaggedEventQueue := [] } =
          link.outstation.pointTable.soe := by
        rw [← held]
      simp [CBOutstation.funcSendSOEResponse, SOEQueue.timeTaggedDataAvailable, held, same]
    have sameQueue : stepped.1.queue = [] := by
      rw [queue, outstation, stays]
      exact empty
    refine ⟨⟨sameTable.trans linked.master, ?_, ?_, ?_, ?_⟩, fun some => absurd empty some,
      Or.inl ⟨Or.inl empty, ?_⟩⟩
    · rw [outstation]
      exact linked.enabled
    · rw [outstation, stays]
      exact linked.isOutstation
    · rw [outstation, stays]
      exact linked.points
    · rw [sameQueue]
      simp
    · rw [sentHeader] at sent
      rw [values, ← List.singleton_injective sent, nothing, sameQueue, empty]
      rfl
  · obtain ⟨⟨first, rest, sentAnswer, read, -⟩, tableIs, enabled, -⟩ :=
      SOEExchange.funcSendSOEResponse_answer header empty
    have held : link.outstation.pointTable.soe.binaryTimeTaggedEventQueue ≠ [] := empty
    have numbered : SOENumbered link.outstation.pointTable.soe.binaryTimeTaggedEventQueue :=
      linked.numbered
    have reports := receivedReports_packed link.outstation.clock header held numbered
    obtain ⟨split, popped, -⟩ := buildPackedEvents_spec link.outstation.clock held numbered
    change link.queue = _ at split
    generalize buildPackedEventBitArray link.outstation.clock
      link.outstation.pointTable.soe.binaryTimeTaggedEventQueue = packed at *
    have queueIs : stepped.1.queue = packed.remaining := by
      rw [queue, outstation, tableIs]
    have shorter : link.queue.length = packed.popped.length + packed.remaining.length := by
      rw [split, List.length_append]
    have some := List.length_pos_iff.mpr popped
    have knownPopped : ∀ record ∈ packed.popped, Known table record := fun record member =>
      linked.known record (by rw [split]; exact List.mem_append_left _ member)
    have answerIs : answer = first :: rest := by
      rw [sentAnswer] at sent
      exact (List.singleton_injective sent).symm
    rw [answerIs, read, reports] at values
    refine ⟨⟨sameTable.trans linked.master, ?_, ?_, ?_, ?_⟩, fun _ => by rw [queueIs]; omega, ?_⟩
    · rw [outstation, enabled]
      exact linked.enabled
    · rw [outstation, tableIs]
      exact linked.isOutstation
    · rw [outstation, tableIs]
      exact linked.points
    · rw [queueIs]
      exact fun record member =>
        linked.known record (by rw [split]; exact List.mem_append_right _ member)
    by_cases fits : SOEFits link.outstation.clock link.queue
    · have whole : SOEFits link.outstation.clock
          link.outstation.pointTable.soe.binaryTimeTaggedEventQueue := fits
      rw [if_pos whole, filterMap_expectedReports knownPopped] at values
      exact Or.inl ⟨Or.inr fits, by rw [values, queueIs, ← List.map_append, ← split]⟩
    · have missed : ¬ SOEFits link.outstation.clock
          link.outstation.pointTable.soe.binaryTimeTaggedEventQueue := fits
      rw [if_neg missed, filterMap_pointReport fun record member =>
        knownPopped record (List.mem_of_mem_dropLast member)] at values
      refine Or.inr ⟨fun readWhole => readWhole.elim empty fits, ?_⟩
      rw [values, queueIs, List.length_map, List.length_dropLast]
      omega

/-! ## Runs -/

/-- **A step moves values**: from what is given into the queue, and from the queue
to what is published. A record that is missed makes them fewer. -/
theorem step_linked (addressed : Addressed conf.master) (found : Found table)
    (linked : Linked table link) {action : SOELinkStep} (room : HasRoom link action) :
    let stepped := step conf link action
    Linked table stepped.1 ∧
      (ReadWhole link action ∧
          valuesOf stepped.2 ++ stepped.1.queue.map sentValue =
            link.queue.map sentValue ++ (given table action).map (onWire table) ∨
        ¬ ReadWhole link action ∧ (valuesOf stepped.2).length + stepped.1.queue.length <
          link.queue.length + (given table action).length) := by
  cases action with
  | event index meas timestamp now =>
      obtain ⟨still, queued⟩ :=
        @event_linked conf table link linked found index meas timestamp now room
      exact ⟨still, Or.inl ⟨trivial, queued⟩⟩
  | poll group served received =>
      obtain ⟨still, -, moved⟩ := poll_linked addressed linked group served received
      refine ⟨still, moved.imp ?_ ?_⟩
      · rintro ⟨whole, same⟩
        exact ⟨whole, by rw [same]; simp [given]⟩
      · rintro ⟨missed, fewer⟩
        exact ⟨missed, by simpa [given] using fewer⟩

theorem run_linked (addressed : Addressed conf.master) (found : Found table)
    (linked : Linked table link) {actions : List SOELinkStep}
    (room : Guarded (step conf) HasRoom link actions) :
    let final := run (step conf) link actions
    Linked table final.1 ∧
      (Guarded (step conf) ReadWhole link actions ∧
          valuesOf final.2 ++ final.1.queue.map sentValue =
            link.queue.map sentValue ++ (actions.flatMap (given table)).map (onWire table) ∨
        ¬ Guarded (step conf) ReadWhole link actions ∧
          (valuesOf final.2).length + final.1.queue.length <
            link.queue.length + (actions.flatMap (given table)).length) := by
  induction actions generalizing link with
  | nil => exact ⟨linked, Or.inl ⟨trivial, by simp [valuesOf]⟩⟩
  | cons action rest ih =>
      obtain ⟨now, later⟩ := room
      obtain ⟨still, first⟩ := step_linked addressed found linked now
      obtain ⟨atEnd, whole⟩ := ih still later
      refine ⟨atEnd, ?_⟩
      have published : valuesOf (run (step conf) link (action :: rest)).2 =
          valuesOf (step conf link action).2 ++
            valuesOf (run (step conf) (step conf link action).1 rest).2 := by
        rw [run_cons, valuesOf, List.filterMap_append]
        rfl
      rw [published, run_cons, List.flatMap_cons, List.map_append]
      rcases first with ⟨readNow, same⟩ | ⟨missedNow, fewer⟩
      · rcases whole with ⟨readLater, sameLater⟩ | ⟨missedLater, fewerLater⟩
        · refine Or.inl ⟨⟨readNow, readLater⟩, ?_⟩
          rw [List.append_assoc, sameLater, ← List.append_assoc, same, List.append_assoc]
        · have count := congrArg List.length same
          simp only [List.length_append, List.length_map] at count
          refine Or.inr ⟨fun guarded => missedLater guarded.2, ?_⟩
          simp only [List.length_append]
          omega
      · have later : (valuesOf (run (step conf) (step conf link action).1 rest).2).length +
            (run (step conf) (step conf link action).1 rest).1.queue.length ≤
              (step conf link action).1.queue.length + (rest.flatMap (given table)).length := by
          rcases whole with ⟨-, sameLater⟩ | ⟨-, fewerLater⟩
          · have count := congrArg List.length sameLater
            simp only [List.length_append, List.length_map] at count
            omega
          · omega
        refine Or.inr ⟨fun guarded => missedNow guarded.1, ?_⟩
        simp only [List.length_append]
        omega

/-- The values go on the wire as they are exactly when none is of a momentary contact A. -/
theorem given_upright (linked : Linked table link) (action : SOELinkStep) :
    (given table action).map (onWire table) = given table action ↔ Upright link action := by
  cases action with
  | event index meas timestamp now =>
      unfold Upright given
      rw [linked.master]
      cases there : table.binary.odcPointMap index with
      | none => simp [there]
      | some point =>
          cases isSOE : point.soePoint with
          | false => simp [there, isSOE]
          | true => simp [there, isSOE, onWire]
  | poll group served received => simp [given, Upright]

/-- **The values of a run**, for steps from any linked state. -/
theorem run_undisturbed_iff (addressed : Addressed conf.master) (found : Found table)
    (linked : Linked table link) {actions : List SOELinkStep}
    (room : Guarded (step conf) HasRoom link actions) :
    Guarded (step conf) Undisturbed link actions ↔
      Guarded (step conf) ReadWhole link actions ∧
        (actions.flatMap (given table)).map (onWire table) = actions.flatMap (given table) := by
  induction actions generalizing link with
  | nil => simp [Guarded]
  | cons action rest ih =>
      obtain ⟨still, -⟩ := step_linked addressed found linked room.1
      have sameLength : ((given table action).map (onWire table)).length =
          (given table action).length := List.length_map _
      rw [Guarded, Guarded, ih still room.2, Undisturbed, ← given_upright linked,
        List.flatMap_cons, List.map_append]
      constructor
      · rintro ⟨⟨first, readNow⟩, readLater, later⟩
        exact ⟨⟨readNow, readLater⟩, by rw [first, later]⟩
      · rintro ⟨⟨readNow, readLater⟩, whole⟩
        obtain ⟨first, later⟩ := List.append_inj whole sameLength
        exact ⟨⟨first, readNow⟩, readLater, later⟩

/-- Polls enough empty the queue. -/
theorem polls_empty (addressed : Addressed conf.master) (linked : Linked table link)
    (polls : List (Nat × Nat × Nat)) (enough : link.queue.length ≤ polls.length) :
    (run (step conf) link
      (polls.map fun poll => .poll poll.1 poll.2.1 poll.2.2)).1.queue = [] := by
  induction polls generalizing link with
  | nil => exact List.length_eq_zero_iff.mp (Nat.le_zero.mp enough)
  | cons poll rest ih =>
      obtain ⟨still, shorter, moved⟩ := poll_linked addressed linked poll.1 poll.2.1 poll.2.2
      rw [List.map_cons, run_cons]
      refine ih still ?_
      rw [List.length_cons] at enough
      by_cases empty : link.queue = []
      · have count : (step conf link (.poll poll.1 poll.2.1 poll.2.2)).1.queue.length ≤
            link.queue.length := by
          rcases moved with ⟨-, same⟩ | ⟨-, fewer⟩
          · have lengths := congrArg List.length same
            simp only [List.length_append, List.length_map] at lengths
            omega
          · omega
        rw [empty, List.length_nil] at count
        omega
      · have less := shorter empty
        omega

/-- All that the master publishes is binary. -/
theorem published_binary (link : SOELink) (actions : List SOELinkStep) :
    ∀ event ∈ (run (step conf) link actions).2, (binaryValue event).isSome := by
  have reported (table : PointTable) (now : Nat) (overflow : Bool) (report : SOEReport) :
      ∀ event ∈ (receiveSOEEvent table now overflow report).2, (binaryValue event).isSome := by
    intro event member
    simp only [receiveSOEEvent] at member
    split at member
    · split at member
      · cases member
      · rw [List.mem_singleton.mp member]
        rfl
    · cases member
  have answered (table : PointTable) (request : CBMessage) (now : Nat) (overflow : Bool)
      (answer : CBMessage) :
      ∀ event ∈ (receiveSOEAnswer conf.master table request now overflow answer).2,
        (binaryValue event).isSome := by
    intro event member
    simp only [receiveSOEAnswer] at member
    split at member
    · exact outputs_of_step (reported table now) _ _ event member
    · cases member
  refine outputs_of_step (fun link action event member => ?_) link actions
  cases action with
  | event index meas timestamp now => cases member
  | poll group served received =>
      exact outputs_of_step (answered link.masterTable _ received) _ _ event member

theorem map_binaryValue {events : List PublishedEvent}
    (binary : ∀ event ∈ events, (binaryValue event).isSome) :
    events.map binaryValue = (valuesOf events).map some := by
  induction events with
  | nil => rfl
  | cons event rest ih =>
      obtain ⟨value, isValue⟩ := Option.isSome_iff_exists.mp (binary event (by simp))
      have values : valuesOf (event :: rest) = value :: valuesOf rest :=
        List.filterMap_cons_some isValue
      rw [List.map_cons, ih fun other member => binary other (by simp [member]), values,
        List.map_cons, isValue]

/-! ## The values of a configuration -/

/-- The tables that a configuration makes are linked. -/
theorem start_linked {entries : List BinaryPointEntry} {loaded : PointTable}
    (accepted : processBinaryPoints .Binary entries {} = some (loaded, true))
    (distinct : SOEIndexesDistinct entries) (outstation : CBOutstation) (soeQueueSize : Nat) :
    Found (loaded.build false 5) ∧
      Linked (loaded.build false 5) (start outstation loaded soeQueueSize) ∧
      (start outstation loaded soeQueueSize).queue = [] := by
  obtain ⟨calls, made, result⟩ := Option.map_eq_some_iff.mp accepted
  have loadedIs : loaded = (PointTable.load {} calls).1 := by rw [result]
  have allAccepted : (PointTable.load {} calls).2 = true := by rw [result]
  obtain ⟨known, assignment⟩ := load_assignment calls soeAssignment_empty allAccepted
  rw [← loadedIs, List.nil_append] at assignment
  have empty : (start outstation loaded soeQueueSize).queue = [] := by
    change loaded.soe.binaryTimeTaggedEventQueue = []
    rw [loadedIs, load_soe]
  have everyPair := assignment.found_iff.mpr (distinct calls made)
  refine ⟨fun index point there isSOE => ?_, ⟨rfl, rfl, rfl, ⟨rfl, fun _ => rfl⟩, ?_⟩, empty⟩
  · obtain ⟨small, found⟩ := everyPair (index, point.soeIndex)
      ((assignment.points index point.soeIndex).mpr ⟨point, there, isSOE, rfl⟩)
    exact ⟨assignment.own index point there, small,
      getBinaryODCIndexUsingSOE_eq_some.mpr ⟨small, found⟩⟩
  · rw [empty]
    simp

/-- **The published values.** With distinct SOE indexes, after every run of events and
polls in which no event finds the queue full, enough polls empty the queue; and
when it is empty the master has published one event for each value that was given
to a SOE point, in order, with its ODC index and its value, exactly when no value
was given to a momentary contact A and the last record of every answer was read. -/
theorem run_valuesPublished_iff (conf : SOELinkConf) (addressed : Addressed conf.master)
    {entries : List BinaryPointEntry} {loaded : PointTable}
    (accepted : processBinaryPoints .Binary entries {} = some (loaded, true))
    (distinct : SOEIndexesDistinct entries) (outstation : CBOutstation) (soeQueueSize : Nat)
    {actions : List SOELinkStep}
    (room : Guarded (step conf) HasRoom (start outstation loaded soeQueueSize) actions) :
    let final := run (step conf) (start outstation loaded soeQueueSize) actions
    let values := actions.flatMap (given (loaded.build false 5))
    (∀ polls : List (Nat × Nat × Nat), final.1.queue.length ≤ polls.length →
      (run (step conf) final.1
        (polls.map fun poll => .poll poll.1 poll.2.1 poll.2.2)).1.queue = []) ∧
    (final.1.queue = [] →
      (final.2.map binaryValue = values.map some ↔
        Guarded (step conf) Undisturbed (start outstation loaded soeQueueSize) actions)) := by
  intro final values
  obtain ⟨found, linked, empty⟩ := start_linked accepted distinct outstation soeQueueSize
  obtain ⟨atEnd, outcome⟩ := run_linked addressed found linked room
  refine ⟨polls_empty addressed atEnd, fun emptied => ?_⟩
  change final.1.queue = [] at emptied
  rw [map_binaryValue (published_binary _ _), (List.map_injective_iff.mpr
    (Option.some_injective _)).eq_iff, run_undisturbed_iff addressed found linked room]
  change (_ ∧ valuesOf final.2 ++ final.1.queue.map sentValue = _ ∨
    _ ∧ (valuesOf final.2).length + final.1.queue.length < _) at outcome
  rw [emptied, empty, List.map_nil, List.append_nil, List.nil_append] at outcome
  rcases outcome with ⟨readWhole, published⟩ | ⟨missed, fewer⟩
  · rw [published]
    exact ⟨fun same => ⟨readWhole, same⟩, fun whole => whole.2⟩
  · refine iff_of_false (fun same => ?_) fun whole => missed whole.1
    change valuesOf final.2 = values at same
    rw [same] at fewer
    simp only [List.length_nil, Nat.zero_add, Nat.add_zero, values] at fewer
    exact Nat.lt_irrefl _ fewer

/-- A point of each type that comes out upright. -/
def uprightEntries : List BinaryPointEntry :=
  [{ index := some 4, payloadLocation := some ['1', 'B'], group := some 3, channel := some 1
     type := some ['D', 'I', 'G'], soe := some (some 1) },
    { index := some 7, payloadLocation := some ['2', 'A'], group := some 3, channel := some 1
      type := some ['M', 'C', 'B'], soe := some (some 2) }]

def uprightTable : PointTable := ((processBinaryPoints .Binary uprightEntries {}).getD ({}, false)).1

/-- Two events in one minute, one of them the other way, are published as given. -/
theorem run_valuesPublished_iff_upright :
    let actions : List SOELinkStep :=
      [.event 4 false 36000000 36000000, .event 7 true 36000250 36000250,
        .poll 3 36000300 36000400]
    (run (step { master := { outstationAddr := 9 } }) (start {} uprightTable 500) actions).2.map
        binaryValue = [some (4, false), some (7, true)] := by
  intro actions
  have published := @run_valuesPublished_iff { master := { outstationAddr := 9 } }
    (by unfold Addressed; decide) uprightEntries uprightTable rfl (by decide) {} 500 actions
    (by decide +kernel)
  exact (published.2 (by decide +kernel)).mpr (by decide +kernel)

/-- **An event comes out inverted**: a momentary contact A is given the value true,
and the master publishes false. -/
theorem run_valuesPublished_inverted :
    let entries : List BinaryPointEntry :=
      [{ index := some 4, payloadLocation := some ['2', 'A'], group := some 3, channel := some 1
         type := some ['M', 'C', 'A'], soe := some (some 1) }]
    let loaded := (processBinaryPoints .Binary entries {}).getD ({}, false)
    let actions : List SOELinkStep := [.event 4 true 36000000 36000000, .poll 3 36000300 36000400]
    let final := run (step { master := { outstationAddr := 9 } }) (start {} loaded.1 500) actions
    loaded.2 = true ∧ SOEIndexesDistinct entries ∧
      Guarded (step { master := { outstationAddr := 9 } }) HasRoom (start {} loaded.1 500)
        actions ∧
      final.1.queue = [] ∧ final.2.map binaryValue = [some (4, false)] ∧
      actions.flatMap (given (loaded.1.build false 5)) = [(4, true)] := by
  decide +kernel

end SOELink

end OpenDataCon.CBPort
