import OpenDataCon.Foundations.LastValues
import OpenDataCon.MD3Port.DigitalAnswers

/-!
# Convergence of binary points

A master polls an outstation that was loaded with the same points. No message is lost, and the
outstation has value events between the polls. What the master does not hold yet of a point is
to come: as the last event of its module on the queue, or by the mark of a change
(`PointInStep`). A notice that there is nothing to send then says that the master has the
values of the outstation (`run_noChange_converged`).

This needs events that keep what is to come (`SafeInput`). A point that is set to its value
again loses its mark, and the master never hears of the change before; a point without time tags
that changes while an event of its module is waiting is set back by that event; an event of a
module from 128 on is stored in another module; and an event that finds the queue full is lost.
-/

set_option autoImplicit false

namespace OpenDataCon.MD3Port

open MD3BlockData Runs LastValues

/-! ## Polls without loss -/

/-- An outstation and its master. -/
structure DigitalPair where
  outstation : DigitalOutstation
  master : BinaryTable
  digitalCommandSequenceNumber : Nat := 0

/-- An event at the outstation; a poll for changes, with or without events; a poll for a range of
modules; a new connection. -/
inductive PairInput where
  | event (index : Nat) (meas : Bool) (eventtime : Nat)
  | scan (timeTagged : Bool) (modulecount now : Nat)
  | unconditional (startmoduleaddress modulecount now : Nat)
  | connect
deriving DecidableEq, Repr

/-- A poll for changes was answered: whether there was nothing to send, and the pair after it. -/
structure PollResult where
  noChange : Bool
  pair : DigitalPair

namespace DigitalPair

/-- Both tables are loaded, and the numbers begin with zero. -/
def start (layout : BinaryLayout) : DigitalPair where
  outstation := { table := { layout, isOutstation := true } }
  master := { layout }

/-- A command is answered at once. -/
def poll (pair : DigitalPair) (code now : Nat) (answer : DigitalOutstation × MD3Message) :
    DigitalPair :=
  { outstation := answer.1
    master := (pair.master.processDigitalAnswer code now answer.2).1.1
    digitalCommandSequenceNumber :=
      nextDigitalCommandSequenceNumber pair.digitalCommandSequenceNumber }

def isNoChange (message : MD3Message) : Bool :=
  (message.headD {}).getFunctionCode == DIGITAL_NO_CHANGE_REPLY

/-- The most events that can be asked for, or none. -/
def taggedEventCount (timeTagged : Bool) : Nat := if timeTagged then 15 else 0

def step (stationAddress : Nat) (pair : DigitalPair) :
    PairInput → DigitalPair × List PollResult
  | .event index meas eventtime =>
    ({ pair with outstation := { pair.outstation with
        table := (pair.outstation.table.setBinaryValueUsingODCIndex index meas eventtime).1 } }, [])
  | .scan timeTagged modulecount now =>
    let answer := pair.outstation.doDigitalScan (MD3BlockFn11MtoS stationAddress
      (taggedEventCount timeTagged) pair.digitalCommandSequenceNumber modulecount)
    let after := pair.poll DIGITAL_CHANGE_OF_STATE_TIME_TAGGED now answer
    (after, [⟨isNoChange answer.2, after⟩])
  | .unconditional startmoduleaddress modulecount now =>
    let answer := pair.outstation.doDigitalUnconditional (MD3BlockFn12MtoS stationAddress
      startmoduleaddress pair.digitalCommandSequenceNumber modulecount)
    (pair.poll DIGITAL_UNCONDITIONAL now answer, [])
  | .connect => ({ pair with digitalCommandSequenceNumber := 0 }, [])

/-- Every point of the master has the value of the outstation. -/
def Converged (pair : DigitalPair) : Prop :=
  ∀ key ∈ pair.outstation.table.layout.keys,
    (pair.master.value key.md3Index).binary = (pair.outstation.table.value key.md3Index).binary

instance (pair : DigitalPair) : Decidable pair.Converged :=
  inferInstanceAs (Decidable (∀ key ∈ _, _))

/-! ## What is to come -/

/-- The module words of events. -/
def eventWords (events : List MD3BinaryPoint) : List (Nat × BitVec 16) :=
  events.map fun point => (point.moduleAddress, point.moduleBinarySnapShot)

/-- The word of the last event of a module on the queue. -/
def waiting (pair : DigitalPair) (moduleAddress : Nat) : Option (BitVec 16) :=
  lastFor moduleAddress (eventWords pair.outstation.table.binaryTimeTaggedEventQueue)

/-- What the master does not hold of a point is to come. -/
def PointInStep (pair : DigitalPair) (key : MD3PointKey) : Prop :=
  let value := pair.outstation.table.value key.md3Index
  match pair.waiting key.moduleAddress with
  | some word => word.getLsbD (15 - key.channel) = value.binary
  | none => value.changed = false → (pair.master.value key.md3Index).binary = value.binary

/-- The event keeps what is to come. A time-tagged event has a module that is read as it is, and
a place on the queue. Without time tags, a new value finds no event of its module on the queue,
and the old value again takes no mark that is needed. -/
def SafeEvent (pair : DigitalPair) (key : MD3PointKey) (meas : Bool) : Prop :=
  let value := pair.outstation.table.value key.md3Index
  if key.pointType = .TIMETAGGEDINPUT then
    key.moduleAddress < 128 ∧ pair.outstation.table.binaryTimeTaggedEventQueue.length < 255
  else if meas = value.binary then
    (pair.waiting key.moduleAddress).isSome ∨ value.changed = false ∨
      (pair.master.value key.md3Index).binary = meas
  else pair.waiting key.moduleAddress = none

instance (pair : DigitalPair) (key : MD3PointKey) (meas : Bool) :
    Decidable (pair.SafeEvent key meas) := by
  unfold SafeEvent
  infer_instance

/-- The step keeps what is to come; a poll is for as many modules as it can ask for. -/
def SafeInput (pair : DigitalPair) : PairInput → Prop
  | .event index meas _ =>
    ∀ key ∈ pair.outstation.table.layout.findODC index, pair.SafeEvent key meas
  | .scan _ modulecount _ => modulecount < 16
  | .unconditional _ modulecount _ => modulecount < 16
  | .connect => True

instance (pair : DigitalPair) (input : PairInput) : Decidable (pair.SafeInput input) := by
  cases input <;> unfold SafeInput <;> infer_instance

/-- The points are the same on both sides and in step, the events on the queue have modules that
are read as they are, and no number is used twice in a row. -/
structure PairInStep (pair : DigitalPair) : Prop where
  addressed : BinaryTable.Addressed pair.outstation.table.layout
  sameLayout : pair.master.layout = pair.outstation.table.layout
  isOutstation : pair.outstation.table.isOutstation = true
  newDigitalCommands : pair.outstation.table.newDigitalCommands = true
  queued : ∀ point ∈ pair.outstation.table.binaryTimeTaggedEventQueue,
    0 < point.moduleAddress ∧ point.moduleAddress < 128
  numberFits : pair.digitalCommandSequenceNumber < 16
  fresh : pair.digitalCommandSequenceNumber = 0 ∨
    pair.digitalCommandSequenceNumber ≠ pair.outstation.lastDigitalScanSequenceNumber
  inStep : ∀ key ∈ pair.outstation.table.layout.keys, pair.PointInStep key

/-- In step and with nothing to come, both sides have the same values. -/
theorem PairInStep.converged {pair : DigitalPair} (inStep : pair.PairInStep)
    (unchanged : ∀ key ∈ pair.outstation.table.layout.keys,
      pair.outstation.table.isChanged key = false)
    (noEvents : pair.outstation.table.binaryTimeTaggedEventQueue = []) : pair.Converged := by
  intro key member
  have point := inStep.inStep key member
  have nothing : pair.waiting key.moduleAddress = none := by
    rw [waiting, noEvents]
    rfl
  unfold PointInStep at point
  rw [nothing] at point
  exact point (unchanged key member)

theorem start_inStep {layout : BinaryLayout} (addressed : BinaryTable.Addressed layout) :
    (start layout).PairInStep where
  addressed := addressed
  sameLayout := rfl
  isOutstation := rfl
  newDigitalCommands := rfl
  queued := fun _ member => nomatch member
  numberFits := Nat.zero_lt_succ 15
  fresh := .inl rfl
  inStep := fun _ _ unchanged => nomatch unchanged

theorem nextDigitalCommandSequenceNumber_spec {number : Nat} (fits : number < 16) :
    nextDigitalCommandSequenceNumber number < 16 ∧
      nextDigitalCommandSequenceNumber number ≠ number := by
  unfold nextDigitalCommandSequenceNumber
  dsimp only
  split <;> split <;> omega

/-! ## Events -/

section Events

variable {pair : DigitalPair}

/-- Points of a layout are the same when their MD3 indexes are. -/
theorem md3Index_ne {layout : BinaryLayout} {first second : MD3PointKey}
    (isFirst : first ∈ layout.keys) (isSecond : second ∈ layout.keys) (apart : first ≠ second) :
    first.md3Index ≠ second.md3Index :=
  fun same => apart (BinaryLayout.eq_of_md3Index isFirst isSecond same)

/-- An event of a point without time tags. -/
theorem pointInStep_set (inStep : pair.PairInStep) {key : MD3PointKey}
    (member : key ∈ pair.outstation.table.layout.keys) {meas : Bool} (safe : pair.SafeEvent key meas)
    (plain : key.pointType ≠ .TIMETAGGEDINPUT) (eventtime : Nat) {other : MD3PointKey}
    (isOther : other ∈ pair.outstation.table.layout.keys) :
    PointInStep { pair with outstation := { pair.outstation with
      table := pair.outstation.table.modify key.md3Index (·.setBinary meas eventtime) } } other := by
  have before := inStep.inStep other isOther
  unfold PointInStep at before ⊢
  simp only [waiting, BinaryTable.modify_queue, BinaryTable.modify_value] at before ⊢
  by_cases same : other = key
  · subst same
    rw [if_pos rfl]
    unfold SafeEvent at safe
    rw [if_neg plain] at safe
    simp only [waiting] at safe
    cases last : lastFor other.moduleAddress
        (eventWords pair.outstation.table.binaryTimeTaggedEventQueue) with
    | some word =>
        rw [last] at before safe
        by_cases repeated : meas = (pair.outstation.table.value other.md3Index).binary
        · exact before.trans repeated.symm
        · rw [if_neg repeated] at safe
          cases safe
    | none =>
        rw [last] at before safe
        intro unchanged
        have repeated : (pair.outstation.table.value other.md3Index).binary = meas := by
          simpa [PointValue.setBinary] using unchanged
        rw [if_pos repeated.symm] at safe
        rcases safe with there | unmarked | holds
        · cases there
        · exact (before unmarked).trans repeated
        · exact holds
  · rw [if_neg (md3Index_ne isOther member same)]
    exact before

/-- An event with a time tag is on the queue, with the word of its module. -/
theorem pointInStep_tagged (inStep : pair.PairInStep) {key : MD3PointKey}
    (member : key ∈ pair.outstation.table.layout.keys) (meas : Bool) (eventtime : Nat)
    {other : MD3PointKey} (isOther : other ∈ pair.outstation.table.layout.keys) :
    let table := pair.outstation.table.modify key.md3Index (·.setBinary meas eventtime)
    PointInStep { pair with outstation := { pair.outstation with
      table := { table with binaryTimeTaggedEventQueue := table.binaryTimeTaggedEventQueue ++
        [table.pointWith key (table.collectModuleBitsIntoWord key.moduleAddress)] } } } other := by
  intro table
  have before := inStep.inStep other isOther
  unfold PointInStep at before ⊢
  have word := @lastFor_concat _ _ _ other.moduleAddress
    (eventWords pair.outstation.table.binaryTimeTaggedEventQueue) key.moduleAddress
    (table.collectModuleBitsIntoWord key.moduleAddress)
  simp only [waiting, eventWords, List.map_append, List.map_cons, List.map_nil] at before word ⊢
  by_cases same : key.moduleAddress = other.moduleAddress
  · rw [if_pos same] at word
    have bit := table.getLsbD_collectModuleBitsIntoWord isOther
    rw [← same] at bit
    simp only [BinaryTable.pointWith, table, BinaryTable.modify_queue] at word bit ⊢
    rw [word]
    exact bit
  · rw [if_neg same] at word
    have apart : other ≠ key := by
      rintro rfl
      exact same rfl
    simp only [BinaryTable.pointWith, table, BinaryTable.modify_queue, BinaryTable.modify_value,
      if_neg (md3Index_ne isOther member apart)] at word ⊢
    rw [word]
    exact before

/-- A time-tagged point with a place on the queue. -/
theorem addToDigitalEvents_tagged {table : BinaryTable} {key : MD3PointKey}
    (tagged : key.pointType = .TIMETAGGEDINPUT) (new : table.newDigitalCommands = true)
    (room : table.binaryTimeTaggedEventQueue.length < 255) :
    table.addToDigitalEvents key =
      { table with
        binaryTimeTaggedEventQueue := table.binaryTimeTaggedEventQueue ++
          [table.pointWith key (table.collectModuleBitsIntoWord key.moduleAddress)] } := by
  rw [BinaryTable.addToDigitalEvents, if_pos tagged, if_pos new]
  exact if_pos room

/-- **A safe event keeps the pair in step.** -/
theorem event_inStep (inStep : pair.PairInStep) {index : Nat} {meas : Bool} {eventtime : Nat}
    (safe : pair.SafeInput (.event index meas eventtime)) (stationAddress : Nat) :
    (pair.step stationAddress (.event index meas eventtime)).1.PairInStep := by
  simp only [step, BinaryTable.setBinaryValueUsingODCIndex]
  cases found : pair.outstation.table.layout.findODC index with
  | none => exact inStep
  | some key =>
      have member := (BinaryLayout.findODC_eq_some.mp found).1
      have safeEvent := safe key found
      simp only [BinaryTable.modify_isOutstation, inStep.isOutstation, if_true]
      by_cases tagged : key.pointType = .TIMETAGGEDINPUT
      · have limits := safeEvent
        unfold SafeEvent at limits
        rw [if_pos tagged] at limits
        obtain ⟨small, room⟩ := limits
        have queued := @addToDigitalEvents_tagged
          (pair.outstation.table.modify key.md3Index (·.setBinary meas eventtime)) key tagged
          inStep.newDigitalCommands room
        rw [queued]
        exact
          { inStep with
            queued := by
              intro point queued
              rcases List.mem_append.mp queued with earlier | now
              · exact inStep.queued point earlier
              · rw [List.mem_singleton.mp now]
                exact ⟨inStep.addressed key member, small⟩
            inStep := fun other isOther =>
              pointInStep_tagged inStep member meas eventtime isOther }
      · rw [BinaryTable.addToDigitalEvents, if_neg tagged]
        exact
          { inStep with
            inStep := fun other isOther =>
              pointInStep_set inStep member safeEvent tagged eventtime isOther }

end Events

/-! ## Answers -/

/-- The module words of reports. -/
def reportWords (reports : List ModuleReport) : List (Nat × BitVec 16) :=
  reports.map fun report => (report.moduleAddress, report.moduleData)

section Answers

theorem applyReport_layout (now : Nat) (state : BinaryTable × List PublishedBinary)
    (report : ModuleReport) :
    (BinaryTable.applyReport now state report).1.layout = state.1.layout := by
  rw [BinaryTable.applyReport,
    (BinaryTable.sameFrame_generateODCEvents state.1 report.moduleData report.moduleAddress
      report.eventtime now).1]

theorem foldl_applyReport_layout (now : Nat) (state : BinaryTable × List PublishedBinary)
    (reports : List ModuleReport) :
    (reports.foldl (BinaryTable.applyReport now) state).1.layout = state.1.layout := by
  induction reports generalizing state with
  | nil => rfl
  | cons report rest ih => rw [List.foldl_cons, ih, applyReport_layout]

/-- Of the words of its module, a point keeps the bit of the last one. -/
theorem foldl_applyReport_binary {table : BinaryTable} {key : MD3PointKey}
    (member : key ∈ table.layout.keys) (now : Nat) {reports : List ModuleReport}
    (small : ∀ report ∈ reports, report.moduleAddress < 256) (published : List PublishedBinary) :
    ((reports.foldl (BinaryTable.applyReport now) (table, published)).1.value key.md3Index).binary =
      ((lastFor key.moduleAddress (reportWords reports)).map fun word =>
        word.getLsbD (15 - key.channel)).getD (table.value key.md3Index).binary := by
  refine @foldl_lastFor Nat (BitVec 16) _ key.moduleAddress _ _ _ (BinaryTable.applyReport now)
    (fun state => (state.1.value key.md3Index).binary) (fun word => word.getLsbD (15 - key.channel))
    (fun report => (report.moduleAddress, report.moduleData))
    (fun state => key ∈ state.1.layout.keys) reports ?keeps ?sets ?leaves (table, published) member
  case keeps =>
    intro state report _ inside
    rw [applyReport_layout]
    exact inside
  case sets =>
    intro state report listed inside same
    rw [BinaryTable.applyReport, BinaryTable.binary_generateODCEvents _ _ _ _ inside
      (small report listed), if_pos same.symm]
  case leaves =>
    intro state report listed inside apart
    rw [BinaryTable.applyReport, BinaryTable.binary_generateODCEvents _ _ _ _ inside
      (small report listed), if_neg (Ne.symm apart)]

variable {pair : DigitalPair}

/-- An answer with the words of modules, whose marks are cleared, and with the first events of
the queue. -/
theorem pointInStep_answer {key : MD3PointKey} (before : pair.PointInStep key)
    (member : key ∈ pair.outstation.table.layout.keys) {modules : List Nat}
    {popped left : List MD3BinaryPoint} {after : DigitalPair}
    (queue : pair.outstation.table.binaryTimeTaggedEventQueue = popped ++ left)
    (afterQueue : after.outstation.table.binaryTimeTaggedEventQueue = left)
    (value : after.outstation.table.value key.md3Index =
      if key.moduleAddress ∈ modules then
        BinaryTable.clearChanged (pair.outstation.table.value key.md3Index)
      else pair.outstation.table.value key.md3Index)
    (read : (after.master.value key.md3Index).binary =
      ((lastFor key.moduleAddress (modules.map (fun moduleAddress =>
        (moduleAddress, pair.outstation.table.collectModuleBitsIntoWord moduleAddress)) ++
          eventWords popped)).map fun word => word.getLsbD (15 - key.channel)).getD
            (pair.master.value key.md3Index).binary) : after.PointInStep key := by
  have sameBit : (after.outstation.table.value key.md3Index).binary =
      (pair.outstation.table.value key.md3Index).binary := by
    rw [value]
    split <;> rfl
  have word := pair.outstation.table.getLsbD_collectModuleBitsIntoWord member
  unfold PointInStep waiting at before ⊢
  rw [queue, eventWords, List.map_append, lastFor_append, ← eventWords, ← eventWords] at before
  rw [afterQueue]
  simp only [sameBit]
  rw [lastFor_append, lastFor_graph] at read
  cases later : lastFor key.moduleAddress (eventWords left) with
  | some last =>
      rw [later] at before
      exact before
  | none =>
      rw [later] at before
      intro unchanged
      rw [read]
      cases sent : lastFor key.moduleAddress (eventWords popped) with
      | some last =>
          rw [sent] at before
          exact before
      | none =>
          rw [sent] at before
          by_cases listed : key.moduleAddress ∈ modules
          · rw [if_pos listed]
            exact word
          · rw [if_neg listed]
            rw [value, if_neg listed] at unchanged
            exact before unchanged

/-- The words of events whose module addresses have seven bits are read as they are. -/
theorem reportWords_reportsOfEvents {events : List MD3BinaryPoint}
    (small : ∀ point ∈ events, point.moduleAddress < 128) (timebase last : Nat) :
    reportWords (reportsOfEvents timebase last events) = eventWords events := by
  induction events generalizing timebase last with
  | nil => rfl
  | cons point rest ih =>
      have later := ih (fun other after => small other (.tail _ after))
        (timebase + timeDifference point.changedTime last) point.changedTime
      unfold reportWords at later
      rw [reportsOfEvents, reportWords, List.map_cons, later,
        Nat.mod_eq_of_lt (small point (.head _))]
      rfl

theorem reportWords_streamReports (soeTimeOffsetMinutes : Int) {events : List MD3BinaryPoint}
    (small : ∀ point ∈ events, point.moduleAddress < 128) :
    reportWords (streamReports soeTimeOffsetMinutes events) = eventWords events := by
  cases events with
  | nil => rfl
  | cons point rest => exact reportWords_reportsOfEvents small _ _

/-- Reports of small modules, from their words. -/
theorem small_of_reportWords {reports : List ModuleReport} {bound : Nat}
    (small : ∀ entry ∈ reportWords reports, entry.1 < bound) :
    ∀ report ∈ reports, report.moduleAddress < bound :=
  fun _ listed => small _ (List.mem_map_of_mem listed)

/-- The pair while the answer is built. -/
def marked (pair : DigitalPair) (header : MD3BlockData) : DigitalPair :=
  { pair with outstation := pair.outstation.marked header }

theorem marked_inStep (inStep : pair.PairInStep) (header : MD3BlockData) :
    (pair.marked header).PairInStep := by
  unfold marked DigitalOutstation.marked
  split
  · exact
      { inStep with
        inStep := by
          intro key member
          have before := inStep.inStep key member
          unfold PointInStep waiting at before ⊢
          have listed : key.md3Index ∈
              pair.outstation.table.layout.keys.map MD3PointKey.md3Index :=
            List.mem_map_of_mem member
          simp only [BinaryTable.markAllBinaryPointsAsChanged, if_pos listed]
          split
          · next word last =>
            rw [last] at before
            exact before
          · intro unchanged
            contradiction }
  · exact inStep

end Answers

/-! ## Polls -/

section Polls

variable {pair : DigitalPair} {stationAddress : Nat}

/-- The request that a poll for changes is. -/
def scanRequest (pair : DigitalPair) (stationAddress : Nat) (timeTagged : Bool)
    (modulecount : Nat) : MD3BlockData :=
  MD3BlockFn11MtoS stationAddress (taggedEventCount timeTagged) pair.digitalCommandSequenceNumber
    modulecount

/-- A number that was not used last is no repeat. -/
theorem isRepeat_eq_false (inStep : pair.PairInStep) {header : MD3BlockData}
    (number : header.getDigitalSequenceNumber = pair.digitalCommandSequenceNumber) :
    pair.outstation.isRepeat header = false := by
  unfold DigitalOutstation.isRepeat
  rw [number]
  rcases inStep.fresh with zero | apart
  · simp [zero]
  · simp [apart]

/-- An answer with data: the words of modules, whose marks are cleared, and the first events of
the queue, all of which the master reads. -/
structure Carries (pair : DigitalPair) (now : Nat) (answer : DigitalOutstation × MD3Message)
    (modules : List Nat) (popped : List MD3BinaryPoint) : Prop where
  sameLayout : answer.1.table.layout = pair.outstation.table.layout
  isOutstation : answer.1.table.isOutstation = pair.outstation.table.isOutstation
  newDigitalCommands :
    answer.1.table.newDigitalCommands = pair.outstation.table.newDigitalCommands
  queue : popped ++ answer.1.table.binaryTimeTaggedEventQueue =
    pair.outstation.table.binaryTimeTaggedEventQueue
  value : ∀ key ∈ pair.outstation.table.layout.keys, answer.1.table.value key.md3Index =
    if key.moduleAddress ∈ modules then
      BinaryTable.clearChanged (pair.outstation.table.value key.md3Index)
    else pair.outstation.table.value key.md3Index
  number : answer.1.lastDigitalScanSequenceNumber = pair.digitalCommandSequenceNumber
  data : (answer.2.headD {}).getFunctionCode = DIGITAL_CHANGE_OF_STATE_TIME_TAGGED
  read : reportWords (digitalReports now (answer.2.headD {}) answer.2).1 =
    modules.map (fun moduleAddress =>
      (moduleAddress, pair.outstation.table.collectModuleBitsIntoWord moduleAddress)) ++
        eventWords popped
  small : ∀ moduleAddress ∈ modules, moduleAddress < 256

section Carries

variable {now : Nat} {answer : DigitalOutstation × MD3Message} {modules : List Nat}
  {popped : List MD3BinaryPoint}

theorem Carries.isNoChange_eq_false (carries : pair.Carries now answer modules popped) :
    isNoChange answer.2 = false := by
  rw [isNoChange, carries.data]
  rfl

/-- The master processes what it reads. -/
theorem Carries.master_eq (carries : pair.Carries now answer modules popped) (code : Nat) :
    (pair.master.processDigitalAnswer code now answer.2).1.1 =
      ((digitalReports now (answer.2.headD {}) answer.2).1.foldl (BinaryTable.applyReport now)
        (pair.master, [])).1 := by
  have data := carries.data
  generalize answer.2 = message at data ⊢
  cases message with
  | nil => cases data
  | cons header blocks =>
      rw [List.headD_cons] at data ⊢
      have notQuiet : ¬header.getFunctionCode = DIGITAL_NO_CHANGE_REPLY := by
        rw [data]
        decide
      rw [BinaryTable.processDigitalAnswer, if_neg notQuiet, if_pos (.inl data)]
      rfl

theorem Carries.small_words (inStep : pair.PairInStep)
    (carries : pair.Carries now answer modules popped) :
    ∀ report ∈ (digitalReports now (answer.2.headD {}) answer.2).1,
      report.moduleAddress < 256 := by
  apply small_of_reportWords
  rw [carries.read]
  intro entry listed
  rcases List.mem_append.mp listed with plain | tagged
  · obtain ⟨moduleAddress, sent, rfl⟩ := List.mem_map.mp plain
    exact carries.small moduleAddress sent
  · obtain ⟨point, taken, rfl⟩ := List.mem_map.mp tagged
    have queued : point ∈ pair.outstation.table.binaryTimeTaggedEventQueue := by
      rw [← carries.queue]
      exact List.mem_append_left _ taken
    exact Nat.lt_trans (inStep.queued point queued).2 (by decide)

/-- **An answer with data keeps the pair in step.** -/
theorem Carries.poll_inStep (inStep : pair.PairInStep)
    (carries : pair.Carries now answer modules popped) (code : Nat) :
    (pair.poll code now answer).PairInStep := by
  obtain ⟨nextFits, nextApart⟩ := nextDigitalCommandSequenceNumber_spec inStep.numberFits
  have master := carries.master_eq code
  exact
    { addressed := by
        rw [poll, carries.sameLayout]
        exact inStep.addressed
      sameLayout := by
        rw [poll, master, foldl_applyReport_layout, carries.sameLayout]
        exact inStep.sameLayout
      isOutstation := carries.isOutstation.trans inStep.isOutstation
      newDigitalCommands := carries.newDigitalCommands.trans inStep.newDigitalCommands
      queued := by
        intro point left
        apply inStep.queued
        rw [← carries.queue]
        exact List.mem_append_right _ left
      numberFits := nextFits
      fresh := .inr (by
        rw [poll, carries.number]
        exact nextApart)
      inStep := by
        intro key member
        rw [poll, carries.sameLayout] at member
        refine pointInStep_answer (inStep.inStep key member) member carries.queue.symm rfl
          (carries.value key member) ?_
        have inMaster : key ∈ pair.master.layout.keys := by
          rw [inStep.sameLayout]
          exact member
        rw [poll, master, foldl_applyReport_binary inMaster now (carries.small_words inStep),
          carries.read] }

end Carries

/-- An answer to a poll for changes carries the changed modules and the first events. -/
theorem sendChanges_carries (inStep : pair.PairInStep) (now : Nat) {header : MD3BlockData}
    (number : header.getDigitalSequenceNumber = pair.digitalCommandSequenceNumber) :
    let answer := pair.outstation.sendChanges header
    pair.Carries now (answer.1.keep header answer.2, answer.2) (pair.outstation.sentModules header)
      (pair.outstation.poppedEvents header) := by
  have poppedSmall : ∀ point ∈ pair.outstation.poppedEvents header, point.moduleAddress < 128 :=
    fun point popped => (inStep.queued point ((sentEvents_first _ _).subset popped)).2
  have sends := DigitalOutstation.sendChanges_eq header fun point queued =>
    point.not_isOverFlowMarkerPoint (Nat.pos_iff_ne_zero.mp (inStep.queued point queued).1)
  have reads := DigitalOutstation.digitalReports_sent header inStep.addressed
    (fun point queued => ⟨(inStep.queued point queued).1,
      Nat.lt_trans (inStep.queued point queued).2 (by decide)⟩) now
  have frame := BinaryTable.sameFrame_clearModules (pair.outstation.sentModules header)
    pair.outstation.table
  have small : ∀ moduleAddress ∈ pair.outstation.sentModules header, moduleAddress < 256 :=
    fun moduleAddress sent =>
      (DigitalOutstation.addressed_sentModules header inStep.addressed sent).2
  simp only [sends]
  exact
    { sameLayout := frame.1
      isOutstation := frame.2.1
      newDigitalCommands := frame.2.2.1
      queue := sentEvents_append_drop _ _
      value := fun key member => BinaryTable.clearModules_value _ member small
      number := number
      data := by
        rw [List.headD_cons, DigitalOutstation.sentHeader, getFunctionCode_answered _ _ _ _
          (DigitalOutstation.length_sentModules header)
          (DigitalOutstation.length_poppedEvents header), getFunctionCode_answer]
      read := by
        rw [List.headD_cons, reads, reportWords, List.map_append, ← reportWords, ← reportWords,
          reportWords_streamReports _ poppedSmall, DigitalOutstation.moduleWords, reportWords,
          List.map_map]
        rfl
      small := small }

/-- An answer to a poll for a range of modules carries those modules. -/
theorem doDigitalUnconditional_carries (inStep : pair.PairInStep) (now : Nat)
    {header : MD3BlockData}
    (number : header.getDigitalSequenceNumber = pair.digitalCommandSequenceNumber) :
    ∃ modules,
      pair.Carries now (pair.outstation.doDigitalUnconditional header) modules [] := by
  let moduleList := pair.outstation.table.buildListOfModuleAddressesGivenRange
    header.getModuleCount header.getModuleAddress true
  let modules := moduleList.take header.getModuleCount
  have small : ∀ moduleAddress ∈ modules, moduleAddress < 256 := by
    intro moduleAddress sent
    obtain ⟨i, -, rfl⟩ := List.mem_map.mp (List.mem_of_mem_take sent)
    exact Nat.mod_lt _ (by decide)
  have fits : (pair.outstation.table.moduleBlocks modules).length < 16 := by
    rw [BinaryTable.moduleBlocks, List.length_map]
    exact Nat.lt_of_le_of_lt (List.length_take_le _ _) header.getModuleCount_lt
  have reads := moduleReports_moduleBlocks pair.outstation.table small now []
  have frame := BinaryTable.sameFrame_clearModules modules pair.outstation.table
  have answer : pair.outstation.table.buildScanReturnBlocksFromList moduleList
      header.getModuleCount = (pair.outstation.table.clearModules modules,
        pair.outstation.table.moduleBlocks modules) := BinaryTable.buildScanReturnBlocks_eq ..
  refine ⟨modules.filter (0 < ·), ?_⟩
  rw [DigitalOutstation.doDigitalUnconditional, isRepeat_eq_false inStep number]
  simp only [moduleList] at answer
  simp only [Bool.false_eq_true, if_false, answer]
  exact
    { sameLayout := frame.1
      isOutstation := frame.2.1
      newDigitalCommands := frame.2.2.1
      queue := frame.2.2.2
      value := by
        intro key member
        refine (BinaryTable.clearModules_value _ member small).trans ?_
        have real := inStep.addressed key member
        simp only [List.mem_filter, decide_eq_true_eq, real, and_true]
      number := number
      data := by
        rw [List.headD_cons, getFunctionCode_setFlags, getFunctionCode_setModuleCount _ fits,
          getFunctionCode_answer]
      read := by
        rw [List.append_nil] at reads
        rw [List.headD_cons, digitalReports, getModuleCount_setFlags,
          getModuleCount_setModuleCount _ fits, getTaggedEventCount_setFlags,
          getTaggedEventCount_setModuleCount _ fits,
          getTaggedEventCount_answer _ header.getDigitalSequenceNumber_lt, List.drop_one,
          List.tail_cons]
        rw [BinaryTable.moduleBlocks, List.length_map, ← BinaryTable.moduleBlocks, reads]
        simp only [Nat.lt_irrefl, if_false, reportWords, List.map_map, eventWords, List.map_nil,
          List.append_nil]
        rfl
      small := fun moduleAddress listed => small moduleAddress (List.mem_of_mem_filter listed) }

/-- **A poll for changes keeps the pair in step, and when there is nothing to send, the master
has every value.** -/
theorem scan_inStep (inStep : pair.PairInStep) (timeTagged : Bool) {modulecount : Nat}
    (fits : modulecount < 16) (now : Nat) :
    (pair.step stationAddress (.scan timeTagged modulecount now)).1.PairInStep ∧
      ∀ result ∈ (pair.step stationAddress (.scan timeTagged modulecount now)).2,
        result.noChange = true → result.pair.Converged := by
  let header := pair.scanRequest stationAddress timeTagged modulecount
  have number : header.getDigitalSequenceNumber = pair.digitalCommandSequenceNumber :=
    getDigitalSequenceNumber_request stationAddress _ inStep.numberFits fits
  have before := marked_inStep inStep header
  obtain ⟨nextFits, nextApart⟩ := nextDigitalCommandSequenceNumber_spec inStep.numberFits
  have fresh := DigitalOutstation.doDigitalScan_fresh header (isRepeat_eq_false inStep number)
  simp only [step, List.mem_singleton, forall_eq]
  rw [← scanRequest, fresh]
  by_cases quiet : (pair.outstation.marked header).Quiet
  · simp only [if_pos quiet]
    have isQuiet : ((MD3BlockFn14StoM header.getStationAddress
        header.getDigitalSequenceNumber).setFlags (pair.outstation.marked header).flags.RSF
          (pair.outstation.marked header).flags.HRP
          (pair.outstation.marked header).flags.DCP).getFunctionCode = DIGITAL_NO_CHANGE_REPLY := by
      rw [getFunctionCode_setFlags, getFunctionCode_noChange]
    obtain ⟨unmarked, noEvents⟩ := quiet
    have unchanged :=
      (BinaryTable.countBinaryBlocksWithChanges_eq_zero before.addressed).mp unmarked
    have empty : (pair.outstation.marked header).table.binaryTimeTaggedEventQueue = [] := by
      simpa [DigitalOutstation.timeTaggedDataAvailable] using noEvents
    simp only [poll, BinaryTable.processDigitalAnswer, if_pos isQuiet]
    refine ⟨?_, fun _ => before.converged unchanged empty⟩
    exact
      { before with
        numberFits := nextFits
        fresh := .inr (by
          rw [DigitalOutstation.keep, number]
          exact nextApart) }
  · simp only [if_neg quiet]
    have carries := sendChanges_carries before now number
    refine ⟨carries.poll_inStep before _, fun noChange => ?_⟩
    have data := carries.isNoChange_eq_false
    exact absurd (noChange.symm.trans data) (by decide)

/-- **A safe step keeps the pair in step, and when there is nothing to send, the master has every
value.** -/
theorem step_inStep (inStep : pair.PairInStep) {input : PairInput} (safe : pair.SafeInput input) :
    (pair.step stationAddress input).1.PairInStep ∧
      ∀ result ∈ (pair.step stationAddress input).2,
        result.noChange = true → result.pair.Converged := by
  cases input with
  | event index meas eventtime =>
      exact ⟨event_inStep inStep safe stationAddress, fun _ listed => nomatch listed⟩
  | scan timeTagged modulecount now => exact scan_inStep inStep timeTagged safe now
  | unconditional startmoduleaddress modulecount now =>
      have number := getDigitalSequenceNumber_unconditional stationAddress startmoduleaddress
        inStep.numberFits safe
      obtain ⟨modules, carries⟩ := doDigitalUnconditional_carries inStep now number
      exact ⟨carries.poll_inStep inStep _, fun _ listed => nomatch listed⟩
  | connect =>
      exact ⟨{ inStep with numberFits := Nat.zero_lt_succ 15, fresh := .inl rfl },
        fun _ listed => nomatch listed⟩

end Polls

end DigitalPair

/-- **In every run of safe steps, whenever a poll for changes is answered with a notice that
there is nothing to send, every point of the master has the value of the outstation.** -/
theorem run_noChange_converged (stationAddress : Nat) {layout : BinaryLayout}
    (addressed : BinaryTable.Addressed layout) {inputs : List PairInput}
    (safe : Guarded (DigitalPair.step stationAddress) DigitalPair.SafeInput
      (DigitalPair.start layout) inputs) :
    ∀ result ∈ (run (DigitalPair.step stationAddress) (DigitalPair.start layout) inputs).2,
      result.noChange = true → result.pair.Converged :=
  guarded_outputs DigitalPair.PairInStep
    (fun _ _ inStep safe => (DigitalPair.step_inStep inStep safe).1)
    (fun _ _ inStep safe => (DigitalPair.step_inStep inStep safe).2)
    (DigitalPair.start_inStep addressed) safe

/-- Two points of module 1, the second with time tags; a time-tagged point of module 200; and a
point of module 72. -/
def mixedLayout : BinaryLayout :=
  processBinaryPoints
    [{ start := 0, stop := 0, module := 1 },
      { start := 1, stop := 1, module := 1, offset := 1, pointType := .TIMETAGGEDINPUT },
      { start := 2, stop := 2, module := 200, pointType := .TIMETAGGEDINPUT },
      { start := 3, stop := 3, module := 72 }] {}

/-- Both points of module 1 change between two polls. -/
theorem run_noChange_converged_bothChange :
    let inputs : List PairInput := [.scan true 15 0, .event 0 false 1000, .event 1 false 1200,
      .scan true 15 2000, .scan true 15 3000]
    let results := (run (DigitalPair.step 0x7C) (DigitalPair.start mixedLayout) inputs).2
    results.map PollResult.noChange = [false, false, true] ∧
      ∀ result ∈ results, result.noChange = true → result.pair.Converged :=
  ⟨by decide +kernel,
    run_noChange_converged 0x7C (by unfold BinaryTable.Addressed; decide +kernel)
      (by decide +kernel)⟩

/-- Some notice of the run that there is nothing to send finds the two sides apart. -/
abbrev NoticeApart (inputs : List PairInput) : Prop :=
  ∃ result ∈ (run (DigitalPair.step 0x7C) (DigitalPair.start mixedLayout) inputs).2,
    result.noChange = true ∧ ¬result.pair.Converged

/-- A notice that there is nothing to send while the master has another value: after a value that
was set twice, after a change behind an event of the same module, and after an event of a module
that is read as another one. -/
theorem run_noChange_apart :
    NoticeApart
        [.scan true 15 0, .event 0 false 1000, .event 0 false 1200, .scan true 15 2000] ∧
      NoticeApart
        [.scan true 15 0, .event 1 false 1000, .event 0 false 1200, .scan true 15 2000,
          .scan true 15 3000] ∧
      NoticeApart
        [.scan true 15 0, .event 2 false 1000, .scan true 15 2000, .scan true 15 3000] := by
  decide +kernel

end OpenDataCon.MD3Port
