import OpenDataCon.MD3Port.DigitalScan

/-!
# Answers to a digital scan

The master reads the module words of an answer, as many as the header says, and then the stream
of events. From the answer to a scan that is not a repeat it reads the module words that were
sent, each with the time of the reading, and after them the events that were taken from the
queue, each with its own time (`digitalReports_doDigitalScan`). Of the module address of an event
seven bits are read: the events are read as they were exactly when no module address has the
eighth bit (`doDigitalScan_read_iff`).
-/

set_option autoImplicit false

namespace OpenDataCon.MD3Port

open MD3BlockData

/-! ## Reading an answer -/

/-- The number that follows; zero is answered with one, and so two follows. -/
def nextDigitalCommandSequenceNumber (number : Nat) : Nat :=
  let number := (if number = 0 then number + 1 else number) + 1
  if 15 < number then 1 else number

/-- Read the module words; the second result is the rest of the blocks, if there were enough. -/
def moduleReports (now : Nat) : Nat → MD3Message → List ModuleReport × Option MD3Message
  | 0, blocks => ([], some blocks)
  | _ + 1, [] => ([], none)
  | count + 1, block :: blocks =>
    let moduleAddress := (block.getByte 0).toNat
    let msecOffset := (block.getByte 1).toNat
    let later := moduleReports now count blocks
    -- a status block, which is not processed
    if moduleAddress = 0 ∧ msecOffset = 0 then later
    else (⟨block.getSecondWord, moduleAddress, now⟩ :: later.1, later.2)

/-- The words of blocks, in order. -/
def blockWords (blocks : MD3Message) : List (BitVec 16) :=
  blocks.flatMap fun block => [block.getFirstWord, block.getSecondWord]

/-- What the master reads from an answer, and whether it was complete. -/
def digitalReports (now : Nat) (header : MD3BlockData) (completeMD3Message : MD3Message) :
    List ModuleReport × Bool :=
  let modules := moduleReports now header.getModuleCount (completeMD3Message.drop 1)
  match modules.2 with
  | none => (modules.1, false)
  | some blocks =>
    if 0 < header.getTaggedEventCount then
      match blocks with
      | [] => (modules.1, false)
      | timedate :: blocks =>
        let events := taggedReports (timedate.data.toNat * 1000) (blockWords blocks)
        (modules.1 ++ events.1, events.2)
    else (modules.1, true)

/-- Store a word that was read, and publish what is new in it. -/
def BinaryTable.applyReport (now : Nat) (state : BinaryTable × List PublishedBinary)
    (report : ModuleReport) : BinaryTable × List PublishedBinary :=
  let stored := state.1.generateODCEventsFromMD3ModuleWord report.moduleData
    report.moduleAddress report.eventtime now
  (stored.1, state.2 ++ stored.2)

/-- The words are stored as they are read. -/
def BinaryTable.processDigitalScan (table : BinaryTable) (now : Nat) (header : MD3BlockData)
    (completeMD3Message : MD3Message) : (BinaryTable × List PublishedBinary) × Bool :=
  let reports := digitalReports now header completeMD3Message
  (reports.1.foldl (BinaryTable.applyReport now) (table, []), reports.2)

/-- An answer to a digital command, by the function of the command: a notice that there is
nothing to send, or data. -/
def BinaryTable.processDigitalAnswer (table : BinaryTable) (code now : Nat) :
    MD3Message → (BinaryTable × List PublishedBinary) × Bool
  | [] => ((table, []), false)
  | header :: blocks =>
    if header.getFunctionCode = DIGITAL_NO_CHANGE_REPLY then ((table, []), blocks.isEmpty)
    else if header.getFunctionCode = DIGITAL_CHANGE_OF_STATE_TIME_TAGGED ∨
        code = DIGITAL_UNCONDITIONAL ∧ header.getFunctionCode = DIGITAL_UNCONDITIONAL then
      table.processDigitalScan now header (header :: blocks)
    else ((table, []), false)

/-! ## Reading what was written -/

section Words

/-- The words of blocks that were filled with words, and the filler. -/
theorem blockWords_wordBlocks (values : List (BitVec 16)) :
    ∃ filler, blockWords (wordBlocks values) = values ++ filler ∧
      (filler = [] ∨ filler = [0#16]) := by
  fun_induction wordBlocks values with
  | case1 => exact ⟨[], rfl, .inl rfl⟩
  | case2 first => exact ⟨[0#16], by simp [blockWords], .inr rfl⟩
  | case3 first second rest ih =>
      obtain ⟨filler, read, kind⟩ := ih
      refine ⟨filler, ?_, kind⟩
      rw [blockWords, List.flatMap_cons, getFirstWord_words, getSecondWord_words, ← blockWords,
        read]
      rfl

theorem taggedReports_filler {filler : List (BitVec 16)}
    (kind : filler = [] ∨ filler = [0#16]) (time : Nat) :
    taggedReports time filler = ([], true) := by
  rcases kind with rfl | rfl <;> rfl

/-- Two halves of a word make the word again. -/
theorem words_halves (seconds : BitVec 32) :
    (words ((seconds >>> 16).setWidth 16) (seconds.setWidth 16)).data = seconds := by
  apply BitVec.eq_of_getLsbD_eq
  intro i bound
  simp only [words, BitVec.getLsbD_or, BitVec.getLsbD_shiftLeft, BitVec.getLsbD_setWidth,
    BitVec.getLsbD_ushiftRight]
  by_cases high : i < 16
  · simp [high, bound]
  · simp [high, bound, show i - 16 < 16 by omega, show 16 + (i - 16) = i by omega]
    omega

/-- The bytes of a block of two words. -/
theorem getByte_words (first second : BitVec 16) :
    ((words first second).getByte 0).toNat = first.toNat / 256 ∧
      ((words first second).getByte 1).toNat = first.toNat % 256 := by
  have data : (words first second).data.toNat = first.toNat * 65536 + second.toNat := by
    rw [words, BitVec.toNat_or, BitVec.toNat_shiftLeft, BitVec.toNat_setWidth,
      BitVec.toNat_setWidth, Nat.mod_eq_of_lt (by omega), Nat.mod_eq_of_lt (by omega),
      Nat.shiftLeft_eq, Nat.mod_eq_of_lt (by omega), ← Nat.shiftLeft_eq,
      ← Nat.shiftLeft_add_eq_or_of_lt second.isLt, Nat.shiftLeft_eq]
  have byte : ∀ b, ((words first second).getByte b).toNat =
      (words first second).data.toNat / 2 ^ (8 * (3 - b)) % 256 := by
    intro b
    rw [getByte, BitVec.toNat_setWidth, BitVec.toNat_and, BitVec.toNat_ushiftRight,
      Nat.shiftRight_eq_div_pow]
    have masked : ∀ n : Nat, (n &&& (0xFF#32).toNat) % 2 ^ 8 = n % 256 := by
      intro n
      rw [show (0xFF#32).toNat = 2 ^ 8 - 1 from rfl, Nat.and_two_pow_sub_one_eq_mod, Nat.mod_mod]
    exact masked _
  have small := second.isLt
  constructor
  · rw [byte, data]
    omega
  · rw [byte, data]
    omega

theorem moduleWord_toNat {moduleAddress : Nat} (small : moduleAddress < 256) :
    (BitVec.ofNat 16 moduleAddress <<< 8).toNat = moduleAddress * 256 := by
  rw [BitVec.toNat_shiftLeft, BitVec.toNat_ofNat, Nat.shiftLeft_eq]
  omega

/-- The module words that were sent are read, except that of a module zero, and the blocks after
them are left. -/
theorem moduleReports_moduleBlocks (table : BinaryTable) {modules : List Nat}
    (small : ∀ moduleAddress ∈ modules, moduleAddress < 256) (now : Nat) (rest : MD3Message) :
    moduleReports now modules.length (table.moduleBlocks modules ++ rest) =
      ((modules.filter (0 < ·)).map fun moduleAddress =>
        ⟨table.collectModuleBitsIntoWord moduleAddress, moduleAddress, now⟩, some rest) := by
  induction modules with
  | nil => rfl
  | cons moduleAddress after ih =>
      have word := moduleWord_toNat (small moduleAddress (.head _))
      obtain ⟨byte0, byte1⟩ := getByte_words (BitVec.ofNat 16 moduleAddress <<< 8)
        (table.collectModuleBitsIntoWord moduleAddress)
      rw [BinaryTable.moduleBlocks, List.map_cons, List.cons_append, List.length_cons,
        moduleReports, ← BinaryTable.moduleBlocks, ih fun other later => small other
          (.tail _ later)]
      simp only [BinaryTable.moduleBlock, byte0, byte1, word, getSecondWord_words]
      by_cases real : 0 < moduleAddress
      · have notStatus : ¬(moduleAddress * 256 / 256 = 0 ∧ moduleAddress * 256 % 256 = 0) := by
          omega
        rw [if_neg notStatus, Nat.mul_div_cancel _ (by decide),
          List.filter_cons_of_pos (by simpa using real)]
        rfl
      · have isStatus : moduleAddress * 256 / 256 = 0 ∧ moduleAddress * 256 % 256 = 0 := by
          omega
        rw [if_pos isStatus, List.filter_cons_of_neg (by simpa using real)]

end Words

/-! ## What a scan sends -/

namespace DigitalOutstation

variable (outstation : DigitalOutstation) (header : MD3BlockData)

/-- The outstation as it builds the answer: with the number zero every point is marked. -/
def marked : DigitalOutstation :=
  if header.getDigitalSequenceNumber = 0 then
    { outstation with table := outstation.table.markAllBinaryPointsAsChanged }
  else outstation

/-- There is nothing to send. -/
def Quiet : Prop :=
  outstation.table.countBinaryBlocksWithChanges = 0 ∧ outstation.timeTaggedDataAvailable = false

instance : Decidable outstation.Quiet := instDecidableAnd

/-- The modules whose words are sent. -/
def sentModules : List Nat :=
  (outstation.table.buildListOfModuleAddressesWithChanges 0).take header.getModuleCount

/-- The events that are sent. -/
def poppedEvents : List MD3BinaryPoint :=
  sentEvents header.getTaggedEventCount outstation.table.binaryTimeTaggedEventQueue

/-- The table without the marks and the events that are sent. -/
def sentTable : BinaryTable :=
  { outstation.table.clearModules (outstation.sentModules header) with
    binaryTimeTaggedEventQueue := outstation.table.binaryTimeTaggedEventQueue.drop
      (outstation.poppedEvents header).length }

/-- The header of an answer with data. -/
def sentHeader : MD3BlockData :=
  let sending := { outstation with table := outstation.sentTable header }
  (MD3BlockFn11StoM header.getStationAddress 0 header.getDigitalSequenceNumber
    (min outstation.table.countBinaryBlocksWithChanges header.getModuleCount)).answered
      (outstation.sentModules header).length (outstation.poppedEvents header).length
      sending.flags.RSF sending.flags.HRP sending.flags.DCP

/-- The blocks after the header. -/
def sentBlocks : MD3Message :=
  outstation.table.moduleBlocks (outstation.sentModules header) ++
    wordBlocks (eventStream outstation.soeTimeOffsetMinutes (outstation.poppedEvents header))

variable {outstation}

theorem takeEvents_eq
    (unmarked : ∀ point ∈ outstation.table.binaryTimeTaggedEventQueue,
      point.isOverFlowMarkerPoint = false) :
    let sent := outstation.poppedEvents header
    let left := outstation.table.binaryTimeTaggedEventQueue.drop sent.length
    outstation.takeEvents header =
      ({ outstation with
          table := { outstation.table with binaryTimeTaggedEventQueue := left } },
        { responseWords := eventStream outstation.soeTimeOffsetMinutes sent
          eventCount := sent.length
          queue := left }) := by
  unfold takeEvents
  by_cases available : outstation.timeTaggedDataAvailable = true
  · rw [if_pos available, fn11AddTimeTaggedDataToResponseWords_eq _ unmarked]
    rfl
  · have empty : outstation.table.binaryTimeTaggedEventQueue = [] := by
      simpa [timeTaggedDataAvailable] using available
    rw [if_neg available]
    obtain ⟨⟨layout, value, isOutstation, newDigitalCommands, queue⟩, last, response, soe, RSF⟩ :=
      outstation
    cases empty
    rfl

/-- **What an answer with data has, and what it leaves.** -/
theorem sendChanges_eq
    (unmarked : ∀ point ∈ outstation.table.binaryTimeTaggedEventQueue,
      point.isOverFlowMarkerPoint = false) :
    outstation.sendChanges header =
      ({ outstation with table := outstation.sentTable header },
        outstation.sentHeader header :: outstation.sentBlocks header) := by
  obtain ⟨-, -, -, sameQueue⟩ :=
    BinaryTable.sameFrame_clearModules (outstation.sentModules header) outstation.table
  have taken := @takeEvents_eq
    { outstation with table := outstation.table.clearModules (outstation.sentModules header) }
    header (by rw [sameQueue]; exact unmarked)
  simp only [poppedEvents, sameQueue] at taken
  have read : outstation.table.buildScanReturnBlocksFromList
      (outstation.table.buildListOfModuleAddressesWithChanges 0) header.getModuleCount =
      (outstation.table.clearModules (outstation.sentModules header),
        outstation.table.moduleBlocks (outstation.sentModules header)) :=
    BinaryTable.buildScanReturnBlocks_eq ..
  unfold sendChanges
  simp only [read, taken]
  simp only [sentHeader, sentTable, sentBlocks, poppedEvents, BinaryTable.moduleBlocks,
    List.length_map]

/-- **What the outstation does for a scan that is not a repeat.** -/
theorem doDigitalScan_fresh (fresh : outstation.isRepeat header = false) :
    outstation.doDigitalScan header =
      let before := outstation.marked header
      let answer := if before.Quiet then
          (before, [(MD3BlockFn14StoM header.getStationAddress
            header.getDigitalSequenceNumber).setFlags before.flags.RSF before.flags.HRP
              before.flags.DCP])
        else before.sendChanges header
      (answer.1.keep header answer.2, answer.2) := by
  unfold doDigitalScan
  rw [fresh]
  rfl

theorem doDigitalScan_repeat (again : outstation.isRepeat header = true) :
    outstation.doDigitalScan header =
      (outstation, outstation.lastDigitialScanResponseMD3Message) := by
  unfold doDigitalScan
  rw [if_pos again]

theorem marked_queue :
    (outstation.marked header).table.binaryTimeTaggedEventQueue =
      outstation.table.binaryTimeTaggedEventQueue := by
  unfold marked
  split <;> rfl

theorem marked_layout :
    (outstation.marked header).table.layout = outstation.table.layout := by
  unfold marked
  split <;> rfl

theorem marked_soeTimeOffsetMinutes :
    (outstation.marked header).soeTimeOffsetMinutes = outstation.soeTimeOffsetMinutes := by
  unfold marked
  split <;> rfl

/-- The modules that are sent have real addresses. -/
theorem addressed_sentModules (addressed : BinaryTable.Addressed outstation.table.layout)
    {moduleAddress : Nat} (sent : moduleAddress ∈ outstation.sentModules header) :
    0 < moduleAddress ∧ moduleAddress < 256 := by
  obtain ⟨key, member, rfl, -⟩ :=
    BinaryTable.mem_buildListOfModuleAddressesWithChanges (List.mem_of_mem_take sent)
  exact ⟨addressed key member, (outstation.table.layout.inRange key member).1⟩

theorem length_sentModules : (outstation.sentModules header).length < 16 :=
  Nat.lt_of_le_of_lt (List.length_take_le _ _) header.getModuleCount_lt

theorem length_poppedEvents : (outstation.poppedEvents header).length < 16 :=
  Nat.lt_of_le_of_lt (length_sentEvents _ _) header.getTaggedEventCount_lt

/-- The module words of an answer, as the master reads them. -/
def moduleWords (now : Nat) (outstation : DigitalOutstation) (header : MD3BlockData) :
    List ModuleReport :=
  (outstation.sentModules header).map fun moduleAddress =>
    ⟨outstation.table.collectModuleBitsIntoWord moduleAddress, moduleAddress, now⟩

/-- **The master reads the module words that were sent and the events that were popped.** -/
theorem digitalReports_sent (addressed : BinaryTable.Addressed outstation.table.layout)
    (real : ∀ point ∈ outstation.table.binaryTimeTaggedEventQueue,
      0 < point.moduleAddress ∧ point.moduleAddress < 256) (now : Nat) :
    digitalReports now (outstation.sentHeader header)
        (outstation.sentHeader header :: outstation.sentBlocks header) =
      (outstation.moduleWords now header ++
        streamReports outstation.soeTimeOffsetMinutes (outstation.poppedEvents header), true) := by
  have modulesFit := @length_sentModules outstation header
  have eventsFit := @length_poppedEvents outstation header
  have readModules := moduleReports_moduleBlocks outstation.table
    (fun moduleAddress sent => (addressed_sentModules header addressed sent).2) now
    (wordBlocks (eventStream outstation.soeTimeOffsetMinutes (outstation.poppedEvents header)))
  rw [List.filter_eq_self.mpr fun moduleAddress sent => by
    simpa using (addressed_sentModules header addressed sent).1] at readModules
  have poppedReal : ∀ point ∈ outstation.poppedEvents header,
      0 < point.moduleAddress ∧ point.moduleAddress < 256 := fun point sent =>
    real point ((sentEvents_first _ _).subset sent)
  have chained : ∀ point rest, outstation.poppedEvents header = point :: rest →
      Bridged point.changedTime rest := by
    intro point rest sent
    unfold poppedEvents at sent
    generalize outstation.table.binaryTimeTaggedEventQueue = queue at sent
    cases queue with
    | nil => cases sent
    | cons first later =>
        rw [sentEvents] at sent
        split at sent
        · cases sent
        · obtain ⟨rfl, rfl⟩ := List.cons.inj sent
          exact bridged_sentAfter _ _ _
  unfold digitalReports
  rw [sentHeader, getModuleCount_answered _ _ _ _ modulesFit eventsFit,
    getTaggedEventCount_answered _ _ _ _ eventsFit, List.drop_one, List.tail_cons, sentBlocks,
    readModules]
  dsimp only
  cases popped : outstation.poppedEvents header with
  | nil => simp [moduleWords, streamReports]
  | cons point rest =>
      obtain ⟨filler, read, kind⟩ := blockWords_wordBlocks
        (wordsOfEvents (wholeSeconds point.changedTime) (point :: rest))
      have inTime : timeDifference point.changedTime (wholeSeconds point.changedTime) < 65536 := by
        rw [timeDifference_wholeSeconds]
        omega
      have bridged : Bridged (wholeSeconds point.changedTime) (point :: rest) :=
        ⟨inTime, chained point rest popped⟩
      have events := taggedReports_wordsOfEvents (popped ▸ poppedReal) bridged
        ((firstEventSeconds outstation.soeTimeOffsetMinutes point.changedTime).toNat * 1000) filler
        (taggedReports_filler kind)
      rw [List.length_cons, if_pos (Nat.succ_pos _), eventStream, wordBlocks]
      dsimp only
      rw [words_halves, read, events]
      rfl

end DigitalOutstation

/-! ## The events as they were -/

/-- An event as it was. -/
def MD3BinaryPoint.asReport (point : MD3BinaryPoint) : ModuleReport :=
  ⟨point.moduleBinarySnapShot, point.moduleAddress, point.changedTime⟩

/-- Seven bits of the module address are read. -/
def ModuleReport.sevenBits (report : ModuleReport) : ModuleReport :=
  { report with moduleAddress := report.moduleAddress % 128 }

/-- The time of events in order is the time of the first one and the offsets. -/
theorem reportsOfEvents_ordered {events : List MD3BinaryPoint} {last : Nat}
    (ordered : events.Pairwise fun first second => first.changedTime ≤ second.changedTime)
    (started : ∀ point ∈ events, last ≤ point.changedTime)
    (small : ∀ point ∈ events, point.changedTime < 2 ^ 64) :
    reportsOfEvents last last events = events.map fun point => point.asReport.sevenBits := by
  induction events generalizing last with
  | nil => rfl
  | cons point rest ih =>
      obtain ⟨first, later⟩ := List.pairwise_cons.mp ordered
      have after := started point (.head _)
      have time : last + timeDifference point.changedTime last = point.changedTime := by
        rw [timeDifference_of_le after (small point (.head _))]
        omega
      rw [reportsOfEvents, time, ih later first fun other member => small other (.tail _ member)]
      rfl

/-- **Events in order are read with their own times.** -/
theorem streamReports_ordered {events : List MD3BinaryPoint}
    (ordered : events.Pairwise fun first second => first.changedTime ≤ second.changedTime)
    (small : ∀ point ∈ events, point.changedTime < 2 ^ 32 * 1000) :
    streamReports 0 events = events.map fun point => point.asReport.sevenBits := by
  cases events with
  | nil => rfl
  | cons point rest =>
      have bound := small point (.head _)
      have seconds : (firstEventSeconds 0 point.changedTime).toNat * 1000 =
          wholeSeconds point.changedTime := by
        have whole : firstEventSeconds 0 point.changedTime =
            BitVec.ofNat 32 (point.changedTime / 1000) := by
          rw [firstEventSeconds, Int.zero_mul, Int.add_zero]
          rfl
        rw [whole, BitVec.toNat_ofNat, wholeSeconds]
        omega
      obtain ⟨first, -⟩ := List.pairwise_cons.mp ordered
      have started : ∀ other ∈ point :: rest,
          wholeSeconds point.changedTime ≤ other.changedTime := by
        intro other member
        have floor : wholeSeconds point.changedTime ≤ point.changedTime := Nat.sub_le _ _
        rcases List.mem_cons.mp member with rfl | after
        · exact floor
        · exact Nat.le_trans floor (first other after)
      rw [streamReports, seconds]
      exact reportsOfEvents_ordered ordered started fun other member =>
        Nat.lt_trans (small other member) (by decide)

/-- Events are read as they were exactly when their addresses have seven bits. -/
theorem map_sevenBits_eq_iff (events : List MD3BinaryPoint) :
    (events.map fun point => point.asReport.sevenBits) = events.map MD3BinaryPoint.asReport ↔
      ∀ point ∈ events, point.moduleAddress < 128 := by
  rw [List.map_inj_left]
  refine forall₂_congr fun point _ => ?_
  rw [ModuleReport.sevenBits, MD3BinaryPoint.asReport, ModuleReport.mk.injEq]
  simp only [true_and, and_true]
  omega

/-- **From the answer to a scan with something to send, the master reads the module words that
were sent and then the events that were popped, each with its module address, its word and its
time, and the others stay on the queue, exactly when every popped event has a module address
below 128.** -/
theorem doDigitalScan_read_iff (outstation : DigitalOutstation) (header : MD3BlockData) (now : Nat)
    (addressed : BinaryTable.Addressed outstation.table.layout)
    (real : ∀ point ∈ outstation.table.binaryTimeTaggedEventQueue,
      0 < point.moduleAddress ∧ point.moduleAddress < 256 ∧ point.changedTime < 2 ^ 32 * 1000)
    (ordered : outstation.table.binaryTimeTaggedEventQueue.Pairwise fun first second =>
      first.changedTime ≤ second.changedTime)
    (noOffset : outstation.soeTimeOffsetMinutes = 0)
    (fresh : outstation.isRepeat header = false)
    (something : ¬(outstation.marked header).Quiet) :
    let answer := outstation.doDigitalScan header
    let popped := outstation.poppedEvents header
    (digitalReports now (answer.2.headD {}) answer.2 =
        ((outstation.marked header).moduleWords now header ++ popped.map MD3BinaryPoint.asReport,
          true) ∧
      popped ++ answer.1.table.binaryTimeTaggedEventQueue =
        outstation.table.binaryTimeTaggedEventQueue) ↔
    ∀ point ∈ popped, point.moduleAddress < 128 := by
  have sameQueue := outstation.marked_queue header
  have samePopped : (outstation.marked header).poppedEvents header =
      outstation.poppedEvents header := by
    rw [DigitalOutstation.poppedEvents, sameQueue, DigitalOutstation.poppedEvents]
  have unmarked : ∀ point ∈ (outstation.marked header).table.binaryTimeTaggedEventQueue,
      point.isOverFlowMarkerPoint = false := by
    intro point queued
    rw [sameQueue] at queued
    exact point.not_isOverFlowMarkerPoint (Nat.pos_iff_ne_zero.mp (real point queued).1)
  have sends := DigitalOutstation.sendChanges_eq header unmarked
  have reads := DigitalOutstation.digitalReports_sent header
    (by rw [outstation.marked_layout header]; exact addressed)
    (by rw [sameQueue]; exact fun point queued => ⟨(real point queued).1, (real point queued).2.1⟩)
    now
  have prefixed := sentEvents_first header.getTaggedEventCount
    outstation.table.binaryTimeTaggedEventQueue
  have times := streamReports_ordered (ordered.sublist prefixed.sublist)
    fun point sent => (real point (prefixed.subset sent)).2.2
  rw [outstation.marked_soeTimeOffsetMinutes header, noOffset, samePopped,
    DigitalOutstation.poppedEvents, times, ← DigitalOutstation.poppedEvents] at reads
  dsimp only
  rw [DigitalOutstation.doDigitalScan_fresh header fresh]
  simp only [if_neg something, sends, List.headD_cons, reads, Prod.mk.injEq, and_true,
    List.append_cancel_left_eq, map_sevenBits_eq_iff, and_iff_left_iff_imp]
  intro _
  rw [DigitalOutstation.keep, DigitalOutstation.sentTable, samePopped, sameQueue]
  exact sentEvents_append_drop _ _

/-- One time-tagged point of a module, which was set at a second and a half. -/
def outstationWithEvent (module : Nat) : DigitalOutstation where
  table :=
    let entry : BinaryPointEntry := { start := 0, stop := 0, module, pointType := .TIMETAGGEDINPUT }
    let table : BinaryTable := { layout := processBinaryPoints [entry] {}, isOutstation := true }
    (table.setBinaryValueUsingODCIndex 0 false 1500).1

/-- The event of module 5 is read as it was. -/
theorem doDigitalScan_read_moduleFive :
    let outstation := outstationWithEvent 5
    let header := MD3BlockFn11MtoS 0x7C 15 1 15
    let answer := outstation.doDigitalScan header
    let popped := outstation.poppedEvents header
    popped.length = 1 ∧
      digitalReports 0 (answer.2.headD {}) answer.2 =
        ((outstation.marked header).moduleWords 0 header ++ popped.map MD3BinaryPoint.asReport,
          true) ∧
      popped ++ answer.1.table.binaryTimeTaggedEventQueue =
        outstation.table.binaryTimeTaggedEventQueue :=
  ⟨by decide +kernel,
    (doDigitalScan_read_iff (outstationWithEvent 5) (MD3BlockFn11MtoS 0x7C 15 1 15) 0
      (by unfold BinaryTable.Addressed; decide +kernel) (by decide +kernel) (by decide +kernel)
      rfl (by decide +kernel) (by decide +kernel)).mpr (by decide +kernel)⟩

/-- The event of module 200 is read as one of module 72. -/
theorem doDigitalScan_read_moduleTwoHundred :
    let outstation := outstationWithEvent 200
    let header := MD3BlockFn11MtoS 0x7C 15 1 15
    let answer := outstation.doDigitalScan header
    let popped := outstation.poppedEvents header
    outstation.isRepeat header = false ∧ ¬(outstation.marked header).Quiet ∧
      popped.map MD3BinaryPoint.asReport = [⟨0#16, 200, 1500⟩] ∧
      digitalReports 0 (answer.2.headD {}) answer.2 =
        ((outstation.marked header).moduleWords 0 header ++ [⟨0#16, 72, 1500⟩], true) ∧
      digitalReports 0 (answer.2.headD {}) answer.2 ≠
        ((outstation.marked header).moduleWords 0 header ++ popped.map MD3BinaryPoint.asReport,
          true) := by
  decide +kernel

end OpenDataCon.MD3Port
