import OpenDataCon.Foundations.CheckedReads
import OpenDataCon.MD3Port.DigitalAnswers
import OpenDataCon.MD3Port.OutstationRequests

/-!
# Answers at an MD3 master

The handlers of the master, with every block of an answer and every value and word that is
unloaded from it read by index. A read past the end gives nothing, and so does the handler.

The analog handlers count the blocks first and read what is there
(`processAnalogUnconditionalReturnReading_eq`, `processAnalogDeltaScanReturnReading_eq`). The event
words are read past their end exactly when the last block is a status that starts an item
(`readWords_eq`): the handler has stepped to the second word of the status, and reads the one after
it. With the reads of the outstation, these are all the reads past the end
(`messages_read_iff`).
-/

set_option autoImplicit false

namespace OpenDataCon.MD3Port

open CheckedReads MD3BlockData

/-! ## Analog answers -/

/-- Unload two words a block. -/
def unloadWordsReading (channels : Nat) (message : MD3Message) : Option (List (BitVec 16)) :=
  (List.range (channels / 2 + channels % 2)).foldlM
    (fun values i => (message[1 + i]?).map (unloadWordBlock channels values)) []

/-- Unload four bytes a block, up to the number of channels. -/
def unloadBytesReading (channels : Nat) (message : MD3Message) : Option (List (BitVec 8)) :=
  (List.range (channels / 4 + channels % 4)).foldlM
    (fun values i => (message[1 + i]?).map fun block =>
      unloadBytesOf channels block values [0, 1, 2, 3]) []

namespace AnalogTable

variable (table : AnalogTable)

/-- Eight values are for a module, the others for the next one. -/
def storeChannelsReading (moduleAddress channels : Nat) (values : List (BitVec 16))
    (deltaUpdate : Bool) : Option AnalogTable := do
  let first ← (List.range (min channels 8)).foldlM
    (fun table i => (values[0 + i]?).map fun value =>
      (table.setAnalogCounterAndSendEvent moduleAddress i value deltaUpdate false).1) table
  (List.range (channels - 8)).foldlM
    (fun table i => (values[8 + i]?).map fun value =>
      (table.setAnalogCounterAndSendEvent ((moduleAddress + 1) % 256) i value deltaUpdate
        false).1) first

def processAnalogUnconditionalReturnReading (header : MD3BlockData) (message : MD3Message) :
    Option (AnalogTable × Bool) :=
  if MD3MasterConf.processAnalogUnconditionalReturn header message = false then
    some (table, false)
  else do
    let values ← unloadWordsReading header.getChannels message
    let stored ← table.storeChannelsReading header.getModuleAddress header.getChannels values false
    return (stored, true)

def processAnalogDeltaScanReturnReading (header : MD3BlockData) (message : MD3Message) :
    Option (AnalogTable × Bool) :=
  if MD3MasterConf.processAnalogDeltaScanReturn header message = false then
    some (table, false)
  else do
    let values ← unloadBytesReading header.getChannels message
    let stored ← table.storeChannelsReading header.getModuleAddress header.getChannels
      (values.map (BitVec.signExtend 16)) true
    return (stored, true)

end AnalogTable

/-- Blocks of two words give as many as there are channels. -/
theorem le_length_unloadWords (channels : Nat) (blocks : MD3Message) :
    min channels (2 * blocks.length) ≤ (unloadWords channels blocks).length := by
  have unload : ∀ before : List (BitVec 16), min channels (before.length + 2 * blocks.length) ≤
      (blocks.foldl (unloadWordBlock channels) before).length := by
    induction blocks with
    | nil => exact fun before => Nat.min_le_right ..
    | cons block rest ih =>
        intro before
        have next : min channels (before.length + 2) ≤
            (unloadWordBlock channels before block).length := by
          rw [unloadWordBlock]
          split
          · simp only [List.length_append, List.length_singleton]
            omega
          · next full =>
              simp only [List.length_append, List.length_singleton] at full ⊢
              omega
        have later := ih (unloadWordBlock channels before block)
        rw [List.foldl_cons, List.length_cons]
        omega
  have whole := unload []
  rwa [List.length_nil, Nat.zero_add] at whole

theorem le_length_unloadBytesOf (channels : Nat) (block : MD3BlockData)
    (values : List (BitVec 8)) (bytes : List Nat) :
    min channels (values.length + bytes.length) ≤
      (unloadBytesOf channels block values bytes).length := by
  induction bytes generalizing values with
  | nil => exact Nat.min_le_right ..
  | cons j rest ih =>
      rw [unloadBytesOf]
      split
      · next full => exact (Nat.min_le_left ..).trans full
      · have later := ih (values ++ [block.getByte j])
        rw [List.length_append, List.length_singleton] at later
        rw [List.length_cons]
        omega

/-- Blocks of four bytes give as many as there are channels. -/
theorem le_length_unloadBytes (channels : Nat) (blocks : MD3Message) :
    min channels (4 * blocks.length) ≤ (unloadBytes channels blocks).length := by
  have unload : ∀ before : List (BitVec 8), min channels (before.length + 4 * blocks.length) ≤
      (blocks.foldl (fun values block => unloadBytesOf channels block values [0, 1, 2, 3])
        before).length := by
    induction blocks with
    | nil => exact fun before => Nat.min_le_right ..
    | cons block rest ih =>
        intro before
        have next := le_length_unloadBytesOf channels block before [0, 1, 2, 3]
        have four : [0, 1, 2, 3].length = 4 := rfl
        have later := ih (unloadBytesOf channels block before [0, 1, 2, 3])
        rw [four] at next
        rw [List.foldl_cons, List.length_cons]
        omega
  have whole := unload []
  rwa [List.length_nil, Nat.zero_add] at whole

/-- Enough values are stored as they are without indexes. -/
theorem AnalogTable.storeChannelsReading_eq (table : AnalogTable) (moduleAddress : Nat)
    {channels : Nat} {values : List (BitVec 16)} (deltaUpdate : Bool)
    (enough : channels ≤ values.length) :
    table.storeChannelsReading moduleAddress channels values deltaUpdate =
      some (table.storeChannels moduleAddress channels values deltaUpdate false) := by
  have parts : (rangeChannels moduleAddress channels).zip values =
      ((List.range (min channels 8)).map (fun i => (moduleAddress, i))).zip values ++
        ((List.range (channels - 8)).map fun i => ((moduleAddress + 1) % 256, i)).zip
          (values.drop 8) := by
    rw [rangeChannels, zip_append_left, List.length_map, List.length_range]
    rcases Nat.le_total channels 8 with few | many
    · have last : channels - 8 = 0 := by omega
      rw [last, List.range_zero, List.map_nil, List.zip_nil_left, List.zip_nil_left]
    · rw [Nat.min_eq_right many]
  rw [storeChannelsReading, foldlM_read (by omega), storeChannels, parts, List.foldl_append,
    List.zip_map_left, List.zip_map_left, List.foldl_map, List.foldl_map, Option.bind_eq_bind,
    Option.bind_some]
  rcases Nat.eq_zero_or_pos (channels - 8) with none | some
  · rw [none, List.range_zero, List.foldlM_nil, List.zip_nil_left, List.foldl_nil]
    rfl
  · exact foldlM_read (by omega) _

/-- **The values of an unconditional answer are there**, and stored as without indexes. -/
theorem AnalogTable.processAnalogUnconditionalReturnReading_eq (table : AnalogTable)
    (header : MD3BlockData) (block : MD3BlockData) (blocks : MD3Message) :
    table.processAnalogUnconditionalReturnReading header (block :: blocks) =
      some (table.processAnalogUnconditionalReturn header (block :: blocks),
        MD3MasterConf.processAnalogUnconditionalReturn header (block :: blocks)) := by
  rw [processAnalogUnconditionalReturnReading, processAnalogUnconditionalReturn]
  cases counted : MD3MasterConf.processAnalogUnconditionalReturn header (block :: blocks) with
  | false => rfl
  | true =>
      have count := beq_iff_eq.mp counted
      rw [List.length_cons, Nat.add_sub_cancel] at count
      have unloaded : unloadWordsReading header.getChannels (block :: blocks) =
          some (unloadWords header.getChannels blocks) := by
        rw [unloadWordsReading, count, foldlM_read_take (by rw [List.length_cons]; omega),
          List.drop_one, List.tail_cons, List.take_length]
        rfl
      have enough := le_length_unloadWords header.getChannels blocks
      rw [unloaded, Option.bind_eq_bind, Option.bind_some,
        storeChannelsReading_eq _ _ _ (by omega)]
      rfl

/-- **So are the differences of an answer with changes**, of which there may be too many. -/
theorem AnalogTable.processAnalogDeltaScanReturnReading_eq (table : AnalogTable)
    (header : MD3BlockData) (block : MD3BlockData) (blocks : MD3Message) :
    table.processAnalogDeltaScanReturnReading header (block :: blocks) =
      some (table.processAnalogDeltaScanReturn header (block :: blocks),
        MD3MasterConf.processAnalogDeltaScanReturn header (block :: blocks)) := by
  rw [processAnalogDeltaScanReturnReading, processAnalogDeltaScanReturn]
  cases counted : MD3MasterConf.processAnalogDeltaScanReturn header (block :: blocks) with
  | false => rfl
  | true =>
      have count := beq_iff_eq.mp counted
      rw [List.length_cons, Nat.add_sub_cancel] at count
      have unloaded : unloadBytesReading header.getChannels (block :: blocks) =
          some (unloadBytes header.getChannels blocks) := by
        rw [unloadBytesReading, count, foldlM_read_take (by rw [List.length_cons]; omega),
          List.drop_one, List.tail_cons, List.take_length]
        rfl
      have enough := le_length_unloadBytes header.getChannels blocks
      rw [unloaded, Option.bind_eq_bind, Option.bind_some,
        storeChannelsReading_eq _ _ _ (by rw [List.length_map]; omega)]
      rfl

/-! ## Digital answers -/

/-- Read the module words; the second result is the index of the block after them, if there were
enough. -/
def readModules (now : Nat) (message : MD3Message) :
    Nat → Nat → Option (List ModuleReport × Option Nat)
  | 0, messageIndex => some ([], some messageIndex)
  | count + 1, messageIndex =>
    if messageIndex < message.length then do
      let block ← message[messageIndex]?
      let moduleAddress := (block.getByte 0).toNat
      let msecOffset := (block.getByte 1).toNat
      let later ← readModules now message count (messageIndex + 1)
      if moduleAddress = 0 ∧ msecOffset = 0 then return later
      else return (⟨block.getSecondWord, moduleAddress, now⟩ :: later.1, later.2)
    else some ([], none)

/-- The words of the blocks from an index on. -/
def readBlockWords (message : MD3Message) (messageIndex : Nat) : Option (List (BitVec 16)) :=
  (List.range (message.length - messageIndex)).foldlM
    (fun words i => (message[messageIndex + i]?).map fun block =>
      words ++ [block.getFirstWord, block.getSecondWord]) []

/-- Read the words of the events. After the first word of a status, the index is at the second
one, and the word after that is read. -/
def readWords (words : List (BitVec 16)) (timebase i : Nat) : Option (List ModuleReport × Bool) :=
  if i < words.length then do
    let word ← words[i]?
    if word = 0#16 then
      if words.length ≤ i + 1 then return ([], true)
      else
        let _status ← words[i + 1 + 1]?
        readWords words timebase (i + 2)
    else if word &&& 0xFF00#16 = 0#16 then
      readWords words (timebase + (word &&& 0x00FF#16).toNat * 256) (i + 1)
    else
      let moduleAddress := ((word >>> 8) &&& 0x007F#16).toNat
      let timebase := timebase + (word &&& 0x00FF#16).toNat
      if words.length ≤ i + 1 then return ([], false)
      else
        let moduleData ← words[i + 1]?
        let later ← readWords words timebase (i + 2)
        return (⟨moduleData, moduleAddress, timebase⟩ :: later.1, later.2)
  else some ([], true)
termination_by words.length - i

def readDigitalScan (now : Nat) (header : MD3BlockData) (message : MD3Message) :
    Option (List ModuleReport × Bool) := do
  let modules ← readModules now message header.getModuleCount 1
  match modules.2 with
  | none => return (modules.1, false)
  | some messageIndex =>
    if 0 < header.getTaggedEventCount then
      if messageIndex < message.length then
        let timedate ← message[messageIndex]?
        let responseWords ← readBlockWords message (messageIndex + 1)
        let events ← readWords responseWords (timedate.data.toNat * 1000) 0
        return (modules.1 ++ events.1, events.2)
      else return (modules.1, false)
    else return (modules.1, true)

/-- A word that starts an item of two words, where it is the first word of one: a status or the
address of a module. Another word is a time offset. -/
def startsPair (word : BitVec 16) : Bool := word == 0#16 || word &&& 0xFF00#16 != 0#16

/-- The last pair of words starts an item, and this is a status: its first word is zero, and the
words before it that could start a pair, back to a time offset or the beginning, are even in
number. -/
def endsInStatus (words : List (BitVec 16)) : Bool :=
  match words.reverse with
  | _ :: word :: before => word == 0#16 && (before.takeWhile startsPair).length % 2 == 0
  | _ => false

/-- A time offset does not matter to what is after it. -/
theorem endsInStatus_offset {word : BitVec 16} (nonzero : word ≠ 0#16)
    (offset : word &&& 0xFF00#16 = 0#16) (rest : List (BitVec 16)) :
    endsInStatus (word :: rest) = endsInStatus rest := by
  have single : startsPair word = false := by
    simp [startsPair, nonzero, offset]
  rw [endsInStatus, endsInStatus, List.reverse_cons]
  cases reversed : rest.reverse with
  | nil => rfl
  | cons last before =>
      cases before with
      | nil => simp [nonzero]
      | cons status before =>
          rw [List.cons_append, List.cons_append]
          dsimp only
          rw [List.takeWhile_append, List.takeWhile_cons, single]
          split
          · next all => simp [all]
          · rfl

/-- Nor does an item of two words, if there is something after it. -/
theorem endsInStatus_pair {word : BitVec 16} (pair : startsPair word = true) (second : BitVec 16)
    {rest : List (BitVec 16)} (more : rest ≠ []) :
    endsInStatus (word :: second :: rest) = endsInStatus rest := by
  rw [endsInStatus, endsInStatus, List.reverse_cons, List.reverse_cons]
  cases reversed : rest.reverse with
  | nil => exact absurd (List.reverse_eq_nil_iff.mp reversed) more
  | cons last before =>
      cases before with
      | nil => simp [pair]
      | cons status before =>
          simp only [List.cons_append, List.append_assoc]
          rw [List.takeWhile_append]
          split
          · next all =>
              simp only [List.nil_append, List.takeWhile_cons, List.takeWhile_nil, pair, if_true]
              cases startsPair second with
              | false => simp [all]
              | true => simp [all]
          · rfl

/-- An item of two words that is no status does not matter at all. -/
theorem endsInStatus_data {word : BitVec 16} (nonzero : word ≠ 0#16)
    (pair : startsPair word = true) (second : BitVec 16) (rest : List (BitVec 16)) :
    endsInStatus (word :: second :: rest) = endsInStatus rest := by
  cases rest with
  | nil => simp [endsInStatus, nonzero]
  | cons third later => exact endsInStatus_pair pair second (by simp)

/-- **The words are read past their end exactly when they end in a status**; if not, the reading
is the one without indexes. -/
theorem readWords_eq (words : List (BitVec 16)) (timebase i : Nat) :
    readWords words timebase i =
      if endsInStatus (words.drop i) then none
      else some (taggedReports timebase (words.drop i)) := by
  induction left : words.length - i using Nat.strong_induction_on generalizing timebase i with
  | _ left ih =>
      rw [readWords]
      split
      · next inside =>
          rw [List.getElem?_eq_getElem inside, List.drop_eq_getElem_cons inside,
            Option.bind_eq_bind, Option.bind_some, taggedReports.eq_def]
          generalize words[i] = word
          dsimp only
          by_cases zero : word = 0#16
          · have pair : startsPair word = true := by simp [startsPair, zero]
            rw [if_pos zero, if_pos zero]
            split
            · next last =>
                rw [List.drop_eq_nil_iff.mpr last]
                simp [endsInStatus]
            · next more =>
                rw [List.drop_eq_getElem_cons (Nat.not_le.mp more)]
                cases status : words[i + 1 + 1]? with
                | none =>
                    rw [List.drop_eq_nil_iff.mpr (List.getElem?_eq_none_iff.mp status)]
                    simp [endsInStatus, zero]
                | some status =>
                    have later : words.drop (i + 2) ≠ [] := fun none => by
                      rw [List.drop_eq_nil_iff] at none
                      rw [List.getElem?_eq_none none] at *
                      contradiction
                    rw [endsInStatus_pair pair _ later, Option.bind_some]
                    exact ih _ (by omega) timebase (i + 2) rfl
          · rw [if_neg zero, if_neg zero]
            by_cases offset : word &&& 0xFF00#16 = 0#16
            · rw [if_pos offset, if_pos offset, endsInStatus_offset zero offset]
              exact ih _ (by omega) _ (i + 1) rfl
            · have pair : startsPair word = true := by simp [startsPair, offset]
              rw [if_neg offset, if_neg offset]
              split
              · next last =>
                  rw [List.drop_eq_nil_iff.mpr last]
                  simp [endsInStatus]
              · next more =>
                  rw [List.getElem?_eq_getElem (Nat.not_le.mp more),
                    List.drop_eq_getElem_cons (Nat.not_le.mp more), Option.bind_some]
                  rw [ih _ (by omega) _ (i + 2) rfl, endsInStatus_data zero pair]
                  split
                  · rfl
                  · rfl
      · next outside =>
          rw [List.drop_eq_nil_iff.mpr (Nat.not_lt.mp outside)]
          rfl

/-- With blocks missing or not, the module words are read as without indexes. -/
theorem readModules_eq (now : Nat) (message : MD3Message) (count messageIndex : Nat) :
    readModules now message count messageIndex =
      some ((moduleReports now count (message.drop messageIndex)).1,
        (moduleReports now count (message.drop messageIndex)).2.map
          fun _ => messageIndex + count) ∧
      ∀ blocks, (moduleReports now count (message.drop messageIndex)).2 = some blocks →
        blocks = message.drop (messageIndex + count) := by
  induction count generalizing messageIndex with
  | zero => exact ⟨rfl, fun blocks same => (Option.some.inj same).symm⟩
  | succ count ih =>
      rw [readModules]
      rcases Nat.lt_or_ge messageIndex message.length with inside | outside
      · obtain ⟨later, rest⟩ := ih (messageIndex + 1)
        have next : messageIndex + 1 + count = messageIndex + (count + 1) := by omega
        rw [next] at later rest
        rw [if_pos inside, List.getElem?_eq_getElem inside, List.drop_eq_getElem_cons inside,
          moduleReports, Option.bind_eq_bind, Option.bind_some, later]
        generalize message[messageIndex] = block
        dsimp only
        by_cases status : (block.getByte 0).toNat = 0 ∧ (block.getByte 1).toNat = 0
        · rw [if_pos status]
          exact ⟨by simp [status], rest⟩
        · rw [if_neg status]
          exact ⟨by simp [status], rest⟩
      · rw [if_neg (Nat.not_lt.mpr outside), List.drop_eq_nil_iff.mpr outside]
        exact ⟨rfl, fun blocks none => absurd none (by simp [moduleReports])⟩

/-- Module words are missing when there are fewer blocks. -/
theorem length_of_missing {now count : Nat} {blocks : MD3Message}
    (missing : (moduleReports now count blocks).2 = none) : blocks.length < count := by
  induction count generalizing blocks with
  | zero => cases missing
  | succ count ih =>
      cases blocks with
      | nil => exact Nat.succ_pos count
      | cons block rest =>
          rw [moduleReports] at missing
          split at missing
          · exact Nat.succ_lt_succ (ih missing)
          · exact Nat.succ_lt_succ (ih missing)

theorem readBlockWords_eq (message : MD3Message) (messageIndex : Nat)
    (inside : messageIndex ≤ message.length) :
    readBlockWords message messageIndex = some (blockWords (message.drop messageIndex)) := by
  rw [readBlockWords, foldlM_read_take (by omega), ← List.length_drop, List.take_length, blockWords,
    List.flatMap_eq_foldl]

/-- The answer has events, and their words end in a status. -/
def statusAtEnd (header : MD3BlockData) (message : MD3Message) : Bool :=
  0 < header.getTaggedEventCount &&
    endsInStatus (blockWords (message.drop (header.getModuleCount + 2)))

/-- **A digital answer is read past its end exactly when its events end in a status**; if not, the
reading is the one without indexes. -/
theorem readDigitalScan_eq (now : Nat) (header : MD3BlockData) (message : MD3Message) :
    readDigitalScan now header message =
      if statusAtEnd header message then none else some (digitalReports now header message) := by
  have nothing : message.length ≤ header.getModuleCount + 1 →
      endsInStatus (blockWords (message.drop (header.getModuleCount + 2))) = false := by
    intro short
    rw [List.drop_eq_nil_iff.mpr (by omega)]
    rfl
  obtain ⟨modules, rest⟩ := readModules_eq now message header.getModuleCount 1
  rw [readDigitalScan, modules, digitalReports, statusAtEnd]
  dsimp only
  cases read : (moduleReports now header.getModuleCount (message.drop 1)).2 with
  | none =>
      have missing := length_of_missing read
      rw [List.length_drop] at missing
      rw [nothing (by omega), Bool.and_false]
      rfl
  | some blocks =>
      have after := rest blocks read
      rw [Nat.add_comm 1] at after
      simp only [Option.map_some, Option.bind_eq_bind, Option.bind_some, Nat.add_comm 1]
      by_cases events : 0 < header.getTaggedEventCount
      · rw [if_pos events, if_pos events, decide_eq_true events, Bool.true_and]
        rcases Nat.lt_or_ge (header.getModuleCount + 1) message.length with inside | outside
        · rw [List.drop_eq_getElem_cons inside] at after
          rw [after, if_pos inside, List.getElem?_eq_getElem inside, Option.bind_some,
            readBlockWords_eq message _ (by omega), Option.bind_some, readWords_eq, List.drop_zero]
          cases endsInStatus (blockWords (message.drop (header.getModuleCount + 1 + 1))) with
          | true => rfl
          | false => rfl
        · rw [List.drop_eq_nil_iff.mpr outside] at after
          rw [after, if_neg (Nat.not_lt.mpr outside), nothing outside]
          rfl
      · rw [if_neg events, if_neg events, decide_eq_false events, Bool.false_and]
        rfl

/-! ## The port -/

/-- The master, with all that its handlers of answers use. -/
structure MD3MasterPort where
  conf : MD3MasterConf
  enabled : Bool := true
  updateAnalogCounterTimeStamps : Bool := false
  analogs : AnalogTable
  binaries : BinaryTable

/-- What an answer comes to. -/
structure AnswerResult where
  port : MD3MasterPort
  published : List PublishedBinary := []
  success : Bool

namespace MD3MasterPort

variable (port : MD3MasterPort) (now : Nat) (header : MD3BlockData) (message : MD3Message)

def unchanged (success : Bool) : AnswerResult := { port, success }

def withAnalogs (answer : AnalogTable × Bool) : AnswerResult where
  port := { port with analogs := answer.1 }
  success := answer.2

def processAnalogNoChangeReturn : AnswerResult :=
  port.withAnalogs
    (port.analogs.processAnalogNoChangeReturn port.updateAnalogCounterTimeStamps header message,
      MD3MasterConf.processOneBlockReturn message)

def processDigitalScan : Option AnswerResult :=
  (readDigitalScan now header message).map fun reports =>
    let stored := reports.1.foldl (BinaryTable.applyReport now) (port.binaries, [])
    { port := { port with binaries := stored.1 }, published := stored.2, success := reports.2 }

/-- An answer by the function of the command that was sent, and then by its own. Of the other
commands only the header of the answer and the number of its blocks are looked at. -/
def processAnswer (code : Nat) : Option AnswerResult :=
  let reply := header.getFunctionCode
  if code = ANALOG_UNCONDITIONAL then
    if reply = ANALOG_UNCONDITIONAL then
      (port.analogs.processAnalogUnconditionalReturnReading header message).map port.withAnalogs
    else some (port.unchanged false)
  else if code = ANALOG_DELTA_SCAN then
    if reply = ANALOG_UNCONDITIONAL then
      (port.analogs.processAnalogUnconditionalReturnReading header message).map port.withAnalogs
    else if reply = ANALOG_DELTA_SCAN then
      (port.analogs.processAnalogDeltaScanReturnReading header message).map port.withAnalogs
    else if reply = ANALOG_NO_CHANGE_REPLY then
      some (port.processAnalogNoChangeReturn header message)
    else some (port.unchanged false)
  else if code = DIGITAL_CHANGE_OF_STATE_TIME_TAGGED then
    if reply = DIGITAL_NO_CHANGE_REPLY then
      some (port.unchanged (MD3MasterConf.processOneBlockReturn message))
    else if reply = DIGITAL_CHANGE_OF_STATE_TIME_TAGGED then
      port.processDigitalScan now header message
    else some (port.unchanged false)
  else if code = DIGITAL_UNCONDITIONAL then
    if reply = DIGITAL_NO_CHANGE_REPLY then
      some (port.unchanged (MD3MasterConf.processOneBlockReturn message))
    else if reply = DIGITAL_UNCONDITIONAL ∨ reply = DIGITAL_CHANGE_OF_STATE_TIME_TAGGED then
      port.processDigitalScan now header message
    else some (port.unchanged false)
  else some (port.unchanged (MD3MasterConf.responseSuccess code header { message }))

def processMD3Message (code : Nat) : Option AnswerResult :=
  if port.enabled = false then some (port.unchanged false)
  else if message.length = 0 then some (port.unchanged false)
  else do
    let header ← message[0]?
    if header.isMasterToStationMessage then return port.unchanged false
    else if header.getStationAddress = 0 then return port.unchanged false
    else if header.getStationAddress ≠ port.conf.outstationAddr then return port.unchanged false
    else port.processAnswer now header message code

/-- The answer has digital data, and the command was a digital scan. -/
def HasDigitalData (code : Nat) (header : MD3BlockData) : Prop :=
  code = DIGITAL_CHANGE_OF_STATE_TIME_TAGGED ∧
      header.getFunctionCode = DIGITAL_CHANGE_OF_STATE_TIME_TAGGED ∨
    code = DIGITAL_UNCONDITIONAL ∧ (header.getFunctionCode = DIGITAL_UNCONDITIONAL ∨
      header.getFunctionCode = DIGITAL_CHANGE_OF_STATE_TIME_TAGGED)

/-- The answer is from the outstation of the port, and the port takes it. -/
def Takes (header : MD3BlockData) : Prop :=
  port.enabled = true ∧ header.isMasterToStationMessage = false ∧
    header.getStationAddress ≠ 0 ∧ header.getStationAddress = port.conf.outstationAddr

variable {port now header}

theorem processDigitalScan_isSome_iff :
    (port.processDigitalScan now header message).isSome = true ↔
      statusAtEnd header message = false := by
  rw [processDigitalScan, readDigitalScan_eq, Option.isSome_map]
  cases statusAtEnd header message with
  | true => exact iff_of_false Bool.false_ne_true Bool.true_eq_false.mp
  | false => exact iff_of_true rfl rfl

theorem processAnswer_of_data {code : Nat} (data : HasDigitalData code header) :
    port.processAnswer now header message code = port.processDigitalScan now header message := by
  rcases data with ⟨rfl, reply⟩ | ⟨rfl, reply | reply⟩
  · rw [processAnswer, reply]
    rfl
  · rw [processAnswer, reply]
    rfl
  · rw [processAnswer, reply]
    rfl

/-- Of the answers that are taken, those with digital data may be read past their end. -/
theorem processAnswer_isSome_iff (block : MD3BlockData) (blocks : MD3Message) (code : Nat) :
    (port.processAnswer now header (block :: blocks) code).isSome = true ↔
      (HasDigitalData code header → statusAtEnd header (block :: blocks) = false) := by
  by_cases data : HasDigitalData code header
  · rw [processAnswer_of_data _ data, processDigitalScan_isSome_iff]
    exact ⟨fun apart _ => apart, fun apart => apart data⟩
  · refine iff_of_true ?_ fun has => absurd has data
    have values : ((port.analogs.processAnalogUnconditionalReturnReading header
        (block :: blocks)).map port.withAnalogs).isSome = true := by
      rw [AnalogTable.processAnalogUnconditionalReturnReading_eq, Option.isSome_map,
        Option.isSome_some]
    have deltas : ((port.analogs.processAnalogDeltaScanReturnReading header
        (block :: blocks)).map port.withAnalogs).isSome = true := by
      rw [AnalogTable.processAnalogDeltaScanReturnReading_eq, Option.isSome_map,
        Option.isSome_some]
    refine isSome_ite (fun _ => isSome_ite (fun _ => values) fun _ => rfl) fun _ => ?_
    refine isSome_ite (fun _ => ?delta) fun _ => ?_
    case delta =>
      refine isSome_ite (fun _ => values) fun _ => ?_
      refine isSome_ite (fun _ => deltas) fun _ => ?_
      exact isSome_ite (fun _ => rfl) fun _ => rfl
    refine isSome_ite (fun tagged => ?events) fun _ => ?_
    case events =>
      refine isSome_ite (fun _ => rfl) fun _ => ?_
      exact isSome_ite (fun reply => absurd (.inl ⟨tagged, reply⟩) data) fun _ => rfl
    refine isSome_ite (fun scan => ?modules) fun _ => rfl
    refine isSome_ite (fun _ => rfl) fun _ => ?_
    exact isSome_ite (fun reply => absurd (.inr ⟨scan, reply⟩) data) fun _ => rfl

/-- **An answer is read without a read past its end exactly when it is not taken, has no digital
data, or its events do not end in a status.** -/
theorem processMD3Message_isSome_iff (port : MD3MasterPort) (now : Nat) (header : MD3BlockData)
    (blocks : MD3Message) (code : Nat) :
    (port.processMD3Message now (header :: blocks) code).isSome = true ↔
      (port.Takes header → HasDigitalData code header →
        statusAtEnd header (header :: blocks) = false) := by
  rw [processMD3Message]
  by_cases enabled : port.enabled = false
  · simp [Takes, enabled]
  · rw [if_neg enabled, if_neg (by simp), List.getElem?_cons_zero, Option.bind_eq_bind,
      Option.bind_some]
    by_cases fromMaster : header.isMasterToStationMessage = true
    · simp [Takes, fromMaster]
    · by_cases broadcast : header.getStationAddress = 0
      · simp [Takes, fromMaster, broadcast]
      · by_cases own : header.getStationAddress = port.conf.outstationAddr
        · have taken : port.Takes header :=
            ⟨Bool.not_eq_false _ ▸ enabled, Bool.not_eq_true _ ▸ fromMaster, broadcast, own⟩
          rw [if_neg fromMaster, if_neg broadcast, if_neg (not_not_intro own)]
          refine (processAnswer_isSome_iff header blocks code).trans ?_
          exact ⟨fun read _ => read, fun read => read taken⟩
        · simp [Takes, fromMaster, own]

/-- **An answer to an analog scan does what it does without indexes.** -/
theorem processAnswer_analog {blocks : MD3Message} {code : Nat}
    (analog : code = ANALOG_UNCONDITIONAL ∨ code = ANALOG_DELTA_SCAN) :
    port.processAnswer now header (header :: blocks) code =
      some
        { port := { port with
            analogs := port.analogs.processAnalogAnswer port.updateAnalogCounterTimeStamps code
              (header :: blocks) }
          success := MD3MasterConf.responseSuccess code header
            { message := header :: blocks } } := by
  have values := port.analogs.processAnalogUnconditionalReturnReading_eq header header blocks
  have deltas := port.analogs.processAnalogDeltaScanReturnReading_eq header header blocks
  rcases analog with rfl | rfl
  · rw [processAnswer, if_pos rfl, values]
    by_cases reply : header.getFunctionCode = ANALOG_UNCONDITIONAL
    · simp [AnalogTable.processAnalogAnswer, MD3MasterConf.responseSuccess, reply, withAnalogs]
    · simp [AnalogTable.processAnalogAnswer, MD3MasterConf.responseSuccess, reply, unchanged]
  · have apart : ANALOG_DELTA_SCAN ≠ ANALOG_UNCONDITIONAL := by decide
    rw [processAnswer, if_neg apart, if_pos rfl, values, deltas]
    by_cases unconditional : header.getFunctionCode = ANALOG_UNCONDITIONAL
    · simp [AnalogTable.processAnalogAnswer, MD3MasterConf.responseSuccess, unconditional, apart,
        withAnalogs]
    · by_cases delta : header.getFunctionCode = ANALOG_DELTA_SCAN
      · simp [AnalogTable.processAnalogAnswer, MD3MasterConf.responseSuccess, delta, apart,
          withAnalogs]
      · by_cases noChange : header.getFunctionCode = ANALOG_NO_CHANGE_REPLY
        · rw [noChange] at unconditional delta
          simp [AnalogTable.processAnalogAnswer, MD3MasterConf.responseSuccess, unconditional,
            delta, noChange, apart, withAnalogs, processAnalogNoChangeReturn]
        · simp [AnalogTable.processAnalogAnswer, MD3MasterConf.responseSuccess, unconditional,
            delta, noChange, apart, unchanged]

/-- **Digital data that is read to its end does what it does without indexes.** -/
theorem processDigitalScan_eq {result : AnswerResult}
    (read : port.processDigitalScan now header message = some result) :
    result.port = { port with
        binaries := (port.binaries.processDigitalScan now header message).1.1 } ∧
      result.published = (port.binaries.processDigitalScan now header message).1.2 ∧
      result.success = (digitalReports now header message).2 := by
  rw [processDigitalScan, readDigitalScan_eq] at read
  split at read
  · cases read
  · obtain rfl := Option.some.inj read
    exact ⟨rfl, rfl, rfl⟩

end MD3MasterPort

/-! ## Both ports -/

/-- **Requests and answers are read without a read past the message exactly when** a request to
the outstation has the blocks that are read of it, and the events of an answer with digital data
do not end in a status. -/
theorem messages_read_iff (outstation : MD3Outstation) (port : MD3MasterPort)
    (now code : Nat) (header : MD3BlockData) (blocks : MD3Message) :
    ((outstation.processMD3Message_ (header :: blocks) now).isSome = true ↔
      (outstation.enabled = true → header.isMasterToStationMessage = true →
        MD3Outstation.blocksRead header ≤ (header :: blocks).length)) ∧
    ((port.processMD3Message now (header :: blocks) code).isSome = true ↔
      (port.Takes header → MD3MasterPort.HasDigitalData code header →
        statusAtEnd header (header :: blocks) = false)) :=
  ⟨outstation.processMD3Message_isSome_iff now header blocks,
    port.processMD3Message_isSome_iff now header blocks code⟩

/-- The master of the empty outstation. -/
def emptyMaster : MD3MasterPort where
  conf := { outstationAddr := 0x7C }
  analogs := {}
  binaries := {}

/-- A pulse of one block is read up to its second one; and an answer with one event, an overflow
marker, is read past its last word. -/
theorem messages_read_past :
    (emptyOutstation.processMD3Message_ [MD3BlockFn17MtoS 0x7C 0x21 1] 0).isSome = false ∧
      (emptyMaster.processMD3Message 0
        [MD3BlockFn11StoM 0x7C 1 1 0, { data := 0x5AB38000#32 }, words 0#16 1#16]
        DIGITAL_CHANGE_OF_STATE_TIME_TAGGED).isSome = false := by
  constructor
  · rw [← Bool.not_eq_true, MD3Outstation.processMD3Message_isSome_iff]
    decide
  · rw [← Bool.not_eq_true, MD3MasterPort.processMD3Message_isSome_iff]
    unfold MD3MasterPort.Takes MD3MasterPort.HasDigitalData
    decide

end OpenDataCon.MD3Port
