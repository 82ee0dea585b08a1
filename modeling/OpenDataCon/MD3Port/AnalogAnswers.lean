import OpenDataCon.MD3Port.AnalogRange

/-!
# Answers to an analog scan

The outstation answers with the values of the slots it reads, with their differences, which
are small then, or with a notice that there is no difference (`AnswersScan`,
`processAnalogRequest_answers`).

The master that accepts such an answer sets the slots of a uniform range to the values
at the outstation: always when the answer carries values, and otherwise the slots in which it
held what was last read there. It leaves the other slots as they are
(`AnswersScan.applied_of_success`).
-/

set_option autoImplicit false

namespace OpenDataCon.MD3Port

open MD3BlockData

/-! ## The outstation's answers -/

section Header

variable (header : MD3BlockData) (flags : SystemFlags) (functioncode : Nat)

@[simp] theorem getFunctionCode_replyHeader :
    (replyHeader header flags functioncode).getFunctionCode = functioncode % 256 := by
  rw [replyHeader, getFunctionCode_setFlags, getFunctionCode_formatted]

@[simp] theorem getModuleAddress_replyHeader :
    (replyHeader header flags functioncode).getModuleAddress = header.getModuleAddress := by
  rw [replyHeader, getModuleAddress_setFlags, getModuleAddress_formatted,
    Nat.mod_eq_of_lt header.getModuleAddress_lt]

@[simp] theorem getChannels_replyHeader :
    (replyHeader header flags functioncode).getChannels = header.getChannels := by
  rw [replyHeader, getChannels_setFlags, getChannels_formatted _ _ _ _ _ header.getChannels_bounds]

end Header

/-- The slots that a scan asks for. -/
def AnalogTable.scanSlots (table : AnalogTable) (header : MD3BlockData) : List Slot :=
  table.rangeSlots header.getModuleAddress header.getChannels

theorem AnalogTable.nodup_scanSlots (table : AnalogTable) (header : MD3BlockData) :
    (table.scanSlots header).Nodup :=
  table.nodup_rangeSlots _ _ header.getChannels_bounds.2

theorem AnalogTable.length_scanSlots (table : AnalogTable) (header : MD3BlockData) :
    (table.scanSlots header).length = header.getChannels :=
  table.length_rangeSlots _ _

/-- The answers that the outstation gives to a scan, by what its table reads. -/
inductive AnswersScan (table : AnalogTable) (flags : SystemFlags) (header : MD3BlockData) :
    MD3Message → Prop
  | values : AnswersScan table flags header
      (replyHeader header flags ANALOG_UNCONDITIONAL ::
        wordBlocks ((table.scanSlots header).map table.value))
  | differences (small : ∀ slot ∈ table.scanSlots header, (table.change slot).natAbs ≤ 127) :
      AnswersScan table flags header
        (replyHeader header flags ANALOG_DELTA_SCAN ::
          byteBlocks (((table.scanSlots header).map table.change).map (BitVec.ofInt 8)))
  | unchanged (still : ∀ slot ∈ table.scanSlots header, table.change slot = 0) :
      AnswersScan table flags header [replyHeader header flags ANALOG_NO_CHANGE_REPLY]

section Outstation

variable (table : AnalogTable) (flags : SystemFlags) (header : MD3BlockData)

/-- What the reading of the range collects. -/
theorem readAnalogOrCounterRange_scan :
    let reading := readAnalogOrCounterRange header.getModuleAddress header.getChannels { table }
    reading.table = table.readSlots (table.scanSlots header) ∧
      reading.analogValues = (table.scanSlots header).map table.value ∧
      reading.analogDeltaValues = (table.scanSlots header).map table.change ∧
      reading.responseType =
        ((table.scanSlots header).map table.change).foldl AnalogChangeType.after .noChange := by
  have nodup := table.nodup_scanSlots header
  rw [AnalogReading.readAnalogOrCounterRange_eq]
  refine ⟨AnalogReading.table_read _, ?_, ?_, AnalogReading.responseType_read nodup _⟩
  · exact AnalogReading.analogValues_read nodup _
  · exact AnalogReading.analogDeltaValues_read nodup _

theorem doAnalogUnconditional_answers :
    (doAnalogUnconditional table flags header).1 = table.readSlots (table.scanSlots header) ∧
      AnswersScan table flags header (doAnalogUnconditional table flags header).2 := by
  obtain ⟨read, values, -, -⟩ := readAnalogOrCounterRange_scan table header
  refine ⟨read, ?_⟩
  rw [doAnalogUnconditional, sendAnalogOrCounterUnconditional, values]
  exact .values

theorem doAnalogDeltaScan_answers :
    (doAnalogDeltaScan table flags header).1 = table.readSlots (table.scanSlots header) ∧
      AnswersScan table flags header (doAnalogDeltaScan table flags header).2 := by
  obtain ⟨read, values, deltas, responseType⟩ := readAnalogOrCounterRange_scan table header
  refine ⟨read, ?_⟩
  rw [doAnalogDeltaScan]
  dsimp only
  cases kind : (readAnalogOrCounterRange header.getModuleAddress header.getChannels
      { table }).responseType with
  | allChange =>
      rw [sendAnalogOrCounterUnconditional, values]
      exact .values
  | deltaChange =>
      rw [sendAnalogDelta, deltas]
      refine .differences fun slot inside => ?_
      have small : ((table.scanSlots header).map table.change).foldl AnalogChangeType.after
          .noChange ≠ .allChange := by
        rw [← responseType, kind]
        decide
      exact (AnalogChangeType.responseType_small small).2 _ (List.mem_map_of_mem inside)
  | noChange =>
      refine .unchanged fun slot inside => ?_
      exact (AnalogChangeType.responseType_noChange (responseType.symm.trans kind)).2 _
        (List.mem_map_of_mem inside)

/-- **The outstation reads the slots of the scan and answers by what it reads.** -/
theorem processAnalogRequest_answers {message reply : MD3Message} {after : AnalogTable}
    (processed : processAnalogRequest table flags message = (after, some reply)) :
    after = table.readSlots (table.scanSlots (message.headD {})) ∧
      AnswersScan table flags (message.headD {}) reply := by
  unfold processAnalogRequest at processed
  split at processed
  · cases processed
  · next header rest =>
    rw [List.headD_cons]
    split at processed
    · cases processed
    · split at processed
      · cases processed
        exact doAnalogUnconditional_answers table flags header
      · split at processed
        · cases processed
          exact doAnalogDeltaScan_answers table flags header
        · cases processed

/-- A request that gets no answer has read nothing. -/
theorem processAnalogRequest_ignored {message : MD3Message} {after : AnalogTable}
    (processed : processAnalogRequest table flags message = (after, none)) : after = table := by
  unfold processAnalogRequest at processed
  split at processed
  · cases processed
    rfl
  · split at processed
    · cases processed
      rfl
    · split at processed
      · cases processed
      · split at processed
        · cases processed
        · cases processed
          rfl

end Outstation

/-! ## Differences as signed bytes -/

/-- A small difference, sent as a byte and added as a signed word, leads to the value. -/
theorem add_signExtend_ofInt {base value : BitVec 16}
    (small : ((value.toNat : Int) - base.toNat).natAbs ≤ 127) :
    base + (BitVec.ofInt 8 ((value.toNat : Int) - base.toNat)).signExtend 16 = value := by
  have byte : (BitVec.ofInt 8 ((value.toNat : Int) - base.toNat)).toInt =
      (value.toNat : Int) - base.toNat := by
    rw [BitVec.toInt_ofInt]
    refine Int.bmod_eq_of_le ?_ ?_ <;> omega
  have baseWord : base = BitVec.ofInt 16 base.toNat := by
    rw [BitVec.ofInt_natCast, BitVec.ofNat_toNat, BitVec.setWidth_eq]
  calc base + (BitVec.ofInt 8 ((value.toNat : Int) - base.toNat)).signExtend 16
      = BitVec.ofInt 16 base.toNat + BitVec.ofInt 16 ((value.toNat : Int) - base.toNat) := by
        rw [BitVec.signExtend, byte, ← baseWord]
    _ = BitVec.ofInt 16 value.toNat := by
        rw [← BitVec.ofInt_add]
        congr 1
        omega
    _ = value := by
        rw [BitVec.ofInt_natCast, BitVec.ofNat_toNat, BitVec.setWidth_eq]

/-! ## The master's processing -/

/-- The answer carries values, not differences. -/
def carriesValues (message : MD3Message) : Bool :=
  (message.headD {}).getFunctionCode == ANALOG_UNCONDITIONAL

/-- An answer to an analog scan succeeds for a master that waits for one. -/
theorem code_of_responseSuccess {code : Nat} {header : MD3BlockData} {answer : MD3Answer}
    (reply : header.getFunctionCode = ANALOG_UNCONDITIONAL ∨
      header.getFunctionCode = ANALOG_DELTA_SCAN ∨ header.getFunctionCode = ANALOG_NO_CHANGE_REPLY)
    (success : MD3MasterConf.responseSuccess code header answer = true) :
    code = ANALOG_UNCONDITIONAL ∧ header.getFunctionCode = ANALOG_UNCONDITIONAL ∨
      code = ANALOG_DELTA_SCAN := by
  unfold MD3MasterConf.responseSuccess at success
  dsimp only at success
  split at success
  · next unconditional =>
    rw [Bool.and_eq_true, beq_iff_eq] at success
    exact .inl ⟨unconditional, success.1⟩
  · split at success
    · next delta => exact .inr delta
    · exfalso
      rcases reply with code | code | code <;>
        simp [code, ANALOG_UNCONDITIONAL, ANALOG_DELTA_SCAN, ANALOG_NO_CHANGE_REPLY,
          DIGITAL_NO_CHANGE_REPLY, DIGITAL_CHANGE_OF_STATE_TIME_TAGGED, DIGITAL_UNCONDITIONAL,
          CONTROL_REQUEST_OK, SYSTEM_SIGNON_CONTROL, SYSTEM_FLAG_SCAN] at success

namespace AnswersScan

variable {table points : AnalogTable} {flags : SystemFlags} {header : MD3BlockData}
  {reply : MD3Message}

/-- The header of an answer names one of the three functions. -/
theorem functionCode (answers : AnswersScan table flags header reply) :
    (reply.headD {}).getFunctionCode = ANALOG_UNCONDITIONAL ∨
      (reply.headD {}).getFunctionCode = ANALOG_DELTA_SCAN ∨
      (reply.headD {}).getFunctionCode = ANALOG_NO_CHANGE_REPLY := by
  cases answers with
  | values => exact .inl (by simp [ANALOG_UNCONDITIONAL])
  | differences small => exact .inr (.inl (by simp [ANALOG_DELTA_SCAN]))
  | unchanged still => exact .inr (.inr (by simp [ANALOG_NO_CHANGE_REPLY]))

/-- What an answer does to the slots of a table: it sets those of the scan, to the
values if it carries them, else by the differences. -/
def Applied (table points : AnalogTable) (header : MD3BlockData) (reply : MD3Message)
    (after : AnalogTable) : Prop :=
  after.SamePoints points ∧
    (∀ slot, slot ∉ table.scanSlots header → after.value slot = points.value slot) ∧
    ∀ slot ∈ table.scanSlots header,
      carriesValues reply = true ∨ points.value slot = table.lastRead slot →
        after.value slot = table.value slot

/-- The slots are set from words that lead to the values. -/
theorem applied_of_stored {after : AnalogTable} (same : points.SamePoints table)
    (word : Slot → BitVec 16) (deltaUpdate onlyUpdateTime : Bool)
    (stored : after = points.modifyAll (AnalogTable.stored word deltaUpdate onlyUpdateTime)
      (table.scanSlots header))
    (leads : ∀ slot ∈ table.scanSlots header,
      carriesValues reply = true ∨ points.value slot = table.lastRead slot →
        updatedWord (points.value slot) (word slot) deltaUpdate onlyUpdateTime =
          table.value slot) :
    Applied table points header reply after := by
  have nodup := table.nodup_scanSlots header
  subst stored
  refine ⟨AnalogTable.samePoints_modifyAll _ _ _, fun slot outside => ?_,
    fun slot inside known => ?_⟩
  · exact AnalogTable.value_stored_of_not_mem _ _ _ _ nodup outside
  · cases exists' : (points.points slot).isSome with
    | true => rw [AnalogTable.value_stored _ _ _ _ nodup inside exists', leads slot inside known]
    | false =>
        rw [AnalogTable.value_of_missing _
            ((AnalogTable.samePoints_modifyAll _ _ _ slot).trans exists'),
          AnalogTable.value_of_missing _ ((same slot).symm.trans exists')]

theorem applied_self (same : ∀ slot ∈ table.scanSlots header,
    carriesValues reply = true ∨ points.value slot = table.lastRead slot →
      points.value slot = table.value slot) :
    Applied table points header reply points :=
  ⟨.refl _, fun _ _ => rfl, same⟩

section Returns

variable (same : points.SamePoints table)
  (uniform : points.Uniform header.getModuleAddress header.getChannels)

include same in
theorem scanSlots_eq : points.rangeSlots header.getModuleAddress header.getChannels =
    table.scanSlots header :=
  AnalogTable.rangeSlots_congr same _ _

include same uniform

theorem applied_values (flags : SystemFlags) :
    Applied table points header
      (replyHeader header flags ANALOG_UNCONDITIONAL ::
        wordBlocks ((table.scanSlots header).map table.value))
      (points.processAnalogUnconditionalReturn (replyHeader header flags ANALOG_UNCONDITIONAL)
        (replyHeader header flags ANALOG_UNCONDITIONAL ::
          wordBlocks ((table.scanSlots header).map table.value))) := by
  have length : ((table.scanSlots header).map table.value).length = header.getChannels := by
    rw [List.length_map, table.length_scanSlots]
  have counted : MD3MasterConf.processAnalogUnconditionalReturn
      (replyHeader header flags ANALOG_UNCONDITIONAL)
      (replyHeader header flags ANALOG_UNCONDITIONAL ::
        wordBlocks ((table.scanSlots header).map table.value)) = true := by
    simp [MD3MasterConf.processAnalogUnconditionalReturn, length_wordBlocks, length]
  have unloaded : unloadWords header.getChannels
      (wordBlocks ((table.scanSlots header).map table.value)) =
        (table.scanSlots header).map table.value := by
    rw [← length, unloadWords_wordBlocks]
  refine applied_of_stored same table.value false false ?_ fun slot inside known => rfl
  rw [AnalogTable.processAnalogUnconditionalReturn, if_pos counted, List.drop_one, List.tail_cons,
    getChannels_replyHeader, getModuleAddress_replyHeader, unloaded, ← scanSlots_eq same,
    AnalogTable.storeChannels_eq uniform]

theorem applied_differences (flags : SystemFlags)
    (small : ∀ slot ∈ table.scanSlots header, (table.change slot).natAbs ≤ 127)
    (counted : MD3MasterConf.processAnalogDeltaScanReturn
      (replyHeader header flags ANALOG_DELTA_SCAN)
      (replyHeader header flags ANALOG_DELTA_SCAN ::
        byteBlocks (((table.scanSlots header).map table.change).map (BitVec.ofInt 8))) = true) :
    Applied table points header
      (replyHeader header flags ANALOG_DELTA_SCAN ::
        byteBlocks (((table.scanSlots header).map table.change).map (BitVec.ofInt 8)))
      (points.processAnalogDeltaScanReturn (replyHeader header flags ANALOG_DELTA_SCAN)
        (replyHeader header flags ANALOG_DELTA_SCAN ::
          byteBlocks (((table.scanSlots header).map table.change).map (BitVec.ofInt 8)))) := by
  have length : (((table.scanSlots header).map table.change).map (BitVec.ofInt 8)).length =
      header.getChannels := by
    rw [List.length_map, List.length_map, table.length_scanSlots]
  have unloaded : unloadBytes header.getChannels
      (byteBlocks (((table.scanSlots header).map table.change).map (BitVec.ofInt 8))) =
        ((table.scanSlots header).map table.change).map (BitVec.ofInt 8) := by
    rw [← length, unloadBytes_byteBlocks]
  let word : Slot → BitVec 16 := fun slot => (BitVec.ofInt 8 (table.change slot)).signExtend 16
  have words : (((table.scanSlots header).map table.change).map (BitVec.ofInt 8)).map
      (BitVec.signExtend 16) = (table.scanSlots header).map word := by
    rw [List.map_map, List.map_map]
    rfl
  refine applied_of_stored same word true false ?_ fun slot inside known => ?_
  · rw [AnalogTable.processAnalogDeltaScanReturn, if_pos counted, List.drop_one, List.tail_cons,
      getChannels_replyHeader, getModuleAddress_replyHeader, unloaded, words, ← scanSlots_eq same,
      AnalogTable.storeChannels_eq uniform]
  · have held : points.value slot = table.lastRead slot := by
      rcases known with carries | held
      · simp [carriesValues, ANALOG_DELTA_SCAN, ANALOG_UNCONDITIONAL] at carries
      · exact held
    rw [held]
    exact add_signExtend_ofInt (small slot inside)

theorem applied_unchanged (flags : SystemFlags) (updateAnalogCounterTimeStamps : Bool)
    (still : ∀ slot ∈ table.scanSlots header, table.change slot = 0) :
    Applied table points header [replyHeader header flags ANALOG_NO_CHANGE_REPLY]
      (points.processAnalogNoChangeReturn updateAnalogCounterTimeStamps
        (replyHeader header flags ANALOG_NO_CHANGE_REPLY)
        [replyHeader header flags ANALOG_NO_CHANGE_REPLY]) := by
  have kept : ∀ slot ∈ table.scanSlots header,
      carriesValues [replyHeader header flags ANALOG_NO_CHANGE_REPLY] = true ∨
        points.value slot = table.lastRead slot → points.value slot = table.value slot := by
    intro slot inside known
    rcases known with carries | held
    · simp [carriesValues, ANALOG_NO_CHANGE_REPLY, ANALOG_UNCONDITIONAL] at carries
    · have zero : ((table.value slot).toNat : Int) - (table.lastRead slot).toNat = 0 :=
        still slot inside
      exact held.trans (BitVec.eq_of_toNat_eq (by omega))
  rw [AnalogTable.processAnalogNoChangeReturn]
  split
  · have zeros : List.replicate header.getChannels 0#16 =
        (table.scanSlots header).map fun _ => 0#16 := by
      rw [List.map_const', table.length_scanSlots]
    refine applied_of_stored same (fun _ => 0#16) false true ?_ kept
    rw [getChannels_replyHeader, getModuleAddress_replyHeader, zeros, ← scanSlots_eq same,
      AnalogTable.storeChannels_eq uniform]
  · exact applied_self kept

/-- **An accepted answer leads to the values at the outstation.** -/
theorem applied_of_success (answers : AnswersScan table flags header reply)
    (updateAnalogCounterTimeStamps : Bool) {code : Nat} {answer : MD3Answer}
    (message : answer.message = reply)
    (success : MD3MasterConf.responseSuccess code (reply.headD {}) answer = true) :
    Applied table points header reply
      (points.processAnalogAnswer updateAnalogCounterTimeStamps code reply) := by
  have known := code_of_responseSuccess answers.functionCode success
  cases answers with
  | values =>
      have processed := applied_values same uniform flags
      rcases known with ⟨rfl, -⟩ | rfl <;>
        simpa [AnalogTable.processAnalogAnswer, ANALOG_UNCONDITIONAL, ANALOG_DELTA_SCAN]
          using processed
  | differences small =>
      rcases known with ⟨-, other⟩ | rfl
      · simp [ANALOG_DELTA_SCAN, ANALOG_UNCONDITIONAL] at other
      · have counted : MD3MasterConf.processAnalogDeltaScanReturn
            (replyHeader header flags ANALOG_DELTA_SCAN) answer.message = true := by
          simpa [MD3MasterConf.responseSuccess, ANALOG_UNCONDITIONAL, ANALOG_DELTA_SCAN]
            using success
        rw [message] at counted
        have processed := applied_differences same uniform flags small counted
        simpa [AnalogTable.processAnalogAnswer, ANALOG_UNCONDITIONAL, ANALOG_DELTA_SCAN]
          using processed
  | unchanged still =>
      rcases known with ⟨-, other⟩ | rfl
      · simp [ANALOG_NO_CHANGE_REPLY, ANALOG_UNCONDITIONAL] at other
      · have processed := applied_unchanged same uniform flags
          updateAnalogCounterTimeStamps still
        simpa [AnalogTable.processAnalogAnswer, ANALOG_UNCONDITIONAL, ANALOG_DELTA_SCAN,
          ANALOG_NO_CHANGE_REPLY] using processed

end Returns

end AnswersScan

end OpenDataCon.MD3Port
