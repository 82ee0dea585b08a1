import OpenDataCon.MD3Port.ControlExchange
import OpenDataCon.MD3Port.DigitalScan
import OpenDataCon.MD3Port.HRERWords

/-!
# Answers that are sent again

A scan with the sequence number of the one before it was not answered in the eyes of the master, and
gets the same answer again. Event lists have their own numbers, and the two digital scans share
theirs. For each of the two spaces the outstation keeps the last number and the last answer.

The digital scans set both in one place, behind their last return. The event list sets the number
first, and then refuses a request to set the time with an answer that it does not keep. So the
answer to a repeated request is right exactly where the one before it was not such a refusal
(`resends_iff`).
-/

set_option autoImplicit false

namespace OpenDataCon.MD3Port

open Runs BitFields MD3BlockData

/-! ## Event lists -/

def HRER_LIST_SCAN : Nat := 9

/-- The header of an event list, and of the request for one. -/
def MD3BlockFn9 (stationAddress : Nat) (mastertostation : Bool)
    (sequencenumber maximumevents : Nat) (moreevents : Bool) : MD3BlockData :=
  formattedBytes mastertostation stationAddress HRER_LIST_SCAN
    ((BitVec.ofNat 8 sequencenumber &&& 0x0F#8) <<< 4 ||| if moreevents then 0x08#8 else 0#8)
    (BitVec.ofNat 8 maximumevents)

namespace MD3BlockData

def getSequenceNumber (block : MD3BlockData) : Nat := ((block.data >>> 12) &&& 0x0F#32).toNat

def getEventCount (block : MD3BlockData) : Nat := (block.data &&& 0xFF#32).toNat

def setEventCountandMoreEventsFlag (block : MD3BlockData) (events : BitVec 8) (moreevents : Bool) :
    MD3BlockData where
  data := (block.data &&& ~~~(0x0800#32 ||| 0xFF#32)) |||
    ((if moreevents then 0x0800#32 else 0#32) ||| events.setWidth 32)

/-- The function is not among the bits that are set. -/
theorem getFunctionCode_setEventCountandMoreEventsFlag (block : MD3BlockData) (events : BitVec 8)
    (moreevents : Bool) :
    (block.setEventCountandMoreEventsFlag events moreevents).getFunctionCode =
      block.getFunctionCode := by
  rw [getFunctionCode, getFunctionCode]
  congr 1
  refine BitVec.eq_of_getLsbD_eq fun i small => ?_
  simp only [setEventCountandMoreEventsFlag, BitVec.getLsbD_and, BitVec.getLsbD_ushiftRight,
    BitVec.getLsbD_or, BitVec.getLsbD_not, BitVec.getLsbD_setWidth]
  by_cases inCode : i < 8
  · interval_cases i <;> cases moreevents <;> simp
  · have outside : (0xFF#32).getLsbD i = false := by
      interval_cases i <;> rfl
    rw [outside, Bool.and_false, Bool.and_false]

end MD3BlockData

/-- The function of an answer. -/
def functionSent (message : MD3Message) : Nat := (message.headD {}).getFunctionCode

/-- What the outstation keeps for event lists; the number starts with one that no request has. -/
structure HREROutstation extends DigitalOutstation where
  lastHRERSequenceNumber : Nat := 100
  lastDigitialHRERResponseMD3Message : MD3Message := []

namespace HREROutstation

/-- Function 9. A request for no events is one to set the time. -/
def doDigitalHRER (outstation : HREROutstation) (header : MD3BlockData) :
    HREROutstation × MD3Message :=
  if header.getSequenceNumber = outstation.lastHRERSequenceNumber then
    (outstation, outstation.lastDigitialHRERResponseMD3Message)
  else
    let number := if header.getSequenceNumber = 0 then 1 else header.getSequenceNumber
    let outstation := { outstation with lastHRERSequenceNumber := number }
    let formattedBlock := MD3BlockFn9 header.getStationAddress false number 0 true
    if header.getEventCount = 0 then
      (outstation, sendControlOrScanRejected outstation.flags header)
    else
      let tagged := fn9AddTimeTaggedDataToResponseWords header.getEventCount 0 0
        outstation.table.binaryTimeTaggedEventQueue
      let popped := { outstation with
        table := { outstation.table with binaryTimeTaggedEventQueue := tagged.queue } }
      let response := formattedBlock.setEventCountandMoreEventsFlag
        (BitVec.ofNat 8 tagged.eventCount) popped.timeTaggedDataAvailable ::
          wordBlocks tagged.responseWords
      ({ popped with lastDigitialHRERResponseMD3Message := response }, response)

/-- A request to set the time, with a number that is not the last one. -/
def refusesTime (outstation : HREROutstation) (header : MD3BlockData) : Bool :=
  header.getEventCount == 0 && header.getSequenceNumber != outstation.lastHRERSequenceNumber

variable {outstation : HREROutstation} {header : MD3BlockData}

theorem doDigitalHRER_repeat (again : header.getSequenceNumber = outstation.lastHRERSequenceNumber) :
    outstation.doDigitalHRER header =
      (outstation, outstation.lastDigitialHRERResponseMD3Message) := by
  rw [doDigitalHRER, if_pos again]

/-- What is kept for event lists is nothing, or an event list. -/
def KeepsList (outstation : HREROutstation) : Prop :=
  outstation.lastDigitialHRERResponseMD3Message = [] ∨
    functionSent outstation.lastDigitialHRERResponseMD3Message = HRER_LIST_SCAN

/-- A request with another number: the number is kept, and the answer unless it is a refusal. -/
theorem doDigitalHRER_fresh (fresh : header.getSequenceNumber ≠ outstation.lastHRERSequenceNumber) :
    let answer := outstation.doDigitalHRER header
    (header.getSequenceNumber ≠ 0 → answer.1.lastHRERSequenceNumber = header.getSequenceNumber) ∧
      if header.getEventCount = 0 then
        answer.1.lastDigitialHRERResponseMD3Message =
            outstation.lastDigitialHRERResponseMD3Message ∧
          functionSent answer.2 = CONTROL_OR_SCAN_REQUEST_REJECTED
      else answer.1.lastDigitialHRERResponseMD3Message = answer.2 ∧
        functionSent answer.2 = HRER_LIST_SCAN := by
  have numberKept : header.getSequenceNumber ≠ 0 →
      (if header.getSequenceNumber = 0 then 1 else header.getSequenceNumber) =
        header.getSequenceNumber := fun nonzero => if_neg nonzero
  rw [doDigitalHRER, if_neg fresh]
  dsimp only
  by_cases setsTime : header.getEventCount = 0
  · rw [if_pos setsTime, if_pos setsTime]
    exact ⟨numberKept, rfl, getFunctionCode_answer_control header false _⟩
  · rw [if_neg setsTime, if_neg setsTime]
    exact ⟨numberKept, rfl, (getFunctionCode_setEventCountandMoreEventsFlag ..).trans
      (getFunctionCode_formattedBytes ..)⟩

/-- The digital scans leave alone what is kept for event lists. -/
def withDigital (outstation : HREROutstation) (digital : DigitalOutstation) : HREROutstation :=
  { outstation with toDigitalOutstation := digital }

end HREROutstation

/-! ## Runs of requests -/

/-- A request that was handled: its number, what was sent for it, and whether it was a request to
set the time that was refused. -/
structure HandledRequest where
  number : Nat
  sent : MD3Message
  refusedTime : Bool := false

/-- Requests, and whatever else happens to an outstation between them: an event or a command of
another kind leaves a table and flags, and nothing of what is kept for the requests. -/
inductive ResendInput where
  | hrer (header : MD3BlockData)
  | scan (header : MD3BlockData)
  | unconditional (header : MD3BlockData)
  | other (table : BinaryTable) (soeTimeOffsetMinutes : Int) (RSF : Bool)

/-- An outstation and, for each space, the request before. -/
structure ResendHistory where
  outstation : HREROutstation
  lastHRER : Option HandledRequest := none
  lastScan : Option HandledRequest := none

/-- A request with the one before it of the same space, and the outstation before and after. -/
structure ResendRecord where
  previous : Option HandledRequest
  number : Nat
  sent : MD3Message
  before : HREROutstation
  after : HREROutstation

/-- A request with the number of the one before it, which is not zero, is answered with what was
sent for that, and changes nothing. -/
def ResendRecord.Right (record : ResendRecord) : Prop :=
  ∀ previous, record.previous = some previous → record.number ≠ 0 →
    previous.number = record.number → record.sent = previous.sent ∧ record.after = record.before

namespace ResendHistory

/-- A digital scan that has been answered. -/
def digital (history : ResendHistory) (number : Nat) (answer : DigitalOutstation × MD3Message) :
    ResendHistory × List ResendRecord :=
  let after := history.outstation.withDigital answer.1
  ({ history with outstation := after, lastScan := some { number, sent := answer.2 } },
    [⟨history.lastScan, number, answer.2, history.outstation, after⟩])

def step (history : ResendHistory) : ResendInput → ResendHistory × List ResendRecord
  | .hrer header =>
    let answer := history.outstation.doDigitalHRER header
    let number := header.getSequenceNumber
    let handled : HandledRequest :=
      { number, sent := answer.2, refusedTime := history.outstation.refusesTime header }
    ({ history with outstation := answer.1, lastHRER := some handled },
      [⟨history.lastHRER, number, answer.2, history.outstation, answer.1⟩])
  | .scan header => history.digital header.getDigitalSequenceNumber
      (history.outstation.toDigitalOutstation.doDigitalScan header)
  | .unconditional header => history.digital header.getDigitalSequenceNumber
      (history.outstation.toDigitalOutstation.doDigitalUnconditional header)
  | .other table soeTimeOffsetMinutes RSF =>
    let digital := { history.outstation.toDigitalOutstation with table, soeTimeOffsetMinutes, RSF }
    ({ history with outstation := history.outstation.withDigital digital }, [])

/-- A request for an event list does not have the number of a refused one right before it. -/
def SafeResend (history : ResendHistory) : ResendInput → Prop
  | .hrer header => ∀ previous, history.lastHRER = some previous → header.getSequenceNumber ≠ 0 →
      previous.number = header.getSequenceNumber → previous.refusedTime = false
  | _ => True

/-- What is kept for event lists belongs to the request before, unless that was refused. -/
structure HRERKept (history : ResendHistory) (previous : HandledRequest) : Prop where
  number : previous.number ≠ 0 →
    history.outstation.lastHRERSequenceNumber = previous.number
  answered : previous.number ≠ 0 → previous.refusedTime = false →
    history.outstation.lastDigitialHRERResponseMD3Message = previous.sent
  refused : previous.refusedTime = true →
    functionSent previous.sent = CONTROL_OR_SCAN_REQUEST_REJECTED

/-- What is kept for digital scans belongs to the one before. -/
structure ScanKept (history : ResendHistory) (previous : HandledRequest) : Prop where
  number : history.outstation.lastDigitalScanSequenceNumber = previous.number
  answered : previous.number ≠ 0 →
    history.outstation.lastDigitialScanResponseMD3Message = previous.sent

structure Kept (history : ResendHistory) : Prop where
  hrer : ∀ previous, history.lastHRER = some previous → history.HRERKept previous
  list : history.outstation.KeepsList
  scan : ∀ previous, history.lastScan = some previous → history.ScanKept previous

variable {history : ResendHistory}

/-- A request for an event list keeps what belongs to it. -/
theorem kept_hrer (kept : history.Kept) (header : MD3BlockData) :
    (history.step (.hrer header)).1.Kept := by
  by_cases again : header.getSequenceNumber = history.outstation.lastHRERSequenceNumber
  · have same := HREROutstation.doDigitalHRER_repeat again
    have notRefused : history.outstation.refusesTime header = false := by
      rw [HREROutstation.refusesTime, again, bne_self_eq_false, Bool.and_false]
    rw [step, same]
    refine ⟨?_, kept.list, fun previous isLast => ⟨(kept.scan previous isLast).number,
      (kept.scan previous isLast).answered⟩⟩
    rintro previous ⟨⟩
    exact ⟨fun _ => again.symm, fun _ _ => rfl,
      fun refused => absurd (refused.symm.trans notRefused) (by decide)⟩
  · obtain ⟨number, answer⟩ := HREROutstation.doDigitalHRER_fresh again
    have digital : (history.outstation.doDigitalHRER header).1.lastDigitalScanSequenceNumber =
          history.outstation.lastDigitalScanSequenceNumber ∧
        (history.outstation.doDigitalHRER header).1.lastDigitialScanResponseMD3Message =
          history.outstation.lastDigitialScanResponseMD3Message := by
      rw [HREROutstation.doDigitalHRER, if_neg again]
      dsimp only
      split <;> exact ⟨rfl, rfl⟩
    have scan : ∀ previous, (history.step (.hrer header)).1.lastScan = some previous →
        (history.step (.hrer header)).1.ScanKept previous := fun previous isLast =>
      ⟨digital.1.trans (kept.scan previous isLast).number,
        fun nonzero => digital.2.trans ((kept.scan previous isLast).answered nonzero)⟩
    by_cases setsTime : header.getEventCount = 0
    · rw [if_pos setsTime] at answer
      have refused : history.outstation.refusesTime header = true := by
        rw [HREROutstation.refusesTime, setsTime, bne_iff_ne.mpr again]
        rfl
      refine ⟨?_, ?_, scan⟩
      · rintro previous ⟨⟩
        exact ⟨number, fun _ notRefused => absurd (refused.symm.trans notRefused) (by decide),
          fun _ => answer.2⟩
      · exact kept.list.imp answer.1.trans fun isList => (congrArg functionSent answer.1).trans isList
    · rw [if_neg setsTime] at answer
      have notRefused : history.outstation.refusesTime header = false := by
        rw [HREROutstation.refusesTime, beq_eq_false_iff_ne.mpr setsTime, Bool.false_and]
      refine ⟨?_, .inr ((congrArg functionSent answer.1).trans answer.2), scan⟩
      rintro previous ⟨⟩
      exact ⟨number, fun _ _ => answer.1,
        fun refused => absurd (refused.symm.trans notRefused) (by decide)⟩

/-- What a digital scan does with the number and the answer that are kept. -/
structure ScanAnswers (before : DigitalOutstation) (number : Nat)
    (answer : DigitalOutstation × MD3Message) : Prop where
  again : number ≠ 0 → before.lastDigitalScanSequenceNumber = number →
    answer = (before, before.lastDigitialScanResponseMD3Message)
  number : answer.1.lastDigitalScanSequenceNumber = number
  kept : answer.1.lastDigitialScanResponseMD3Message = answer.2

theorem isRepeat_iff {outstation : DigitalOutstation} {header : MD3BlockData} :
    outstation.isRepeat header = true ↔
      outstation.lastDigitalScanSequenceNumber = header.getDigitalSequenceNumber ∧
        header.getDigitalSequenceNumber ≠ 0 := by
  rw [DigitalOutstation.isRepeat, Bool.and_eq_true, beq_iff_eq, bne_iff_ne]
  exact and_congr_left fun _ => eq_comm

/-- Function 11 keeps the number and the answer together. -/
theorem scanAnswers_scan (outstation : DigitalOutstation) (header : MD3BlockData) :
    ScanAnswers outstation header.getDigitalSequenceNumber (outstation.doDigitalScan header) := by
  rw [DigitalOutstation.doDigitalScan]
  by_cases again : outstation.isRepeat header = true
  · rw [if_pos again]
    exact ⟨fun _ _ => rfl, (isRepeat_iff.mp again).1, rfl⟩
  · rw [if_neg again]
    exact ⟨fun nonzero same => absurd (isRepeat_iff.mpr ⟨same, nonzero⟩) again, rfl, rfl⟩

/-- Function 12 keeps the number and the answer together. -/
theorem scanAnswers_unconditional (outstation : DigitalOutstation) (header : MD3BlockData) :
    ScanAnswers outstation header.getDigitalSequenceNumber
      (outstation.doDigitalUnconditional header) := by
  rw [DigitalOutstation.doDigitalUnconditional]
  by_cases again : outstation.isRepeat header = true
  · rw [if_pos again]
    exact ⟨fun _ _ => rfl, (isRepeat_iff.mp again).1, rfl⟩
  · rw [if_neg again]
    exact ⟨fun nonzero same => absurd (isRepeat_iff.mpr ⟨same, nonzero⟩) again, rfl, rfl⟩

/-- A digital scan keeps what belongs to it, and answers a repeated one rightly. -/
theorem digital_spec (kept : history.Kept) {number : Nat} {answer : DigitalOutstation × MD3Message}
    (answers : ScanAnswers history.outstation.toDigitalOutstation number answer) :
    (history.digital number answer).1.Kept ∧
      ∀ record ∈ (history.digital number answer).2, record.Right := by
  refine ⟨⟨fun previous isLast => ⟨(kept.hrer previous isLast).number,
    (kept.hrer previous isLast).answered, (kept.hrer previous isLast).refused⟩, kept.list, ?_⟩, ?_⟩
  · rintro previous ⟨⟩
    exact ⟨answers.number, fun _ => answers.kept⟩
  · intro record member
    rw [List.mem_singleton.mp member]
    intro previous isLast nonzero same
    dsimp only at isLast nonzero same ⊢
    have before := kept.scan previous isLast
    have repeated := answers.again nonzero (before.number.trans same)
    rw [repeated]
    exact ⟨before.answered (same ▸ nonzero), rfl⟩

/-- **An answer to a request for an event list is right exactly where the request before was not
refused under the same number.** -/
theorem hrer_right_iff (kept : history.Kept) (header : MD3BlockData) :
    (∀ record ∈ (history.step (.hrer header)).2, record.Right) ↔
      history.SafeResend (.hrer header) := by
  rw [step, List.forall_mem_singleton]
  refine forall_congr' fun previous => forall_congr' fun isLast => forall_congr' fun nonzero =>
    forall_congr' fun same => ?_
  dsimp only at isLast nonzero same ⊢
  have before := kept.hrer previous isLast
  have previousNonzero : previous.number ≠ 0 := same ▸ nonzero
  rw [HREROutstation.doDigitalHRER_repeat ((before.number previousNonzero).trans same).symm,
    and_iff_left rfl]
  constructor
  · intro resent
    by_contra refused
    -- a refusal is neither nothing nor an event list
    have code := before.refused (Bool.eq_true_of_not_eq_false refused)
    rw [← resent] at code
    rcases kept.list with none | isList
    · rw [none] at code
      have isZero : functionSent [] = CONTROL_OR_SCAN_REQUEST_REJECTED := code
      exact absurd isZero (by decide)
    · exact absurd (isList.symm.trans code) (by decide)
  · exact before.answered previousNonzero

theorem kept_step (history : ResendHistory) (input : ResendInput) (kept : history.Kept) :
    (history.step input).1.Kept := by
  cases input with
  | hrer header => exact kept_hrer kept header
  | scan header => exact (digital_spec kept (scanAnswers_scan _ header)).1
  | unconditional header => exact (digital_spec kept (scanAnswers_unconditional _ header)).1
  | other table soeTimeOffsetMinutes RSF =>
      exact ⟨fun previous isLast => ⟨(kept.hrer previous isLast).number,
          (kept.hrer previous isLast).answered, (kept.hrer previous isLast).refused⟩, kept.list,
        fun previous isLast => ⟨(kept.scan previous isLast).number,
          (kept.scan previous isLast).answered⟩⟩

theorem right_step_iff (history : ResendHistory) (input : ResendInput) (kept : history.Kept) :
    (∀ record ∈ (history.step input).2, record.Right) ↔ history.SafeResend input := by
  cases input with
  | hrer header => exact hrer_right_iff kept header
  | scan header => exact iff_of_true (digital_spec kept (scanAnswers_scan _ header)).2 trivial
  | unconditional header =>
      exact iff_of_true (digital_spec kept (scanAnswers_unconditional _ header)).2 trivial
  | other table soeTimeOffsetMinutes RSF =>
      exact iff_of_true (fun record member => by cases member) trivial

/-- An outstation that has not answered anything. -/
def start (table : BinaryTable) (soeTimeOffsetMinutes : Int) (RSF : Bool) : ResendHistory where
  outstation := { table, soeTimeOffsetMinutes, RSF }

theorem start_kept (table : BinaryTable) (soeTimeOffsetMinutes : Int) (RSF : Bool) :
    (start table soeTimeOffsetMinutes RSF).Kept where
  hrer := by
    intro previous none
    cases none
  list := .inl rfl
  scan := by
    intro previous none
    cases none

/-- **In a run of requests, with anything between them, every repeated request is answered as the
one before it exactly when none of these was a refused request to set the time.** -/
theorem resends_iff (table : BinaryTable) (soeTimeOffsetMinutes : Int) (RSF : Bool)
    (inputs : List ResendInput) :
    (∀ record ∈ (run step (start table soeTimeOffsetMinutes RSF) inputs).2, record.Right) ↔
      Guarded step SafeResend (start table soeTimeOffsetMinutes RSF) inputs :=
  outputs_iff_guarded Kept kept_step right_step_iff (start_kept ..) inputs

/-- Some repeated request of the run is answered otherwise than the one before it. -/
abbrev WrongResend (inputs : List ResendInput) : Prop :=
  ¬∀ record ∈ (run step (start {} 0 true) inputs).2, record.Right

/-- **A request to set the time is refused, and when it is repeated nothing is sent.** -/
theorem resends_refused :
    WrongResend [.hrer (MD3BlockFn9 0x7C true 5 0 false), .hrer (MD3BlockFn9 0x7C true 5 0 false)] := by
  intro right
  have again := right _ (.tail _ (.head _)) _ rfl (by decide) rfl
  exact absurd again.1 (by decide)

end ResendHistory

end OpenDataCon.MD3Port
