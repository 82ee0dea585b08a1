import OpenDataCon.CBPort.SOEPack
import OpenDataCon.CBPort.SOEPayload

/-!
# The events come back

The master reads the records one after the other. Two of its tests ask for more
bits than the record has: a long record must be followed by thirteen further
bits, and after the first record at least one. Both are met while another record
follows, so only the last record of a message can be missed, and whether it is
depends on the padding (`forEachSOEEventLoop_records`).

`soeRoundTrip_iff` says for which queues every popped event is reported.
-/

set_option autoImplicit false

namespace OpenDataCon.CBPort

open BitStrings

/-! ## The reading loop -/

/-- The reading loop; `fuel` bounds the events it reads. -/
def forEachSOEEventLoop : Nat → List Bool → Nat → Nat → Nat → List SOEEventFormat
  | 0, _, _, _, _ => []
  | fuel + 1, bitArray, usedBits, startbit, lastEventTime =>
    match SOEEventFormat.ofBitArray bitArray startbit usedBits lastEventTime with
    | none => []
    | some (event, newstartbit) =>
      if event.lastEventFlag then [event]
      else if newstartbit + 30 < usedBits then
        event :: forEachSOEEventLoop fuel bitArray usedBits newstartbit event.getTotalMsecTime
      else [event]

/-- The events of an array of bits, each as it is handed to the callback. -/
def forEachSOEEventInBitArray (bitArray : List Bool) (usedBits : Nat) : List SOEEventFormat :=
  forEachSOEEventLoop (usedBits + 1) bitArray usedBits 0 0

/-- A record that is read has thirty bits at least. -/
theorem ofBitArray_newstartbit {bitArray : List Bool} {startbit usedbits lastEventTime : Nat}
    {event : SOEEventFormat} {newstartbit : Nat}
    (read : SOEEventFormat.ofBitArray bitArray startbit usedbits lastEventTime =
      some (event, newstartbit)) :
    startbit + 30 ≤ usedbits ∧ startbit + 30 ≤ newstartbit := by
  simp only [SOEEventFormat.ofBitArray] at read
  split at read
  · cases read
  · next room =>
      refine ⟨by omega, ?_⟩
      split at read
      · split at read
        · cases read
        · have stop := congrArg Prod.snd (Option.some.inj read)
          simp only [SOEEventFormat.readSecond] at stop
          omega
      · have stop := congrArg Prod.snd (Option.some.inj read)
        simp only [SOEEventFormat.readSecond] at stop
        omega

/-- The bound is never reached. -/
theorem forEachSOEEventLoop_fuel (bitArray : List Bool) (usedBits more : Nat) {fuel : Nat}
    {startbit : Nat} (lastEventTime : Nat) (enough : usedBits ≤ startbit + fuel) :
    forEachSOEEventLoop (fuel + 1 + more) bitArray usedBits startbit lastEventTime =
      forEachSOEEventLoop (fuel + 1) bitArray usedBits startbit lastEventTime := by
  induction fuel generalizing startbit lastEventTime with
  | zero =>
      rw [show 0 + 1 + more = more + 1 by omega]
      simp only [forEachSOEEventLoop]
      cases read : SOEEventFormat.ofBitArray bitArray startbit usedBits lastEventTime with
      | none => rfl
      | some found =>
          obtain ⟨room, -⟩ := ofBitArray_newstartbit read
          omega
  | succ fuel ih =>
      rw [show fuel + 1 + 1 + more = fuel + 1 + more + 1 by omega]
      simp only [forEachSOEEventLoop]
      cases read : SOEEventFormat.ofBitArray bitArray startbit usedBits lastEventTime with
      | none => rfl
      | some found =>
          obtain ⟨event, newstartbit⟩ := found
          obtain ⟨-, moved⟩ := ofBitArray_newstartbit read
          have later := @ih newstartbit event.getTotalMsecTime (by omega)
          simp only [forEachSOEEventLoop] at later
          simp only [later]

/-! ## What the loop reads -/

/-- The events as a reader knows them: each with the hour and the minute that it
has or that the event before it had. -/
def resolveAll : Nat → List SOEEventFormat → List SOEEventFormat
  | _, [] => []
  | lastEventTime, event :: rest =>
    event.resolved lastEventTime ::
      resolveAll (event.resolved lastEventTime).getTotalMsecTime rest

/-- The padding that the tests of the reader ask for after the last record. -/
def LastIsRead (pad : Nat) (events : List SOEEventFormat) : Prop :=
  ∀ last ∈ events.getLast?, (if last.timeFormatBit then 13 else 1) ≤ pad

instance (pad : Nat) (events : List SOEEventFormat) : Decidable (LastIsRead pad events) :=
  inferInstanceAs (Decidable (∀ last ∈ events.getLast?, _))

@[simp] theorem resolved_lastEventFlag (event : SOEEventFormat) (lastEventTime : Nat) :
    (event.resolved lastEventTime).lastEventFlag = event.lastEventFlag := by
  unfold SOEEventFormat.resolved
  split <;> rfl

theorem getResultBitLength_bounds (event : SOEEventFormat) :
    30 ≤ event.getResultBitLength ∧ event.getResultBitLength ≤ 41 := by
  unfold SOEEventFormat.getResultBitLength
  split <;> exact ⟨by decide, by decide⟩

theorem length_bitsOfRecords_cons (event : SOEEventFormat) (rest : List SOEEventFormat) :
    (bitsOfRecords (event :: rest)).length =
      event.getResultBitLength + (bitsOfRecords rest).length := by
  rw [← SOEEventFormat.length_recordBits, ← List.length_append]
  rfl

/-- **The loop reads every record, but the last only when the padding suffices.** -/
theorem forEachSOEEventLoop_records {events : List SOEEventFormat} (some : events ≠ [])
    (fits : ∀ event ∈ events, event.Fits)
    (unflagged : ∀ event ∈ events.dropLast, event.lastEventFlag = false)
    (bitArray : List Bool) (startbit usedBits fuel lastEventTime : Nat) {pad : Nat}
    (shape : bitArray.drop startbit = bitsOfRecords events ++ List.replicate pad false)
    (used : usedBits = startbit + (bitsOfRecords events).length + pad) (little : pad < 24)
    (entered : startbit + 30 < usedBits) (enough : events.length ≤ fuel) :
    forEachSOEEventLoop fuel bitArray usedBits startbit lastEventTime =
      resolveAll lastEventTime (if LastIsRead pad events then events else events.dropLast) := by
  induction events generalizing startbit lastEventTime fuel with
  | nil => exact absurd rfl some
  | cons event rest ih =>
      obtain ⟨fuel, rfl⟩ : ∃ less, fuel = less + 1 :=
        ⟨fuel - 1, by rw [List.length_cons] at enough; omega⟩
      have here : bitArray.drop startbit =
          event.recordBits ++ (bitsOfRecords rest ++ List.replicate pad false) := by
        rw [shape, ← List.append_assoc]
        rfl
      have after : bitArray.drop (startbit + event.getResultBitLength) =
          bitsOfRecords rest ++ List.replicate pad false := by
        rw [← List.drop_drop, here]
        exact List.drop_left' (SOEEventFormat.length_recordBits event)
      have read := SOEEventFormat.ofBitArray_recordBits (fits event (by simp)) lastEventTime here
        (Nat.le_of_lt entered)
      obtain ⟨atLeast, atMost⟩ := getResultBitLength_bounds event
      rw [length_bitsOfRecords_cons] at used
      cases rest with
      | nil =>
          -- the last record: nothing but the padding follows it
          rw [show (bitsOfRecords ([] : List SOEEventFormat)).length = 0 from rfl] at used
          simp only [forEachSOEEventLoop, read]
          have lastRead : LastIsRead pad [event] ↔
              ¬(event.timeFormatBit = true ∧ usedBits < startbit + 13 + 41) := by
            simp only [LastIsRead, List.getLast?_singleton, Option.mem_def, Option.some.injEq,
              forall_eq']
            unfold SOEEventFormat.getResultBitLength at used
            by_cases long : event.timeFormatBit = true
            · simp only [long, if_true, true_and] at used ⊢
              omega
            · simp only [long, Bool.false_eq_true, if_false, false_and, not_false_iff,
                iff_true] at used ⊢
              omega
          by_cases isRead : LastIsRead pad [event]
          · rw [if_neg (lastRead.mp isRead), if_pos isRead]
            simp [resolveAll, show ¬ startbit + event.getResultBitLength + 30 < usedBits by omega]
          · rw [if_pos (not_not.mp (mt lastRead.mpr isRead)), if_neg isRead]
            rfl
      | cons next rest =>
          obtain ⟨nextAtLeast, -⟩ := getResultBitLength_bounds next
          have length := length_bitsOfRecords_cons next rest
          have flag : event.lastEventFlag = false := unflagged event (by simp)
          have known : ¬(event.timeFormatBit = true ∧ usedBits < startbit + 13 + 41) := by
            unfold SOEEventFormat.getResultBitLength at *
            intro long
            simp only [long.1, if_true] at used
            omega
          have sameLast : LastIsRead pad (event :: next :: rest) ↔
              LastIsRead pad (next :: rest) := by
            simp [LastIsRead, List.getLast?_cons_cons]
          rw [if_neg known] at read
          simp only [forEachSOEEventLoop, read, resolved_lastEventFlag, flag, Bool.false_eq_true,
            if_false, sameLast]
          by_cases goesOn : startbit + event.getResultBitLength + 30 < usedBits
          · rw [if_pos goesOn]
            have later := ih (by simp) (fun other member => fits other (by simp [member]))
              (fun other member => unflagged other (by
                rw [List.dropLast_cons_cons]; exact List.mem_cons_of_mem _ member)) _ fuel
              (event.resolved lastEventTime).getTotalMsecTime after (by omega) goesOn
              (by simpa using enough)
            rw [later]
            split <;> rfl
          · -- a short record follows, and no padding
            have alone : rest = [] := by
              cases rest with
              | nil => rfl
              | cons third rest =>
                  obtain ⟨thirdAtLeast, -⟩ := getResultBitLength_bounds third
                  have more := length_bitsOfRecords_cons third rest
                  omega
            subst alone
            have missed : ¬ LastIsRead pad [next] := by
              have short : pad = 0 := by omega
              simp only [LastIsRead, List.getLast?_singleton, Option.mem_def, Option.some.injEq,
                forall_eq', short]
              split <;> decide
            rw [if_neg goesOn, if_neg missed]
            rfl

/-! ## Reports -/

/-- What the callback is told of an event. -/
structure SOEReport where
  group : Nat
  number : Nat
  valueBit : Bool
  time : HMSMSEC
  lastEventFlag : Bool
deriving DecidableEq, Repr

/-- The report of an event that was read. -/
def SOEEventFormat.report (event : SOEEventFormat) : SOEReport where
  group := event.group
  number := event.number
  valueBit := event.valueBit
  time :=
    { hour := event.hour, min := event.minute, sec := event.second, msec := event.millisecond }
  lastEventFlag := event.lastEventFlag

/-- The report that an event of the queue calls for. -/
def pointReport (clock : SOEClock) (last : Bool) (point : CBBinaryPoint) : SOEReport where
  group := point.group % 8
  number := point.soeIndex
  valueBit := soeValueBit point
  time := convertCBTimeToHMSMSEC (clock.changedCorrectedTime point.changedTime)
  lastEventFlag := last

/-- One report for each event, in order; the last one says whether the queue is empty. -/
def expectedReports (clock : SOEClock) (points : List CBBinaryPoint) (empty : Bool) :
    List SOEReport :=
  points.dropLast.map (pointReport clock false) ++
    points.getLast?.toList.map (pointReport clock empty)

/-- What the master hands to the callback for a message. -/
def processSOEScanRequestReturn (completeCBMessage : CBMessage) : List SOEReport :=
  match convertSOEMessageToBitArray completeCBMessage with
  | none => []
  | some bits => (forEachSOEEventInBitArray bits bits.length).map SOEEventFormat.report

/-- What the master reports of the message that carries the packed bits. -/
def receivedReports (header : CBBlockData) (bitArray : List Bool) : List SOEReport :=
  processSOEScanRequestReturn (convertPayloadWordsToCBMessage header
    (convertBitArrayToPayloadWords bitArray.length bitArray))

/-- Two times have the same hour and minute. -/
def SameHourMinute (first second : Nat) : Prop :=
  (convertCBTimeToHMSMSEC first).hour = (convertCBTimeToHMSMSEC second).hour ∧
    (convertCBTimeToHMSMSEC first).min = (convertCBTimeToHMSMSEC second).min

theorem timeOfDay_of_parts (dtime : Nat) :
    { hour := (convertCBTimeToHMSMSEC dtime).hour, min := (convertCBTimeToHMSMSEC dtime).min,
      sec := dtime / 1000 % 60, msec := dtime % 1000 } = convertCBTimeToHMSMSEC dtime := by
  rw [convertCBTimeToHMSMSEC_eq]

/-- **A record is resolved to the time of its event**, when the reader knows the
hour and the minute of the event before it. -/
theorem report_packedEvent (clock : SOEClock) {lastPointTime lastEventTime : Nat}
    (known : lastPointTime = 0 ∨ SameHourMinute lastPointTime lastEventTime)
    (point : CBBinaryPoint) :
    let event := (packedEvent clock lastPointTime point).resolved lastEventTime
    event.report = pointReport clock false point ∧
      SameHourMinute (clock.changedCorrectedTime point.changedTime) event.getTotalMsecTime := by
  intro event
  have report : event.report = pointReport clock false point := by
    have group : point.group &&& 0x07 = point.group % 8 :=
      Nat.and_two_pow_sub_one_eq_mod point.group 3
    cases long : sendHoursAndMinutes lastPointTime
      (clock.changedCorrectedTime point.changedTime) with
    | true =>
        simp [event, SOEEventFormat.resolved, packedEvent, SOEEventFormat.setTimeFields, long,
          SOEEventFormat.report, pointReport, group]
    | false =>
        have notFirst : lastPointTime ≠ 0 := by
          rintro rfl
          simp [sendHoursAndMinutes] at long
        obtain ⟨hour, minute⟩ := known.resolve_left notFirst
        have unchanged : hoursMinutesHaveChanged lastPointTime
            (clock.changedCorrectedTime point.changedTime) = false := by
          simp only [sendHoursAndMinutes, Bool.or_eq_false_iff] at long
          exact long.1
        simp only [hoursMinutesHaveChanged, Bool.or_eq_false_iff, bne_eq_false_iff_eq] at unchanged
        simp [event, SOEEventFormat.resolved, packedEvent, SOEEventFormat.setTimeFields, long,
          SOEEventFormat.report, pointReport, group, ← hour, ← minute, unchanged,
          timeOfDay_of_parts]
  refine ⟨report, ?_⟩
  have time := congrArg SOEReport.time report
  simp only [SOEEventFormat.report, pointReport, convertCBTimeToHMSMSEC_eq,
    HMSMSEC.mk.injEq] at time
  obtain ⟨hour, minute, second, millisecond⟩ := time
  simp only [SameHourMinute, convertCBTimeToHMSMSEC_eq, SOEEventFormat.getTotalMsecTime, hour,
    minute, second, millisecond]
  omega

/-- The records of some events are resolved to their times. -/
theorem reports_records (clock : SOEClock) (points : List CBBinaryPoint)
    (lastPointTime lastEventTime : Nat)
    (known : lastPointTime = 0 ∨ SameHourMinute lastPointTime lastEventTime) :
    (resolveAll lastEventTime (records clock lastPointTime points)).map SOEEventFormat.report =
      points.map (pointReport clock false) := by
  induction points generalizing lastPointTime lastEventTime with
  | nil => rfl
  | cons point rest ih =>
      obtain ⟨report, same⟩ := report_packedEvent clock known point
      rw [records, resolveAll, List.map_cons, List.map_cons, report, ih _ _ (Or.inr same)]

/-- The last record is resolved at the time the records before it lead to. -/
theorem resolveAll_concat (before : List SOEEventFormat) (lastEventTime : Nat) :
    ∃ time, ∀ last, resolveAll lastEventTime (before ++ [last]) =
      resolveAll lastEventTime before ++ [last.resolved time] := by
  induction before generalizing lastEventTime with
  | nil => exact ⟨lastEventTime, fun last => rfl⟩
  | cons event rest ih =>
      obtain ⟨time, resolved⟩ := ih (event.resolved lastEventTime).getTotalMsecTime
      refine ⟨time, fun last => ?_⟩
      rw [List.cons_append, resolveAll, resolved, resolveAll, List.cons_append]

theorem report_flagged (event : SOEEventFormat) (flag : Bool) (time : Nat) :
    (SOEEventFormat.resolved { event with lastEventFlag := flag } time).report =
      { (event.resolved time).report with lastEventFlag := flag } := by
  unfold SOEEventFormat.resolved SOEEventFormat.report
  split <;> rfl

/-- The reports of the records, the last of them flagged or not. -/
theorem reports_flagLast (clock : SOEClock) {points : List CBBinaryPoint} (some : points ≠ [])
    (empty : Bool) :
    (resolveAll 0 (flagLast (records clock 0 points) empty)).map SOEEventFormat.report =
        expectedReports clock points empty ∧
      (resolveAll 0 (flagLast (records clock 0 points) empty).dropLast).map
          SOEEventFormat.report =
        points.dropLast.map (pointReport clock false) := by
  have whole := reports_records clock points 0 0 (Or.inl rfl)
  have someRecords : records clock 0 points ≠ [] := by
    intro none
    have count := congrArg List.length none
    rw [records_length] at count
    exact some (List.length_eq_zero_iff.mp count)
  obtain ⟨before, last, shape⟩ := (List.eq_nil_or_concat _).resolve_left someRecords
  rw [List.concat_eq_append] at shape
  rw [shape] at whole ⊢
  obtain ⟨front, point, rfl⟩ := (List.eq_nil_or_concat points).resolve_left some
  obtain ⟨time, resolved⟩ := resolveAll_concat before 0
  rw [resolved, List.concat_eq_append, List.map_append, List.map_append, List.map_singleton,
    List.map_singleton] at whole
  obtain ⟨front', last'⟩ := List.append_inj' whole rfl
  have lastReport := List.singleton_injective last'
  have flagged : flagLast (before ++ [last]) empty =
      before ++ [{ last with lastEventFlag := empty }] := by
    simp [flagLast]
  rw [flagged, resolved, List.dropLast_concat, List.map_append, List.map_singleton,
    report_flagged, lastReport, front', List.concat_eq_append, List.dropLast_concat]
  refine ⟨?_, rfl⟩
  simp [expectedReports, pointReport]

/-! ## The round trip -/

/-- What the padding after some records must be: at least thirteen bits after a
long record, at least one after a short one. -/
def PaddingSuffices (lengths : List Nat) : Prop :=
  if lengths.getLast? = some 41 then 13 ≤ lengths.sum % 24 else lengths.sum % 24 ≠ 12

instance (lengths : List Nat) : Decidable (PaddingSuffices lengths) :=
  inferInstanceAs (Decidable
    (if lengths.getLast? = some 41 then 13 ≤ lengths.sum % 24 else lengths.sum % 24 ≠ 12))

/-- The condition on a queue: the records of its front that fit in one message
leave padding enough. -/
def SOEFits (clock : SOEClock) (queue : List CBBinaryPoint) : Prop :=
  PaddingSuffices (fittingLengths 0 (recordLengths clock 0 queue))

instance (clock : SOEClock) (queue : List CBBinaryPoint) : Decidable (SOEFits clock queue) :=
  inferInstanceAs (Decidable (PaddingSuffices _))

/-- The padding of a message that carries some records. -/
theorem paddingSuffices_iff {events : List SOEEventFormat} (some : events ≠ [])
    (several : 12 < (bitsOfRecords events).length) :
    PaddingSuffices (events.map SOEEventFormat.getResultBitLength) ↔
      LastIsRead (paddedLength (bitsOfRecords events).length - (bitsOfRecords events).length)
        events := by
  obtain ⟨before, last, rfl⟩ := (List.eq_nil_or_concat events).resolve_left some
  rw [List.concat_eq_append] at several ⊢
  unfold PaddingSuffices LastIsRead paddedLength
  rw [← length_bitsOfRecords]
  simp only [List.map_append, List.map_singleton, List.getLast?_concat, Option.mem_def,
    Option.some.injEq, forall_eq']
  unfold SOEEventFormat.getResultBitLength
  cases last.timeFormatBit <;> simp <;> omega

/-- The flag is no part of the length. -/
theorem lengths_flagLast (events : List SOEEventFormat) (flag : Bool) :
    (flagLast events flag).map SOEEventFormat.getResultBitLength =
      events.map SOEEventFormat.getResultBitLength := by
  rcases List.eq_nil_or_concat events with rfl | ⟨before, last, rfl⟩
  · rfl
  · rw [List.concat_eq_append]
    simp [flagLast, SOEEventFormat.getResultBitLength]

theorem flagLast_unflagged {events : List SOEEventFormat}
    (clear : ∀ event ∈ events, event.lastEventFlag = false) (flag : Bool) :
    ∀ event ∈ (flagLast events flag).dropLast, event.lastEventFlag = false := by
  rcases List.eq_nil_or_concat events with rfl | ⟨before, last, rfl⟩
  · intro event member
    cases member
  · rw [List.concat_eq_append] at clear ⊢
    intro event member
    exact clear event (by simp [flagLast] at member; simp [member])

theorem flagLast_fits {events : List SOEEventFormat} (fits : ∀ event ∈ events, event.Fits)
    (flag : Bool) : ∀ event ∈ flagLast events flag, event.Fits := by
  rcases List.eq_nil_or_concat events with rfl | ⟨before, last, rfl⟩
  · exact fits
  · rw [List.concat_eq_append] at fits ⊢
    intro event member
    simp only [flagLast, List.dropLast_concat, List.getLast?_concat, Option.toList_some,
      List.map_singleton, List.mem_append, List.mem_singleton] at member
    rcases member with earlier | rfl
    · exact fits event (List.mem_append_left _ earlier)
    · have lastFits := fits last (by simp)
      exact ⟨lastFits.group, lastFits.number, lastFits.hour, lastFits.minute, lastFits.second,
        lastFits.millisecond⟩

/-- The master's loop on the message that carries some records. -/
theorem receivedReports_bitsOfRecords (header : CBBlockData) {events : List SOEEventFormat}
    (some : events ≠ []) (fits : ∀ event ∈ events, event.Fits)
    (unflagged : ∀ event ∈ events.dropLast, event.lastEventFlag = false)
    (short : (bitsOfRecords events).length < MaxSOEBits) :
    receivedReports header (bitsOfRecords events) =
      (resolveAll 0 (if PaddingSuffices (events.map SOEEventFormat.getResultBitLength)
        then events else events.dropLast)).map SOEEventFormat.report := by
  have several : 30 * events.length ≤ (bitsOfRecords events).length := by
    clear some fits unflagged short
    induction events with
    | nil => exact Nat.zero_le _
    | cons event rest ih =>
        obtain ⟨atLeast, -⟩ := getResultBitLength_bounds event
        rw [length_bitsOfRecords_cons, List.length_cons]
        omega
  have positive := List.length_pos_iff.mpr some
  have padding : paddedLength (bitsOfRecords events).length =
      (bitsOfRecords events).length +
        (paddedLength (bitsOfRecords events).length - (bitsOfRecords events).length) ∧
      paddedLength (bitsOfRecords events).length - (bitsOfRecords events).length < 24 ∧
      30 < paddedLength (bitsOfRecords events).length := by
    unfold paddedLength
    omega
  obtain ⟨total, little, entered⟩ := padding
  rw [receivedReports, processSOEScanRequestReturn,
    convertSOEMessageToBitArray_convertPayloadWordsToCBMessage header
    (by omega) (Nat.le_of_lt short)]
  have loop := forEachSOEEventLoop_records some fits unflagged
    (bitsOfRecords events ++ List.replicate
      (paddedLength (bitsOfRecords events).length - (bitsOfRecords events).length) false)
    0 (paddedLength (bitsOfRecords events).length)
    (paddedLength (bitsOfRecords events).length + 1) 0 rfl (by omega) little entered (by omega)
  simp only [forEachSOEEventInBitArray, List.length_append, List.length_replicate, ← total, loop,
    paddingSuffices_iff some (by omega)]

/-- What the master reports of the events that are packed: all of them, or all but the last. -/
theorem receivedReports_packed (clock : SOEClock) (header : CBBlockData)
    {queue : List CBBinaryPoint} (some : queue ≠ []) (numbered : SOENumbered queue) :
    let packed := buildPackedEventBitArray clock queue
    receivedReports header packed.bitArray =
      if SOEFits clock queue then
        expectedReports clock packed.popped (decide (packed.remaining = []))
      else packed.popped.dropLast.map (pointReport clock false) := by
  intro packed
  obtain ⟨split, popped, bits, -, short⟩ := buildPackedEvents_spec clock some numbered
  change packed.popped ≠ [] at popped
  change packed.bitArray = bitsOfRecords (flagLast (records clock 0 packed.popped)
    (decide (packed.remaining = []))) at bits
  change packed.bitArray.length < MaxSOEBits at short
  have lengths := buildPackedEvents_lengths clock queue 0 []
  change (records clock 0 packed.popped).map SOEEventFormat.getResultBitLength =
    fittingLengths 0 (recordLengths clock 0 queue) at lengths
  have numberedPopped : SOENumbered packed.popped := fun point member =>
    numbered point (by rw [split]; exact List.mem_append_left _ member)
  have fits := records_fits clock numberedPopped 0
  have clear := records_lastEventFlag clock packed.popped 0
  obtain ⟨whole, missed⟩ := reports_flagLast clock popped (decide (packed.remaining = []))
  have someEvents : flagLast (records clock 0 packed.popped)
      (decide (packed.remaining = [])) ≠ [] := by
    intro none
    have count := congrArg List.length
      (lengths_flagLast (records clock 0 packed.popped) (decide (packed.remaining = [])))
    rw [none] at count
    simp only [List.length_map, List.length_nil, records_length] at count
    exact popped (List.length_eq_zero_iff.mp count.symm)
  rw [bits] at short ⊢
  rw [receivedReports_bitsOfRecords header someEvents (flagLast_fits fits _)
    (flagLast_unflagged clear _) short, lengths_flagLast, lengths]
  by_cases enough : SOEFits clock queue
  · have padded : PaddingSuffices (fittingLengths 0 (recordLengths clock 0 queue)) := enough
    rw [if_pos padded, if_pos enough, whole]
  · have missing : ¬ PaddingSuffices (fittingLengths 0 (recordLengths clock 0 queue)) := enough
    rw [if_neg missing, if_neg enough, missed]

/-- **The events come back.** The front of a queue is popped, and the master
reports every popped event, in order and with its time, and tells on the last
one whether the queue is empty, exactly when the padding suffices. -/
theorem soeRoundTrip_iff (clock : SOEClock) (header : CBBlockData) {queue : List CBBinaryPoint}
    (some : queue ≠ []) (numbered : SOENumbered queue) :
    let packed := buildPackedEventBitArray clock queue
    queue = packed.popped ++ packed.remaining ∧
      (receivedReports header packed.bitArray =
          expectedReports clock packed.popped (decide (packed.remaining = [])) ↔
        SOEFits clock queue) := by
  intro packed
  obtain ⟨split, popped, -⟩ := buildPackedEvents_spec clock some numbered
  refine ⟨split, ?_⟩
  change packed.popped ≠ [] at popped
  rw [receivedReports_packed clock header some numbered]
  by_cases enough : SOEFits clock queue
  · rw [if_pos enough]
    exact iff_of_true rfl enough
  · rw [if_neg enough]
    refine iff_of_false (fun same => ?_) enough
    have count := congrArg List.length same
    obtain ⟨front, last, shape⟩ := (List.eq_nil_or_concat packed.popped).resolve_left popped
    change (packed.popped.dropLast.map (pointReport clock false)).length =
      (expectedReports clock packed.popped (decide (packed.remaining = []))).length at count
    rw [shape, List.concat_eq_append] at count
    simp [expectedReports] at count

/-- Two events in the same minute come back. -/
theorem soeRoundTrip_iff_sameMinute :
    let queue : List CBBinaryPoint :=
      [{ group := 3, soeIndex := 1, changedTime := 36000000, soePoint := true },
        { group := 3, soeIndex := 2, changedTime := 36000250, soePoint := true }]
    let packed := buildPackedEventBitArray {} queue
    receivedReports (.addressBlock 9 3 FUNC_SEND_NEW_SOE 0#16) packed.bitArray =
      expectedReports {} packed.popped (decide (packed.remaining = [])) := by
  refine (soeRoundTrip_iff {} _ (by simp) ?_).2.mpr (by decide +kernel)
  intro point member
  simp only [List.mem_cons, List.not_mem_nil, or_false] at member
  rcases member with rfl | rfl <;> decide

/-- **An event is lost**: of two events a minute apart both are popped, and the
second one is not reported. -/
theorem soeRoundTrip_drops_last :
    let first : CBBinaryPoint :=
      { group := 3, soeIndex := 1, changedTime := 36000000, soePoint := true }
    let second : CBBinaryPoint :=
      { group := 3, soeIndex := 2, changedTime := 36060000, soePoint := true }
    let packed := buildPackedEventBitArray {} [first, second]
    packed.popped = [first, second] ∧ packed.remaining = [] ∧
      receivedReports (.addressBlock 9 3 FUNC_SEND_NEW_SOE 0#16) packed.bitArray =
        [pointReport {} false first] ∧
      receivedReports (.addressBlock 9 3 FUNC_SEND_NEW_SOE 0#16) packed.bitArray ≠
        expectedReports {} packed.popped (decide (packed.remaining = [])) := by
  decide +kernel

end OpenDataCon.CBPort
