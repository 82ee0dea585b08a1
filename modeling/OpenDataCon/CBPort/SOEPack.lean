import OpenDataCon.CBPort.SOEEvent

/-!
# Packing the event queue

The outstation packs events from the front of its queue, one record after the
other, until the queue is empty or the next record does not fit. It pops each
event it packs. The first record is long; a later one is long when its hour or
minute differs from the record before it.

`buildPackedEvents_spec` says what is packed: the records of the popped events
(`records`), the last of them flagged when the queue is empty. How many events
that is follows from the lengths of the records alone
(`buildPackedEvents_lengths`).
-/

set_option autoImplicit false

namespace OpenDataCon.CBPort

open BitStrings

/-- The corrections of the event times. -/
structure SOEClock where
  soeTimeOffsetMinutes : Int := 0
  systemClockOffsetMilliSeconds : Int := 0
deriving DecidableEq, Repr

namespace SOEClock

/-- The corrected time, as a 64-bit word. -/
def changedCorrectedTime (clock : SOEClock) (changedTime : Nat) : Nat :=
  (((changedTime : Int) + clock.soeTimeOffsetMinutes * 60 * 1000 +
    clock.systemClockOffsetMilliSeconds) % 2 ^ 64).toNat

end SOEClock

/-- A record is long when the hour or the minute changed, or no time is known. -/
def sendHoursAndMinutes (lastPointTime changedCorrectedTime : Nat) : Bool :=
  hoursMinutesHaveChanged lastPointTime changedCorrectedTime || lastPointTime == 0

/-- The value bit of a momentary contact A is inverted on the wire. -/
def soeValueBit (point : CBBinaryPoint) : Bool :=
  if point.pointType == .MCA then !point.binary else point.binary

/-- The record of an event. -/
def packedEvent (clock : SOEClock) (lastPointTime : Nat) (point : CBBinaryPoint) :
    SOEEventFormat :=
  let event : SOEEventFormat :=
    { group := point.group &&& 0x07
      number := point.soeIndex
      valueBit := soeValueBit point
      qualityBit := false }
  let changedCorrectedTime := clock.changedCorrectedTime point.changedTime
  { event.setTimeFields changedCorrectedTime
      (sendHoursAndMinutes lastPointTime changedCorrectedTime) with
    lastEventFlag := false }

/-- The array of bits, the events popped from the queue and the events left in it. -/
structure PackedEvents where
  bitArray : List Bool
  popped : List CBBinaryPoint
  remaining : List CBBinaryPoint
deriving DecidableEq, Repr

/-- Set the last used bit: the last-event flag of the last record. -/
def setLastEventFlag (bitArray : List Bool) : List Bool :=
  if bitArray.length ≤ MaxSOEBits then bitArray.set (bitArray.length - 1) true else bitArray

/-- The packing loop, on the events of the queue from the front. The bits above
those in the list are clear. -/
def buildPackedEvents (clock : SOEClock) :
    List CBBinaryPoint → Nat → List Bool → PackedEvents
  | [], _, bitArray =>
    { bitArray := setLastEventFlag bitArray, popped := [], remaining := [] }
  | currentPoint :: rest, lastPointTime, bitArray =>
    match (packedEvent clock lastPointTime currentPoint).addDataToBitArray bitArray with
    | some bitArray =>
      let later := buildPackedEvents clock rest
        (clock.changedCorrectedTime currentPoint.changedTime) bitArray
      { later with popped := currentPoint :: later.popped }
    | none => { bitArray := bitArray, popped := [], remaining := currentPoint :: rest }

def buildPackedEventBitArray (clock : SOEClock) (queue : List CBBinaryPoint) : PackedEvents :=
  buildPackedEvents clock queue 0 []

/-! ## What is packed -/

/-- The records of some events, from the time of the event before them. -/
def records (clock : SOEClock) : Nat → List CBBinaryPoint → List SOEEventFormat
  | _, [] => []
  | lastPointTime, point :: rest =>
    packedEvent clock lastPointTime point ::
      records clock (clock.changedCorrectedTime point.changedTime) rest

/-- The records with the last one flagged. -/
def flagLast (events : List SOEEventFormat) (flag : Bool) : List SOEEventFormat :=
  events.dropLast ++ events.getLast?.toList.map fun event => { event with lastEventFlag := flag }

/-- The bits of some records. -/
def bitsOfRecords (events : List SOEEventFormat) : List Bool :=
  events.flatMap SOEEventFormat.recordBits

@[simp] theorem bitsOfRecords_append (first second : List SOEEventFormat) :
    bitsOfRecords (first ++ second) = bitsOfRecords first ++ bitsOfRecords second :=
  List.flatMap_append

/-- The event index of a point fits the record. -/
def SOENumbered (points : List CBBinaryPoint) : Prop :=
  ∀ point ∈ points, point.soeIndex ≤ 120 ∨ point.soeIndex = 127

instance (points : List CBBinaryPoint) : Decidable (SOENumbered points) :=
  inferInstanceAs (Decidable (∀ point ∈ points, _))

theorem packedEvent_fits (clock : SOEClock) (lastPointTime : Nat) {point : CBBinaryPoint}
    (numbered : point.soeIndex ≤ 120 ∨ point.soeIndex = 127) :
    (packedEvent clock lastPointTime point).Fits := by
  have group : point.group &&& 0x07 < 2 ^ 3 := Nat.lt_succ_of_le Nat.and_le_right
  have untimed : SOEEventFormat.Fits
      { group := point.group &&& 0x07, number := point.soeIndex, valueBit := soeValueBit point,
        qualityBit := false } :=
    ⟨group, by simp only; omega, by simp, by simp, by simp, by simp⟩
  have fits := SOEEventFormat.setTimeFields_fits untimed
    (clock.changedCorrectedTime point.changedTime)
    (sendHoursAndMinutes lastPointTime (clock.changedCorrectedTime point.changedTime))
  exact ⟨fits.group, fits.number, fits.hour, fits.minute, fits.second, fits.millisecond⟩

theorem records_fits (clock : SOEClock) {points : List CBBinaryPoint}
    (numbered : SOENumbered points) (lastPointTime : Nat) :
    ∀ event ∈ records clock lastPointTime points, event.Fits := by
  induction points generalizing lastPointTime with
  | nil => intro event member; cases member
  | cons point rest ih =>
      intro event member
      rcases List.mem_cons.mp member with rfl | later
      · exact packedEvent_fits clock lastPointTime (numbered point (by simp))
      · exact ih (fun other isOther => numbered other (by simp [isOther])) _ event later

@[simp] theorem records_length (clock : SOEClock) (lastPointTime : Nat)
    (points : List CBBinaryPoint) :
    (records clock lastPointTime points).length = points.length := by
  induction points generalizing lastPointTime with
  | nil => rfl
  | cons point rest ih => simp [records, ih]

@[simp] theorem packedEvent_lastEventFlag (clock : SOEClock) (lastPointTime : Nat)
    (point : CBBinaryPoint) : (packedEvent clock lastPointTime point).lastEventFlag = false := rfl

theorem records_lastEventFlag (clock : SOEClock) (points : List CBBinaryPoint)
    (lastPointTime : Nat) :
    ∀ event ∈ records clock lastPointTime points, event.lastEventFlag = false := by
  induction points generalizing lastPointTime with
  | nil => intro event member; cases member
  | cons point rest ih =>
      intro event member
      rcases List.mem_cons.mp member with rfl | later
      · rfl
      · exact ih _ event later

/-- Clearing a flag that is clear changes nothing. -/
theorem flagLast_false {events : List SOEEventFormat}
    (clear : ∀ event ∈ events, event.lastEventFlag = false) : flagLast events false = events := by
  rcases List.eq_nil_or_concat events with rfl | ⟨before, last, rfl⟩
  · rfl
  · rw [List.concat_eq_append] at clear ⊢
    have flag := clear last (by simp)
    cases last
    simp only at flag
    simp [flagLast, flag]

/-- Setting the last used bit flags the last record. -/
theorem setLastEventFlag_bitsOfRecords {events : List SOEEventFormat} (some : events ≠ [])
    (fits : ∀ event ∈ events, event.Fits) (room : (bitsOfRecords events).length ≤ MaxSOEBits) :
    setLastEventFlag (bitsOfRecords events) = bitsOfRecords (flagLast events true) := by
  obtain ⟨before, last, rfl⟩ := (List.eq_nil_or_concat events).resolve_left some
  rw [List.concat_eq_append] at fits room ⊢
  have lastFits := fits last (by simp)
  have bits : last.recordBits ≠ [] := by
    intro none
    have length := congrArg List.length none
    rw [SOEEventFormat.length_recordBits, SOEEventFormat.getResultBitLength] at length
    split at length <;> simp at length
  have whole : bitsOfRecords (before ++ [last]) = bitsOfRecords before ++ last.recordBits := by
    simp [bitsOfRecords]
  have flagged : bitsOfRecords (flagLast (before ++ [last]) true) =
      bitsOfRecords before ++ (last.recordBits.dropLast ++ [true]) := by
    rw [SOEEventFormat.recordBits_setLast lastFits]
    simp [flagLast, bitsOfRecords]
  rw [setLastEventFlag, if_pos room, flagged, whole]
  obtain ⟨front, bit, shape⟩ := (List.eq_nil_or_concat last.recordBits).resolve_left bits
  rw [shape, List.concat_eq_append, List.dropLast_concat, ← List.append_assoc]
  simp

@[simp] theorem setLastEventFlag_length (bitArray : List Bool) :
    (setLastEventFlag bitArray).length = bitArray.length := by
  unfold setLastEventFlag
  split
  · exact List.length_set
  · rfl

/-- A record is refused for its length, or appended. -/
theorem addDataToBitArray_cases (event : SOEEventFormat) (bitArray : List Bool) :
    (MaxSOEBits ≤ bitArray.length + event.getResultBitLength ∧
        event.addDataToBitArray bitArray = none) ∨
      (bitArray.length + event.getResultBitLength < MaxSOEBits ∧
        event.addDataToBitArray bitArray = some (bitArray ++ event.recordBits)) := by
  unfold SOEEventFormat.addDataToBitArray
  split
  · exact Or.inl ⟨by omega, rfl⟩
  · exact Or.inr ⟨by omega, rfl⟩

/-- The loop, from any state: the popped events are the front of the queue, and
their records follow the bits before them; the last used bit is set when the
queue is empty. -/
theorem buildPackedEvents_loop (clock : SOEClock) (queue : List CBBinaryPoint)
    (lastPointTime : Nat) (bitArray : List Bool) (room : bitArray.length < MaxSOEBits) :
    let packed := buildPackedEvents clock queue lastPointTime bitArray
    let bits := bitArray ++ bitsOfRecords (records clock lastPointTime packed.popped)
    queue = packed.popped ++ packed.remaining ∧ bits.length < MaxSOEBits ∧
      packed.bitArray = if packed.remaining = [] then setLastEventFlag bits else bits := by
  induction queue generalizing lastPointTime bitArray with
  | nil => simpa [buildPackedEvents, records, bitsOfRecords] using room
  | cons point rest ih =>
      rcases addDataToBitArray_cases (packedEvent clock lastPointTime point) bitArray with
        ⟨-, full⟩ | ⟨short, added⟩
      · simpa [buildPackedEvents, full, records, bitsOfRecords] using room
      · have later := ih (clock.changedCorrectedTime point.changedTime)
          (bitArray ++ (packedEvent clock lastPointTime point).recordBits)
          (by rw [List.length_append, SOEEventFormat.length_recordBits]; exact short)
        obtain ⟨split, small, bits⟩ := later
        simp only [buildPackedEvents, added, records, bitsOfRecords, List.flatMap_cons,
          ← List.append_assoc, List.cons_append, List.cons.injEq, true_and] at small bits ⊢
        exact ⟨split, small, bits⟩

/-- The first record always fits, so something is popped. -/
theorem buildPackedEventBitArray_popped (clock : SOEClock) {queue : List CBBinaryPoint}
    (some : queue ≠ []) : (buildPackedEventBitArray clock queue).popped ≠ [] := by
  obtain ⟨point, rest, rfl⟩ := List.exists_cons_of_ne_nil some
  have fitsIn : ¬(packedEvent clock 0 point).getResultBitLength ≥ MaxSOEBits := by
    unfold SOEEventFormat.getResultBitLength MaxSOEBits
    split <;> decide
  simp [buildPackedEventBitArray, buildPackedEvents, SOEEventFormat.addDataToBitArray, fitsIn]

/-- **What is packed**: the records of the popped events, the last one flagged
exactly when the queue is empty. -/
theorem buildPackedEvents_spec (clock : SOEClock) {queue : List CBBinaryPoint}
    (some : queue ≠ []) (numbered : SOENumbered queue) :
    let packed := buildPackedEventBitArray clock queue
    queue = packed.popped ++ packed.remaining ∧ packed.popped ≠ [] ∧
      packed.bitArray = bitsOfRecords
        (flagLast (records clock 0 packed.popped) (decide (packed.remaining = []))) ∧
      packed.bitArray.length = (bitsOfRecords (records clock 0 packed.popped)).length ∧
      packed.bitArray.length < MaxSOEBits := by
  intro packed
  have loop := buildPackedEvents_loop clock queue 0 [] (by decide)
  simp only [List.nil_append] at loop
  change queue = packed.popped ++ packed.remaining ∧
    (bitsOfRecords (records clock 0 packed.popped)).length < MaxSOEBits ∧
    packed.bitArray = if packed.remaining = []
      then setLastEventFlag (bitsOfRecords (records clock 0 packed.popped))
      else bitsOfRecords (records clock 0 packed.popped) at loop
  obtain ⟨split, short, bits⟩ := loop
  have popped : packed.popped ≠ [] := buildPackedEventBitArray_popped clock some
  have fits : ∀ event ∈ records clock 0 packed.popped, event.Fits :=
    records_fits clock (fun point member => numbered point (by
      rw [split]; exact List.mem_append_left _ member)) 0
  have length : packed.bitArray.length =
      (bitsOfRecords (records clock 0 packed.popped)).length := by
    rw [bits]
    split
    · exact setLastEventFlag_length _
    · rfl
  have someRecords : records clock 0 packed.popped ≠ [] := by
    intro none
    have count := congrArg List.length none
    rw [records_length] at count
    exact popped (List.length_eq_zero_iff.mp count)
  refine ⟨split, popped, ?_, length, by omega⟩
  rw [bits]
  by_cases empty : packed.remaining = []
  · rw [if_pos empty, decide_eq_true empty]
    exact setLastEventFlag_bitsOfRecords someRecords fits (Nat.le_of_lt short)
  · rw [if_neg empty, decide_eq_false empty, flagLast_false (records_lastEventFlag clock _ 0)]

/-! ## The lengths of the records -/

/-- The lengths of the records of some events. -/
def recordLengths (clock : SOEClock) : Nat → List CBBinaryPoint → List Nat
  | _, [] => []
  | lastPointTime, point :: rest =>
    let time := clock.changedCorrectedTime point.changedTime
    (if sendHoursAndMinutes lastPointTime time then 41 else 30) ::
      recordLengths clock time rest

/-- The front of a list of lengths that fits in one message. -/
def fittingLengths : Nat → List Nat → List Nat
  | _, [] => []
  | used, length :: rest =>
    if used + length ≥ MaxSOEBits then [] else length :: fittingLengths (used + length) rest

theorem packedEvent_timeFormatBit (clock : SOEClock) (lastPointTime : Nat)
    (point : CBBinaryPoint) :
    (packedEvent clock lastPointTime point).timeFormatBit =
      sendHoursAndMinutes lastPointTime (clock.changedCorrectedTime point.changedTime) := by
  cases long : sendHoursAndMinutes lastPointTime
    (clock.changedCorrectedTime point.changedTime) <;>
      simp [packedEvent, SOEEventFormat.setTimeFields, long]

theorem packedEvent_length (clock : SOEClock) (lastPointTime : Nat) (point : CBBinaryPoint) :
    (packedEvent clock lastPointTime point).getResultBitLength =
      if sendHoursAndMinutes lastPointTime (clock.changedCorrectedTime point.changedTime)
      then 41 else 30 := by
  rw [SOEEventFormat.getResultBitLength, packedEvent_timeFormatBit]

/-- **The records that are packed are those whose lengths fit.** -/
theorem buildPackedEvents_lengths (clock : SOEClock) (queue : List CBBinaryPoint)
    (lastPointTime : Nat) (bitArray : List Bool) :
    (records clock lastPointTime
        (buildPackedEvents clock queue lastPointTime bitArray).popped).map
          SOEEventFormat.getResultBitLength =
      fittingLengths bitArray.length (recordLengths clock lastPointTime queue) := by
  induction queue generalizing lastPointTime bitArray with
  | nil => rfl
  | cons point rest ih =>
      have length := packedEvent_length clock lastPointTime point
      simp only [buildPackedEvents, recordLengths, fittingLengths, ← length,
        SOEEventFormat.addDataToBitArray]
      by_cases full : bitArray.length +
          (packedEvent clock lastPointTime point).getResultBitLength ≥ MaxSOEBits
      · simp [full, records]
      · have later := ih (clock.changedCorrectedTime point.changedTime)
          (bitArray ++ (packedEvent clock lastPointTime point).recordBits)
        rw [List.length_append, SOEEventFormat.length_recordBits] at later
        simp only [full, if_false, records, List.map_cons, later]

/-- The length of some records is the sum of their lengths. -/
theorem length_bitsOfRecords (events : List SOEEventFormat) :
    (bitsOfRecords events).length =
      (events.map SOEEventFormat.getResultBitLength).sum := by
  induction events with
  | nil => rfl
  | cons event rest ih =>
      rw [List.map_cons, List.sum_cons, ← ih, ← SOEEventFormat.length_recordBits,
        ← List.length_append]
      rfl

end OpenDataCon.CBPort
