import OpenDataCon.CBPort.Points
import OpenDataCon.Foundations.BitStrings
import Mathlib.Tactic.Ring

/-!
# The record of one event

An event is sent as a record of 41 bits, or of 30 bits when its hour and minute
are those of the record before it. `SOEEventFormat.recordBits` is the record as
the packed word of the source holds it; `recordBits_eq` lays it out field by
field. Reading a record that stands in an array at the place it starts gives
its fields back, with the hour and minute of the last event filled in
(`ofBitArray_recordBits`).
-/

set_option autoImplicit false

namespace OpenDataCon.CBPort

open BitStrings

/-- The most bits one message carries. -/
def MaxSOEBits : Nat := 12 * 31

/-- A number shifted left in a 32-bit word. -/
def shiftLeftResult32Bits (val shift : Nat) : Nat := (val <<< shift) % 2 ^ 32

structure SOEEventFormat where
  group : Nat := 0
  number : Nat := 0
  valueBit : Bool := false
  qualityBit : Bool := false
  timeFormatBit : Bool := true
  hour : Nat := 0
  minute : Nat := 0
  second : Nat := 0
  millisecond : Nat := 0
  lastEventFlag : Bool := false
deriving DecidableEq, Repr, Inhabited

/-- `numberofbits` bits read one by one into a word of `word` bits. -/
def getBits (word : Nat) (bitArray : List Bool) (startbit numberofbits : Nat) : Nat :=
  (List.range numberofbits).foldl
    (fun res i => (res <<< 1) % 2 ^ word ||| (bitArray.getD (startbit + i) false).toNat) 0

def getBits8 (bitArray : List Bool) (startbit numberofbits : Nat) : Nat :=
  getBits 8 bitArray startbit numberofbits

def getBits16 (bitArray : List Bool) (startbit numberofbits : Nat) : Nat :=
  getBits 16 bitArray startbit numberofbits

namespace SOEEventFormat

/-! ## Writing a record -/

def setTimeFields (event : SOEEventFormat) (changedTime : Nat) (sendFullTime : Bool) :
    SOEEventFormat :=
  if sendFullTime then
    let time := convertCBTimeToHMSMSEC changedTime
    { event with
      timeFormatBit := true
      hour := time.hour
      minute := time.min
      second := time.sec
      millisecond := time.msec }
  else
    { event with
      timeFormatBit := false
      second := changedTime / 1000 % 60
      millisecond := changedTime % 1000 }

def getTotalMsecTime (event : SOEEventFormat) : Nat :=
  ((event.hour * 60 + event.minute) * 60 + event.second) * 1000 + event.millisecond

/-- The record in the top bits of a 64-bit word. -/
def getFormattedData (event : SOEEventFormat) : Nat :=
  let res1 := shiftLeftResult32Bits event.group (32 - 3) |||
    shiftLeftResult32Bits event.number (32 - 7 - 3) |||
    shiftLeftResult32Bits event.valueBit.toNat (32 - 7 - 3 - 1) |||
    shiftLeftResult32Bits event.qualityBit.toNat (32 - 7 - 3 - 1 - 1) |||
    shiftLeftResult32Bits event.timeFormatBit.toNat (32 - 7 - 3 - 1 - 1 - 1)
  let res2 :=
    if event.timeFormatBit then
      shiftLeftResult32Bits event.hour (32 - 5) |||
      shiftLeftResult32Bits event.minute (32 - 5 - 6) |||
      shiftLeftResult32Bits event.second (32 - 5 - 6 - 6) |||
      shiftLeftResult32Bits event.millisecond (32 - 5 - 6 - 6 - 10) |||
      shiftLeftResult32Bits event.lastEventFlag.toNat (32 - 5 - 6 - 6 - 10 - 1)
    else
      shiftLeftResult32Bits event.second (32 - 6) |||
      shiftLeftResult32Bits event.millisecond (32 - 6 - 10) |||
      shiftLeftResult32Bits event.lastEventFlag.toNat (32 - 6 - 10 - 1)
  res1 <<< 32 ||| res2 <<< (32 - 7 - 3 - 1 - 1 - 1)

def getResultBitLength (event : SOEEventFormat) : Nat := if event.timeFormatBit then 41 else 30

/-- The bits of the packed word that are sent. -/
def recordBits (event : SOEEventFormat) : List Bool :=
  (List.range event.getResultBitLength).map fun i => event.getFormattedData.testBit (63 - i)

/-- Append the record, when the array has room for it. -/
def addDataToBitArray (event : SOEEventFormat) (bitArray : List Bool) : Option (List Bool) :=
  if bitArray.length + event.getResultBitLength ≥ MaxSOEBits then none
  else some (bitArray ++ event.recordBits)

/-- Every field fits its width. -/
structure Fits (event : SOEEventFormat) : Prop where
  group : event.group < 2 ^ 3
  number : event.number < 2 ^ 7
  hour : event.hour < 2 ^ 5
  minute : event.minute < 2 ^ 6
  second : event.second < 2 ^ 6
  millisecond : event.millisecond < 2 ^ 10

@[simp] theorem length_recordBits (event : SOEEventFormat) :
    event.recordBits.length = event.getResultBitLength := by
  simp [recordBits]

theorem setTimeFields_fits {event : SOEEventFormat} (fits : event.Fits) (changedTime : Nat)
    (sendFullTime : Bool) : (event.setTimeFields changedTime sendFullTime).Fits := by
  unfold setTimeFields
  split
  · simp only [convertCBTimeToHMSMSEC_eq]
    exact ⟨fits.group, fits.number, by simp only; omega, by simp only; omega,
      by simp only; omega, by simp only; omega⟩
  · exact ⟨fits.group, fits.number, fits.hour, fits.minute, by simp only; omega,
      by simp only; omega⟩

/-! ## The layout of a record -/

/-- A shift that stays inside the word. -/
theorem shiftLeftResult32Bits_eq {val shift width : Nat} (small : val < 2 ^ width)
    (fits : width + shift ≤ 32) : shiftLeftResult32Bits val shift = val * 2 ^ shift := by
  have inWord : val * 2 ^ shift < 2 ^ 32 :=
    calc val * 2 ^ shift < 2 ^ width * 2 ^ shift :=
          Nat.mul_lt_mul_of_pos_right small (Nat.two_pow_pos shift)
      _ = 2 ^ (width + shift) := (Nat.pow_add 2 width shift).symm
      _ ≤ 2 ^ 32 := Nat.pow_le_pow_right (by decide) fits
  rw [shiftLeftResult32Bits, Nat.shiftLeft_eq, Nat.mod_eq_of_lt inWord]

/-- A field written below another number. -/
theorem bitsOf_field {above value : Nat} (high width : Nat) (small : value < 2 ^ width) :
    bitsOf (high + width) (above * 2 ^ width + value) =
      bitsOf high above ++ bitsOf width value := by
  have quotient : (above * 2 ^ width + value) / 2 ^ width = above := by
    rw [Nat.add_comm, Nat.add_mul_div_right _ _ (Nat.two_pow_pos width),
      Nat.div_eq_of_lt small, Nat.zero_add]
  rw [bitsOf_add, quotient, Nat.add_comm (above * 2 ^ width), bitsOf_add_mul]

theorem toNat_lt_two (bit : Bool) : bit.toNat < 2 ^ 1 := Nat.lt_succ_of_le (Bool.toNat_le bit)

theorem bitsOf_toNat (bit : Bool) : bitsOf 1 bit.toNat = [bit] := by
  cases bit <;> rfl

/-- The packed word as a number. -/
def packedNumber (event : SOEEventFormat) : Nat :=
  let head := (((event.group * 2 ^ 7 + event.number) * 2 ^ 1 + event.valueBit.toNat) * 2 ^ 1 +
    event.qualityBit.toNat) * 2 ^ 1 + event.timeFormatBit.toNat
  let time := if event.timeFormatBit then
      (head * 2 ^ 5 + event.hour) * 2 ^ 6 + event.minute
    else head
  ((time * 2 ^ 6 + event.second) * 2 ^ 10 + event.millisecond) * 2 ^ 1 + event.lastEventFlag.toNat

theorem getFormattedData_eq {event : SOEEventFormat} (fits : event.Fits) :
    event.getFormattedData = event.packedNumber * 2 ^ (64 - event.getResultBitLength) := by
  obtain ⟨group, number, hour, minute, second, millisecond⟩ := fits
  have value := toNat_lt_two event.valueBit
  have quality := toNat_lt_two event.qualityBit
  have format := toNat_lt_two event.timeFormatBit
  have last := toNat_lt_two event.lastEventFlag
  unfold getFormattedData packedNumber getResultBitLength
  rw [shiftLeftResult32Bits_eq group (by decide), shiftLeftResult32Bits_eq number (by decide),
    shiftLeftResult32Bits_eq value (by decide), shiftLeftResult32Bits_eq quality (by decide),
    shiftLeftResult32Bits_eq format (by decide),
    or_five (p := 29) (q := 22) (r := 21) (t := 20) (by omega) (by omega) (by omega) (by omega)
      (by omega) (by omega) (by omega) (by omega)]
  by_cases long : event.timeFormatBit = true
  · simp only [long, if_true]
    rw [shiftLeftResult32Bits_eq hour (by decide), shiftLeftResult32Bits_eq minute (by decide),
      shiftLeftResult32Bits_eq second (by decide),
      shiftLeftResult32Bits_eq millisecond (by decide), shiftLeftResult32Bits_eq last (by decide),
      or_five (p := 27) (q := 21) (r := 15) (t := 5) (by omega) (by omega) (by omega) (by omega)
        (by omega) (by omega) (by omega) (by omega),
      Nat.shiftLeft_eq, Nat.shiftLeft_eq, or_eq_add 51 (by omega) (by omega)]
    omega
  · simp only [long, Bool.false_eq_true, if_false]
    rw [shiftLeftResult32Bits_eq second (by decide),
      shiftLeftResult32Bits_eq millisecond (by decide), shiftLeftResult32Bits_eq last (by decide),
      or_three (p := 26) (q := 16) (by omega) (by omega) (by omega) (by omega),
      Nat.shiftLeft_eq, Nat.shiftLeft_eq, or_eq_add 51 (by omega) (by omega)]
    omega

/-- The bits that are sent are those of the packed number. -/
theorem recordBits_eq_bitsOf {event : SOEEventFormat} (fits : event.Fits) :
    event.recordBits = bitsOf event.getResultBitLength event.packedNumber := by
  have length : event.getResultBitLength ≤ 41 := by
    unfold getResultBitLength
    split <;> decide
  unfold recordBits bitsOf
  refine List.map_congr_left fun i member => ?_
  have inside := List.mem_range.mp member
  rw [getFormattedData_eq fits, Nat.testBit_mul_two_pow]
  rw [show decide (64 - event.getResultBitLength ≤ 63 - i) = true from decide_eq_true (by omega),
    Bool.true_and]
  congr 1
  omega

/-- The hour and the minute of a long record. -/
def timeFields (event : SOEEventFormat) : List Bool :=
  if event.timeFormatBit then bitsOf 5 event.hour ++ bitsOf 6 event.minute else []

/-- **The layout of a record.** -/
theorem recordBits_eq {event : SOEEventFormat} (fits : event.Fits) :
    event.recordBits =
      bitsOf 3 event.group ++ (bitsOf 7 event.number ++ (event.valueBit :: event.qualityBit ::
        event.timeFormatBit :: (event.timeFields ++ (bitsOf 6 event.second ++
          (bitsOf 10 event.millisecond ++ [event.lastEventFlag]))))) := by
  obtain ⟨group, number, hour, minute, second, millisecond⟩ := fits
  rw [recordBits_eq_bitsOf ⟨group, number, hour, minute, second, millisecond⟩]
  unfold packedNumber getResultBitLength timeFields
  by_cases long : event.timeFormatBit = true
  · simp only [long, if_true]
    rw [bitsOf_field 40 1 (toNat_lt_two _), bitsOf_field 30 10 millisecond,
      bitsOf_field 24 6 second, bitsOf_field 18 6 minute, bitsOf_field 13 5 hour,
      bitsOf_field 12 1 (toNat_lt_two _), bitsOf_field 11 1 (toNat_lt_two _),
      bitsOf_field 10 1 (toNat_lt_two _), bitsOf_field 3 7 number]
    simp only [bitsOf_toNat, List.append_assoc, List.cons_append, List.nil_append]
  · simp only [long, Bool.false_eq_true, if_false]
    rw [bitsOf_field 29 1 (toNat_lt_two _), bitsOf_field 19 10 millisecond,
      bitsOf_field 13 6 second, bitsOf_field 12 1 (toNat_lt_two _),
      bitsOf_field 11 1 (toNat_lt_two _), bitsOf_field 10 1 (toNat_lt_two _),
      bitsOf_field 3 7 number]
    simp only [bitsOf_toNat, List.append_assoc, List.cons_append, List.nil_append]

/-- Setting the last bit of a record sets its last-event flag. -/
theorem recordBits_setLast {event : SOEEventFormat} (fits : event.Fits) :
    event.recordBits.dropLast ++ [true] = recordBits { event with lastEventFlag := true } := by
  have flagged : Fits { event with lastEventFlag := true } :=
    ⟨fits.group, fits.number, fits.hour, fits.minute, fits.second, fits.millisecond⟩
  have assoc (first second : List Bool) (a b c last : Bool) (time third fourth : List Bool) :
      first ++ (second ++ (a :: b :: c :: (time ++ (third ++ (fourth ++ [last]))))) =
        (first ++ (second ++ (a :: b :: c :: (time ++ (third ++ fourth))))) ++ [last] := by
    simp
  rw [recordBits_eq fits, recordBits_eq flagged, assoc, assoc, List.dropLast_concat]
  rfl

/-! ## Reading a record -/

/-- The second, the millisecond and the last-event flag; the last step of a reading. -/
def readSecond (event : SOEEventFormat) (bitArray : List Bool) (startbit : Nat) :
    SOEEventFormat × Nat :=
  ({ event with
      second := getBits8 bitArray startbit 6
      millisecond := getBits16 bitArray (startbit + 6) 10
      lastEventFlag := bitArray.getD (startbit + 6 + 10) false },
    startbit + 6 + 10 + 1)

/-- Construct an event from an array, and give the start of the next one. A
short record takes the hour and the minute of the last event. -/
def ofBitArray (bitArray : List Bool) (startbit usedbits lastEventTime : Nat) :
    Option (SOEEventFormat × Nat) :=
  if startbit + 30 > usedbits then none
  else
    let group := getBits8 bitArray startbit 3
    let startbit := startbit + 3
    let number := getBits8 bitArray startbit 7
    let startbit := startbit + 7
    let valueBit := bitArray.getD startbit false
    let startbit := startbit + 1
    let qualityBit := bitArray.getD startbit false
    let startbit := startbit + 1
    let timeFormatBit := bitArray.getD startbit false
    let startbit := startbit + 1
    let event : SOEEventFormat :=
      { group := group
        number := number
        valueBit := valueBit
        qualityBit := qualityBit
        timeFormatBit := timeFormatBit }
    if timeFormatBit then
      if startbit + 41 > usedbits then none
      else
        some (readSecond
          { event with
            hour := getBits8 bitArray startbit 5
            minute := getBits8 bitArray (startbit + 5) 6 }
          bitArray (startbit + 5 + 6))
    else
      let last := convertCBTimeToHMSMSEC lastEventTime
      some (readSecond { event with hour := last.hour, minute := last.min } bitArray startbit)

/-- An event with the hour and the minute that a reader knows. -/
def resolved (event : SOEEventFormat) (lastEventTime : Nat) : SOEEventFormat :=
  if event.timeFormatBit then event
  else
    { event with
      hour := (convertCBTimeToHMSMSEC lastEventTime).hour
      minute := (convertCBTimeToHMSMSEC lastEventTime).min }

end SOEEventFormat

/-- Reading bit by bit gives the number of the window. -/
theorem getBits_eq_valueOf {word numberofbits : Nat} (bitArray : List Bool) (startbit : Nat)
    (narrow : numberofbits ≤ word) :
    getBits word bitArray startbit numberofbits =
      valueOf (window bitArray startbit numberofbits) := by
  suffices both : getBits word bitArray startbit numberofbits =
      valueOf (window bitArray startbit numberofbits) ∧
      getBits word bitArray startbit numberofbits < 2 ^ numberofbits from both.1
  induction numberofbits with
  | zero => exact ⟨rfl, by simp [getBits]⟩
  | succ n ih =>
      obtain ⟨same, small⟩ := ih (by omega)
      have room : 2 * getBits word bitArray startbit n < 2 ^ word :=
        calc 2 * getBits word bitArray startbit n < 2 * 2 ^ n := by omega
          _ = 2 ^ (n + 1) := by rw [Nat.pow_succ, Nat.mul_comm]
          _ ≤ 2 ^ word := Nat.pow_le_pow_right (by decide) narrow
      have step : getBits word bitArray startbit (n + 1) =
          2 * getBits word bitArray startbit n +
            (bitArray.getD (startbit + n) false).toNat := by
        have bit := SOEEventFormat.toNat_lt_two (bitArray.getD (startbit + n) false)
        conv_lhs => unfold getBits
        rw [List.range_succ, List.foldl_append, List.foldl_cons, List.foldl_nil]
        change (getBits word bitArray startbit n <<< 1) % 2 ^ word ||| _ = _
        rw [Nat.shiftLeft_eq, Nat.pow_one, Nat.mul_comm, Nat.mod_eq_of_lt room,
          or_eq_add 1 ⟨_, by rw [Nat.pow_one]⟩ bit]
      have shape : window bitArray startbit (n + 1) =
          window bitArray startbit n ++ [bitArray.getD (startbit + n) false] := by
        rw [window_add]
        rfl
      have bit : (bitArray.getD (startbit + n) false).toNat ≤ 1 := Bool.toNat_le _
      refine ⟨by rw [step, shape, valueOf_concat, same], ?_⟩
      rw [step, Nat.pow_succ]
      omega

/-- What stands at an offset is read, and the rest stands after it. -/
theorem getBits_of_drop (word : Nat) {width value startbit : Nat} {bitArray rest : List Bool}
    (shape : bitArray.drop startbit = bitsOf width value ++ rest) (small : value < 2 ^ width)
    (narrow : width ≤ word) :
    getBits word bitArray startbit width = value ∧ bitArray.drop (startbit + width) = rest := by
  have here : window bitArray startbit width = bitsOf width value := by
    have found := window_append [] (bitsOf width value) rest
    rw [List.nil_append, ← shape, length_bitsOf] at found
    rw [← found]
    simp [window]
  refine ⟨?_, ?_⟩
  · rw [getBits_eq_valueOf bitArray startbit narrow, here, valueOf_bitsOf_of_lt small]
  · rw [← List.drop_drop, shape]
    exact List.drop_left' (length_bitsOf width value)

theorem getD_of_drop {startbit : Nat} {bitArray rest : List Bool} {bit : Bool}
    (shape : bitArray.drop startbit = bit :: rest) :
    bitArray.getD startbit false = bit ∧ bitArray.drop (startbit + 1) = rest := by
  have here : (bitArray.drop startbit)[0]? = some bit := by rw [shape]; rfl
  rw [List.getElem?_drop, Nat.add_zero] at here
  refine ⟨by rw [List.getD_eq_getElem?_getD, here]; rfl, ?_⟩
  rw [← List.drop_drop, shape]
  rfl

namespace SOEEventFormat

/-- The end of a record is read where it stands. -/
theorem readSecond_of_drop {event read : SOEEventFormat} (fits : event.Fits)
    {bitArray rest : List Bool} {startbit : Nat}
    (shape : bitArray.drop startbit = bitsOf 6 event.second ++
      (bitsOf 10 event.millisecond ++ (event.lastEventFlag :: rest))) :
    readSecond read bitArray startbit =
      ({ read with
          second := event.second
          millisecond := event.millisecond
          lastEventFlag := event.lastEventFlag }, startbit + 17) := by
  obtain ⟨second, afterSecond⟩ := getBits_of_drop 8 shape fits.second (by decide)
  obtain ⟨millisecond, afterMillisecond⟩ :=
    getBits_of_drop 16 afterSecond fits.millisecond (by decide)
  obtain ⟨last, -⟩ := getD_of_drop afterMillisecond
  simp only [readSecond, getBits8, getBits16, second, millisecond, last, Nat.add_assoc]

/-- **A record is read where it stands**, when the array is long enough for the
tests of the reader. -/
theorem ofBitArray_recordBits {event : SOEEventFormat} (fits : event.Fits)
    {bitArray rest : List Bool} {startbit usedbits : Nat} (lastEventTime : Nat)
    (shape : bitArray.drop startbit = event.recordBits ++ rest)
    (room : startbit + 30 ≤ usedbits) :
    ofBitArray bitArray startbit usedbits lastEventTime =
      if event.timeFormatBit = true ∧ usedbits < startbit + 13 + 41 then none
      else some (event.resolved lastEventTime, startbit + event.getResultBitLength) := by
  rw [recordBits_eq fits] at shape
  simp only [List.append_assoc, List.cons_append, List.nil_append] at shape
  obtain ⟨group, afterGroup⟩ := getBits_of_drop 8 shape fits.group (by decide)
  obtain ⟨number, afterNumber⟩ := getBits_of_drop 8 afterGroup fits.number (by decide)
  obtain ⟨value, afterValue⟩ := getD_of_drop afterNumber
  obtain ⟨quality, afterQuality⟩ := getD_of_drop afterValue
  obtain ⟨format, afterFormat⟩ := getD_of_drop afterQuality
  have enough : ¬ startbit + 30 > usedbits := by omega
  simp only [ofBitArray, getBits8, enough, if_false, group, number, value, quality, format]
  by_cases long : event.timeFormatBit = true
  · simp only [long, if_true, true_and]
    unfold timeFields at afterFormat
    rw [if_pos long, List.append_assoc] at afterFormat
    obtain ⟨hour, afterHour⟩ := getBits_of_drop 8 afterFormat fits.hour (by decide)
    obtain ⟨minute, afterMinute⟩ := getBits_of_drop 8 afterHour fits.minute (by decide)
    by_cases short : usedbits < startbit + 13 + 41
    · rw [if_pos (by omega), if_pos short]
    · rw [if_neg (by omega), if_neg short, hour, minute, readSecond_of_drop fits afterMinute]
      simp [resolved, long, getResultBitLength]
      cases event
      simp_all
  · have shortRecord : event.timeFormatBit = false := eq_false_of_ne_true long
    simp only [shortRecord, Bool.false_eq_true, if_false, false_and]
    unfold timeFields at afterFormat
    rw [if_neg long, List.nil_append] at afterFormat
    rw [readSecond_of_drop fits afterFormat]
    simp [resolved, shortRecord, getResultBitLength]

end SOEEventFormat

end OpenDataCon.CBPort
