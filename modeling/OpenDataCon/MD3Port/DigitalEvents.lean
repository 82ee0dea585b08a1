import OpenDataCon.MD3Port.DigitalPoints

/-!
# The stream of time-tagged events

The events of an answer are a stream of words that begins with the seconds of the first event.
Each event is the offset from the one before it, with the module address, and the word of its
module; a longer offset has a word of its own before that. An event that is more than 65 seconds
after the one before it stays on the queue, with all that follow it (`sentEvents`,
`fn11AddTimeTaggedDataToResponseWords_eq`).

The master tells the words apart by their upper byte: a module address is never zero, and the
upper byte of a longer offset always is. From the stream it reads every event that was sent, in
order, with its word and the time that is the sum of the offsets. Of the module address it reads
seven bits (`taggedReports_wordsOfEvents`).
-/

set_option autoImplicit false

namespace OpenDataCon.MD3Port

/-! ## Events -/

/-- Milliseconds are counted in 64 bits. -/
def timeDifference (later earlier : Nat) : Nat := (later + (2 ^ 64 - earlier % 2 ^ 64)) % 2 ^ 64

/-- The words for the events, the number of events, and what is left on the queue. -/
structure TaggedWords where
  responseWords : List (BitVec 16) := []
  eventCount : Nat
  queue : List MD3BinaryPoint := []
deriving DecidableEq, Repr

/-- Words in front. -/
def TaggedWords.after (words : List (BitVec 16)) (later : TaggedWords) : TaggedWords :=
  { later with responseWords := words ++ later.responseWords }

/-- The seconds of the first event. -/
def firstEventSeconds (soeTimeOffsetMinutes : Int) (changedTime : Nat) : BitVec 32 :=
  BitVec.ofInt 32 (changedTime / 1000 + soeTimeOffsetMinutes * 60)

/-- A module address over an offset of eight bits. -/
def eventWord (moduleAddress msecoffset : Nat) : BitVec 16 :=
  BitVec.ofNat 16 moduleAddress <<< 8 ||| BitVec.ofNat 16 msecoffset

/-- The words for the events at the head of the queue. -/
def fn11AddTimeTaggedDataToResponseWords (soeTimeOffsetMinutes : Int) (maxEventCount : Nat) :
    Nat → Nat → List MD3BinaryPoint → TaggedWords
  | eventCount, _, [] => { eventCount }
  | eventCount, lastPointmsec, currentPoint :: rest =>
    if eventCount < maxEventCount then
      if currentPoint.isOverFlowMarkerPoint then
        .after [0#16, 1#16] (fn11AddTimeTaggedDataToResponseWords soeTimeOffsetMinutes
          maxEventCount (eventCount + 1) lastPointmsec rest)
      else
        let changedTime := currentPoint.changedTime
        let seconds := firstEventSeconds soeTimeOffsetMinutes changedTime
        let start : List (BitVec 16) :=
          if eventCount = 0 then [(seconds >>> 16).setWidth 16, seconds.setWidth 16] else []
        let lastPointmsec :=
          if eventCount = 0 then changedTime - changedTime % 1000 else lastPointmsec
        let msecoffset := timeDifference changedTime lastPointmsec
        let msecoffsetdiv256 := msecoffset / 256
        -- too long a time since the last event: the master has to scan again
        if 255 < msecoffsetdiv256 then
          { responseWords := start, eventCount, queue := currentPoint :: rest }
        else
          let extension : List (BitVec 16) :=
            if 255 < msecoffset then [BitVec.ofNat 16 msecoffsetdiv256] else []
          let msecoffset :=
            if 255 < msecoffset then
              timeDifference changedTime (lastPointmsec + msecoffsetdiv256 * 256)
            else msecoffset
          .after (start ++ extension ++
              [eventWord currentPoint.moduleAddress msecoffset, currentPoint.moduleBinarySnapShot])
            (fn11AddTimeTaggedDataToResponseWords soeTimeOffsetMinutes maxEventCount
              (eventCount + 1) changedTime rest)
    else { eventCount, queue := currentPoint :: rest }

/-! ## Reading the stream -/

/-- A module word as the master reads it. -/
structure ModuleReport where
  moduleData : BitVec 16
  moduleAddress : Nat
  eventtime : Nat
deriving DecidableEq, Repr

/-- Read the words of the events; the second result is false when a word is missing. A status
word is followed by another one, which is not looked at. -/
def taggedReports : Nat → List (BitVec 16) → List ModuleReport × Bool
  | _, [] => ([], true)
  | timebase, word :: rest =>
    if word = 0#16 then
      match rest with
      | [] => ([], true)
      | _ :: rest => taggedReports timebase rest
    else if word &&& 0xFF00#16 = 0#16 then
      taggedReports (timebase + (word &&& 0x00FF#16).toNat * 256) rest
    else
      let moduleAddress := ((word >>> 8) &&& 0x007F#16).toNat
      let timebase := timebase + (word &&& 0x00FF#16).toNat
      match rest with
      | [] => ([], false)
      | moduleData :: rest =>
        let later := taggedReports timebase rest
        (⟨moduleData, moduleAddress, timebase⟩ :: later.1, later.2)

/-! ## The events that are sent -/

/-- The events up to the first one that is too long after the one before it, and no more than
there is room for. -/
def sentAfter : Nat → Nat → List MD3BinaryPoint → List MD3BinaryPoint
  | 0, _, _ => []
  | _ + 1, _, [] => []
  | room + 1, last, point :: rest =>
    if 65536 ≤ timeDifference point.changedTime last then []
    else point :: sentAfter room point.changedTime rest

/-- The first event is never too late. -/
def sentEvents (maxEventCount : Nat) : List MD3BinaryPoint → List MD3BinaryPoint
  | [] => []
  | point :: rest =>
    if maxEventCount = 0 then [] else point :: sentAfter (maxEventCount - 1) point.changedTime rest

/-- The words of an event after another one. -/
def wordsOfEvent (last : Nat) (point : MD3BinaryPoint) : List (BitVec 16) :=
  let msecoffset := timeDifference point.changedTime last
  (if 255 < msecoffset then [BitVec.ofNat 16 (msecoffset / 256)] else []) ++
    [eventWord point.moduleAddress (msecoffset % 256), point.moduleBinarySnapShot]

def wordsOfEvents : Nat → List MD3BinaryPoint → List (BitVec 16)
  | _, [] => []
  | last, point :: rest => wordsOfEvent last point ++ wordsOfEvents point.changedTime rest

/-- The whole seconds before a time. -/
def wholeSeconds (changedTime : Nat) : Nat := changedTime - changedTime % 1000

/-- The seconds of the first event, and the words of all. -/
def eventStream (soeTimeOffsetMinutes : Int) : List MD3BinaryPoint → List (BitVec 16)
  | [] => []
  | point :: rest =>
    let seconds := firstEventSeconds soeTimeOffsetMinutes point.changedTime
    (seconds >>> 16).setWidth 16 :: seconds.setWidth 16 ::
      wordsOfEvents (wholeSeconds point.changedTime) (point :: rest)

section Encoding

/-- A part of the difference can be added to the earlier time. -/
theorem timeDifference_add {later earlier part : Nat}
    (within : part ≤ timeDifference later earlier) :
    timeDifference later (earlier + part) = timeDifference later earlier - part := by
  unfold timeDifference at *
  omega

/-- What is left of a difference after a word for its multiple of 256. -/
theorem timeDifference_bridged (later earlier : Nat) :
    (if 255 < timeDifference later earlier then
      timeDifference later (earlier + timeDifference later earlier / 256 * 256)
    else timeDifference later earlier) = timeDifference later earlier % 256 := by
  split
  · rw [timeDifference_add (Nat.div_mul_le_self _ _)]
    omega
  · omega

theorem timeDifference_wholeSeconds (changedTime : Nat) :
    timeDifference changedTime (wholeSeconds changedTime) = changedTime % 1000 := by
  unfold timeDifference wholeSeconds
  omega

/-- Times in order that are counted in 64 bits differ as numbers do. -/
theorem timeDifference_of_le {later earlier : Nat} (ordered : earlier ≤ later)
    (small : later < 2 ^ 64) : timeDifference later earlier = later - earlier := by
  unfold timeDifference
  omega

variable (soeTimeOffsetMinutes : Int) {maxEventCount : Nat}

/-- After the first event, the words and the queue are those of the events that are sent. -/
theorem fn11AddTimeTaggedDataToResponseWords_later {eventCount : Nat} (later : 0 < eventCount)
    {queue : List MD3BinaryPoint}
    (unmarked : ∀ point ∈ queue, point.isOverFlowMarkerPoint = false) (last : Nat) :
    let sent := sentAfter (maxEventCount - eventCount) last queue
    fn11AddTimeTaggedDataToResponseWords soeTimeOffsetMinutes maxEventCount eventCount last queue =
      { responseWords := wordsOfEvents last sent
        eventCount := eventCount + sent.length
        queue := queue.drop sent.length } := by
  induction queue generalizing eventCount last with
  | nil =>
      cases room : maxEventCount - eventCount with
      | zero => rfl
      | succ more => rfl
  | cons point rest ih =>
      have real := unmarked point (.head _)
      cases room : maxEventCount - eventCount with
      | zero =>
          have full : ¬eventCount < maxEventCount := by omega
          rw [fn11AddTimeTaggedDataToResponseWords, if_neg full]
          rfl
      | succ more =>
          have open' : eventCount < maxEventCount := by omega
          have notFirst : eventCount ≠ 0 := by omega
          rw [fn11AddTimeTaggedDataToResponseWords, if_pos open', real]
          simp only [Bool.false_eq_true, if_false, notFirst, sentAfter]
          have late : 255 < timeDifference point.changedTime last / 256 ↔
              65536 ≤ timeDifference point.changedTime last := by omega
          by_cases tooLate : 65536 ≤ timeDifference point.changedTime last
          · rw [if_pos (late.mpr tooLate), if_pos tooLate]
            rfl
          · have after := ih (Nat.succ_pos eventCount)
              (fun other member => unmarked other (.tail _ member)) point.changedTime
            rw [show maxEventCount - (eventCount + 1) = more by omega] at after
            rw [if_neg (mt late.mp tooLate), if_neg tooLate, after]
            rw [timeDifference_bridged]
            simp only [TaggedWords.after, wordsOfEvents, wordsOfEvent, List.nil_append,
              List.length_cons, List.drop_succ_cons, TaggedWords.mk.injEq, and_true, true_and]
            omega

/-- **The words, their number and the queue are those of the events that are sent.** -/
theorem fn11AddTimeTaggedDataToResponseWords_eq {queue : List MD3BinaryPoint}
    (unmarked : ∀ point ∈ queue, point.isOverFlowMarkerPoint = false) :
    let sent := sentEvents maxEventCount queue
    fn11AddTimeTaggedDataToResponseWords soeTimeOffsetMinutes maxEventCount 0 0 queue =
      { responseWords := eventStream soeTimeOffsetMinutes sent
        eventCount := sent.length
        queue := queue.drop sent.length } := by
  cases queue with
  | nil => rfl
  | cons point rest =>
      have real := unmarked point (.head _)
      by_cases some : maxEventCount = 0
      · subst some
        rfl
      · have open' : 0 < maxEventCount := Nat.pos_of_ne_zero some
        have short := timeDifference_wholeSeconds point.changedTime
        have inTime :
            ¬255 < timeDifference point.changedTime (wholeSeconds point.changedTime) / 256 := by
          omega
        have after := @fn11AddTimeTaggedDataToResponseWords_later soeTimeOffsetMinutes
          maxEventCount 1 Nat.one_pos rest (fun other member => unmarked other (.tail _ member))
          point.changedTime
        rw [fn11AddTimeTaggedDataToResponseWords, if_pos open', real]
        simp only [Bool.false_eq_true, if_false, if_true]
        rw [← wholeSeconds, if_neg inTime, after]
        rw [timeDifference_bridged, sentEvents, if_neg some]
        simp only [TaggedWords.after, eventStream, wordsOfEvents, wordsOfEvent, List.length_cons,
          List.drop_succ_cons, TaggedWords.mk.injEq, and_true]
        refine ⟨?_, by omega⟩
        simp only [List.append_assoc, List.cons_append, List.nil_append]

theorem sentAfter_first (room last : Nat) (queue : List MD3BinaryPoint) :
    sentAfter room last queue <+: queue := by
  induction queue generalizing room last with
  | nil => cases room <;> exact List.nil_prefix
  | cons point rest ih =>
      cases room with
      | zero => exact List.nil_prefix
      | succ room =>
          rw [sentAfter]
          split
          · exact List.nil_prefix
          · exact (List.prefix_cons_inj point).mpr (ih room point.changedTime)

theorem length_sentAfter (room last : Nat) (queue : List MD3BinaryPoint) :
    (sentAfter room last queue).length ≤ room := by
  induction queue generalizing room last with
  | nil => cases room <;> exact Nat.zero_le _
  | cons point rest ih =>
      cases room with
      | zero => exact Nat.zero_le _
      | succ room =>
          rw [sentAfter]
          split
          · exact Nat.zero_le _
          · exact Nat.succ_le_succ (ih room point.changedTime)

/-- The events that are sent are the first ones of the queue. -/
theorem sentEvents_first (maxEventCount : Nat) (queue : List MD3BinaryPoint) :
    sentEvents maxEventCount queue <+: queue := by
  cases queue with
  | nil => exact List.nil_prefix
  | cons point rest =>
      rw [sentEvents]
      split
      · exact List.nil_prefix
      · exact (List.prefix_cons_inj point).mpr (sentAfter_first _ _ _)

theorem length_sentEvents (maxEventCount : Nat) (queue : List MD3BinaryPoint) :
    (sentEvents maxEventCount queue).length ≤ maxEventCount := by
  cases queue with
  | nil => exact Nat.zero_le _
  | cons point rest =>
      rw [sentEvents]
      split
      · exact Nat.zero_le _
      · next room =>
          rw [List.length_cons]
          have := length_sentAfter (maxEventCount - 1) point.changedTime rest
          omega

/-- Events that are not sent stay where they are. -/
theorem sentEvents_append_drop (maxEventCount : Nat) (queue : List MD3BinaryPoint) :
    sentEvents maxEventCount queue ++ queue.drop (sentEvents maxEventCount queue).length =
      queue := by
  obtain ⟨left, parts⟩ := sentEvents_first maxEventCount queue
  have drops : (sentEvents maxEventCount queue ++ left).drop
      (sentEvents maxEventCount queue).length = left := List.drop_left
  rw [parts] at drops
  rw [drops, parts]

end Encoding

/-! ## What is read of them -/

/-- No event is too long after the one before it. -/
def Bridged : Nat → List MD3BinaryPoint → Prop
  | _, [] => True
  | last, point :: rest =>
    timeDifference point.changedTime last < 65536 ∧ Bridged point.changedTime rest

theorem bridged_sentAfter (room last : Nat) (queue : List MD3BinaryPoint) :
    Bridged last (sentAfter room last queue) := by
  induction queue generalizing room last with
  | nil => cases room <;> trivial
  | cons point rest ih =>
      cases room with
      | zero => trivial
      | succ room =>
          rw [sentAfter]
          split
          · trivial
          · next inTime => exact ⟨Nat.lt_of_not_le inTime, ih room point.changedTime⟩

/-- The events as they are read: with seven bits of the module address, and the offsets summed
up. -/
def reportsOfEvents : Nat → Nat → List MD3BinaryPoint → List ModuleReport
  | _, _, [] => []
  | timebase, last, point :: rest =>
    let eventtime := timebase + timeDifference point.changedTime last
    ⟨point.moduleBinarySnapShot, point.moduleAddress % 128, eventtime⟩ ::
      reportsOfEvents eventtime point.changedTime rest

/-- The events as they are read from the seconds of the first one. -/
def streamReports (soeTimeOffsetMinutes : Int) : List MD3BinaryPoint → List ModuleReport
  | [] => []
  | point :: rest =>
    reportsOfEvents ((firstEventSeconds soeTimeOffsetMinutes point.changedTime).toNat * 1000)
      (wholeSeconds point.changedTime) (point :: rest)

section Decoding

/-- The upper byte is zero exactly when the word is a byte. -/
theorem upperByte_eq_zero (word : BitVec 16) : word &&& 0xFF00#16 = 0#16 ↔ word.toNat < 256 := by
  constructor
  · intro clear
    rw [← Nat.div_eq_zero_iff_lt (by decide), ← Nat.shiftRight_eq_div_pow word.toNat 8]
    have shifted : word >>> 8 = (word &&& 0xFF00#16) >>> 8 := by
      apply BitVec.eq_of_getLsbD_eq
      intro i small
      rw [BitVec.getLsbD_ushiftRight, BitVec.getLsbD_ushiftRight, BitVec.getLsbD_and]
      interval_cases i <;> simp
    rw [← BitVec.toNat_ushiftRight, shifted, clear]
    rfl
  · intro small
    apply BitVec.eq_of_getLsbD_eq
    intro i bound
    rw [BitVec.getLsbD_and]
    by_cases low : i < 8
    · interval_cases i <;> simp
    · have power : 2 ^ 8 ≤ 2 ^ i := Nat.pow_le_pow_right (by decide) (Nat.le_of_not_lt low)
      have high : word.getLsbD i = false :=
        Nat.testBit_lt_two_pow (Nat.lt_of_lt_of_le small power)
      rw [high]
      simp

theorem lowerByte_toNat (word : BitVec 16) :
    (word &&& 0x00FF#16).toNat = word.toNat % 256 := by
  rw [BitVec.toNat_and]
  exact Nat.and_two_pow_sub_one_eq_mod word.toNat 8

/-- The module address as the master reads it. -/
theorem sevenBits_toNat (word : BitVec 16) :
    ((word >>> 8) &&& 0x007F#16).toNat = word.toNat / 256 % 128 := by
  rw [BitVec.toNat_and, BitVec.toNat_ushiftRight, Nat.shiftRight_eq_div_pow]
  exact Nat.and_two_pow_sub_one_eq_mod (word.toNat / 2 ^ 8) 7

theorem eventWord_toNat {moduleAddress msecoffset : Nat} (small : moduleAddress < 256)
    (short : msecoffset < 256) :
    (eventWord moduleAddress msecoffset).toNat = moduleAddress * 256 + msecoffset := by
  rw [eventWord, BitVec.toNat_or, BitVec.toNat_shiftLeft, BitVec.toNat_ofNat, BitVec.toNat_ofNat,
    Nat.mod_eq_of_lt (by omega : moduleAddress < 2 ^ 16),
    Nat.mod_eq_of_lt (by omega : msecoffset < 2 ^ 16), Nat.shiftLeft_eq,
    Nat.mod_eq_of_lt (by omega : moduleAddress * 2 ^ 8 < 2 ^ 16), ← Nat.shiftLeft_eq,
    ← Nat.shiftLeft_add_eq_or_of_lt (by omega : msecoffset < 2 ^ 8), Nat.shiftLeft_eq]

/-- A module address over an offset is an event. -/
theorem taggedReports_eventWord {moduleAddress msecoffset : Nat} (real : 0 < moduleAddress)
    (small : moduleAddress < 256) (short : msecoffset < 256) (timebase : Nat)
    (moduleData : BitVec 16) (rest : List (BitVec 16)) :
    taggedReports timebase (eventWord moduleAddress msecoffset :: moduleData :: rest) =
      (⟨moduleData, moduleAddress % 128, timebase + msecoffset⟩ ::
          (taggedReports (timebase + msecoffset) rest).1,
        (taggedReports (timebase + msecoffset) rest).2) := by
  have value := eventWord_toNat small short
  have notStatus : eventWord moduleAddress msecoffset ≠ 0#16 := by
    intro zero
    rw [zero] at value
    have nothing : (0#16).toNat = 0 := rfl
    omega
  have notTime : ¬(eventWord moduleAddress msecoffset &&& 0xFF00#16 = 0#16) := by
    rw [upperByte_eq_zero]
    omega
  rw [taggedReports, if_neg notStatus, if_neg notTime]
  dsimp only
  rw [lowerByte_toNat, sevenBits_toNat, value,
    show (moduleAddress * 256 + msecoffset) % 256 = msecoffset by omega,
    show (moduleAddress * 256 + msecoffset) / 256 = moduleAddress by omega]

/-- A byte alone moves the time. -/
theorem taggedReports_extension {multiple : Nat} (positive : 0 < multiple)
    (small : multiple < 256) (timebase : Nat) (rest : List (BitVec 16)) :
    taggedReports timebase (BitVec.ofNat 16 multiple :: rest) =
      taggedReports (timebase + multiple * 256) rest := by
  have value : (BitVec.ofNat 16 multiple).toNat = multiple := by
    rw [BitVec.toNat_ofNat]
    omega
  have notStatus : BitVec.ofNat 16 multiple ≠ 0#16 := by
    intro zero
    rw [zero] at value
    have nothing : (0#16).toNat = 0 := rfl
    omega
  have isTime : BitVec.ofNat 16 multiple &&& 0xFF00#16 = 0#16 := by
    rw [upperByte_eq_zero, value]
    exact small
  rw [taggedReports.eq_def]
  simp only [if_neg notStatus, if_pos isTime, lowerByte_toNat, value, Nat.mod_eq_of_lt small]

/-- An event is read from its words. -/
theorem taggedReports_wordsOfEvent {point : MD3BinaryPoint} (real : 0 < point.moduleAddress)
    (small : point.moduleAddress < 256) {last : Nat}
    (inTime : timeDifference point.changedTime last < 65536) (timebase : Nat)
    (rest : List (BitVec 16)) :
    let eventtime := timebase + timeDifference point.changedTime last
    taggedReports timebase (wordsOfEvent last point ++ rest) =
      (⟨point.moduleBinarySnapShot, point.moduleAddress % 128, eventtime⟩ ::
          (taggedReports eventtime rest).1, (taggedReports eventtime rest).2) := by
  have short : timeDifference point.changedTime last % 256 < 256 := Nat.mod_lt _ (by decide)
  unfold wordsOfEvent
  by_cases long : 255 < timeDifference point.changedTime last
  · have sum : timebase + timeDifference point.changedTime last / 256 * 256 +
        timeDifference point.changedTime last % 256 =
          timebase + timeDifference point.changedTime last := by omega
    simp only [if_pos long, List.cons_append, List.nil_append]
    rw [taggedReports_extension (by omega) (by omega), taggedReports_eventWord real small short, sum]
  · have whole : timeDifference point.changedTime last % 256 =
        timeDifference point.changedTime last := by omega
    simp only [if_neg long, List.cons_append, List.nil_append]
    rw [taggedReports_eventWord real small short, whole]

/-- The words of events are read back, and a filler after them is passed over. -/
theorem taggedReports_wordsOfEvents {events : List MD3BinaryPoint}
    (addressed : ∀ point ∈ events, 0 < point.moduleAddress ∧ point.moduleAddress < 256)
    {last : Nat} (bridged : Bridged last events) (timebase : Nat) (filler : List (BitVec 16))
    (filling : ∀ time, taggedReports time filler = ([], true)) :
    taggedReports timebase (wordsOfEvents last events ++ filler) =
      (reportsOfEvents timebase last events, true) := by
  induction events generalizing last timebase with
  | nil => exact filling timebase
  | cons point rest ih =>
      obtain ⟨inTime, later⟩ := bridged
      obtain ⟨real, small⟩ := addressed point (.head _)
      rw [wordsOfEvents, List.append_assoc, taggedReports_wordsOfEvent real small inTime,
        ih (fun other after => addressed other (.tail _ after)) later]
      rfl

end Decoding

end OpenDataCon.MD3Port
