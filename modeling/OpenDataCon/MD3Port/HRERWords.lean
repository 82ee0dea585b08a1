import OpenDataCon.MD3Port.DigitalEvents

/-!
# The words of an event list

An event list starts with the seconds of its first event. A word with its top bit set adds five
bits of seconds and ten bits of milliseconds to the time, and any other word is an event at that
time, with its state, channel and module (`readHRER`).

The outstation keeps only eight bits of the milliseconds when it packs them, and asserts a gap below
31999 where its loop admits 31999. `fn9Words_recover_iff` says exactly when the list is read back
as the events that were taken from the queue.
-/

set_option autoImplicit false

namespace OpenDataCon.MD3Port

/-! ## What the outstation packs -/

/-- What `MilliSecondsPacket` asserts of its argument. -/
def milliSecondsAssertion (allmsec : BitVec 16) : Bool := allmsec < 31999#16

def milliSecondsPacket (allmsec : BitVec 16) : BitVec 16 :=
  let deltasec := allmsec / 1000#16
  let msec := allmsec % 1000#16
  0x8000#16 ||| (deltasec &&& 0x1F#16) <<< 10 ||| (msec &&& 0x00FF#16)

def hrerEventPacket (bitstate : Bool) (channel moduleaddress : Nat) : BitVec 16 :=
  (if bitstate then 1#16 else 0#16) <<< 14 ||| BitVec.ofNat 16 channel <<< 8 |||
    BitVec.ofNat 16 moduleaddress

/-- The words for the events, the number of events, what is left on the queue, and whether every
assertion was met. -/
structure HRERWords where
  responseWords : List (BitVec 16) := []
  eventCount : Nat
  queue : List MD3BinaryPoint := []
  asserted : Bool := true
deriving DecidableEq, Repr

/-- Words in front, and whether their assertion is met. -/
def HRERWords.after (words : List (BitVec 16)) (asserted : Bool) (later : HRERWords) : HRERWords :=
  { later with responseWords := words ++ later.responseWords, asserted := asserted && later.asserted }

section After

variable (words : List (BitVec 16)) (asserted : Bool) (later : HRERWords)

@[simp] theorem HRERWords.after_responseWords :
    (later.after words asserted).responseWords = words ++ later.responseWords := rfl

@[simp] theorem HRERWords.after_eventCount :
    (later.after words asserted).eventCount = later.eventCount := rfl

@[simp] theorem HRERWords.after_queue : (later.after words asserted).queue = later.queue := rfl

@[simp] theorem HRERWords.after_asserted :
    (later.after words asserted).asserted = (asserted && later.asserted) := rfl

end After

/-- The words for the events at the head of the queue. -/
def fn9AddTimeTaggedDataToResponseWords (maxEventCount : Nat) :
    Nat → Nat → List MD3BinaryPoint → HRERWords
  | eventCount, _, [] => { eventCount }
  | eventCount, lastPointmsec, currentPoint :: rest =>
    if eventCount < maxEventCount then
      let changedTime := currentPoint.changedTime
      let event := hrerEventPacket currentPoint.binary currentPoint.channel
        currentPoint.moduleAddress
      if eventCount = 0 then
        let firstEventSeconds := BitVec.ofNat 32 (changedTime / 1000)
        let firstEventMSec := BitVec.ofNat 16 (changedTime % 1000)
        .after [(firstEventSeconds >>> 16).setWidth 16, firstEventSeconds.setWidth 16,
            milliSecondsPacket firstEventMSec, event]
          (milliSecondsAssertion firstEventMSec)
          (fn9AddTimeTaggedDataToResponseWords maxEventCount (eventCount + 1) changedTime rest)
      else
        let delta := timeDifference changedTime lastPointmsec
        if delta > 31999 then
          -- the point stays on the queue for the next scan
          { eventCount, queue := currentPoint :: rest }
        else if delta ≠ 0 then
          .after [milliSecondsPacket (BitVec.ofNat 16 delta), event]
            (milliSecondsAssertion (BitVec.ofNat 16 delta))
            (fn9AddTimeTaggedDataToResponseWords maxEventCount (eventCount + 1) changedTime rest)
        else
          .after [event] true
            (fn9AddTimeTaggedDataToResponseWords maxEventCount (eventCount + 1) lastPointmsec rest)
    else { eventCount, queue := currentPoint :: rest }

/-! ## What a reader of the list sees -/

structure HREREvent where
  bitstate : Bool
  channel : Nat
  moduleAddress : Nat
  time : Nat
deriving DecidableEq, Repr

def MD3BinaryPoint.hrerEvent (point : MD3BinaryPoint) : HREREvent :=
  ⟨point.binary, point.channel, point.moduleAddress, point.changedTime⟩

/-- The packets after the seconds; the time is that of the packets before. -/
def readPackets : Nat → List (BitVec 16) → List HREREvent
  | _, [] => []
  | time, packet :: rest =>
    if packet.getLsbD 15 then
      readPackets (time + ((packet >>> 10) &&& 0x1F#16).toNat * 1000 +
        (packet &&& 0x3FF#16).toNat) rest
    else
      ⟨packet.getLsbD 14, ((packet >>> 8) &&& 0x0F#16).toNat, (packet &&& 0xFF#16).toNat, time⟩ ::
        readPackets time rest

/-- The list as it is documented: 32 bits of seconds, and packets. -/
def readHRER : List (BitVec 16) → List HREREvent
  | high :: low :: packets => readPackets ((high.toNat * 65536 + low.toNat) * 1000) packets
  | _ => []

/-! ## Packets -/

/-- Bits over bits that they do not meet. -/
theorem toNat_shiftLeft_or {high low : BitVec 16} {shift : Nat}
    (fits : high.toNat * 2 ^ shift < 2 ^ 16) (below : low.toNat < 2 ^ shift) :
    (high <<< shift ||| low).toNat = high.toNat * 2 ^ shift + low.toNat := by
  rw [BitVec.toNat_or, BitVec.toNat_shiftLeft, Nat.shiftLeft_eq, Nat.mod_eq_of_lt fits,
    ← Nat.shiftLeft_eq, ← Nat.shiftLeft_add_eq_or_of_lt below]

theorem getLsbD_eq_decide (word : BitVec 16) (i : Nat) :
    word.getLsbD i = decide (word.toNat / 2 ^ i % 2 = 1) := by
  rw [BitVec.getLsbD, Nat.testBit_eq_decide_div_mod_eq]

/-- The seconds of a packet over its milliseconds, of which eight bits are left. -/
theorem milliSecondsPacket_toNat {allmsec : BitVec 16} (admitted : allmsec.toNat ≤ 31999) :
    (milliSecondsPacket allmsec).toNat =
      32768 + (allmsec.toNat / 1000 * 1024 + allmsec.toNat % 1000 % 256) := by
  have seconds : (allmsec / 1000#16 &&& 0x1F#16).toNat = allmsec.toNat / 1000 := by
    rw [BitVec.toNat_and, BitVec.toNat_udiv]
    exact (Nat.and_two_pow_sub_one_eq_mod _ 5).trans (Nat.mod_eq_of_lt (by
      show allmsec.toNat / 1000 < 32
      omega))
  have milliseconds : (allmsec % 1000#16 &&& 0x00FF#16).toNat = allmsec.toNat % 1000 % 256 := by
    rw [BitVec.toNat_and, BitVec.toNat_umod]
    exact Nat.and_two_pow_sub_one_eq_mod _ 8
  have top : (0x8000#16 : BitVec 16) = 1#16 <<< 15 := by decide
  have parts : ((allmsec / 1000#16 &&& 0x1F#16) <<< 10 ||| (allmsec % 1000#16 &&& 0x00FF#16)).toNat =
      allmsec.toNat / 1000 * 1024 + allmsec.toNat % 1000 % 256 := by
    rw [toNat_shiftLeft_or (by rw [seconds]; omega) (by rw [milliseconds]; omega), seconds,
      milliseconds]
    norm_num
  rw [milliSecondsPacket, BitVec.or_assoc, top, toNat_shiftLeft_or (by decide) (by rw [parts]; omega), parts]
  rfl

/-- A packet of milliseconds adds what is left of them to the time. -/
theorem readPackets_milliSeconds {allmsec : BitVec 16} (admitted : allmsec.toNat ≤ 31999)
    (time : Nat) (rest : List (BitVec 16)) :
    readPackets time (milliSecondsPacket allmsec :: rest) =
      readPackets (time + (allmsec.toNat / 1000 * 1000 + allmsec.toNat % 1000 % 256)) rest := by
  have value := milliSecondsPacket_toNat admitted
  have isTime : (milliSecondsPacket allmsec).getLsbD 15 = true := by
    rw [getLsbD_eq_decide, value, decide_eq_true_iff]
    omega
  have seconds : ((milliSecondsPacket allmsec >>> 10) &&& 0x1F#16).toNat =
      (milliSecondsPacket allmsec).toNat / 1024 % 32 := by
    rw [BitVec.toNat_and, BitVec.toNat_ushiftRight, Nat.shiftRight_eq_div_pow]
    exact Nat.and_two_pow_sub_one_eq_mod _ 5
  have milliseconds : (milliSecondsPacket allmsec &&& 0x3FF#16).toNat =
      (milliSecondsPacket allmsec).toNat % 1024 := by
    rw [BitVec.toNat_and]
    exact Nat.and_two_pow_sub_one_eq_mod _ 10
  have added : (32768 + (allmsec.toNat / 1000 * 1024 + allmsec.toNat % 1000 % 256)) / 1024 % 32 *
      1000 + (32768 + (allmsec.toNat / 1000 * 1024 + allmsec.toNat % 1000 % 256)) % 1024 =
        allmsec.toNat / 1000 * 1000 + allmsec.toNat % 1000 % 256 := by
    omega
  rw [readPackets, if_pos isTime, seconds, milliseconds, value, Nat.add_assoc, added]

theorem hrerEventPacket_toNat {channel moduleaddress : Nat} (inModule : channel < 16)
    (small : moduleaddress < 256) (bitstate : Bool) :
    (hrerEventPacket bitstate channel moduleaddress).toNat =
      bitstate.toNat * 16384 + (channel * 256 + moduleaddress) := by
  have channelIs : (BitVec.ofNat 16 channel).toNat = channel := by
    rw [BitVec.toNat_ofNat, Nat.mod_eq_of_lt (by omega)]
  have moduleIs : (BitVec.ofNat 16 moduleaddress).toNat = moduleaddress := by
    rw [BitVec.toNat_ofNat, Nat.mod_eq_of_lt (by omega)]
  have stateIs : (if bitstate then 1#16 else 0#16).toNat = bitstate.toNat := by
    cases bitstate <;> rfl
  have parts : (BitVec.ofNat 16 channel <<< 8 ||| BitVec.ofNat 16 moduleaddress).toNat =
      channel * 256 + moduleaddress := by
    rw [toNat_shiftLeft_or (by rw [channelIs]; omega) (by rw [moduleIs]; omega), channelIs,
      moduleIs]
    norm_num
  have bit := bitstate.toNat_le
  rw [hrerEventPacket, BitVec.or_assoc, toNat_shiftLeft_or (by rw [stateIs]; omega)
    (by rw [parts]; omega), parts, stateIs]
  norm_num

/-- A packet of an event is read as the event at the time of the packets before. -/
theorem readPackets_event {channel moduleaddress : Nat} (inModule : channel < 16)
    (small : moduleaddress < 256) (bitstate : Bool) (time : Nat) (rest : List (BitVec 16)) :
    readPackets time (hrerEventPacket bitstate channel moduleaddress :: rest) =
      ⟨bitstate, channel, moduleaddress, time⟩ :: readPackets time rest := by
  have value := hrerEventPacket_toNat inModule small bitstate
  have bit := bitstate.toNat_le
  have isEvent : (hrerEventPacket bitstate channel moduleaddress).getLsbD 15 = false := by
    rw [getLsbD_eq_decide, value, decide_eq_false_iff_not]
    omega
  have state : (hrerEventPacket bitstate channel moduleaddress).getLsbD 14 = bitstate := by
    rw [getLsbD_eq_decide, value]
    cases bitstate
    · exact decide_eq_false (by simp only [Bool.toNat_false]; omega)
    · exact decide_eq_true (by simp only [Bool.toNat_true]; omega)
  have channelIs : ((hrerEventPacket bitstate channel moduleaddress >>> 8) &&& 0x0F#16).toNat =
      channel := by
    rw [BitVec.toNat_and, BitVec.toNat_ushiftRight, Nat.shiftRight_eq_div_pow]
    refine (Nat.and_two_pow_sub_one_eq_mod _ 4).trans ?_
    rw [value]
    omega
  rw [readPackets, isEvent, if_neg Bool.false_ne_true, state, channelIs, lowerByte_toNat, value,
    show (bitstate.toNat * 16384 + (channel * 256 + moduleaddress)) % 256 = moduleaddress by omega]

/-! ## When a list is read back -/

/-- The gaps before the events that are taken have fewer than 256 milliseconds over whole
seconds; a gap above 31.999 seconds ends the list. -/
def GapsFit : Nat → Nat → List MD3BinaryPoint → Prop
  | 0, _, _ => True
  | _ + 1, _, [] => True
  | room + 1, last, point :: rest =>
    31999 < point.changedTime - last ∨
      ((point.changedTime - last) % 1000 < 256 ∧ GapsFit room point.changedTime rest)

/-- The first event is within 32 bits of seconds, and its milliseconds and all gaps fit. -/
def TimesFit : Nat → List MD3BinaryPoint → Prop
  | 0, _ => True
  | _ + 1, [] => True
  | room + 1, point :: rest =>
    point.changedTime / 1000 < 2 ^ 32 ∧ point.changedTime % 1000 < 256 ∧
      GapsFit room point.changedTime rest

/-- The events that were taken are read from the list, and no assertion fails. -/
def HRERRecovered (maxEventCount : Nat) (queue : List MD3BinaryPoint) : Prop :=
  let result := fn9AddTimeTaggedDataToResponseWords maxEventCount 0 0 queue
  result.queue = queue.drop result.eventCount ∧
    readHRER result.responseWords =
      (queue.take result.eventCount).map MD3BinaryPoint.hrerEvent ∧
    result.asserted = true

/-- The events that are counted leave the queue. -/
theorem fn9Words_counts (maxEventCount eventCount last : Nat) (queue : List MD3BinaryPoint) :
    let result := fn9AddTimeTaggedDataToResponseWords maxEventCount eventCount last queue
    eventCount ≤ result.eventCount ∧
      result.queue = queue.drop (result.eventCount - eventCount) := by
  induction queue generalizing eventCount last with
  | nil => simp [fn9AddTimeTaggedDataToResponseWords]
  | cons point rest ih =>
      have stops : eventCount ≤ eventCount ∧
          point :: rest = (point :: rest).drop (eventCount - eventCount) := by simp
      have goesOn : ∀ later, eventCount + 1 ≤ (fn9AddTimeTaggedDataToResponseWords maxEventCount
            (eventCount + 1) later rest).eventCount →
          (point :: rest).drop ((fn9AddTimeTaggedDataToResponseWords maxEventCount
            (eventCount + 1) later rest).eventCount - eventCount) =
          rest.drop ((fn9AddTimeTaggedDataToResponseWords maxEventCount (eventCount + 1) later
            rest).eventCount - (eventCount + 1)) := by
        intro later more
        rw [show (fn9AddTimeTaggedDataToResponseWords maxEventCount (eventCount + 1) later
          rest).eventCount - eventCount = (fn9AddTimeTaggedDataToResponseWords maxEventCount
            (eventCount + 1) later rest).eventCount - (eventCount + 1) + 1 by omega,
          List.drop_succ_cons]
      have later : ∀ last, eventCount ≤ (fn9AddTimeTaggedDataToResponseWords maxEventCount
            (eventCount + 1) last rest).eventCount ∧
          (fn9AddTimeTaggedDataToResponseWords maxEventCount (eventCount + 1) last rest).queue =
            (point :: rest).drop ((fn9AddTimeTaggedDataToResponseWords maxEventCount
              (eventCount + 1) last rest).eventCount - eventCount) := by
        intro last
        obtain ⟨more, left⟩ := ih (eventCount + 1) last
        exact ⟨by omega, left.trans (goesOn last more).symm⟩
      rw [fn9AddTimeTaggedDataToResponseWords]
      by_cases room : eventCount < maxEventCount
      · rw [if_pos room]
        by_cases first : eventCount = 0
        · rw [if_pos first]
          exact later _
        · rw [if_neg first]
          by_cases long : timeDifference point.changedTime last > 31999
          · dsimp only
            rw [if_pos long]
            exact stops
          · dsimp only
            rw [if_neg long]
            by_cases apart : timeDifference point.changedTime last ≠ 0
            · rw [if_pos apart]
              exact later _
            · rw [if_neg apart]
              exact later _
      · rw [if_neg room]
        exact stops

/-- The events that are taken from a count on. -/
theorem take_fn9Words {maxEventCount eventCount last : Nat} {point : MD3BinaryPoint}
    {rest : List MD3BinaryPoint} :
    (point :: rest).take ((fn9AddTimeTaggedDataToResponseWords maxEventCount (eventCount + 1) last
        rest).eventCount - eventCount) =
      point :: rest.take ((fn9AddTimeTaggedDataToResponseWords maxEventCount (eventCount + 1) last
        rest).eventCount - (eventCount + 1)) := by
  have more := (fn9Words_counts maxEventCount (eventCount + 1) last rest).1
  rw [← List.take_succ_cons]
  congr 1
  omega

/-- A packet of a gap and its event are read as the event exactly when the milliseconds fit. -/
theorem readPackets_gap {gap last : Nat} {point : MD3BinaryPoint} (range : point.InRange)
    (admitted : gap ≤ 31999) (time : last + gap = point.changedTime)
    (packets : List (BitVec 16)) (events : List HREREvent) :
    readPackets last (milliSecondsPacket (BitVec.ofNat 16 gap) ::
        hrerEventPacket point.binary point.channel point.moduleAddress :: packets) =
          point.hrerEvent :: events ↔
      gap % 1000 < 256 ∧ readPackets point.changedTime packets = events := by
  have gapIs : (BitVec.ofNat 16 gap).toNat = gap := by
    rw [BitVec.toNat_ofNat, Nat.mod_eq_of_lt (by omega)]
  rw [readPackets_milliSeconds (by rw [gapIs]; exact admitted), gapIs,
    readPackets_event range.2 range.1, List.cons.injEq]
  by_cases fits : gap % 1000 < 256
  · have exact_ : last + (gap / 1000 * 1000 + gap % 1000 % 256) = point.changedTime := by omega
    rw [exact_]
    exact and_congr_left fun _ => iff_of_true rfl fits
  · refine iff_of_false (fun both => ?_) fun both => fits both.1
    have sameTime : last + (gap / 1000 * 1000 + gap % 1000 % 256) = point.changedTime :=
      congrArg HREREvent.time both.1
    omega

theorem milliSecondsAssertion_iff {gap : Nat} (admitted : gap ≤ 31999) :
    milliSecondsAssertion (BitVec.ofNat 16 gap) = true ↔ gap ≠ 31999 := by
  rw [milliSecondsAssertion, decide_eq_true_iff, BitVec.lt_def, BitVec.toNat_ofNat,
    Nat.mod_eq_of_lt (by omega)]
  show gap < 31999 ↔ _
  omega

/-- After the first event. -/
theorem readPackets_fn9Words_iff {maxEventCount eventCount last : Nat} (later : 0 < eventCount)
    {queue : List MD3BinaryPoint} (inRange : ∀ point ∈ queue, point.InRange)
    (times : ∀ point ∈ queue, last ≤ point.changedTime ∧ point.changedTime < 2 ^ 64)
    (sorted : queue.Pairwise fun first second => first.changedTime ≤ second.changedTime) :
    let result := fn9AddTimeTaggedDataToResponseWords maxEventCount eventCount last queue
    (readPackets last result.responseWords =
        (queue.take (result.eventCount - eventCount)).map MD3BinaryPoint.hrerEvent ∧
      result.asserted = true) ↔
    GapsFit (maxEventCount - eventCount) last queue := by
  induction queue generalizing eventCount last with
  | nil =>
      cases maxEventCount - eventCount <;>
        simp [fn9AddTimeTaggedDataToResponseWords, readPackets, GapsFit]
  | cons point rest ih =>
      obtain ⟨afterPoint, restSorted⟩ := List.pairwise_cons.mp sorted
      obtain ⟨order, small⟩ := times point (.head _)
      have range := inRange point (.head _)
      have restTimes : ∀ other ∈ rest,
          point.changedTime ≤ other.changedTime ∧ other.changedTime < 2 ^ 64 :=
        fun other member => ⟨afterPoint other member, (times other (.tail _ member)).2⟩
      have next := @ih (eventCount + 1) _ (Nat.add_one_pos eventCount)
        (fun other member => inRange other (.tail _ member)) restTimes restSorted
      dsimp only at next
      rw [fn9AddTimeTaggedDataToResponseWords]
      by_cases room : eventCount < maxEventCount
      · rw [if_pos room, if_neg later.ne', timeDifference_of_le order small,
          show maxEventCount - eventCount = maxEventCount - (eventCount + 1) + 1 by omega, GapsFit]
        dsimp only
        by_cases long : point.changedTime - last > 31999
        · rw [if_pos long]
          simp [readPackets, long]
        · rw [if_neg long, or_iff_right long]
          by_cases apart : point.changedTime - last ≠ 0
          · rw [if_pos apart]
            simp only [HRERWords.after_responseWords, HRERWords.after_eventCount,
              HRERWords.after_asserted, List.cons_append, List.nil_append]
            rw [take_fn9Words, List.map_cons,
              readPackets_gap range (Nat.le_of_not_lt long) (by omega), Bool.and_eq_true,
              milliSecondsAssertion_iff (Nat.le_of_not_lt long), ← next]
            constructor
            · rintro ⟨⟨fits, same⟩, -, asserted⟩
              exact ⟨fits, same, asserted⟩
            · rintro ⟨fits, same, asserted⟩
              exact ⟨⟨fits, same⟩, by omega, asserted⟩
          · have same : last = point.changedTime := by omega
            subst same
            rw [if_neg apart]
            simp only [HRERWords.after_responseWords, HRERWords.after_eventCount,
              HRERWords.after_asserted, List.cons_append, List.nil_append]
            rw [take_fn9Words, List.map_cons, readPackets_event range.2 range.1, Bool.true_and,
              List.cons.injEq, ← next]
            simp [MD3BinaryPoint.hrerEvent]
      · rw [if_neg room, Nat.sub_eq_zero_of_le (Nat.le_of_not_lt room)]
        simp [readPackets, GapsFit]

/-- Two halves of the seconds. -/
theorem halves_toNat (seconds : BitVec 32) :
    ((seconds >>> 16).setWidth 16).toNat * 65536 + (seconds.setWidth 16).toNat = seconds.toNat := by
  simp only [BitVec.toNat_setWidth, BitVec.toNat_ushiftRight, Nat.shiftRight_eq_div_pow]
  have small := seconds.isLt
  omega

/-- **The events are read back exactly when the seconds of the first one fit into 32 bits, and
the milliseconds of it and of every gap into eight.** -/
theorem fn9Words_recover_iff (maxEventCount : Nat) {queue : List MD3BinaryPoint}
    (inRange : ∀ point ∈ queue, point.InRange)
    (small : ∀ point ∈ queue, point.changedTime < 2 ^ 64)
    (sorted : queue.Pairwise fun first second => first.changedTime ≤ second.changedTime) :
    HRERRecovered maxEventCount queue ↔ TimesFit maxEventCount queue := by
  have left := (fn9Words_counts maxEventCount 0 0 queue).2
  rw [Nat.sub_zero] at left
  rw [HRERRecovered, and_iff_right left]
  cases queue with
  | nil => cases maxEventCount <;> simp [fn9AddTimeTaggedDataToResponseWords, readHRER, TimesFit]
  | cons point rest =>
      cases maxEventCount with
      | zero => simp [fn9AddTimeTaggedDataToResponseWords, readHRER, TimesFit]
      | succ room =>
          obtain ⟨afterPoint, restSorted⟩ := List.pairwise_cons.mp sorted
          have range := inRange point (.head _)
          have later := @readPackets_fn9Words_iff (room + 1) 1 point.changedTime Nat.one_pos rest
            (fun other member => inRange other (.tail _ member))
            (fun other member => ⟨afterPoint other member, small other (.tail _ member)⟩) restSorted
          dsimp only at later
          have taken := @take_fn9Words (room + 1) 0 point.changedTime point rest
          rw [Nat.sub_zero, Nat.zero_add] at taken
          rw [fn9AddTimeTaggedDataToResponseWords, if_pos (Nat.succ_pos room), if_pos rfl]
          simp only [HRERWords.after_responseWords, HRERWords.after_eventCount,
            HRERWords.after_asserted, List.cons_append, List.nil_append, Nat.zero_add]
          have asserts : milliSecondsAssertion (BitVec.ofNat 16 (point.changedTime % 1000)) = true :=
            (milliSecondsAssertion_iff (by omega)).mpr (by omega)
          rw [taken, List.map_cons, asserts, Bool.true_and, readHRER, halves_toNat, TimesFit]
          rw [Nat.add_sub_cancel] at later
          have secondsAre : (BitVec.ofNat 32 (point.changedTime / 1000)).toNat =
              point.changedTime / 1000 % 2 ^ 32 := BitVec.toNat_ofNat ..
          by_cases fits : point.changedTime / 1000 < 2 ^ 32
          · rw [secondsAre, Nat.mod_eq_of_lt fits, readPackets_gap range (by omega) (by omega),
              and_assoc, later, and_iff_right fits, Nat.mod_mod]
          · -- the seconds that are left make the time too early
            refine iff_of_false (fun both => ?_) fun both => fits both.1
            have gapIs : (BitVec.ofNat 16 (point.changedTime % 1000)).toNat =
                point.changedTime % 1000 := by
              rw [BitVec.toNat_ofNat, Nat.mod_eq_of_lt (by omega)]
            have first := both.1
            rw [readPackets_milliSeconds (by omega), readPackets_event range.2 range.1, gapIs,
              secondsAre] at first
            have time := congrArg HREREvent.time (List.cons.inj first).1
            dsimp only [MD3BinaryPoint.hrerEvent] at time
            omega

/-- Three events: 200 ms over the second, 32 ms later, and 31 seconds later. -/
def threeEvents : List MD3BinaryPoint :=
  [{ moduleAddress := 0x22, channel := 3, changedTime := 1000200 },
    { moduleAddress := 0x22, channel := 4, changedTime := 1000232, binary := false },
    { moduleAddress := 0x23, channel := 15, changedTime := 1031232 }]

theorem fn9Words_recover_iff_three :
    (∀ point ∈ threeEvents, point.InRange) ∧ (HRERRecovered 5 threeEvents ↔ TimesFit 5 threeEvents) := by
  have inRange : ∀ point ∈ threeEvents, point.InRange := by
    unfold MD3PointKey.InRange
    decide
  exact ⟨inRange, fn9Words_recover_iff 5 inRange (by decide) (by decide)⟩

/-- **An event at 1.256 seconds is read at 1.000 seconds, and for a gap of 31.999 seconds the
assertion fails.** -/
theorem fn9Words_apart :
    (readHRER (fn9AddTimeTaggedDataToResponseWords 1 0 0
        [{ moduleAddress := 0x22, changedTime := 1256 }]).responseWords =
      [⟨true, 0, 0x22, 1000⟩]) ∧
    (fn9AddTimeTaggedDataToResponseWords 2 0 0
        [{ moduleAddress := 0x22, changedTime := 1000 },
          { moduleAddress := 0x22, changedTime := 32999 }]).asserted = false ∧
    ¬HRERRecovered 1 [{ moduleAddress := 0x22, changedTime := 1256 }] := by
  refine ⟨by decide, by decide, fun recovered => ?_⟩
  exact absurd recovered.2.1 (by decide)

end OpenDataCon.MD3Port
