import Mathlib.Data.Int.ModEq
import OpenDataCon.CBPort.BlockErrors
import OpenDataCon.CBPort.OutstationRequests

/-!
# Time updates

The master sends its time of day in two blocks. The outstation takes the difference to its own
clock, in minutes, for the offset of its event times, and answers with the time it was sent and the
offset of its own clock added.

The three words carry every time of day (`decodeTimePayload_packageTimePayload`), and the offset
is never more than half a day. But both times are rounded to minutes before they are subtracted,
so the offset is the nearest minute only when the two lie alike in their minutes
(`MinutesAlike`), and a sum of the sent time and the clock offset that is below zero is taken for
a 64-bit number (`processUpdateTimeRequest_iff`).
-/

set_option autoImplicit false

namespace OpenDataCon.CBPort

open CBBlockData CBOutstation

def MASTER_SUB_FUNC_SEND_TIME_UPDATES : Nat := 5

/-- The milliseconds of a day. -/
def msecPerDay : Nat := 24 * 60 * 60 * 1000

/-- Fields of a time of day that there is. -/
structure HMSMSEC.InDay (time : HMSMSEC) : Prop where
  hour : time.hour < 24
  min : time.min < 60
  sec : time.sec < 60
  msec : time.msec < 1000

/-- The first block of a time update. -/
def timeUpdateHeader (stationAddress cbtime : Nat) : CBBlockData :=
  .addressBlock stationAddress MASTER_SUB_FUNC_SEND_TIME_UPDATES FUNC_MASTER_STATION_REQUEST
    (packageTimePayload (toHhmmssmm cbtime)).1 false

/-- The second block of a time update. -/
def timeUpdateSecond (cbtime : Nat) : CBBlockData :=
  .dataBlock (packageTimePayload (toHhmmssmm cbtime)).2.1
    (packageTimePayload (toHhmmssmm cbtime)).2.2 true

/-- The message that the master sends. -/
def buildUpdateTimeMessage (stationAddress cbtime : Nat) : CBMessage :=
  [timeUpdateHeader stationAddress cbtime, timeUpdateSecond cbtime]

/-- The time of day in an answer. -/
def echoedTime (outputs : List OutstationOutput) : Option HMSMSEC :=
  match sentMessages outputs with
  | [[header, second]] => some (decodeTimePayload header.getB second.getA second.getB)
  | _ => none

/-- What a time update is to leave behind: an offset of at most half a day, that is the difference
in minutes wherever the two times are within half a minute of one, and an answer with the sent
time and the offset of the clock. -/
structure TimeUpdated (sent now : Nat) (clockOffset : Int)
    (result : CBOutstation × List OutstationOutput) : Prop where
  halfDay : -720 ≤ result.1.clock.soeTimeOffsetMinutes ∧
    result.1.clock.soeTimeOffsetMinutes ≤ 720
  minutes : ∀ k days : Int,
    |(sent : Int) - now - k * 60000 - days * msecPerDay| < 30000 →
      result.1.clock.soeTimeOffsetMinutes ≡ k [ZMOD 1440]
  echoed : echoedTime result.2 = some (toHhmmssmm (((sent : Int) + clockOffset) % msecPerDay).toNat)

/-- Two times lie alike in their minutes: when they are less than half a minute apart there, both
or neither are past second 30, and when they are further apart, the later one is. -/
def MinutesAlike (sent now : Nat) : Prop :=
  let sentPast := 30 < sent / 1000 % 60
  let nowPast := 30 < now / 1000 % 60
  (sent % 60000 < now % 60000 + 30000 → now % 60000 < sent % 60000 + 30000 →
    (sentPast ↔ nowPast)) ∧
  (now % 60000 + 30000 < sent % 60000 → sentPast) ∧
  (sent % 60000 + 30000 < now % 60000 → nowPast)

instance (sent now : Nat) : Decidable (MinutesAlike sent now) := by
  unfold MinutesAlike
  infer_instance

/-! ## Times on the wire -/

theorem toHhmmssmm_inDay (time : Nat) : (toHhmmssmm time).InDay where
  hour := Nat.mod_lt _ (by decide)
  min := Nat.mod_lt _ (by decide)
  sec := Nat.mod_lt _ (by decide)
  msec := Nat.mod_lt _ (by decide)

/-- The words of a time of day as sums of its fields. -/
theorem packageTimePayload_toNat {time : HMSMSEC} (inDay : time.InDay) :
    (packageTimePayload time).1.toNat = 32 + time.hour / 4 ∧
      (packageTimePayload time).2.1.toNat =
        time.hour % 4 * 1024 + time.min * 16 + time.sec / 4 ∧
      (packageTimePayload time).2.2.toNat = time.sec % 4 * 1024 + time.msec := by
  obtain ⟨hour, min, sec, msec⟩ := inDay
  have low3 : time.hour / 4 &&& 0x07 = time.hour / 4 := by
    rw [show 0x07 = 2 ^ 3 - 1 from rfl, Nat.and_two_pow_sub_one_eq_mod]
    omega
  have low2 : ∀ n, n &&& 0x03 = n % 4 := fun n => Nat.and_two_pow_sub_one_eq_mod n 2
  have low6 : time.min &&& 0x3F = time.min := by
    rw [show 0x3F = 2 ^ 6 - 1 from rfl, Nat.and_two_pow_sub_one_eq_mod]
    omega
  have low4 : time.sec / 4 &&& 0x0F = time.sec / 4 := by
    rw [show 0x0F = 2 ^ 4 - 1 from rfl, Nat.and_two_pow_sub_one_eq_mod]
    omega
  have low10 : time.msec &&& 0x3FF = time.msec := by
    rw [show 0x3FF = 2 ^ 10 - 1 from rfl, Nat.and_two_pow_sub_one_eq_mod]
    omega
  simp only [packageTimePayload, shiftLeftResult16Bits, Nat.shiftRight_eq_div_pow, Nat.shiftLeft_eq,
    BitVec.toNat_ofNat, low2, low6, low10, Nat.reducePow, low3, low4]
  refine ⟨?_, ?_, ?_⟩
  · rw [Nat.or_comm, BitStrings.or_eq_add 5 (by decide) (by omega)]
    omega
  · rw [BitStrings.or_three (p := 10) (q := 4) (by omega) (by omega) (by omega) (by omega)]
    omega
  · rw [BitStrings.or_eq_add 10 (by omega) (by omega)]
    omega

/-- The fields of a time of day from the words that carry it. -/
theorem decodeTimePayload_eq {p1B p2A p2B : BitVec 16} {time : HMSMSEC} (inDay : time.InDay)
    (first : p1B.toNat % 8 = time.hour / 4)
    (second : p2A.toNat = time.hour % 4 * 1024 + time.min * 16 + time.sec / 4)
    (third : p2B.toNat = time.sec % 4 * 1024 + time.msec) :
    decodeTimePayload p1B p2A p2B = time := by
  obtain ⟨hour, min, sec, msec⟩ := inDay
  have low2 : ∀ n, n &&& 0x03 = n % 4 := fun n => Nat.and_two_pow_sub_one_eq_mod n 2
  have low3 : ∀ n, n &&& 0x07 = n % 8 := fun n => Nat.and_two_pow_sub_one_eq_mod n 3
  have low4 : ∀ n, n &&& 0x0F = n % 16 := fun n => Nat.and_two_pow_sub_one_eq_mod n 4
  have low6 : ∀ n, n &&& 0x03F = n % 64 := fun n => Nat.and_two_pow_sub_one_eq_mod n 6
  have low10 : ∀ n, n &&& 0x03FF = n % 1024 := fun n => Nat.and_two_pow_sub_one_eq_mod n 10
  cases time with
  | mk hh mm ss msec =>
    simp only [decodeTimePayload, Nat.shiftRight_eq_div_pow, Nat.shiftLeft_eq, low2, low3, low4,
      low6, low10, Nat.reducePow, HMSMSEC.mk.injEq] at *
    refine ⟨?_, ?_, ?_, ?_⟩
    · rw [BitStrings.or_eq_add 2 (by omega) (by omega)]
      omega
    · omega
    · rw [BitStrings.or_eq_add 2 (by omega) (by omega)]
      omega
    · omega

/-- A word that fits in a section. -/
theorem and_section_of_lt {word : BitVec 16} (small : word.toNat < 2 ^ 12) :
    word &&& 0xFFF#16 = word := by
  apply BitVec.eq_of_toNat_eq
  rw [BitVec.toNat_and]
  exact (Nat.and_two_pow_sub_one_eq_mod _ 12).trans (Nat.mod_eq_of_lt small)

/-- The words of a time of day fit in sections. -/
theorem packageTimePayload_section {time : HMSMSEC} (inDay : time.InDay) :
    (packageTimePayload time).1 &&& 0xFFF#16 = (packageTimePayload time).1 ∧
      (packageTimePayload time).2.1 &&& 0xFFF#16 = (packageTimePayload time).2.1 ∧
      (packageTimePayload time).2.2 &&& 0xFFF#16 = (packageTimePayload time).2.2 := by
  obtain ⟨first, second, third⟩ := packageTimePayload_toNat inDay
  obtain ⟨hour, min, sec, msec⟩ := inDay
  refine ⟨and_section_of_lt ?_, and_section_of_lt ?_, and_section_of_lt ?_⟩
  · omega
  · omega
  · omega

/-- **Every time of day is read back from its words.** -/
theorem decodeTimePayload_packageTimePayload {time : HMSMSEC} (inDay : time.InDay) :
    decodeTimePayload (packageTimePayload time).1 (packageTimePayload time).2.1
      (packageTimePayload time).2.2 = time := by
  obtain ⟨first, second, third⟩ := packageTimePayload_toNat inDay
  have small := inDay.hour
  exact decodeTimePayload_eq inDay (by omega) second third

/-- The master's two blocks carry the time they are made from. -/
theorem decodeTimePayload_buildUpdateTimeMessage (stationAddress cbtime : Nat) :
    decodeTimePayload (timeUpdateHeader stationAddress cbtime).getB (timeUpdateSecond cbtime).getA
      (timeUpdateSecond cbtime).getB = toHhmmssmm cbtime := by
  have inDay := toHhmmssmm_inDay cbtime
  obtain ⟨first, second, third⟩ := packageTimePayload_section inDay
  rw [timeUpdateHeader, timeUpdateSecond, getB_addressBlock, getA_dataBlock, getB_dataBlock, first,
    second, third]
  exact decodeTimePayload_packageTimePayload inDay

/-! ## The offset -/

theorem roundedMinutes_bounds {time : HMSMSEC} (inDay : time.InDay) :
    0 ≤ roundedMinutes time ∧ roundedMinutes time ≤ 1440 := by
  obtain ⟨hour, min, sec, msec⟩ := inDay
  unfold roundedMinutes
  split
  · omega
  · omega

/-- A difference of two times of day comes to at most half a day. -/
theorem nearerDay_bounds {minutes : Int} (lower : -1440 ≤ minutes) (upper : minutes ≤ 1440) :
    -720 ≤ nearerDay minutes ∧ nearerDay minutes ≤ 720 := by
  unfold nearerDay
  dsimp only
  split
  · split
    · omega
    · omega
  · split
    · omega
    · omega

theorem nearerDay_modEq (minutes : Int) : nearerDay minutes ≡ minutes [ZMOD 1440] := by
  unfold nearerDay Int.ModEq
  dsimp only
  split
  · split
    · omega
    · omega
  · split
    · omega
    · omega

/-- Whether the seconds of a time are rounded up. -/
def carriedMinute (time : Nat) : Int := if 30 < time / 1000 % 60 then 1 else 0

theorem roundedMinutes_modEq (time : Nat) :
    roundedMinutes (toHhmmssmm time) ≡ (time / 60000 : Nat) + carriedMinute time [ZMOD 1440] := by
  unfold roundedMinutes toHhmmssmm carriedMinute Int.ModEq
  dsimp only
  split
  · omega
  · omega

/-- The offset is the difference of the rounded minutes. -/
theorem offset_modEq (sent now : Nat) :
    nearerDay (roundedMinutes (toHhmmssmm sent) - roundedMinutes (toHhmmssmm now)) ≡
      ((sent / 60000 : Nat) + carriedMinute sent) - ((now / 60000 : Nat) + carriedMinute now)
        [ZMOD 1440] :=
  (nearerDay_modEq _).trans ((roundedMinutes_modEq sent).sub (roundedMinutes_modEq now))

/-- The difference of the rounded minutes is the nearest minute just for times that lie alike. -/
theorem nearestMinute_iff (sent now : Nat) :
    (∀ k days : Int, |(sent : Int) - now - k * 60000 - days * msecPerDay| < 30000 →
      ((sent / 60000 : Nat) + carriedMinute sent) - ((now / 60000 : Nat) + carriedMinute now) ≡ k
        [ZMOD 1440]) ↔ MinutesAlike sent now := by
  unfold carriedMinute MinutesAlike Int.ModEq msecPerDay
  dsimp only
  constructor
  · intro nearest
    have whole := nearest ((sent / 60000 : Nat) - (now / 60000 : Nat)) 0
    have above := nearest ((sent / 60000 : Nat) - (now / 60000 : Nat) + 1) 0
    have below := nearest ((sent / 60000 : Nat) - (now / 60000 : Nat) - 1) 0
    rw [abs_lt] at whole above below
    refine ⟨fun sentNear nowNear => ?_, fun later => ?_, fun later => ?_⟩
    · have close := whole (by omega)
      split at close
      · split at close
        · omega
        · omega
      · split at close
        · omega
        · omega
    · have close := above (by omega)
      by_contra early
      rw [if_neg early] at close
      split at close
      · omega
      · omega
    · have close := below (by omega)
      by_contra early
      rw [if_neg early] at close
      split at close
      · omega
      · omega
  · intro alike k days near
    obtain ⟨together, sentLater, nowLater⟩ := alike
    rw [abs_lt] at near
    split
    · split
      · omega
      · omega
    · split
      · omega
      · omega

/-! ## The answer -/

theorem toHhmmssmm_eq_iff (first second : Nat) :
    toHhmmssmm first = toHhmmssmm second ↔ first % msecPerDay = second % msecPerDay := by
  simp only [toHhmmssmm, HMSMSEC.mk.injEq, msecPerDay]
  omega

/-- The milliseconds of a time of day. -/
theorem msec_toHhmmssmm (time : Nat) :
    ((((toHhmmssmm time).hour : Int) * 60 + (toHhmmssmm time).min) * 60 + (toHhmmssmm time).sec) *
      1000 + (toHhmmssmm time).msec = (time % msecPerDay : Nat) := by
  simp only [toHhmmssmm, msecPerDay]
  omega

/-- The words written into the two blocks are the words read back. -/
theorem echoedTime_written (header second : CBBlockData) (time : Nat) :
    decodeTimePayload (header.setB (packageTimePayload (toHhmmssmm time)).1).getB
      ((second.setA (packageTimePayload (toHhmmssmm time)).2.1).setB
        (packageTimePayload (toHhmmssmm time)).2.2).getA
      ((second.setA (packageTimePayload (toHhmmssmm time)).2.1).setB
        (packageTimePayload (toHhmmssmm time)).2.2).getB = toHhmmssmm time := by
  have inDay := toHhmmssmm_inDay time
  obtain ⟨first, second, third⟩ := packageTimePayload_section inDay
  rw [getB_setB, getB_setB, getA_setB, getA_setA, first, second, third]
  exact decodeTimePayload_packageTimePayload inDay

/-- A time that is taken for a 64-bit number is another time of day exactly below zero. -/
theorem time_wrapped_iff {time : Int} (lower : -(2 : Int) ^ 32 ≤ time)
    (upper : time < (2 : Int) ^ 32) :
    (time % 2 ^ 64).toNat % msecPerDay = (time % msecPerDay).toNat ↔ 0 ≤ time := by
  constructor
  · intro same
    by_contra negative
    have wrapped : time % 2 ^ 64 = time + 2 ^ 64 := by
      rw [← Int.add_emod_right, Int.emod_eq_of_lt (by omega) (by omega)]
    rw [wrapped] at same
    unfold msecPerDay at same
    omega
  · intro positive
    rw [Int.emod_eq_of_lt positive (by omega), Int.toNat_emod positive (by decide)]
    rfl

/-- The master's message is taken for a time update. -/
theorem processCBMessage_buildUpdateTimeMessage (conf : CBOutstationConf)
    {outstation : CBOutstation} (enabled : outstation.enabled = true)
    (stationAddress cbtime now : Nat) :
    outstation.processCBMessage conf (buildUpdateTimeMessage stationAddress cbtime) now =
      outstation.processUpdateTimeRequest (timeUpdateHeader stationAddress cbtime)
        (timeUpdateSecond cbtime) now := by
  have inDay := toHhmmssmm_inDay cbtime
  have first := (packageTimePayload_toNat inDay).1
  have small := inDay.hour
  have header : (timeUpdateHeader stationAddress cbtime).getB.toNat =
      32 + (toHhmmssmm cbtime).hour / 4 := by
    rw [timeUpdateHeader, getB_addressBlock, (packageTimePayload_section inDay).1, first]
  have code : (timeUpdateHeader stationAddress cbtime).getFunctionCode =
      FUNC_MASTER_STATION_REQUEST := getFunctionCode_addressBlock _ _ _ _ _
  have group : (timeUpdateHeader stationAddress cbtime).getGroup = 5 :=
    getGroup_addressBlock _ _ _ _ _
  have dataIndex : (timeUpdateHeader stationAddress cbtime).getB >>> 8 = 0#16 := by
    apply BitVec.eq_of_toNat_eq
    rw [BitVec.toNat_ushiftRight, header, Nat.shiftRight_eq_div_pow]
    exact Nat.div_eq_of_lt (by omega)
  have blocks : ((timeUpdateHeader stationAddress cbtime).getB >>> 4) &&& 0x00F#16 = 2#16 := by
    apply BitVec.eq_of_toNat_eq
    rw [BitVec.toNat_and, BitVec.toNat_ushiftRight, header, Nat.shiftRight_eq_div_pow]
    refine (Nat.and_two_pow_sub_one_eq_mod _ 4).trans ?_
    change (32 + (toHhmmssmm cbtime).hour / 4) / 16 % 16 = 2
    omega
  simp only [buildUpdateTimeMessage, processCBMessage, enabled, code, funcMasterStationRequest,
    group, dataIndex, blocks]
  rfl

section Update

variable (outstation : CBOutstation) {header second : CBBlockData} {sent : Nat} (now : Nat)

theorem offset_processUpdateTimeRequest
    (carried : decodeTimePayload header.getB second.getA second.getB = toHhmmssmm sent) :
    (outstation.processUpdateTimeRequest header second now).1.clock.soeTimeOffsetMinutes =
      nearerDay (roundedMinutes (toHhmmssmm sent) - roundedMinutes (toHhmmssmm now)) := by
  rw [← carried]
  rfl

/-- The answer has the time that the sum comes to as a 64-bit number. -/
theorem echoedTime_processUpdateTimeRequest
    (carried : decodeTimePayload header.getB second.getA second.getB = toHhmmssmm sent) :
    echoedTime (outstation.processUpdateTimeRequest header second now).2 =
      some (toHhmmssmm ((((sent % msecPerDay : Nat) : Int) +
        outstation.clock.systemClockOffsetMilliSeconds) % 2 ^ 64).toNat) := by
  rw [← msec_toHhmmssmm sent, ← carried]
  exact congrArg some (echoedTime_written header second _)

/-- **Time updates.** For every time of day that the two blocks carry and every clock, the update
leaves behind what it is to, exactly when the times lie alike in their minutes and the sum of the
sent time of day and the clock offset, which is a 32-bit number, is not below zero. -/
theorem processUpdateTimeRequest_iff
    (carried : decodeTimePayload header.getB second.getA second.getB = toHhmmssmm sent)
    (lower : -(2 : Int) ^ 31 ≤ outstation.clock.systemClockOffsetMilliSeconds)
    (upper : outstation.clock.systemClockOffsetMilliSeconds < (2 : Int) ^ 31) :
    TimeUpdated sent now outstation.clock.systemClockOffsetMilliSeconds
        (outstation.processUpdateTimeRequest header second now) ↔
      MinutesAlike sent now ∧
        0 ≤ ((sent % msecPerDay : Nat) : Int) + outstation.clock.systemClockOffsetMilliSeconds := by
  have offset := offset_processUpdateTimeRequest outstation now carried
  have echo := echoedTime_processUpdateTimeRequest outstation now carried
  have small : sent % msecPerDay < msecPerDay := Nat.mod_lt _ (by decide)
  have wrapped := time_wrapped_iff
    (show -(2 : Int) ^ 32 ≤ ((sent % msecPerDay : Nat) : Int) +
      outstation.clock.systemClockOffsetMilliSeconds by omega) (by unfold msecPerDay at small ⊢; omega)
  have day : ((sent : Int) + outstation.clock.systemClockOffsetMilliSeconds) % msecPerDay =
      (((sent % msecPerDay : Nat) : Int) + outstation.clock.systemClockOffsetMilliSeconds) %
        msecPerDay := by
    rw [Int.natCast_mod, Int.emod_add_emod]
  have reduced : (((sent : Int) + outstation.clock.systemClockOffsetMilliSeconds) %
      msecPerDay).toNat % msecPerDay =
        (((sent : Int) + outstation.clock.systemClockOffsetMilliSeconds) % msecPerDay).toNat := by
    apply Nat.mod_eq_of_lt
    unfold msecPerDay
    omega
  constructor
  · intro updated
    refine ⟨(nearestMinute_iff sent now).mp fun k days near => ?_, wrapped.mp ?_⟩
    · exact (offset_modEq sent now).symm.trans (offset ▸ updated.minutes k days near)
    · have same := (toHhmmssmm_eq_iff _ _).mp (Option.some.inj (echo.symm.trans updated.echoed))
      rw [same, reduced, day]
  · rintro ⟨alike, positive⟩
    have sentBounds := roundedMinutes_bounds (toHhmmssmm_inDay sent)
    have nowBounds := roundedMinutes_bounds (toHhmmssmm_inDay now)
    refine ⟨?_, fun k days near => ?_, ?_⟩
    · rw [offset]
      exact nearerDay_bounds (by omega) (by omega)
    · rw [offset]
      exact (offset_modEq sent now).trans ((nearestMinute_iff sent now).mpr alike k days near)
    · rw [echo, (toHhmmssmm_eq_iff _ _).mpr]
      rw [wrapped.mpr positive, reduced, day]

end Update

theorem processUpdateTimeRequest_minuteApart :
    TimeUpdated 36000000 35940000 5
      (({ clock := { systemClockOffsetMilliSeconds := 5 } } :
          CBOutstation).processUpdateTimeRequest (timeUpdateHeader 1 36000000)
        (timeUpdateSecond 36000000) 35940000) :=
  (processUpdateTimeRequest_iff { clock := { systemClockOffsetMilliSeconds := 5 } } 35940000
    (decodeTimePayload_buildUpdateTimeMessage 1 36000000) (by decide) (by decide)).mpr (by decide)

/-- Two times on both sides of second 30 give an offset of a minute, and one millisecond before
midnight is answered as 14:25:51.615. -/
theorem processUpdateTimeRequest_apart :
    ¬TimeUpdated 36031000 36029000 0
        (({} : CBOutstation).processUpdateTimeRequest (timeUpdateHeader 1 36031000)
          (timeUpdateSecond 36031000) 36029000) ∧
      ¬TimeUpdated 0 0 (-1)
        (({ clock := { systemClockOffsetMilliSeconds := -1 } } :
            CBOutstation).processUpdateTimeRequest (timeUpdateHeader 1 0) (timeUpdateSecond 0)
          0) := by
  refine ⟨fun updated => ?_, fun updated => ?_⟩
  · have same := updated.minutes 0 0 (by decide)
    rw [offset_processUpdateTimeRequest _ _
      (decodeTimePayload_buildUpdateTimeMessage 1 36031000)] at same
    revert same
    decide
  · have same := updated.echoed
    rw [echoedTime_processUpdateTimeRequest _ _
      (decodeTimePayload_buildUpdateTimeMessage 1 0)] at same
    revert same
    decide

end OpenDataCon.CBPort
