import Mathlib.Algebra.Order.Group.Unbundled.Abs
import OpenDataCon.MD3Port.OutstationRequests

/-!
# Setting the time

A time set of function 43 has two blocks, one of function 44 has three. The outstation takes the
difference of the sent time to its clock for the offset of its event times, unless the message has
a wrong number of blocks or the difference is over a day.

The offset is stored before the difference is tested, so a refused time stays in it unless it was
there before, and the refusal is also sent to station 0. There the number of blocks is not looked
at: a message that is too short is read past its end. `processRequest_timeSet_iff` has the messages
that are treated right.
-/

set_option autoImplicit false

namespace OpenDataCon.MD3Port

open MD3BlockData MD3Outstation

/-- The headers of the two time sets. -/
def MD3BlockFn43MtoS (stationAddress milliseconds : Nat) : MD3BlockData :=
  formattedBytes true stationAddress SYSTEM_SET_DATETIME_CONTROL
    (BitVec.ofNat 8 (milliseconds / 256)) (BitVec.ofNat 8 milliseconds)

def MD3BlockFn44MtoS (stationAddress milliseconds : Nat) : MD3BlockData :=
  formattedBytes true stationAddress SYSTEM_SET_DATETIME_CONTROL_NEW
    (BitVec.ofNat 8 (milliseconds / 256)) (BitVec.ofNat 8 milliseconds)

/-- The number of blocks of a time set. -/
def timeSetSize (header : MD3BlockData) : Nat :=
  if header.getFunctionCode = SYSTEM_SET_DATETIME_CONTROL then 2 else 3

/-- The sent time less the clock, in milliseconds. -/
def clockDifference (header : MD3BlockData) (completeMD3Message : MD3Message)
    (currenttime : Nat) : Int :=
  ((completeMD3Message.getD 1 {}).data.toNat * 1000 + header.getMilliseconds : Nat) - currenttime

/-- A difference in minutes, halves away from zero. -/
def minutesOf (difference : Int) : Int :=
  if difference < 0 then -(roundedMinutes difference.natAbs : Int)
  else roundedMinutes difference.natAbs

/-- A number of minutes is a nearest one to a number of milliseconds. -/
def NearestMinute (minutes msec : Int) : Prop := 2 * |minutes * 60000 - msec| ≤ 60000

/-- A message of the right number of blocks with a time that is not over a day from the clock. -/
def TimeAccepted (header : MD3BlockData) (completeMD3Message : MD3Message)
    (currenttime : Nat) : Prop :=
  completeMD3Message.length = timeSetSize header ∧
    |clockDifference header completeMD3Message currenttime| ≤ 24 * 60 * 60 * 1000

instance (header : MD3BlockData) (completeMD3Message : MD3Message) (currenttime : Nat) :
    Decidable (TimeAccepted header completeMD3Message currenttime) := by
  unfold TimeAccepted
  infer_instance

namespace MD3Outstation

/-- All the flags of the station. -/
def systemFlags (outstation : MD3Outstation) : Bool × Bool × SystemFlags :=
  (outstation.SPU, outstation.STI, outstation.flags)

/-- What a time set is to leave behind: nothing when it is refused, the nearest minute when it is
accepted, and in no case an answer to station 0. -/
structure TimeSetLeaves (outstation : MD3Outstation) (header : MD3BlockData)
    (completeMD3Message : MD3Message) (currenttime : Nat)
    (after : MD3Outstation × MD3Reaction) : Prop where
  refused : ¬TimeAccepted header completeMD3Message currenttime →
    after.1.soeTimeOffsetMinutes = outstation.soeTimeOffsetMinutes ∧
      after.1.systemFlags = outstation.systemFlags
  accepted : TimeAccepted header completeMD3Message currenttime →
    NearestMinute after.1.soeTimeOffsetMinutes
      (clockDifference header completeMD3Message currenttime)
  unanswered : header.getStationAddress = 0 → after.2 = .nothing

/-- The time sets that are treated right: those to accept, those of a wrong number of blocks for
one station, and those that change nothing because the offset is the difference already. -/
def TimeSetRight (outstation : MD3Outstation) (header : MD3BlockData)
    (completeMD3Message : MD3Message) (currenttime : Nat) : Prop :=
  TimeAccepted header completeMD3Message currenttime ∨
    (completeMD3Message.length ≠ timeSetSize header ∧ header.getStationAddress ≠ 0) ∨
    (timeSetSize header ≤ completeMD3Message.length ∧
      outstation.soeTimeOffsetMinutes =
        minutesOf (clockDifference header completeMD3Message currenttime) ∧
      if 24 * 60 < (minutesOf (clockDifference header completeMD3Message currenttime)).natAbs then
        header.getStationAddress ≠ 0
      else outstation.STI = false)

end MD3Outstation

/-! ## Minutes -/

theorem nearestMinute_minutesOf (difference : Int) :
    NearestMinute (minutesOf difference) difference := by
  unfold NearestMinute minutesOf roundedMinutes
  have bounds : ∀ n : Int, -30000 ≤ n → n ≤ 30000 → 2 * |n| ≤ 60000 := by
    intro n lower upper
    have := abs_le.mpr ⟨lower, upper⟩
    omega
  split
  · exact bounds _ (by omega) (by omega)
  · exact bounds _ (by omega) (by omega)

/-- A difference of at most a day is at most the minutes of a day. -/
theorem minutesOf_day {difference : Int} (inDay : |difference| ≤ 24 * 60 * 60 * 1000) :
    (minutesOf difference).natAbs ≤ 24 * 60 := by
  rw [abs_le] at inDay
  unfold minutesOf roundedMinutes
  split
  · omega
  · omega

namespace MD3Outstation

variable (outstation : MD3Outstation) (header : MD3BlockData) (completeMD3Message : MD3Message)
  (currenttime : Nat)

/-! ## The handler -/

/-- The offset is stored in any case. -/
theorem setTime_eq :
    outstation.setTime header currenttime (completeMD3Message.getD 1 {}) =
      let minutes := minutesOf (clockDifference header completeMD3Message currenttime)
      let stored := { outstation with soeTimeOffsetMinutes := minutes }
      if 24 * 60 < minutes.natAbs then (stored, stored.sendControlOrScanRejected header)
      else (stored.timePacketReceived,
        if header.getStationAddress = 0 then .nothing else .sent (sendControlOK header)) := by
  have minutes : minutesOf (clockDifference header completeMD3Message currenttime) =
      if (completeMD3Message.getD 1 {}).data.toNat * 1000 + header.getMilliseconds < currenttime
      then -(roundedMinutes (currenttime - ((completeMD3Message.getD 1 {}).data.toNat * 1000 +
        header.getMilliseconds)) : Int)
      else roundedMinutes ((completeMD3Message.getD 1 {}).data.toNat * 1000 +
        header.getMilliseconds - currenttime) := by
    unfold minutesOf clockDifference
    by_cases early :
        (completeMD3Message.getD 1 {}).data.toNat * 1000 + header.getMilliseconds < currenttime
    · rw [if_pos (by omega), if_pos early]
      congr 3
      omega
    · rw [if_neg (by omega), if_neg early]
      congr 2
      omega
  rw [minutes]
  rfl

/-- A time set by its number of blocks and its station. -/
theorem processRequest_timeSet
    (timeSet : header.getFunctionCode = SYSTEM_SET_DATETIME_CONTROL ∨
      header.getFunctionCode = SYSTEM_SET_DATETIME_CONTROL_NEW) :
    outstation.processRequest header completeMD3Message currenttime =
      if completeMD3Message.length ≠ timeSetSize header ∧ header.getStationAddress ≠ 0 then
        some (outstation, outstation.sendControlOrScanRejected header)
      else if timeSetSize header ≤ completeMD3Message.length then
        some (outstation.setTime header currenttime (completeMD3Message.getD 1 {}))
      else none := by
  have second : 1 < completeMD3Message.length →
      completeMD3Message[1]? = some (completeMD3Message.getD 1 {}) := by
    intro two
    rw [List.getElem?_eq_getElem two, List.getD_eq_getElem _ _ two]
  rcases timeSet with code | code
  · have size : timeSetSize header = 2 := if_pos code
    rw [processRequest, code, size]
    change outstation.doSetDateTime header completeMD3Message currenttime = _
    rw [doSetDateTime]
    refine if_congr Iff.rfl rfl ?_
    by_cases two : 2 ≤ completeMD3Message.length
    · rw [if_pos two, second two]
      rfl
    · rw [if_neg two, List.getElem?_eq_none (by omega)]
      rfl
  · have size : timeSetSize header = 3 := by
      rw [timeSetSize, code]
      rfl
    rw [processRequest, code, size]
    change outstation.doSetDateTimeNew header completeMD3Message currenttime = _
    rw [doSetDateTimeNew]
    refine if_congr Iff.rfl rfl ?_
    by_cases three : 3 ≤ completeMD3Message.length
    · rw [if_pos three, second (by omega), List.getElem?_eq_getElem (show 2 < _ by omega)]
      rfl
    · rw [if_neg three, List.getElem?_eq_none (show _ ≤ 2 by omega)]
      cases completeMD3Message[1]? with
      | none => rfl
      | some block => rfl

theorem systemFlags_timePacketReceived :
    outstation.timePacketReceived.systemFlags = outstation.systemFlags ↔
      outstation.STI = false := by
  rw [timePacketReceived]
  by_cases pending : outstation.STI = true
  · rw [if_pos pending]
    refine iff_of_false ?_ (by simp [pending])
    intro same
    have kept : false = outstation.STI := congrArg (fun flags => flags.2.1) same
    rw [pending] at kept
    cases kept
  · rw [if_neg pending]
    exact iff_of_true rfl (Bool.eq_false_iff.mpr pending)

theorem soeTimeOffsetMinutes_timePacketReceived :
    outstation.timePacketReceived.soeTimeOffsetMinutes = outstation.soeTimeOffsetMinutes := by
  unfold timePacketReceived
  split
  · rfl
  · rfl

/-! ## What is left behind -/

/-- A time that is to be accepted is accepted. -/
theorem setTime_accepted (accepted : TimeAccepted header completeMD3Message currenttime) :
    TimeSetLeaves outstation header completeMD3Message currenttime
      (outstation.setTime header currenttime (completeMD3Message.getD 1 {})) := by
  have inDay := minutesOf_day accepted.2
  rw [setTime_eq]
  dsimp only
  rw [if_neg (by omega)]
  refine ⟨?_, ?_, ?_⟩
  · intro refused
    exact absurd accepted refused
  · intro _
    rw [soeTimeOffsetMinutes_timePacketReceived]
    exact nearestMinute_minutesOf _
  · intro every
    exact if_pos every

/-- A time that is to be refused is left out only when it changes nothing. -/
theorem setTime_refused_iff (refused : ¬TimeAccepted header completeMD3Message currenttime) :
    TimeSetLeaves outstation header completeMD3Message currenttime
        (outstation.setTime header currenttime (completeMD3Message.getD 1 {})) ↔
      outstation.soeTimeOffsetMinutes =
          minutesOf (clockDifference header completeMD3Message currenttime) ∧
        if 24 * 60 < (minutesOf (clockDifference header completeMD3Message currenttime)).natAbs
        then header.getStationAddress ≠ 0
        else outstation.STI = false := by
  rw [setTime_eq]
  dsimp only
  by_cases beyond :
      24 * 60 < (minutesOf (clockDifference header completeMD3Message currenttime)).natAbs
  · rw [if_pos beyond, if_pos beyond]
    constructor
    · intro left
      refine ⟨(left.refused refused).1.symm, ?_⟩
      intro every
      cases left.unanswered every
    · rintro ⟨same, one⟩
      refine ⟨?_, ?_, ?_⟩
      · intro _
        exact ⟨same.symm, rfl⟩
      · intro accepted
        exact absurd accepted refused
      · intro every
        exact absurd every one
  · rw [if_neg beyond, if_neg beyond]
    constructor
    · intro left
      obtain ⟨offset, flags⟩ := left.refused refused
      rw [soeTimeOffsetMinutes_timePacketReceived] at offset
      have clear := (systemFlags_timePacketReceived _).mp flags
      exact ⟨offset.symm, clear⟩
    · rintro ⟨same, clear⟩
      refine ⟨?_, ?_, ?_⟩
      · intro _
        refine ⟨?_, (systemFlags_timePacketReceived _).mpr clear⟩
        rw [soeTimeOffsetMinutes_timePacketReceived]
        exact same.symm
      · intro accepted
        exact absurd accepted refused
      · intro every
        exact if_pos every

/-- **Time sets.** A message of function 43 or 44, of any length and for any station, is read and
leaves behind what it is to exactly when it is to be accepted, has a wrong number of blocks for one
station, or changes nothing. -/
theorem processRequest_timeSet_iff
    (timeSet : header.getFunctionCode = SYSTEM_SET_DATETIME_CONTROL ∨
      header.getFunctionCode = SYSTEM_SET_DATETIME_CONTROL_NEW) :
    (∃ after, outstation.processRequest header completeMD3Message currenttime = some after ∧
        TimeSetLeaves outstation header completeMD3Message currenttime after) ↔
      TimeSetRight outstation header completeMD3Message currenttime := by
  rw [processRequest_timeSet _ _ _ _ timeSet]
  by_cases wrong :
      completeMD3Message.length ≠ timeSetSize header ∧ header.getStationAddress ≠ 0
  · rw [if_pos wrong]
    refine iff_of_true ⟨_, rfl, ?_⟩ (.inr (.inl wrong))
    refine ⟨?_, ?_, ?_⟩
    · intro _
      exact ⟨rfl, rfl⟩
    · intro accepted
      exact absurd accepted.1 wrong.1
    · intro every
      exact absurd every wrong.2
  rw [if_neg wrong]
  by_cases enough : timeSetSize header ≤ completeMD3Message.length
  · rw [if_pos enough]
    have read : ∀ left : MD3Outstation × MD3Reaction → Prop,
        (∃ after, some (outstation.setTime header currenttime (completeMD3Message.getD 1 {})) =
          some after ∧ left after) ↔
          left (outstation.setTime header currenttime (completeMD3Message.getD 1 {})) := by
      intro left
      simp only [Option.some.injEq, exists_eq_left']
    rw [read]
    by_cases accepted : TimeAccepted header completeMD3Message currenttime
    · exact iff_of_true (setTime_accepted outstation header completeMD3Message currenttime accepted)
        (.inl accepted)
    · rw [setTime_refused_iff _ _ _ _ accepted, TimeSetRight]
      constructor
      · intro nothing
        exact .inr (.inr ⟨enough, nothing⟩)
      · rintro (right | right | right)
        · exact absurd right accepted
        · exact absurd right wrong
        · exact right.2
  · rw [if_neg enough]
    refine iff_of_false ?_ ?_
    · rintro ⟨_, unread, _⟩
      cases unread
    · rintro (accepted | other | ⟨long, _⟩)
      · exact enough (Nat.le_of_eq accepted.1.symm)
      · exact wrong other
      · exact enough long

theorem processRequest_timeSet_hour :
    ∃ after, emptyOutstation.processRequest (MD3BlockFn43MtoS 0x7C 0)
          [MD3BlockFn43MtoS 0x7C 0, { data := 7200#32 }] 3600000 = some after ∧
        TimeSetLeaves emptyOutstation (MD3BlockFn43MtoS 0x7C 0)
          [MD3BlockFn43MtoS 0x7C 0, { data := 7200#32 }] 3600000 after :=
  (processRequest_timeSet_iff emptyOutstation (MD3BlockFn43MtoS 0x7C 0) _ _ (.inl (by decide))).mpr
    (.inl ⟨by decide, by decide⟩)

/-- A time that is two days late is refused and stays in the offset. Sent to every station, its
refusal is sent back, and without its second block the message is read past its end. -/
theorem processRequest_timeSet_twoDays :
    (¬∃ after, emptyOutstation.processRequest (MD3BlockFn43MtoS 0x7C 0)
          [MD3BlockFn43MtoS 0x7C 0, { data := 0#32 }] 172800000 = some after ∧
        TimeSetLeaves emptyOutstation (MD3BlockFn43MtoS 0x7C 0)
          [MD3BlockFn43MtoS 0x7C 0, { data := 0#32 }] 172800000 after) ∧
      (¬∃ after, emptyOutstation.processRequest (MD3BlockFn44MtoS 0 0)
          [MD3BlockFn44MtoS 0 0, { data := 0#32 }, { data := 0#32 }] 172800000 = some after ∧
        TimeSetLeaves emptyOutstation (MD3BlockFn44MtoS 0 0)
          [MD3BlockFn44MtoS 0 0, { data := 0#32 }, { data := 0#32 }] 172800000 after) ∧
      ¬∃ after, emptyOutstation.processRequest (MD3BlockFn43MtoS 0 0) [MD3BlockFn43MtoS 0 0] 0 =
          some after ∧
        TimeSetLeaves emptyOutstation (MD3BlockFn43MtoS 0 0) [MD3BlockFn43MtoS 0 0] 0 after := by
  refine ⟨?_, ?_, ?_⟩
  · rintro ⟨after, answered, left⟩
    obtain rfl := Option.some.inj answered
    have kept := (left.refused (by decide)).1
    revert kept
    decide
  · rintro ⟨after, answered, left⟩
    obtain rfl := Option.some.inj answered
    cases left.unanswered (by decide)
  · rintro ⟨after, answered, -⟩
    cases answered

end MD3Outstation

end OpenDataCon.MD3Port
