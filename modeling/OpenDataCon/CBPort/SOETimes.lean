import OpenDataCon.CBPort.SOEValues

/-!
# The day of an event

The record of an event has its time of day, and the master adds a day. It takes its own day, or
the day before when its own hour is the later one. Of an event of the last 24 hours this is the
day only when the event is of the current hour (`soeChangedTime_eq_iff`): an event of an earlier
hour of the day is put a day back, and one of the day before is put a day forward
(`soeChangedTime_apart`).
-/

set_option autoImplicit false

namespace OpenDataCon.CBPort

/-- The four fields of a time of day add up to it. -/
theorem total_convertCBTimeToHMSMSEC (time : Nat) :
    let fields := convertCBTimeToHMSMSEC time
    ((fields.hour * 60 + fields.min) * 60 + fields.sec) * 1000 + fields.msec =
      time % CBTimeOneDay := by
  rw [convertCBTimeToHMSMSEC_eq, CBTimeOneDay]
  dsimp only
  omega

/-- Without offsets the corrected time is the time. -/
theorem changedCorrectedTime_default {time : Nat} (inWord : time < 2 ^ 64) :
    SOEClock.changedCorrectedTime {} time = time := by
  simp only [SOEClock.changedCorrectedTime]
  omega

/-- The time that the master makes of a time of day: on its own day, unless its own hour is the
later one. -/
theorem soeChangedTime_eq (time now : Nat) :
    soeChangedTime now (convertCBTimeToHMSMSEC time) =
      if time / CBTimeOneHour % 24 < now / CBTimeOneHour % 24 then
        ((now + (2 ^ 64 - CBTimeOneDay)) % 2 ^ 64 / CBTimeOneDay * CBTimeOneDay +
          time % CBTimeOneDay) % 2 ^ 64
      else (now / CBTimeOneDay * CBTimeOneDay + time % CBTimeOneDay) % 2 ^ 64 := by
  have hour : (convertCBTimeToHMSMSEC time).hour = time / CBTimeOneHour % 24 := by
    rw [convertCBTimeToHMSMSEC_eq]
    rfl
  unfold soeChangedTime
  dsimp only
  rw [total_convertCBTimeToHMSMSEC, hour, getHour, getDayStartTime]
  split <;> rfl

/-- The hour of a time is that of its time of day. -/
theorem hour_eq (time : Nat) :
    time / CBTimeOneHour % 24 = time % CBTimeOneDay / CBTimeOneHour := by
  exact (Nat.mod_mul_right_div_self time (1000 * 60 * 60) 24).symm

section Recent

variable {time now : Nat}

/-- An event of the last 24 hours is of the day of the master, or later in the day before. -/
theorem day_of_recent (past : time ≤ now) (recent : now < time + CBTimeOneDay) :
    time / CBTimeOneDay = now / CBTimeOneDay ∧ time % CBTimeOneDay ≤ now % CBTimeOneDay ∨
      time / CBTimeOneDay + 1 = now / CBTimeOneDay ∧
        now % CBTimeOneDay < time % CBTimeOneDay := by
  simp only [CBTimeOneDay] at recent ⊢
  omega

/-- Two times are of one hour when they are of one day and of one hour of the day. -/
theorem sameHour_iff :
    time / CBTimeOneHour = now / CBTimeOneHour ↔
      time / CBTimeOneDay = now / CBTimeOneDay ∧
        time % CBTimeOneDay / CBTimeOneHour = now % CBTimeOneDay / CBTimeOneHour := by
  rw [← hour_eq, ← hour_eq]
  simp only [CBTimeOneDay, CBTimeOneHour]
  omega

/-- A day back. Before the second day the subtraction wraps round, and the day it wraps to has no
such time. -/
theorem dayBack_ne (inWord : now < 2 ^ 64) (sameDay : time / CBTimeOneDay = now / CBTimeOneDay) :
    ((now + (2 ^ 64 - CBTimeOneDay)) % 2 ^ 64 / CBTimeOneDay * CBTimeOneDay +
      time % CBTimeOneDay) % 2 ^ 64 ≠ time := by
  have parts := Nat.div_add_mod time CBTimeOneDay
  have small := Nat.mod_lt time (by decide : 0 < CBTimeOneDay)
  rw [sameDay] at parts
  generalize time % CBTimeOneDay = timeOfDay at parts small ⊢
  simp only [CBTimeOneDay] at parts small ⊢
  by_cases firstDay : now < 86400000
  · have wrapped : (now + (2 ^ 64 - 86400000)) % 2 ^ 64 = now + (2 ^ 64 - 86400000) := by
      clear parts
      omega
    have zero : now / 86400000 = 0 := Nat.div_eq_of_lt firstDay
    have last : (now + (2 ^ 64 - 86400000)) / 86400000 = 213503982333 ∨
        (now + (2 ^ 64 - 86400000)) / 86400000 = 213503982334 := by
      clear parts
      omega
    rw [zero] at parts
    rw [wrapped]
    rcases last with early | late
    · rw [early]
      omega
    · rw [late]
      omega
  · have back : (now + (2 ^ 64 - 86400000)) % 2 ^ 64 = now - 86400000 := by
      clear parts
      omega
    have before : (now - 86400000) / 86400000 + 1 = now / 86400000 := by
      clear parts
      omega
    rw [back]
    rw [← before] at parts
    generalize (now - 86400000) / 86400000 = day at parts ⊢
    omega

/-- Less than a word more is another number of the word. -/
theorem add_mod_word_ne {gap : Nat} (positive : 0 < gap) (small : gap < 2 ^ 64) :
    (time + gap) % 2 ^ 64 ≠ time := by
  omega

/-- The day of the master. A later day is less than a whole word of milliseconds later. -/
theorem sameDay_iff (inWord : now < 2 ^ 64) (past : time ≤ now) :
    (now / CBTimeOneDay * CBTimeOneDay + time % CBTimeOneDay) % 2 ^ 64 = time ↔
      time / CBTimeOneDay = now / CBTimeOneDay := by
  obtain ⟨later, today⟩ : ∃ later, now / CBTimeOneDay = time / CBTimeOneDay + later :=
    Nat.exists_eq_add_of_le (Nat.div_le_div_right past)
  have forward : now / CBTimeOneDay * CBTimeOneDay + time % CBTimeOneDay =
      time + later * CBTimeOneDay := by
    have parts := Nat.div_add_mod' time CBTimeOneDay
    rw [today, Nat.add_mul]
    omega
  have within : later * CBTimeOneDay ≤ now :=
    calc later * CBTimeOneDay ≤ now / CBTimeOneDay * CBTimeOneDay :=
          Nat.mul_le_mul_right _ (today ▸ Nat.le_add_left _ _)
      _ ≤ now := Nat.div_mul_le_self now CBTimeOneDay
  rw [forward, today]
  constructor
  · intro same
    by_contra apart
    have positive : 0 < later := Nat.pos_of_ne_zero fun none => apart (by rw [none, Nat.add_zero])
    exact add_mod_word_ne (Nat.mul_pos positive (by decide)) (Nat.lt_of_le_of_lt within inWord) same
  · intro same
    have none : later = 0 := Nat.left_eq_add.mp same
    rw [none, Nat.zero_mul, Nat.add_zero, Nat.mod_eq_of_lt (Nat.lt_of_le_of_lt past inWord)]

end Recent

/-- **The master finds the time of an event of the last 24 hours when the event is of the current
hour, and only then.** -/
theorem soeChangedTime_eq_iff (point : CBBinaryPoint) (last : Bool) {now : Nat}
    (inWord : now < 2 ^ 64) (past : point.changedTime ≤ now)
    (recent : now < point.changedTime + CBTimeOneDay) :
    soeChangedTime now (pointReport {} last point).time = point.changedTime ↔
      point.changedTime / CBTimeOneHour = now / CBTimeOneHour := by
  rw [pointReport, changedCorrectedTime_default (Nat.lt_of_le_of_lt past inWord),
    soeChangedTime_eq, hour_eq, hour_eq, sameHour_iff]
  by_cases earlier : point.changedTime % CBTimeOneDay / CBTimeOneHour <
      now % CBTimeOneDay / CBTimeOneHour
  · rw [if_pos earlier]
    rcases day_of_recent past recent with ⟨sameDay, -⟩ | ⟨-, later⟩
    · have apart := dayBack_ne inWord sameDay
      exact ⟨fun same => absurd same apart, fun same => absurd same.2 (Nat.ne_of_lt earlier)⟩
    · have notEarlier : now % CBTimeOneDay / CBTimeOneHour ≤
          point.changedTime % CBTimeOneDay / CBTimeOneHour :=
        Nat.div_le_div_right (Nat.le_of_lt later)
      exact absurd earlier (Nat.not_lt.mpr notEarlier)
  · rw [if_neg earlier, sameDay_iff inWord past]
    refine (and_iff_left_of_imp fun sameDay => ?_).symm
    rcases day_of_recent past recent with ⟨-, before⟩ | ⟨dayBefore, -⟩
    · exact Nat.le_antisymm (Nat.div_le_div_right before) (Nat.not_lt.mp earlier)
    · omega

/-- An event of a second ago, at ten o'clock. -/
theorem soeChangedTime_eq_secondAgo :
    let point : CBBinaryPoint := { changedTime := 20000 * 86400000 + 36000500 }
    soeChangedTime (20000 * 86400000 + 36001500) (pointReport {} true point).time =
      point.changedTime :=
  (soeChangedTime_eq_iff { changedTime := 20000 * 86400000 + 36000500 } true (by decide)
    (by decide) (by decide)).mpr (by decide)

/-- A time that the master gives to an event of the last day is another one. -/
abbrev ReadApart (changedTime now : Nat) : Prop :=
  changedTime ≤ now ∧ now < changedTime + CBTimeOneDay ∧
    soeChangedTime now (pointReport {} true { changedTime := changedTime }).time ≠ changedTime

/-- Two seconds ago it was another hour: the event is put a day back within a day, and a day forward
over midnight. -/
theorem soeChangedTime_apart :
    ReadApart (20000 * 86400000 + 35999000) (20000 * 86400000 + 36001000) ∧
      ReadApart (20000 * 86400000 - 1000) (20000 * 86400000 + 1000) := by
  decide

end OpenDataCon.CBPort
