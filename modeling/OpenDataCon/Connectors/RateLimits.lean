import OpenDataCon.Connectors.Transforms
import OpenDataCon.Foundations.RateBuckets

/-!
# What a rate limit lets pass

The record of a rate limit counts the events that passed and takes the limit of a period off the
count when an event comes after the update time. The count is unsigned, so where it is below the
limit it wraps to a huge number, nothing passes any more, and the branch that would start over
from zero is never taken. Without it the update time also stays behind after a pause, and every
event that follows takes another period off.

Where the count is never below the limit at an update, a run of the record is a run of a
`Bucket` (`accounts_event`), so the count stays within a burst and an event is only refused after
one; where the count covers every period that is over, the number of events that pass in some
periods is bounded too (`rateLimit_runs`).
-/

set_option autoImplicit false

namespace OpenDataCon.Connectors

open Runs Traces RateBuckets

variable {D : Type} {O : EventType → Type}

/-! ## The record of a rate limit -/

/-- The parameters that are there as unsigned integers. -/
structure RateLimitParams where
  outputRateLimit : Option (BitVec 32)
  updatePeriodms : Option (BitVec 32)
  updatePeriodMultiplier : Option (BitVec 32)

/-- The record that the first transform of a name makes. -/
def RateStats.new (params : RateLimitParams) (now : BitVec 64) : RateStats where
  outputRateLimit := params.outputRateLimit.getD 10
  updatePeriodms := params.updatePeriodms.getD 100
  updatePeriodMultiplier := (params.updatePeriodMultiplier.getD 10).setWidth 16
  outputRate := 0
  inputRate := 0
  droppedUpdates := 0
  nextUpdatems := now + (params.updatePeriodms.getD 100).setWidth 64

theorem toNat_widen (word : BitVec 32) : (word.setWidth 64).toNat = word.toNat :=
  BitVec.toNat_setWidth_of_le (by decide)

namespace RateStats

/-- The limits of a record that was made at the start. -/
def bucket (stats : RateStats) (start : Nat) : Bucket where
  limit := stats.outputRateLimit.toNat
  period := stats.updatePeriodms.toNat
  burst := stats.outputRateLimit.toNat * stats.updatePeriodMultiplier.toNat
  start := start

/-- The times are no more than 64 bits, and the count is at least the limit at an update. -/
def Covers (stats : RateStats) (time : BitVec 64) : Prop :=
  time.toNat + stats.updatePeriodms.toNat < 2 ^ 64 ∧
    (stats.nextUpdatems < time → stats.outputRateLimit.toNat ≤ stats.outputRate.toNat)

/-- The count is at least the limit times the periods that are over, of which the update takes
off one. -/
def CoversAll (stats : RateStats) (time : BitVec 64) : Prop :=
  time.toNat + stats.updatePeriodms.toNat < 2 ^ 64 ∧
    (stats.nextUpdatems < time →
      stats.outputRateLimit.toNat * ((time.toNat - stats.nextUpdatems.toNat - 1) /
        stats.updatePeriodms.toNat + 1) ≤ stats.outputRate.toNat)

theorem CoversAll.covers {stats : RateStats} {time : BitVec 64} (all : stats.CoversAll time) :
    stats.Covers time :=
  ⟨all.1, fun due => (Nat.le_mul_of_pos_right _ (Nat.succ_pos _)).trans (all.2 due)⟩

/-- The count of an unsigned record is never below zero. -/
theorem update_eq (stats : RateStats) (time : BitVec 64) :
    stats.update time =
      if stats.nextUpdatems < time then
        { stats with
          nextUpdatems := stats.nextUpdatems + stats.updatePeriodms.setWidth 64
          outputRate := stats.outputRate - stats.outputRateLimit.setWidth 64
          inputRate := 0 }
      else stats := by
  rw [update]
  by_cases due : stats.nextUpdatems < time
  · rw [if_pos due, if_pos due]
    simp only [BitVec.not_lt_zero, if_false]
  · rw [if_neg due, if_neg due]

/-- One event as an arrival. -/
def arrival (stats : RateStats) (time : BitVec 64) : Arrival :=
  ⟨time.toNat, decide (stats.nextUpdatems < time), (stats.event time).2⟩

/-- The record agrees with the arrivals so far. -/
structure Accounts (bucket : Bucket) (stats : RateStats) (trace : List Arrival) : Prop where
  settings : stats.bucket bucket.start = bucket
  fits : bucket.burst < 2 ^ 32
  rate : stats.outputRate.toNat + bucket.limit * restored trace = passed trace
  next : stats.nextUpdatems.toNat = bucket.start + bucket.period * (restored trace + 1)

section Event

variable {bucket : Bucket} {stats : RateStats} {trace : List Arrival} {time : BitVec 64}

/-- What the update leaves. -/
theorem Accounts.update (holds : Accounts bucket stats trace) (covers : stats.Covers time) :
    (stats.update time).bucket bucket.start = bucket ∧
      (stats.update time).outputRate.toNat +
        bucket.limit * restored (trace ++ [stats.arrival time]) = passed trace ∧
      (stats.update time).nextUpdatems.toNat =
        bucket.start + bucket.period * (restored (trace ++ [stats.arrival time]) + 1) := by
  have settings := holds.settings
  have rate := holds.rate
  have next := holds.next
  have limitIs : stats.outputRateLimit.toNat = bucket.limit := congrArg Bucket.limit settings
  have periodIs : stats.updatePeriodms.toNat = bucket.period := congrArg Bucket.period settings
  rw [update_eq, restored_append, restored_singleton, arrival]
  by_cases due : stats.nextUpdatems < time
  · rw [if_pos due, decide_eq_true due, Bool.toNat_true]
    refine ⟨settings, ?_, ?_⟩
    · have enough := covers.2 due
      have widened := toNat_widen stats.outputRateLimit
      rw [BitVec.toNat_sub_of_le (by rw [BitVec.le_def]; omega), widened, Nat.mul_add]
      omega
    · have early := BitVec.lt_def.mp due
      have room := covers.1
      rw [BitVec.toNat_add, toNat_widen, Nat.mod_eq_of_lt (by omega), next, periodIs]
      ring
  · rw [if_neg due, decide_eq_false due, Bool.toNat_false]
    exact ⟨settings, rate, next⟩

/-- An event passes where the updated count is below a burst. -/
theorem event_passes {start : Nat} (settings : (stats.update time).bucket start = bucket)
    (fits : bucket.burst < 2 ^ 32) :
    (stats.event time).2 = decide ((stats.update time).outputRate.toNat < bucket.burst) := by
  rw [event]
  generalize stats.update time = updated at settings ⊢
  have burstIs :
      updated.outputRateLimit.toNat * updated.updatePeriodMultiplier.toNat = bucket.burst :=
    congrArg Bucket.burst settings
  have product : ((updated.outputRateLimit * updated.updatePeriodMultiplier.setWidth 32).setWidth
      64).toNat = bucket.burst := by
    rw [toNat_widen, BitVec.toNat_mul, BitVec.toNat_setWidth_of_le (by decide), burstIs,
      Nat.mod_eq_of_lt fits]
  simp only [BitVec.lt_def, product]
  split <;> simp_all

/-- What an event changes after the update: it counts itself if it passes. -/
theorem event_record (stats : RateStats) (time : BitVec 64) (start : Nat) :
    (stats.event time).1.bucket start = (stats.update time).bucket start ∧
      (stats.event time).1.nextUpdatems = (stats.update time).nextUpdatems ∧
      (stats.event time).1.outputRate =
        (stats.update time).outputRate + if (stats.event time).2 then 1 else 0 := by
  rw [event]
  dsimp only
  split
  · exact ⟨rfl, rfl, rfl⟩
  · exact ⟨rfl, rfl, (BitVec.add_zero _).symm⟩

/-- **An event that the record covers is an arrival at its bucket.** -/
theorem accounts_event (holds : Accounts bucket stats trace) (covers : stats.Covers time) :
    bucket.Keeps trace (stats.arrival time) ∧
      Accounts bucket (stats.event time).1 (trace ++ [stats.arrival time]) := by
  obtain ⟨settings, rate, next⟩ := holds.update covers
  obtain ⟨sameSettings, sameNext, counted⟩ := event_record stats time bucket.start
  have passes : (stats.arrival time).passes =
      decide ((stats.update time).outputRate.toNat < bucket.burst) :=
    event_passes settings holds.fits
  have due : (stats.arrival time).restores = true ↔
      bucket.start + bucket.period * (restored trace + 1) < (stats.arrival time).time := by
    show decide (stats.nextUpdatems < time) = true ↔ _ < time.toNat
    rw [decide_eq_true_iff, BitVec.lt_def, holds.next]
  have admits : (stats.arrival time).passes = true ↔
      passed trace < bucket.burst + bucket.limit * restored (trace ++ [stats.arrival time]) := by
    rw [← rate, Nat.add_lt_add_iff_right, passes, decide_eq_true_iff]
  refine ⟨⟨due, rate ▸ Nat.le_add_left _ _, admits⟩, sameSettings.trans settings, holds.fits, ?_,
    sameNext ▸ next⟩
  have counts : (stats.event time).1.outputRate.toNat =
      (stats.update time).outputRate.toNat + (stats.arrival time).passes.toNat := by
    have fits := holds.fits
    rw [counted, passes, show (stats.event time).2 = _ from passes]
    by_cases room : (stats.update time).outputRate.toNat < bucket.burst
    · have one : (1 : BitVec 64).toNat = 1 := rfl
      rw [decide_eq_true room, if_pos rfl, BitVec.toNat_add, Bool.toNat_true, one]
      exact Nat.mod_eq_of_lt (by omega)
    · rw [decide_eq_false room, if_neg Bool.false_ne_true]
      exact congrArg BitVec.toNat (BitVec.add_zero _)
  rw [counts, passed_append trace, passed_singleton, ← rate]
  omega

/-- Where the count covers every period that is over, the events that passed have used it up. -/
theorem Accounts.usedUp (holds : Accounts bucket stats trace) (periodPos : 0 < bucket.period)
    (covers : stats.CoversAll time) : bucket.UsedUp trace (stats.arrival time) := by
  have rate := holds.rate
  have next := holds.next
  have limitIs : stats.outputRateLimit.toNat = bucket.limit := congrArg Bucket.limit holds.settings
  have periodIs : stats.updatePeriodms.toNat = bucket.period :=
    congrArg Bucket.period holds.settings
  show bucket.limit * ((time.toNat - bucket.start - 1) / bucket.period) ≤ passed trace
  by_cases due : stats.nextUpdatems < time
  · have enough := covers.2 due
    have late := BitVec.lt_def.mp due
    have sinceStart : time.toNat - bucket.start - 1 =
        (time.toNat - stats.nextUpdatems.toNat - 1) + bucket.period * (restored trace + 1) := by
      omega
    rw [sinceStart, Nat.add_mul_div_left _ _ periodPos, ← Nat.add_assoc, Nat.add_right_comm,
      Nat.mul_add, ← rate]
    rw [limitIs, periodIs] at enough
    exact Nat.add_le_add_right enough _
  · have early : time.toNat ≤ stats.nextUpdatems.toNat := Nat.le_of_not_lt (BitVec.lt_def.not.mp due)
    have periods : (time.toNat - bucket.start - 1) / bucket.period ≤ restored trace := by
      rw [Nat.le_iff_lt_add_one, Nat.div_lt_iff_lt_mul periodPos, Nat.mul_comm]
      have := Nat.mul_pos periodPos (Nat.add_one_pos (restored trace))
      omega
    exact (Nat.mul_le_mul_left _ periods).trans (rate ▸ Nat.le_add_left _ _)

end Event

instance decidableCovers (stats : RateStats) (time : BitVec 64) : Decidable (stats.Covers time) :=
  inferInstanceAs (Decidable (_ ∧ _))

instance decidableCoversAll (stats : RateStats) (time : BitVec 64) :
    Decidable (stats.CoversAll time) :=
  inferInstanceAs (Decidable (_ ∧ _))

end RateStats

/-! ## Runs of the transforms -/

namespace RateLimitTransform

variable (name : String)

/-- One event at a transform of any name, and the arrival at the record of one name. -/
def step (shared : Shared) (input : String × EventInfo D O) : Shared × List Arrival :=
  ((RateLimitTransform.event input.1 shared input.2).1,
    if input.1 = name ∧ limits input.2.type = true then
      [(shared.rateStatsCollection name).arrival (shared.msSinceEpoch shared.readings)]
    else [])

/-- What an event must find at the record of the name. -/
def AtRecord (guard : RateStats → BitVec 64 → Prop) (shared : Shared)
    (input : String × EventInfo D O) : Prop :=
  input.1 = name ∧ limits input.2.type = true →
    guard (shared.rateStatsCollection name) (shared.msSinceEpoch shared.readings)

instance decidableAtRecord (guard : RateStats → BitVec 64 → Prop)
    [∀ stats time, Decidable (guard stats time)] (shared : Shared)
    (input : String × EventInfo D O) : Decidable (AtRecord name guard shared input) :=
  inferInstanceAs (Decidable (_ → _))

/-- The record of the name agrees with its arrivals, and the clock does not go back. -/
structure Agrees (bucket : Bucket) (trace : List Arrival) (shared : Shared) : Prop where
  record : RateStats.Accounts bucket (shared.rateStatsCollection name) trace
  keeps : EachAfter bucket.Keeps [] trace
  clock : ∀ reading, shared.msSinceEpoch reading ≤ shared.msSinceEpoch (reading + 1)
  past : ∀ arrival ∈ trace, arrival.time ≤ (shared.msSinceEpoch shared.readings).toNat
  sorted : trace.Pairwise fun earlier later => earlier.time ≤ later.time

variable {name} {bucket : Bucket}

/-- An event of any name keeps the agreement. -/
theorem agrees_step {trace : List Arrival} {shared : Shared} {input : String × EventInfo D O}
    (agrees : Agrees name bucket trace shared)
    (guarded : AtRecord name RateStats.Covers shared input) :
    Agrees name bucket (trace ++ (step name shared input).2) (step name shared input).1 := by
  have ticked : ∀ arrival ∈ trace,
      arrival.time ≤ (shared.msSinceEpoch (shared.readings + 1)).toNat := fun arrival member =>
    (agrees.past arrival member).trans (BitVec.le_def.mp (agrees.clock shared.readings))
  rw [step, RateLimitTransform.event]
  by_cases limited : limits input.2.type = true
  · rw [if_pos limited]
    by_cases same : input.1 = name
    · subst same
      obtain ⟨right, record⟩ := RateStats.accounts_event agrees.record (guarded ⟨rfl, limited⟩)
      rw [if_pos ⟨rfl, limited⟩]
      refine ⟨?_, agrees.keeps.snoc right, agrees.clock, ?_, ?_⟩
      · simp only [if_true]
        exact record
      · intro arrival member
        rcases List.mem_append.mp member with earlier | last
        · exact ticked arrival earlier
        · rw [List.mem_singleton.mp last]
          exact BitVec.le_def.mp (agrees.clock shared.readings)
      · refine List.pairwise_append.mpr ⟨agrees.sorted, List.pairwise_singleton _ _, ?_⟩
        intro earlier member last isLast
        rw [List.mem_singleton.mp isLast]
        exact agrees.past earlier member
    · rw [if_neg fun both => same both.1, List.append_nil]
      refine ⟨?_, agrees.keeps, agrees.clock, ticked, agrees.sorted⟩
      simp only [if_neg fun here => same (Eq.symm here)]
      exact agrees.record
  · rw [if_neg limited, if_neg fun both => limited both.2, List.append_nil]
    exact agrees

/-- Where the record covers every period that is over, so do the arrivals. -/
theorem usedUp_step (periodPos : 0 < bucket.period) {trace : List Arrival} {shared : Shared}
    {input : String × EventInfo D O} (agrees : Agrees name bucket trace shared)
    (usedUp : EachAfter bucket.UsedUp [] trace)
    (guarded : AtRecord name RateStats.CoversAll shared input) :
    EachAfter bucket.UsedUp [] (trace ++ (step name shared input).2) := by
  rw [step]
  by_cases here : input.1 = name ∧ limits input.2.type = true
  · rw [if_pos here]
    exact usedUp.snoc (agrees.record.usedUp periodPos (guarded here))
  · rw [if_neg here, List.append_nil]
    exact usedUp

/-- A new record agrees with no arrivals. -/
theorem agrees_new {params : RateLimitParams} {now : BitVec 64} {shared : Shared}
    (isNew : shared.rateStatsCollection name = RateStats.new params now)
    (clock : ∀ reading, shared.msSinceEpoch reading ≤ shared.msSinceEpoch (reading + 1))
    (room : now.toNat + ((RateStats.new params now).bucket now.toNat).period < 2 ^ 64)
    (fits : ((RateStats.new params now).bucket now.toNat).burst < 2 ^ 32) :
    Agrees name ((RateStats.new params now).bucket now.toNat) [] shared where
  record :=
    { settings := by rw [isNew]; rfl
      fits := fits
      rate := by rw [isNew]; rfl
      next := by
        rw [isNew]
        show (now + (params.updatePeriodms.getD 100).setWidth 64).toNat = _
        rw [BitVec.toNat_add, toNat_widen]
        exact (Nat.mod_eq_of_lt room).trans (by simp [restored, RateStats.bucket, RateStats.new]) }
  keeps := eachAfter_nil
  clock := clock
  past := fun arrival member => by cases member
  sorted := .nil

end RateLimitTransform

/-! ## What a rate limit promises -/

/-- An event is refused only after a burst that no period has given back. -/
def RefusedLate (bucket : Bucket) (trace : List Arrival) : Prop :=
  ∀ before arrival after, trace = before ++ arrival :: after → arrival.passes = false →
    bucket.burst + bucket.limit * restored (before ++ [arrival]) ≤ passed before

/-- After a pause of one period more than can be saved up, the events of one period pass. -/
def PassAfterIdle (bucket : Bucket) (multiplier : Nat) (trace : List Arrival) : Prop :=
  ∀ before first rest after, trace = before ++ first :: rest ++ after →
    (∀ time ∈ bucket.start :: before.map Arrival.time,
      time + (multiplier + 1) * bucket.period ≤ first.time) →
    rest.length < bucket.limit → ∀ arrival ∈ first :: rest, arrival.passes = true

/-- In some periods of time no more pass than in these and the periods that can be saved up. -/
def BoundedInPeriods (bucket : Bucket) (multiplier : Nat) (trace : List Arrival) : Prop :=
  ∀ before window after since periods, trace = before ++ window ++ after →
    (∀ arrival ∈ window,
      since ≤ arrival.time ∧ arrival.time ≤ since + periods * bucket.period) →
    passed window ≤ (periods + multiplier) * bucket.limit

section Promises

variable {bucket : Bucket} {trace : List Arrival}

theorem refusedLate_of_keeps (keeps : EachAfter bucket.Keeps [] trace) :
    RefusedLate bucket trace := by
  rintro before arrival after rfl refused
  exact Bucket.refused_burst keeps.at refused

theorem passAfterIdle_of_keeps {multiplier : Nat} (multiplierPos : 0 < multiplier)
    (periodPos : 0 < bucket.period) (keeps : EachAfter bucket.Keeps [] trace) :
    PassAfterIdle bucket multiplier trace := by
  rintro before first rest after rfl idle short arrival member
  have longer : 2 * bucket.period ≤ (multiplier + 1) * bucket.period :=
    Nat.mul_le_mul_right _ (by omega)
  refine Bucket.passes_after_pause keeps (fun earlier here => ?_) ?_ short periodPos member
  · have paused := idle earlier.time (.tail _ (List.mem_map_of_mem here))
    omega
  · have paused := idle bucket.start (.head _)
    omega

theorem boundedInPeriods_of_usedUp {multiplier : Nat}
    (burstIs : bucket.burst = bucket.limit * multiplier) (periodPos : 0 < bucket.period)
    (keeps : EachAfter bucket.Keeps [] trace) (usedUp : EachAfter bucket.UsedUp [] trace)
    (sorted : trace.Pairwise fun earlier later => earlier.time ≤ later.time) :
    BoundedInPeriods bucket multiplier trace := by
  rintro before window after since periods rfl within
  cases window with
  | nil => exact Nat.zero_le _
  | cons first rest =>
      have earlier : ∀ arrival ∈ before, arrival.time ≤ since + periods * bucket.period := by
        intro arrival member
        rw [List.append_assoc] at sorted
        have order := (List.pairwise_append.mp sorted).2.2 arrival member first (.head _)
        exact order.trans (within first (.head _)).2
      have bound := Bucket.passed_in_periods periodPos (eachAfter_append.mp keeps).1
        (eachAfter_append.mp usedUp).1 earlier within
      rw [burstIs] at bound
      rw [Nat.add_mul, Nat.mul_comm multiplier]
      omega

end Promises

/-- **Where the count is at least the limit at every update, it stays within a burst, an event is
refused only after one, and a pause lets events pass; where it covers every period that is over,
the events of some periods are bounded.** -/
theorem rateLimit_runs {params : RateLimitParams} {now : BitVec 64} {name : String}
    {shared : Shared} (isNew : shared.rateStatsCollection name = RateStats.new params now)
    (clock : ∀ reading, shared.msSinceEpoch reading ≤ shared.msSinceEpoch (reading + 1))
    (periodPos : 0 < (RateStats.new params now).updatePeriodms.toNat)
    (multiplierPos : 0 < (RateStats.new params now).updatePeriodMultiplier.toNat)
    (room : now.toNat + (RateStats.new params now).updatePeriodms.toNat < 2 ^ 64)
    (fits : (RateStats.new params now).outputRateLimit.toNat *
      (RateStats.new params now).updatePeriodMultiplier.toNat < 2 ^ 32)
    (events : List (String × EventInfo D O)) :
    let bucket := (RateStats.new params now).bucket now.toNat
    let multiplier := (RateStats.new params now).updatePeriodMultiplier.toNat
    let reached := run (RateLimitTransform.step name) shared events
    (Guarded (RateLimitTransform.step name)
        (RateLimitTransform.AtRecord name RateStats.Covers) shared events →
      (reached.1.rateStatsCollection name).outputRate.toNat ≤ bucket.limit * multiplier ∧
        RefusedLate bucket reached.2 ∧ PassAfterIdle bucket multiplier reached.2) ∧
    (Guarded (RateLimitTransform.step name)
        (RateLimitTransform.AtRecord name RateStats.CoversAll) shared events →
      BoundedInPeriods bucket multiplier reached.2) := by
  intro bucket multiplier reached
  have start : RateLimitTransform.Agrees name bucket [] shared :=
    RateLimitTransform.agrees_new isNew clock room fits
  constructor
  · intro guarded
    have agrees := guarded_trace (RateLimitTransform.Agrees name bucket)
      (fun _ _ _ holds covers => RateLimitTransform.agrees_step holds covers) start guarded
    rw [List.nil_append] at agrees
    refine ⟨?_, refusedLate_of_keeps agrees.keeps,
      passAfterIdle_of_keeps multiplierPos periodPos agrees.keeps⟩
    have bound := Bucket.passed_le agrees.keeps
    have rate := agrees.record.rate
    exact Nat.le_of_add_le_add_right (rate.trans_le bound)
  · intro guarded
    have both := guarded_trace
      (fun trace shared => RateLimitTransform.Agrees name bucket trace shared ∧
        EachAfter bucket.UsedUp [] trace)
      (fun _ _ _ holds covers =>
        ⟨RateLimitTransform.agrees_step holds.1 fun here => (covers here).covers,
          RateLimitTransform.usedUp_step periodPos holds.1 holds.2 covers⟩)
      ⟨start, eachAfter_nil⟩ guarded
    rw [List.nil_append] at both
    exact boundedInPeriods_of_usedUp rfl periodPos both.1.keeps both.2 both.1.sorted

/-- A record that was made at 1000, and a clock that shows one time and later another. -/
def limitedAt (params : RateLimitParams) (count : Nat) (first second : BitVec 64) : Shared where
  rateStatsCollection := fun _ => .new params 1000
  msSinceEpoch := fun reading => if reading < count then first else second

/-- Binary events at the default name. -/
def limitedEvents (count : Nat) : List (String × EventInfo Unit fun _ => Unit) :=
  List.replicate count ("DEFAULT",
    { type := .Binary, index := 0, timestamp := 0, quality := 1, sourcePort := "source",
      payload := true })

/-- One event a period, for every period. -/
def onePerPeriod : RateLimitParams := ⟨some 1, some 100, some 1⟩

/-- Two events in two periods. -/
theorem rateLimit_runs_two :
    ((run (RateLimitTransform.step "DEFAULT") (limitedAt onePerPeriod 1 1050 1150)
        (limitedEvents 2)).1.rateStatsCollection "DEFAULT").outputRate.toNat ≤ 1 * 1 ∧
      BoundedInPeriods ⟨1, 100, 1, 1000⟩ 1
        (run (RateLimitTransform.step "DEFAULT") (limitedAt onePerPeriod 1 1050 1150)
          (limitedEvents 2)).2 := by
  have clock : ∀ reading, (limitedAt onePerPeriod 1 1050 1150).msSinceEpoch reading ≤
      (limitedAt onePerPeriod 1 1050 1150).msSinceEpoch (reading + 1) := by
    intro reading
    cases reading with
    | zero => decide
    | succ reading => exact BitVec.le_refl (1150 : BitVec 64)
  have isNew : (limitedAt onePerPeriod 1 1050 1150).rateStatsCollection "DEFAULT" =
      RateStats.new onePerPeriod 1000 := rfl
  have runs := rateLimit_runs isNew clock (by decide) (by decide) (by decide) (by decide)
    (limitedEvents 2)
  exact ⟨(runs.1 (by decide)).1, runs.2 (by decide)⟩

/-- **A first event that is late makes the count wrap and is refused. After a pause of five
periods six events pass at once, where two may.** -/
theorem rateLimit_wraps :
    let late := run (RateLimitTransform.step "DEFAULT")
      (limitedAt ⟨none, none, none⟩ 1 1101 1101) (limitedEvents 1)
    let paused := run (RateLimitTransform.step "DEFAULT") (limitedAt onePerPeriod 1 1050 1601)
      (limitedEvents 7)
    ¬ (late.1.rateStatsCollection "DEFAULT").outputRate.toNat ≤ 10 * 10 ∧
      ¬ RefusedLate ⟨10, 100, 100, 1000⟩ late.2 ∧
      ¬ BoundedInPeriods ⟨1, 100, 1, 1000⟩ 1 paused.2 := by
  refine ⟨by decide, fun late => ?_, fun bounded => ?_⟩
  · exact absurd (late [] ⟨1101, true, false⟩ [] (by decide) rfl) (by decide)
  · exact absurd (bounded [⟨1050, false, true⟩] (List.replicate 6 ⟨1601, true, true⟩) [] 1601 1
      (by decide) (by decide)) (by decide)

end OpenDataCon.Connectors
