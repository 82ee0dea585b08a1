import OpenDataCon.Foundations.Traces
import Mathlib

/-!
# Rate limits that give their budget back by periods

A rate limit lets a burst of events pass, and gives the budget of a period back when an event
comes after the period's end, one period for one event. Its history is the trace of its arrivals,
with what passed and where budget came back (`Bucket.Keeps`).

An event is refused only when a whole burst has passed that nothing came back for
(`refused_burst`), and a long pause brings back what one period allows (`passes_after_pause`).
How many events pass in some periods of time is bounded only where every period that is over has
been used up before (`passed_in_periods`): else the periods of a pause are all given back after it,
one event each.
-/

set_option autoImplicit false

namespace OpenDataCon.RateBuckets

open Traces

/-- An event that asks to pass: when it came, whether the budget of a period came back with it,
and whether it passed. -/
structure Arrival where
  time : Nat
  restores : Bool
  passes : Bool
deriving DecidableEq, Repr

/-- What a rate limit allows in a period, and in one burst. -/
structure Bucket where
  limit : Nat
  period : Nat
  burst : Nat
  start : Nat

/-- How many events have passed. -/
def passed (trace : List Arrival) : Nat := trace.countP Arrival.passes

/-- How many periods have been given back. -/
def restored (trace : List Arrival) : Nat := trace.countP Arrival.restores

@[simp] theorem passed_append (first second : List Arrival) :
    passed (first ++ second) = passed first + passed second := List.countP_append

@[simp] theorem restored_append (first second : List Arrival) :
    restored (first ++ second) = restored first + restored second := List.countP_append

theorem passed_singleton (arrival : Arrival) : passed [arrival] = arrival.passes.toNat := by
  cases passes : arrival.passes <;> simp [passed, passes]

theorem restored_singleton (arrival : Arrival) :
    restored [arrival] = arrival.restores.toNat := by
  cases restores : arrival.restores <;> simp [restored, restores]

namespace Bucket

variable (bucket : Bucket)

/-- An arrival treated by the rate limit, after those that were seen. -/
structure Keeps (seen : List Arrival) (arrival : Arrival) : Prop where
  due : arrival.restores = true ↔
    bucket.start + bucket.period * (restored seen + 1) < arrival.time
  covered : bucket.limit * restored (seen ++ [arrival]) ≤ passed seen
  admits : arrival.passes = true ↔
    passed seen < bucket.burst + bucket.limit * restored (seen ++ [arrival])

/-- How many periods are over at a time. -/
def elapsed (time : Nat) : Nat := (time - bucket.start - 1) / bucket.period

/-- Every period that is over has been used up by the events that passed. -/
def UsedUp (seen : List Arrival) (arrival : Arrival) : Prop :=
  bucket.limit * bucket.elapsed arrival.time ≤ passed seen

variable {bucket} {trace : List Arrival}

/-! ## Refusals and pauses -/

/-- What passed and did not come back is no more than a burst. -/
theorem passed_le (keeps : EachAfter bucket.Keeps [] trace) :
    passed trace ≤ bucket.burst + bucket.limit * restored trace := by
  induction trace using List.reverseRecOn with
  | nil => exact Nat.zero_le _
  | append_singleton before arrival ih =>
      obtain ⟨first, last⟩ := eachAfter_append.mp keeps
      have right : bucket.Keeps before arrival := eachAfter_singleton.mp last
      have bound := ih first
      rw [passed_append, passed_singleton]
      cases passes : arrival.passes with
      | true =>
          have room := right.admits.mp passes
          exact Nat.succ_le_of_lt room
      | false =>
          have more : restored before ≤ restored (before ++ [arrival]) := by
            rw [restored_append]
            exact Nat.le_add_right _ _
          exact bound.trans (Nat.add_le_add_left (Nat.mul_le_mul_left _ more) _)

/-- **An event is refused only after a whole burst that nothing has come back for.** -/
theorem refused_burst {seen : List Arrival} {arrival : Arrival}
    (keeps : bucket.Keeps seen arrival) (refused : arrival.passes = false) :
    bucket.burst + bucket.limit * restored (seen ++ [arrival]) ≤ passed seen := by
  by_contra! room
  rw [keeps.admits.mpr room] at refused
  cases refused

/-- The periods that came back were over by then. -/
theorem restored_le_elapsed (periodPos : 0 < bucket.period)
    (keeps : EachAfter bucket.Keeps [] trace) {time : Nat}
    (times : ∀ arrival ∈ trace, arrival.time ≤ time) : restored trace ≤ bucket.elapsed time := by
  induction trace using List.reverseRecOn with
  | nil => exact Nat.zero_le _
  | append_singleton before arrival ih =>
      obtain ⟨first, last⟩ := eachAfter_append.mp keeps
      have right : bucket.Keeps before arrival := eachAfter_singleton.mp last
      rw [restored_append, restored_singleton]
      cases restores : arrival.restores with
      | false => exact ih first fun other member => times other (List.mem_append_left _ member)
      | true =>
          have due := right.due.mp restores
          have arrived := times arrival (List.mem_append_right _ (.head _))
          rw [Bool.toNat_true, elapsed, Nat.le_div_iff_mul_le periodPos, Nat.mul_comm]
          omega

/-- **After a pause of two periods or more, as many events pass as one period allows.** -/
theorem passes_after_pause {before rest after : List Arrival} {first : Arrival}
    (keeps : EachAfter bucket.Keeps [] (before ++ first :: rest ++ after))
    (pause : ∀ earlier ∈ before, earlier.time + 2 * bucket.period ≤ first.time)
    (sinceStart : bucket.start + 2 * bucket.period ≤ first.time) (short : rest.length < bucket.limit)
    (periodPos : 0 < bucket.period) {arrival : Arrival} (member : arrival ∈ first :: rest) :
    arrival.passes = true := by
  have keepsBefore : EachAfter bucket.Keeps [] before :=
    (eachAfter_append.mp (eachAfter_append.mp keeps).1).1
  -- the first event of the burst brings the budget of a period back
  have firstRestores : first.restores = true := by
    have right : bucket.Keeps before first := by
      rw [List.append_assoc, List.cons_append] at keeps
      exact keeps.at
    refine right.due.mpr ?_
    have few : restored before ≤ bucket.elapsed (first.time - 2 * bucket.period) :=
      restored_le_elapsed periodPos keepsBefore fun earlier member =>
        Nat.le_sub_of_add_le (pause earlier member)
    rw [elapsed, Nat.le_div_iff_mul_le periodPos, Nat.mul_comm] at few
    rw [Nat.mul_add, Nat.mul_one]
    omega
  obtain ⟨front, back, parts⟩ := List.append_of_mem member
  have right : bucket.Keeps (before ++ front) arrival := by
    rw [parts, ← List.append_assoc, List.append_assoc (before ++ front)] at keeps
    exact keeps.at
  have brought : restored before + 1 ≤ restored (before ++ front ++ [arrival]) := by
    have there : first ∈ front ++ [arrival] := by
      cases front with
      | nil => rw [List.nil_append] at parts; simp [(List.cons.inj parts).1]
      | cons head tail => simp [(List.cons.inj parts).1]
    rw [List.append_assoc, restored_append]
    exact Nat.add_le_add_left (List.countP_pos_iff.mpr ⟨first, there, firstRestores⟩) _
  have few : passed front ≤ rest.length := by
    have sizes := congrArg List.length parts
    rw [List.length_cons, List.length_append, List.length_cons] at sizes
    exact List.countP_le_length.trans (by omega)
  have bound := passed_le keepsBefore
  have back := Nat.mul_le_mul_left bucket.limit brought
  refine right.admits.mpr ?_
  rw [passed_append]
  rw [Nat.mul_add, Nat.mul_one] at back
  omega

/-! ## How many pass in some periods -/

/-- As long as it goes on passing, an event more is within a burst and what came back by then. -/
theorem passed_window {before window : List Arrival} (periodPos : 0 < bucket.period)
    (keeps : EachAfter bucket.Keeps [] (before ++ window)) {time : Nat}
    (times : ∀ arrival ∈ before ++ window, arrival.time ≤ time) :
    passed window = 0 ∨
      passed before + passed window ≤ bucket.burst + bucket.limit * bucket.elapsed time := by
  induction window using List.reverseRecOn with
  | nil => exact .inl rfl
  | append_singleton front arrival ih =>
      rw [← List.append_assoc] at keeps times
      obtain ⟨first, last⟩ := eachAfter_append.mp keeps
      have right : bucket.Keeps (before ++ front) arrival := eachAfter_singleton.mp last
      rw [passed_append, passed_singleton]
      cases passes : arrival.passes with
      | false => exact ih first fun other member => times other (List.mem_append_left _ member)
      | true =>
          have room := right.admits.mp passes
          have back := Nat.mul_le_mul_left bucket.limit (restored_le_elapsed periodPos keeps times)
          rw [passed_append] at room
          rw [Bool.toNat_true]
          exact .inr (by omega)

/-- Periods that are over, counted from a later time on. -/
theorem elapsed_add_le (periodPos : 0 < bucket.period) (since periods : Nat) :
    bucket.elapsed (since + periods * bucket.period) ≤ bucket.elapsed since + periods := by
  rw [elapsed, elapsed, ← Nat.add_mul_div_right _ _ periodPos]
  exact Nat.div_le_div_right (by omega)

theorem elapsed_mono {earlier later : Nat} (order : earlier ≤ later) :
    bucket.elapsed earlier ≤ bucket.elapsed later :=
  Nat.div_le_div_right (by omega)

/-- **Where every period that is over has been used up at the first event, at most a burst and
the budget of some periods pass within them.** -/
theorem passed_in_periods {before window : List Arrival} (periodPos : 0 < bucket.period)
    (keeps : EachAfter bucket.Keeps [] (before ++ window))
    (usedUp : EachAfter bucket.UsedUp [] (before ++ window)) {since periods : Nat}
    (earlier : ∀ arrival ∈ before, arrival.time ≤ since + periods * bucket.period)
    (within : ∀ arrival ∈ window,
      since ≤ arrival.time ∧ arrival.time ≤ since + periods * bucket.period) :
    passed window ≤ bucket.burst + periods * bucket.limit := by
  cases window with
  | nil => exact Nat.zero_le _
  | cons first rest =>
      have used : bucket.limit * bucket.elapsed since ≤ passed before :=
        (Nat.mul_le_mul_left _ (elapsed_mono (within first (.head _)).1)).trans usedUp.at
      have bound := passed_window periodPos keeps fun arrival member =>
        (List.mem_append.mp member).elim (earlier arrival) fun here => (within arrival here).2
      have periodsOver : bucket.limit * bucket.elapsed (since + periods * bucket.period) ≤
          bucket.limit * (bucket.elapsed since + periods) :=
        Nat.mul_le_mul_left _ (elapsed_add_le periodPos since periods)
      rw [Nat.mul_add, Nat.mul_comm bucket.limit periods] at periodsOver
      rcases bound with none | bound <;> omega

end Bucket

end OpenDataCon.RateBuckets
