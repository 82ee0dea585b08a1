import Mathlib.Data.List.Induction
import OpenDataCon.Foundations.Traces
import OpenDataCon.Foundations.WaitTimers

/-!
# The ride-through timer of a DNP3 master

`Trigger` starts a ride-through, `Cancel` ends it and `FastForward` cuts its wait short. These run on
a strand, and so do the handlers that wait for the timer. A handler does not look at its error code:
it takes the flag `RideThroughInProgress` for its own ride-through.

A handler that `Cancel` has aborted may run after the next `Trigger`. It then ends the new
ride-through and calls `CommsBadCB`, although no time has passed (`run_endedByOther`). When no
handler runs while the ride-through in progress is another's, `CommsBadCB` is called once at most
for a ride-through, and rightly (`run_commsBad`).
-/

set_option autoImplicit false

namespace OpenDataCon.DNP3Port

open Runs Traces WaitTimers

/-- Ride-throughs are numbered in the order in which they are started. -/
structure CommsRideThroughTimer where
  rideThroughInProgress : Bool := false
  commsIsBad : Bool := false
  pCommsRideThroughTimer : WaitTimer Nat := {}
  rideThrough : Nat := 0
deriving Repr

/-- An operation that runs on the strand, an expiry, or one of the handlers that are queued. -/
inductive RideThroughStep where
  | trigger | fastForward | cancel | expiry
  | handler (k : Nat)
deriving DecidableEq, Repr

inductive RideThroughEvent where
  | triggered (rideThrough : Nat)
  | expired (rideThrough : Nat)
  | fastForwarded (rideThrough : Nat)
  | cancelled (rideThrough : Nat)
  /-- `CommsBadCB`, for the ride-through in progress, and whose handler calls it. -/
  | commsBad (rideThrough handlerOf : Nat)
  | commsGood
deriving DecidableEq, Repr

namespace RideThroughEvent

/-- The ride-through an event is about. -/
def about : RideThroughEvent → Nat
  | .triggered rideThrough | .expired rideThrough | .fastForwarded rideThrough
  | .cancelled rideThrough | .commsBad rideThrough _ => rideThrough
  | .commsGood => 0

/-- The ride-through `CommsBadCB` is called for. -/
def badFor : RideThroughEvent → Option Nat
  | .commsBad rideThrough _ => some rideThrough
  | _ => none

end RideThroughEvent

namespace CommsRideThroughTimer

/-! ## The steps -/

def trigger (state : CommsRideThroughTimer) : CommsRideThroughTimer × List RideThroughEvent :=
  if state.rideThroughInProgress || state.commsIsBad then (state, [])
  else
    ({ state with
        rideThroughInProgress := true
        rideThrough := state.rideThrough + 1
        pCommsRideThroughTimer := state.pCommsRideThroughTimer.arm (state.rideThrough + 1) },
      [.triggered (state.rideThrough + 1)])

/-- What waits for the timer, for whatever reason it runs. -/
def handler (state : CommsRideThroughTimer) (handlerOf : Nat) :
    CommsRideThroughTimer × List RideThroughEvent :=
  if state.rideThroughInProgress then
    ({ state with commsIsBad := true, rideThroughInProgress := false },
      [.commsBad state.rideThrough handlerOf])
  else (state, [])

def fastForward (state : CommsRideThroughTimer) : CommsRideThroughTimer × List RideThroughEvent :=
  if state.rideThroughInProgress then
    ({ state with pCommsRideThroughTimer := state.pCommsRideThroughTimer.cancel },
      [.fastForwarded state.rideThrough])
  else (state, [])

def cancel (state : CommsRideThroughTimer) : CommsRideThroughTimer × List RideThroughEvent :=
  if state.rideThroughInProgress then
    ({ state with
        rideThroughInProgress := false
        pCommsRideThroughTimer := state.pCommsRideThroughTimer.cancel },
      [.cancelled state.rideThrough])
  else ({ state with commsIsBad := false }, [.commsGood])

def step (state : CommsRideThroughTimer) :
    RideThroughStep → CommsRideThroughTimer × List RideThroughEvent
  | .trigger => state.trigger
  | .fastForward => state.fastForward
  | .cancel => state.cancel
  | .expiry =>
    ({ state with pCommsRideThroughTimer := state.pCommsRideThroughTimer.expire },
      state.pCommsRideThroughTimer.waiting.map .expired)
  | .handler k =>
    match state.pCommsRideThroughTimer.queued[k]? with
    | none => (state, [])
    | some (handlerOf, _) =>
      { state with pCommsRideThroughTimer := state.pCommsRideThroughTimer.take k }.handler handlerOf

/-! ## What is meant -/

/-- `CommsBadCB` is called by a handler of the ride-through itself, which was started and not
cancelled, and expired or was fast-forwarded, and was not bad before. -/
def Rightly (before : List RideThroughEvent) : RideThroughEvent → Prop
  | .commsBad rideThrough handlerOf =>
    handlerOf = rideThrough ∧ .triggered rideThrough ∈ before ∧ .cancelled rideThrough ∉ before ∧
      (.expired rideThrough ∈ before ∨ .fastForwarded rideThrough ∈ before) ∧
      rideThrough ∉ before.filterMap RideThroughEvent.badFor
  | _ => True

instance decidableRightly (before : List RideThroughEvent) :
    ∀ event, Decidable (Rightly before event)
  | .commsBad _ _ => inferInstanceAs (Decidable (_ ∧ _))
  | .triggered _ | .expired _ | .fastForwarded _ | .cancelled _ | .commsGood => .isTrue trivial

/-- From a `CommsBadCB` to the next `CommsGoodCB`. -/
def isBadAfter (trace : List RideThroughEvent) : Bool :=
  trace.foldl (fun bad event =>
    match event with
    | .commsBad _ _ => true
    | .commsGood => false
    | _ => bad) false

/-- A handler that runs finds its own ride-through in progress, or none. -/
def OwnHandler (state : CommsRideThroughTimer) : RideThroughStep → Prop
  | .handler k =>
    ∀ queued ∈ state.pCommsRideThroughTimer.queued[k]?.toList,
      state.rideThroughInProgress = true → queued.1 = state.rideThrough
  | _ => True

instance decidableOwnHandler (state : CommsRideThroughTimer) :
    ∀ input, Decidable (state.OwnHandler input)
  | .handler k =>
    inferInstanceAs (Decidable (∀ queued ∈ state.pCommsRideThroughTimer.queued[k]?.toList,
      state.rideThroughInProgress = true → queued.1 = state.rideThrough))
  | .trigger | .fastForward | .cancel | .expiry => .isTrue trivial

/-! ## Every guarded run -/

/-- What holds of the trace and the timer: events and handlers are of ride-throughs that were
started, and the one in progress is still open. -/
structure Invariant (trace : List RideThroughEvent) (state : CommsRideThroughTimer) : Prop where
  rightly : EachAfter Rightly [] trace
  isBad : state.commsIsBad = isBadAfter trace
  about : ∀ event ∈ trace, event.about ≤ state.rideThrough
  handlers : ∀ handlerOf ∈ state.pCommsRideThroughTimer.handlers, handlerOf ≤ state.rideThrough
  opened : state.rideThroughInProgress = true → .triggered state.rideThrough ∈ trace ∧
    .cancelled state.rideThrough ∉ trace ∧ state.rideThrough ∉ trace.filterMap RideThroughEvent.badFor
  queued : state.rideThroughInProgress = true →
    ∀ entry ∈ state.pCommsRideThroughTimer.queued, entry.1 = state.rideThrough →
      .expired state.rideThrough ∈ trace ∨ .fastForwarded state.rideThrough ∈ trace

variable {trace : List RideThroughEvent} {state : CommsRideThroughTimer}

theorem isBadAfter_append (first second : List RideThroughEvent) :
    isBadAfter (first ++ second) = second.foldl (fun bad event =>
      match event with
      | .commsBad _ _ => true
      | .commsGood => false
      | _ => bad) (isBadAfter first) := List.foldl_append

/-- A ride-through that has not been started is in no event. -/
theorem Invariant.unheard (holds : Invariant trace state) {event : RideThroughEvent}
    (later : state.rideThrough < event.about) : event ∉ trace := by
  intro member
  exact absurd (holds.about event member) (by omega)

theorem Invariant.not_badFor (holds : Invariant trace state) {rideThrough : Nat}
    (later : state.rideThrough < rideThrough) :
    rideThrough ∉ trace.filterMap RideThroughEvent.badFor := by
  intro member
  obtain ⟨event, heard, bad⟩ := List.mem_filterMap.mp member
  cases event with
  | commsBad other handlerOf =>
      obtain rfl : other = rideThrough := Option.some.inj bad
      exact absurd (holds.about _ heard) (Nat.not_le_of_lt later)
  | triggered | expired | fastForwarded | cancelled | commsGood => cases bad

/-- The timer of an invariant may be replaced by one whose queue is explained. -/
theorem Invariant.withTimer (holds : Invariant trace state) {timer : WaitTimer Nat}
    (handlers : ∀ handlerOf ∈ timer.handlers, handlerOf ≤ state.rideThrough)
    (queued : state.rideThroughInProgress = true → ∀ entry ∈ timer.queued,
      entry.1 = state.rideThrough →
        .expired state.rideThrough ∈ trace ∨ .fastForwarded state.rideThrough ∈ trace) :
    Invariant trace { state with pCommsRideThroughTimer := timer } :=
  { holds with handlers, queued }

/-- An event that is not a callback. -/
theorem Invariant.record (holds : Invariant trace state) {event : RideThroughEvent}
    (right : ∀ seen, Rightly seen event) (bad : event.badFor = none)
    (still : isBadAfter (trace ++ [event]) = isBadAfter trace)
    (about : event.about ≤ state.rideThrough)
    (notCancelled : state.rideThroughInProgress = true → event ≠ .cancelled state.rideThrough) :
    Invariant (trace ++ [event]) state where
  rightly := holds.rightly.snoc (right trace)
  isBad := holds.isBad.trans still.symm
  about := by
    intro other member
    rcases List.mem_append.mp member with before | new
    · exact holds.about other before
    · exact List.mem_singleton.mp new ▸ about
  handlers := holds.handlers
  opened := by
    intro inProgress
    obtain ⟨triggered, cancelled, notBad⟩ := holds.opened inProgress
    refine ⟨List.mem_append_left _ triggered, ?_, ?_⟩
    · intro member
      rcases List.mem_append.mp member with before | new
      · exact cancelled before
      · exact notCancelled inProgress (List.mem_singleton.mp new).symm
    · rw [List.filterMap_append, List.filterMap_cons, bad, List.filterMap_nil, List.append_nil]
      exact notBad
  queued := by
    intro inProgress entry member own
    exact (holds.queued inProgress entry member own).imp (List.mem_append_left _)
      (List.mem_append_left _)

theorem Invariant.trigger (holds : Invariant trace state) :
    Invariant (trace ++ state.trigger.2) state.trigger.1 := by
  unfold CommsRideThroughTimer.trigger
  split
  · rw [List.append_nil]
    exact holds
  · have handlers : ∀ handlerOf ∈ (state.pCommsRideThroughTimer.arm (state.rideThrough + 1)).handlers,
        handlerOf ≤ state.rideThrough + 1 := by
      intro handlerOf member
      rcases WaitTimer.mem_handlers_arm.mp member with rfl | earlier
      · exact Nat.le_refl _
      · exact Nat.le_succ_of_le (holds.handlers handlerOf earlier)
    refine ⟨holds.rightly.snoc trivial, ?_, ?_, handlers, fun _ => ⟨?_, ?_, ?_⟩, ?_⟩
    · rw [isBadAfter_append]
      exact holds.isBad
    · intro event member
      rcases List.mem_append.mp member with before | new
      · exact Nat.le_succ_of_le (holds.about event before)
      · rw [List.mem_singleton.mp new]
        exact Nat.le_refl _
    · exact List.mem_append_right _ List.mem_cons_self
    · intro member
      rcases List.mem_append.mp member with before | new
      · exact holds.unheard (Nat.lt_succ_self _) before
      · cases List.mem_singleton.mp new
    · rw [List.filterMap_append]
      intro member
      rcases List.mem_append.mp member with before | new
      · exact holds.not_badFor (Nat.lt_succ_self _) before
      · cases new
    · -- every handler in the queue is of an earlier ride-through
      intro _ entry member own
      have earlier : entry.1 ∈ state.pCommsRideThroughTimer.handlers := by
        rcases WaitTimer.mem_queued_cancel.mp member with queued | ⟨waiting, -⟩
        · exact WaitTimer.mem_handlers_of_queued queued
        · exact WaitTimer.mem_handlers_of_waiting waiting
      have bound := holds.handlers entry.1 earlier
      dsimp only at own
      omega

theorem Invariant.fastForward (holds : Invariant trace state) :
    Invariant (trace ++ state.fastForward.2) state.fastForward.1 := by
  unfold CommsRideThroughTimer.fastForward
  split
  · have recorded : Invariant (trace ++ [.fastForwarded state.rideThrough]) state := by
      refine holds.record (fun _ => trivial) rfl ?_ (Nat.le_refl _) fun _ =>
        RideThroughEvent.noConfusion
      rw [isBadAfter_append]
      rfl
    refine recorded.withTimer ?_ ?_
    · intro handlerOf member
      exact holds.handlers handlerOf (WaitTimer.mem_handlers_complete.mp member)
    · intro _ entry _ _
      exact .inr (List.mem_append_right _ List.mem_cons_self)
  · rw [List.append_nil]
    exact holds

theorem Invariant.cancel (holds : Invariant trace state) :
    Invariant (trace ++ state.cancel.2) state.cancel.1 := by
  unfold CommsRideThroughTimer.cancel
  split
  · have ended : Invariant trace { state with rideThroughInProgress := false } :=
      { holds with
        opened := fun inProgress => Bool.noConfusion inProgress
        queued := fun inProgress => Bool.noConfusion inProgress }
    have recorded : Invariant (trace ++ [.cancelled state.rideThrough])
        { state with rideThroughInProgress := false } := by
      refine ended.record (fun _ => trivial) rfl ?_ (Nat.le_refl _) fun inProgress =>
        Bool.noConfusion inProgress
      rw [isBadAfter_append]
      rfl
    refine recorded.withTimer ?_ ?_
    · intro handlerOf member
      exact holds.handlers handlerOf (WaitTimer.mem_handlers_complete.mp member)
    · exact fun inProgress => Bool.noConfusion inProgress
  · next notInProgress =>
    refine ⟨holds.rightly.snoc trivial, ?_, ?_, holds.handlers,
      fun inProgress => absurd inProgress notInProgress,
      fun inProgress => absurd inProgress notInProgress⟩
    · rw [isBadAfter_append]
      rfl
    · intro event member
      rcases List.mem_append.mp member with before | new
      · exact holds.about event before
      · rw [List.mem_singleton.mp new]
        exact Nat.zero_le _

/-- The waiting handlers expire. -/
theorem Invariant.expiry (holds : Invariant trace state) :
    Invariant (trace ++ (state.step .expiry).2) (state.step .expiry).1 := by
  have recorded (expired : List Nat)
      (waiting : ∀ handlerOf ∈ expired, handlerOf ∈ state.pCommsRideThroughTimer.waiting) :
      Invariant (trace ++ expired.map .expired) state := by
    induction expired using List.reverseRecOn with
    | nil =>
        rw [List.map_nil, List.append_nil]
        exact holds
    | append_singleton earlier last ih =>
        have before := ih fun handlerOf member => waiting handlerOf (List.mem_append_left _ member)
        rw [List.map_append, List.map_singleton, ← List.append_assoc]
        refine before.record (fun _ => trivial) rfl ?_ ?_ fun _ => RideThroughEvent.noConfusion
        · rw [isBadAfter_append]
          rfl
        · exact holds.handlers last
            (WaitTimer.mem_handlers_of_waiting (waiting last (List.mem_append_right _
              List.mem_cons_self)))
  refine (recorded _ fun _ member => member).withTimer ?_ ?_
  · intro handlerOf member
    exact holds.handlers handlerOf (WaitTimer.mem_handlers_complete.mp member)
  · intro inProgress entry member own
    rcases WaitTimer.mem_queued_expire.mp member with queued | ⟨waiting, -⟩
    · exact (holds.queued inProgress entry queued own).imp (List.mem_append_left _)
        (List.mem_append_left _)
    · exact .inl (List.mem_append_right _ (List.mem_map.mpr ⟨entry.1, waiting, by rw [own]⟩))

/-- A handler that runs while no other ride-through is in progress. -/
theorem Invariant.handler (holds : Invariant trace state) {handlerOf : Nat}
    (own : state.rideThroughInProgress = true → handlerOf = state.rideThrough)
    (completed : state.rideThroughInProgress = true →
      .expired state.rideThrough ∈ trace ∨ .fastForwarded state.rideThrough ∈ trace) :
    Invariant (trace ++ (state.handler handlerOf).2) (state.handler handlerOf).1 := by
  unfold CommsRideThroughTimer.handler
  split
  · next inProgress =>
    obtain ⟨triggered, cancelled, notBad⟩ := holds.opened inProgress
    refine ⟨holds.rightly.snoc ?_, ?_, ?_, holds.handlers,
      fun inProgress => Bool.noConfusion inProgress,
      fun inProgress => Bool.noConfusion inProgress⟩
    · exact ⟨own inProgress, triggered, cancelled, completed inProgress, notBad⟩
    · rw [isBadAfter_append]
      rfl
    · intro event member
      rcases List.mem_append.mp member with before | new
      · exact holds.about event before
      · rw [List.mem_singleton.mp new]
        exact Nat.le_refl _
  · rw [List.append_nil]
    exact holds

/-- **Every step keeps the invariant** when a handler that runs finds its own ride-through. -/
theorem Invariant.step (holds : Invariant trace state) (input : RideThroughStep)
    (own : state.OwnHandler input) :
    Invariant (trace ++ (state.step input).2) (state.step input).1 := by
  cases input with
  | trigger => exact holds.trigger
  | fastForward => exact holds.fastForward
  | cancel => exact holds.cancel
  | expiry => exact holds.expiry
  | handler k =>
      unfold CommsRideThroughTimer.step
      unfold OwnHandler at own
      dsimp only at own ⊢
      cases entry : state.pCommsRideThroughTimer.queued[k]? with
      | none =>
          rw [List.append_nil]
          exact holds
      | some queued =>
          rw [entry] at own
          have itself := own queued List.mem_cons_self
          have member : queued ∈ state.pCommsRideThroughTimer.queued :=
            List.mem_of_getElem? entry
          refine (holds.withTimer ?_ ?_).handler itself fun inProgress => ?_
          · intro handlerOf left
            exact holds.handlers handlerOf (WaitTimer.mem_handlers_of_take left)
          · intro inProgress other left
            exact holds.queued inProgress other (WaitTimer.mem_queued_of_take left)
          · exact holds.queued inProgress queued member (itself inProgress)

/-- **`CommsBadCB` is called rightly**, and `CommsIsBad` is true from each call to the next
`CommsGoodCB`, when no handler runs while the ride-through in progress is another's. -/
theorem run_commsBad (inputs : List RideThroughStep) (own : Guarded step OwnHandler {} inputs) :
    EachAfter Rightly [] (run step {} inputs).2 ∧
      (run step {} inputs).1.commsIsBad = isBadAfter (run step {} inputs).2 := by
  have start : Invariant [] {} :=
    { rightly := trivial
      isBad := rfl
      about := fun _ member => absurd member List.not_mem_nil
      handlers := fun _ member => absurd member List.not_mem_nil
      opened := fun inProgress => Bool.noConfusion inProgress
      queued := fun inProgress => Bool.noConfusion inProgress }
  have holds := guarded_trace Invariant
    (fun _ _ input holds own => Invariant.step holds input own) start own
  exact ⟨holds.rightly, holds.isBad⟩

/-- A ride-through is cancelled and its handler runs before the next `Trigger`; the second one
expires. -/
theorem run_commsBad_second :
    let inputs := [.trigger, .cancel, .handler 0, .trigger, .expiry, .handler 0, .cancel]
    (run step {} inputs).2 =
        [.triggered 1, .cancelled 1, .triggered 2, .expired 2, .commsBad 2 2, .commsGood] ∧
      EachAfter Rightly [] (run step {} inputs).2 :=
  ⟨by decide, (run_commsBad [.trigger, .cancel, .handler 0, .trigger, .expiry, .handler 0, .cancel]
    (by decide)).1⟩

/-- The handler of a cancelled ride-through runs after the next `Trigger`, and ends that one. -/
theorem run_endedByOther :
    let inputs := [.trigger, .cancel, .trigger, .handler 0]
    (run step {} inputs).2 = [.triggered 1, .cancelled 1, .triggered 2, .commsBad 2 1] ∧
      ¬EachAfter Rightly [] (run step {} inputs).2 := by
  decide

end CommsRideThroughTimer

end OpenDataCon.DNP3Port
