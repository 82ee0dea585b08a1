import Mathlib
import OpenDataCon.CBPort.Points
import OpenDataCon.Foundations.LossReports
import OpenDataCon.Foundations.Runs

/-!
# The queue of time-tagged events

The outstation keeps the events of its SOE points until the master collects
them. The last free place of the queue is not given to an event: an overflow
record (SOE index 127) takes it, and while the queue is full events are
dropped.

`addToDigitalEvents_cases` says what an addition can do. From it, a full queue
always ends in an overflow record, so a dropped event follows a reported loss
(`soeQueueStep_told`), and every run of losses is reported at its place in what
the reader gets (`soeQueue_reports`).
-/

set_option autoImplicit false

namespace OpenDataCon.CBPort

open LossReports Runs

/-- The part of the point table that holds the events. The size is a 64-bit number. -/
structure SOEQueue where
  binaryTimeTaggedEventQueue : List CBBinaryPoint := []
  binaryTimeTaggedEventQueueSize : Nat := 500
  soeBufferOverflowFlag : Bool := false
  /-- The overflow record. Only its time changes. -/
  queuefullpt : CBBinaryPoint := { channel := 1, soePoint := true, soeIndex := 127 }
deriving DecidableEq, Repr

namespace SOEQueue

/-- An event of a point: the point as it is, with the value and the time of the event. -/
def eventOf (inpt : CBBinaryPoint) (meas : Bool) (eventtime : Nat) : CBBinaryPoint :=
  inpt.setBinary meas eventtime

/-- Add an event of a point at the time `now`. -/
def addToDigitalEvents (queue : SOEQueue) (inpt : CBBinaryPoint) (meas : Bool)
    (eventtime now : Nat) : SOEQueue :=
  if inpt.soePoint then
    let pt := eventOf inpt meas eventtime
    let queue := { queue with queuefullpt := queue.queuefullpt.setBinary true now }
    if queue.binaryTimeTaggedEventQueue.length <
        (queue.binaryTimeTaggedEventQueueSize + (2 ^ 64 - 1)) % 2 ^ 64 then
      { queue with binaryTimeTaggedEventQueue := queue.binaryTimeTaggedEventQueue ++ [pt] }
    else if queue.binaryTimeTaggedEventQueue.length < queue.binaryTimeTaggedEventQueueSize then
      { queue with
        binaryTimeTaggedEventQueue := queue.binaryTimeTaggedEventQueue ++ [queue.queuefullpt]
        soeBufferOverflowFlag := true }
    else queue
  else queue

/-- The oldest event, which stays in the queue. -/
def peekNextTaggedEventPoint (queue : SOEQueue) : Option CBBinaryPoint :=
  queue.binaryTimeTaggedEventQueue.head?

/-- Drop the oldest event. -/
def popNextTaggedEventPoint (queue : SOEQueue) : SOEQueue × Bool :=
  match queue.binaryTimeTaggedEventQueue with
  | [] => (queue, false)
  | _ :: rest => ({ queue with binaryTimeTaggedEventQueue := rest }, true)

def timeTaggedDataAvailable (queue : SOEQueue) : Bool :=
  !queue.binaryTimeTaggedEventQueue.isEmpty

/-- The operations of a run. -/
inductive Operation where
  | add (inpt : CBBinaryPoint) (meas : Bool) (eventtime now : Nat)
  | peek
  | pop

/-- One operation; a pop puts out the event it drops. -/
def step (queue : SOEQueue) : Operation → SOEQueue × List CBBinaryPoint
  | .add inpt meas eventtime now => (queue.addToDigitalEvents inpt meas eventtime now, [])
  | .peek => (queue, [])
  | .pop => (queue.popNextTaggedEventPoint.1, queue.peekNextTaggedEventPoint.toList)

/-- An event that was added, and the free places it found. -/
structure Arrival where
  event : CBBinaryPoint
  free : Nat

/-- An event as it arrives at a queue. -/
def arrival (queue : SOEQueue) (inpt : CBBinaryPoint) (meas : Bool) (eventtime : Nat) : Arrival :=
  { event := eventOf inpt meas eventtime
    free := queue.binaryTimeTaggedEventQueueSize - queue.binaryTimeTaggedEventQueue.length }

/-- The event an operation adds to a queue. -/
def arrivalsOf (queue : SOEQueue) : Operation → List Arrival
  | .add inpt meas eventtime _ =>
    if inpt.soePoint then [queue.arrival inpt meas eventtime] else []
  | .peek => []
  | .pop => []

/-- The events a run adds, in order. -/
def arrivals : SOEQueue → List Operation → List Arrival
  | _, [] => []
  | queue, operation :: rest => arrivalsOf queue operation ++ arrivals (queue.step operation).1 rest

/-- What is not lost is carried as it was added. -/
abbrev Told (segments : List (Segment Arrival CBBinaryPoint)) (added : List Arrival)
    (carried : List CBBinaryPoint) : Prop :=
  Reported Arrival.event (fun arrival => arrival.free ≤ 1) (fun record => record.soeIndex = 127)
    segments added carried

/-- The history of a queue, from the popped events and the events it holds. -/
structure History (size : Nat) (queue : SOEQueue) (added : List Arrival)
    (popped : List CBBinaryPoint) : Prop where
  sized : queue.binaryTimeTaggedEventQueueSize = size
  bounded : queue.binaryTimeTaggedEventQueue.length ≤ size
  marks : queue.queuefullpt.soeIndex = 127
  told : ∃ segments, Told segments added (popped ++ queue.binaryTimeTaggedEventQueue) ∧
    (queue.binaryTimeTaggedEventQueue.length = size → EndsLost segments)

/-- The three outcomes of an addition: the event is stored with a place to
spare, the overflow record takes the last place, or the queue is full. -/
theorem addToDigitalEvents_cases {queue : SOEQueue} {inpt : CBBinaryPoint} (meas : Bool)
    (eventtime now : Nat) (isSOE : inpt.soePoint = true)
    (positive : 1 ≤ queue.binaryTimeTaggedEventQueueSize)
    (inWord : queue.binaryTimeTaggedEventQueueSize < 2 ^ 64) :
    let full := queue.queuefullpt.setBinary true now
    let added := queue.addToDigitalEvents inpt meas eventtime now
    let held := queue.binaryTimeTaggedEventQueue
    added.binaryTimeTaggedEventQueueSize = queue.binaryTimeTaggedEventQueueSize ∧
    added.queuefullpt = full ∧
    ((held.length + 1 < queue.binaryTimeTaggedEventQueueSize ∧
        added.binaryTimeTaggedEventQueue = held ++ [eventOf inpt meas eventtime]) ∨
      (held.length + 1 = queue.binaryTimeTaggedEventQueueSize ∧
        added.binaryTimeTaggedEventQueue = held ++ [full]) ∨
      (queue.binaryTimeTaggedEventQueueSize ≤ held.length ∧
        added.binaryTimeTaggedEventQueue = held)) := by
  have less : (queue.binaryTimeTaggedEventQueueSize + (2 ^ 64 - 1)) % 2 ^ 64 =
      queue.binaryTimeTaggedEventQueueSize - 1 := by omega
  simp only [addToDigitalEvents, isSOE, if_true, less]
  split
  · exact ⟨rfl, rfl, Or.inl ⟨by omega, rfl⟩⟩
  · split
    · exact ⟨rfl, rfl, Or.inr (Or.inl ⟨by omega, rfl⟩)⟩
    · exact ⟨rfl, rfl, Or.inr (Or.inr ⟨by omega, rfl⟩)⟩

variable {size : Nat} {queue : SOEQueue} {added : List Arrival} {popped : List CBBinaryPoint}

/-- An addition keeps the history. -/
theorem history_add (positive : 1 ≤ size) (inWord : size < 2 ^ 64)
    (history : History size queue added popped) (inpt : CBBinaryPoint) (meas : Bool)
    (eventtime now : Nat) :
    History size (queue.addToDigitalEvents inpt meas eventtime now)
      (added ++ arrivalsOf queue (.add inpt meas eventtime now)) popped := by
  obtain ⟨sized, bounded, marks, segments, told, fullEnds⟩ := history
  cases isSOE : inpt.soePoint with
  | false =>
      simp only [arrivalsOf, addToDigitalEvents, isSOE, Bool.false_eq_true, if_false,
        List.append_nil]
      exact ⟨sized, bounded, marks, segments, told, fullEnds⟩
  | true =>
      obtain ⟨sameSize, samePoint, outcome⟩ :=
        addToDigitalEvents_cases meas eventtime now isSOE
          (sized ▸ positive) (sized ▸ inWord)
      simp only [arrivalsOf, isSOE, if_true]
      refine ⟨sameSize.trans sized, ?_, by rw [samePoint]; exact marks, ?_⟩
      · rcases outcome with ⟨room, held⟩ | ⟨last, held⟩ | ⟨full, held⟩
        · rw [held, List.length_append, List.length_singleton]
          omega
        · rw [held, List.length_append, List.length_singleton]
          omega
        · rw [held]
          exact bounded
      · have reason (little : size ≤ queue.binaryTimeTaggedEventQueue.length + 1) :
            (queue.arrival inpt meas eventtime).free ≤ 1 := by
          simp only [arrival, sized]
          omega
        rcases outcome with ⟨room, held⟩ | ⟨last, held⟩ | ⟨full, held⟩
        · refine ⟨segments ++ [.kept (queue.arrival inpt meas eventtime)], ?_, fun nowFull => ?_⟩
          · rw [held, ← List.append_assoc]
            exact told.keep _
          · rw [held, List.length_append, List.length_singleton] at nowFull
            omega
        · have marksFull : (queue.queuefullpt.setBinary true now).soeIndex = 127 := marks
          obtain ⟨extended, reported, ends⟩ := told.lose (reason (by omega)) marksFull
          refine ⟨extended, ?_, fun _ => ends⟩
          rw [held, ← List.append_assoc]
          exact reported
        · have isFull : queue.binaryTimeTaggedEventQueue.length = size := by omega
          obtain ⟨extended, reported, ends⟩ := told.loseAgain (fullEnds isFull)
            (reason (by omega))
          refine ⟨extended, ?_, fun _ => ends⟩
          rw [held]
          exact reported

/-- A pop moves the oldest event from the queue to what the reader has. -/
theorem history_pop (positive : 1 ≤ size) (history : History size queue added popped) :
    History size queue.popNextTaggedEventPoint.1 added
      (popped ++ queue.peekNextTaggedEventPoint.toList) := by
  obtain ⟨sized, bounded, marks, segments, told, fullEnds⟩ := history
  unfold popNextTaggedEventPoint peekNextTaggedEventPoint
  cases held : queue.binaryTimeTaggedEventQueue with
  | nil =>
      refine ⟨sized, by rw [held]; exact Nat.zero_le _, marks, segments, ?_, fun full => ?_⟩
      · rw [held] at told ⊢
        simpa using told
      · rw [held] at full
        exact absurd full (by simp; omega)
  | cons oldest rest =>
      rw [held] at told bounded
      rw [List.length_cons] at bounded
      refine ⟨sized, by simpa using (by omega : rest.length ≤ size), marks, segments, ?_,
        fun full => ?_⟩
      · simpa using told
      · simp only at full
        omega

/-- **Every operation keeps the history.** -/
theorem soeQueueStep_told (positive : 1 ≤ size) (inWord : size < 2 ^ 64)
    (history : History size queue added popped) (operation : Operation) :
    History size (queue.step operation).1 (added ++ arrivalsOf queue operation)
      (popped ++ (queue.step operation).2) := by
  cases operation with
  | add inpt meas eventtime now =>
      simp only [step, List.append_nil]
      exact history_add positive inWord history inpt meas eventtime now
  | peek => simpa [step, arrivalsOf] using history
  | pop =>
      simp only [step, arrivalsOf, List.append_nil]
      exact history_pop positive history

/-- Every run keeps the history. -/
theorem run_history (positive : 1 ≤ size) (inWord : size < 2 ^ 64)
    (history : History size queue added popped) (operations : List Operation) :
    History size (run step queue operations).1 (added ++ arrivals queue operations)
      (popped ++ (run step queue operations).2) := by
  induction operations generalizing queue added popped with
  | nil => simpa [arrivals] using history
  | cons operation rest ih =>
      have next := ih (soeQueueStep_told positive inWord history operation)
      simpa only [run_cons, arrivals, List.append_assoc] using next

/-- **The event queue.** With room for at least one record, over every run the
queue never outgrows its size, and what was popped followed by what is held is
what was added, except that each maximal run of losses is replaced by one or
more overflow records; an event is lost only when at most one place was free. -/
theorem soeQueue_reports (size : Nat) (positive : 1 ≤ size) (inWord : size < 2 ^ 64)
    (operations : List Operation) :
    let start : SOEQueue := { binaryTimeTaggedEventQueueSize := size }
    let final := run step start operations
    final.1.binaryTimeTaggedEventQueue.length ≤ size ∧
      ∃ segments, Told segments (arrivals start operations)
        (final.2 ++ final.1.binaryTimeTaggedEventQueue) := by
  intro start final
  have initial : History size start [] [] :=
    ⟨rfl, Nat.zero_le _, rfl, [], Reported.nil, fun full => by
      simp only [start, List.length_nil] at full
      omega⟩
  have history := run_history positive inWord initial operations
  obtain ⟨segments, told, -⟩ := history.told
  exact ⟨history.bounded, segments, by simpa using told⟩

/-- Three additions to a queue of two places. -/
theorem soeQueue_reports_overflow :
    let start : SOEQueue := { binaryTimeTaggedEventQueueSize := 2 }
    let inpt : CBBinaryPoint := { soePoint := true, soeIndex := 5 }
    let operations : List Operation :=
      [.add inpt true 10 10, .add inpt false 20 20, .pop, .add inpt true 30 30]
    let final := run step start operations
    final.1.binaryTimeTaggedEventQueue.length ≤ 2 ∧
      ∃ segments, Told segments (arrivals start operations)
        (final.2 ++ final.1.binaryTimeTaggedEventQueue) :=
  soeQueue_reports 2 (by decide) (by decide) _

end SOEQueue

end OpenDataCon.CBPort
