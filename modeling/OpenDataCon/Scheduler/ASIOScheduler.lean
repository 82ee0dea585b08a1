import OpenDataCon.Foundations.PriorityQueues
import OpenDataCon.Foundations.Traces
import OpenDataCon.Foundations.WaitTimers

/-!
# The poll scheduler

An `ASIOScheduler` keeps its tasks in a priority queue and waits for the next one. The handler takes
the task on top, executes it, and then pops whatever is on top by then and pushes the task again. An
action may call the scheduler itself, and so may others between two handlers.

Nothing ties a handler to the schedule it was armed for. One that has expired before `Stop`, `Clear`
or another `Start` still runs: it executes an action of a stopped scheduler, takes the top of an
empty one, or executes a task before its time (`run_stale`). When each handler that runs is the one
that the last `Start` armed, with neither `Stop` nor `Clear` since, and no action clears the
schedule, then the tasks are executed rightly and none is lost (`run_polls`).
-/

set_option autoImplicit false

namespace OpenDataCon.Scheduler

open Runs Traces WaitTimers

/-- A task, and which one it is. -/
structure ASIOSchedulerTask where
  id : Nat
  periodms : Nat
  nextpoll : Nat
deriving DecidableEq, Repr

namespace ASIOSchedulerTask

def schedule (task : ASIOSchedulerTask) (now : Nat) : ASIOSchedulerTask :=
  { task with nextpoll := now + task.periodms }

def reschedule (task : ASIOSchedulerTask) : ASIOSchedulerTask :=
  { task with nextpoll := task.nextpoll + task.periodms }

end ASIOSchedulerTask

abbrev ScheduleType := PriorityQueue ASIOSchedulerTask ASIOSchedulerTask.nextpoll

inductive SchedulerEvent where
  | added (id : Nat)
  | cleared
  | started
  | stopped
  /-- An action begins; the schedule and the time are those at which it does. -/
  | executed (task : ASIOSchedulerTask) (Schedule : List ASIOSchedulerTask) (now : Nat)
  | rescheduled (id : Nat)
  /-- The top of an empty schedule is taken or popped. -/
  | emptySchedule
deriving DecidableEq, Repr

/-- The scheduler, the task whose action runs, the time, and which of the handlers, numbered by the
calls of `Start`, was armed by the last one with neither `Stop` nor `Clear` since. -/
structure ASIOScheduler where
  running : Bool := false
  Schedule : List ASIOSchedulerTask := []
  pTimer : WaitTimer Nat := {}
  expiresAt : Nat := 0
  executing : Option ASIOSchedulerTask := none
  now : Nat := 0
  created : Nat := 0
  starts : Nat := 0
  armed : Option Nat := none
deriving Repr

/-- A call, by an action or by others, the end of an action, time, an expiry, or a handler. -/
inductive SchedulerStep where
  | add (periodms : Nat)
  | start
  | stop
  | clear
  | actionEnds
  | tick (ms : Nat)
  | expiry
  | handler (k : Nat)
deriving DecidableEq, Repr

namespace ASIOScheduler

/-! ## The steps -/

def Start (scheduler : ASIOScheduler) : ASIOScheduler × List SchedulerEvent :=
  match scheduler.Schedule with
  | [] => (scheduler, [])
  | task :: _ =>
    ({ scheduler with
        running := true
        pTimer := scheduler.pTimer.arm (scheduler.starts + 1)
        expiresAt := task.nextpoll
        starts := scheduler.starts + 1
        armed := some (scheduler.starts + 1) },
      [.started])

/-- `if (running) Start();` -/
def restart (scheduler : ASIOScheduler) : ASIOScheduler × List SchedulerEvent :=
  if scheduler.running then scheduler.Start else (scheduler, [])

def Add (queue : ScheduleType) (scheduler : ASIOScheduler) (periodms : Nat) :
    ASIOScheduler × List SchedulerEvent :=
  let task := ASIOSchedulerTask.schedule ⟨scheduler.created, periodms, 0⟩ scheduler.now
  let added := { scheduler with
    Schedule := queue.push scheduler.Schedule task
    created := scheduler.created + 1 }
  (added.restart.1, .added task.id :: added.restart.2)

def Stop (scheduler : ASIOScheduler) : ASIOScheduler × List SchedulerEvent :=
  ({ scheduler with running := false, pTimer := scheduler.pTimer.cancel, armed := none },
    [.stopped])

def Clear (scheduler : ASIOScheduler) : ASIOScheduler × List SchedulerEvent :=
  ({ scheduler with Schedule := [], armed := none }, [.cleared])

/-- `DoScheduledTask` up to the action. -/
def DoScheduledTask (scheduler : ASIOScheduler) : ASIOScheduler × List SchedulerEvent :=
  match scheduler.Schedule with
  | [] => (scheduler, [.emptySchedule])
  | task :: _ =>
    ({ scheduler with executing := some task, armed := none },
      [.executed task scheduler.Schedule scheduler.now])

/-- `DoScheduledTask` after the action. The task is rescheduled in place, so where it is still in
the schedule it changes there too. -/
def actionEnds (queue : ScheduleType) (scheduler : ASIOScheduler) :
    ASIOScheduler × List SchedulerEvent :=
  match scheduler.executing, scheduler.Schedule with
  | none, _ => (scheduler, [])
  | some _, [] => ({ scheduler with executing := none }, [.emptySchedule])
  | some task, _ =>
    let popped := (queue.pop scheduler.Schedule).map fun other =>
      if other.id = task.id then task.reschedule else other
    let pushed := { scheduler with
      Schedule := queue.push popped task.reschedule
      executing := none }
    (pushed.restart.1, .rescheduled task.id :: pushed.restart.2)

/-- One step. Handlers run one at a time, and the timer expires when its time has come. -/
def step (queue : ScheduleType) (scheduler : ASIOScheduler) :
    SchedulerStep → ASIOScheduler × List SchedulerEvent
  | .add periodms => scheduler.Add queue periodms
  | .start => scheduler.Start
  | .stop => scheduler.Stop
  | .clear => scheduler.Clear
  | .actionEnds => scheduler.actionEnds queue
  | .tick ms => ({ scheduler with now := scheduler.now + ms }, [])
  | .expiry =>
    if scheduler.expiresAt ≤ scheduler.now then
      ({ scheduler with pTimer := scheduler.pTimer.expire }, [])
    else (scheduler, [])
  | .handler k =>
    match scheduler.executing, scheduler.pTimer.queued[k]? with
    | none, some (_, completion) =>
      let taken := { scheduler with pTimer := scheduler.pTimer.take k }
      if completion ≠ .aborted then taken.DoScheduledTask else (taken, [])
    | _, _ => (scheduler, [])

/-! ## What is meant -/

/-- The tasks that were added and not cleared. -/
def liveAfter (trace : List SchedulerEvent) : List Nat :=
  trace.foldl (fun live event =>
    match event with
    | .added id => live ++ [id]
    | .cleared => []
    | _ => live) []

/-- The scheduler was started, and not stopped since. -/
def startedAfter (trace : List SchedulerEvent) : Bool :=
  trace.foldl (fun started event =>
    match event with
    | .started => true
    | .stopped => false
    | _ => started) false

/-- A task is executed by a scheduler that is started, when it is the next one and its time has
come; no task is executed or rescheduled that was cleared, and nothing is taken from an empty
schedule. -/
def Rightly (before : List SchedulerEvent) : SchedulerEvent → Prop
  | .executed task Schedule now =>
    startedAfter before = true ∧ task.id ∈ liveAfter before ∧ task ∈ Schedule ∧
      (∀ other ∈ Schedule, task.nextpoll ≤ other.nextpoll) ∧ task.nextpoll ≤ now
  | .rescheduled id => id ∈ liveAfter before
  | .emptySchedule => False
  | _ => True

instance decidableRightly (before : List SchedulerEvent) : ∀ event, Decidable (Rightly before event)
  | .executed task Schedule now => inferInstanceAs (Decidable (startedAfter before = true ∧
      task.id ∈ liveAfter before ∧ task ∈ Schedule ∧
      (∀ other ∈ Schedule, task.nextpoll ≤ other.nextpoll) ∧ task.nextpoll ≤ now))
  | .rescheduled id => inferInstanceAs (Decidable (id ∈ liveAfter before))
  | .emptySchedule => .isFalse not_false
  | .added _ | .cleared | .started | .stopped => .isTrue trivial

/-- A handler that runs without an error is the one that is armed, and no action clears the
schedule. -/
def Current (scheduler : ASIOScheduler) : SchedulerStep → Prop
  | .handler k => ∀ entry ∈ scheduler.pTimer.queued[k]?.toList,
      entry.2 = .expired → scheduler.executing = none → scheduler.armed = some entry.1
  | .clear => scheduler.executing = none
  | _ => True

instance decidableCurrent (scheduler : ASIOScheduler) : ∀ input, Decidable (scheduler.Current input)
  | .handler k => inferInstanceAs (Decidable (∀ entry ∈ scheduler.pTimer.queued[k]?.toList,
      entry.2 = .expired → scheduler.executing = none → scheduler.armed = some entry.1))
  | .clear => inferInstanceAs (Decidable (scheduler.executing = none))
  | .add _ | .start | .stop | .actionEnds | .tick _ | .expiry => .isTrue trivial

/-! ## Every run of current handlers -/

variable {queue : ScheduleType} {trace : List SchedulerEvent} {scheduler : ASIOScheduler}

theorem liveAfter_append (first second : List SchedulerEvent) :
    liveAfter (first ++ second) = second.foldl (fun live event =>
      match event with
      | .added id => live ++ [id]
      | .cleared => []
      | _ => live) (liveAfter first) := List.foldl_append

theorem startedAfter_append (first second : List SchedulerEvent) :
    startedAfter (first ++ second) = second.foldl (fun started event =>
      match event with
      | .started => true
      | .stopped => false
      | _ => started) (startedAfter first) := List.foldl_append

/-- What the events say of the schedule and the flag. -/
structure Recorded (queue : ScheduleType) (trace : List SchedulerEvent)
    (scheduler : ASIOScheduler) : Prop where
  rightly : EachAfter Rightly [] trace
  heap : queue.IsHeap scheduler.Schedule
  live : (scheduler.Schedule.map ASIOSchedulerTask.id).Perm (liveAfter trace)
  nodup : (liveAfter trace).Nodup
  created : ∀ id ∈ liveAfter trace, id < scheduler.created
  running : scheduler.running = startedAfter trace

/-- The armed handler is for the task on top, and has expired only when the time of that task has
come. -/
structure Timed (scheduler : ASIOScheduler) : Prop where
  starts : ∀ n ∈ scheduler.pTimer.handlers, n ≤ scheduler.starts
  armed : ∀ n, scheduler.armed = some n → scheduler.running = true ∧
    ∃ top rest, scheduler.Schedule = top :: rest ∧ scheduler.expiresAt = top.nextpoll ∧
      ∀ entry ∈ scheduler.pTimer.queued, entry.1 = n → entry.2 = .expired →
        top.nextpoll ≤ scheduler.now

/-- The task whose action runs is on top, and its time has come. -/
def Executing (scheduler : ASIOScheduler) : Prop :=
  ∀ task, scheduler.executing = some task →
    scheduler.Schedule.head? = some task ∧ task.nextpoll ≤ scheduler.now

structure Invariant (queue : ScheduleType) (trace : List SchedulerEvent)
    (scheduler : ASIOScheduler) : Prop where
  recorded : Recorded queue trace scheduler
  timed : Timed scheduler
  executing : Executing scheduler

theorem start_of_nil (empty : scheduler.Schedule = []) : scheduler.Start = (scheduler, []) := by
  unfold Start
  rw [empty]

theorem start_of_cons {top : ASIOSchedulerTask} {rest : List ASIOSchedulerTask}
    (schedule : scheduler.Schedule = top :: rest) :
    scheduler.Start =
      ({ scheduler with
          running := true
          pTimer := scheduler.pTimer.arm (scheduler.starts + 1)
          expiresAt := top.nextpoll
          starts := scheduler.starts + 1
          armed := some (scheduler.starts + 1) },
        [.started]) := by
  unfold Start
  split
  · next empty => cases empty.symm.trans schedule
  · next task tail found =>
    obtain ⟨rfl, -⟩ := List.cons_eq_cons.mp (found.symm.trans schedule)
    rfl

/-- `Start` arms a handler for the task on top. -/
theorem timed_start (starts : ∀ n ∈ scheduler.pTimer.handlers, n ≤ scheduler.starts)
    (timed : scheduler.Schedule = [] → Timed scheduler) : Timed scheduler.Start.1 := by
  cases schedule : scheduler.Schedule with
  | nil =>
      rw [start_of_nil schedule]
      exact timed schedule
  | cons top rest =>
      rw [start_of_cons schedule]
      refine ⟨fun n member => ?_, fun n armed => ⟨rfl, top, rest, schedule, rfl, ?_⟩⟩
      · rcases WaitTimer.mem_handlers_arm.mp member with rfl | earlier
        · exact Nat.le_refl _
        · exact Nat.le_succ_of_le (starts n earlier)
      · -- the new handler is not in the queue yet
        intro entry member same
        have earlier : entry.1 ∈ scheduler.pTimer.handlers := by
          rcases WaitTimer.mem_queued_cancel.mp member with queued | ⟨waiting, -⟩
          · exact WaitTimer.mem_handlers_of_queued queued
          · exact WaitTimer.mem_handlers_of_waiting waiting
        have bound := starts entry.1 earlier
        have number : n = scheduler.starts + 1 := (Option.some.inj armed).symm
        omega

theorem Recorded.start (recorded : Recorded queue trace scheduler) :
    Recorded queue (trace ++ scheduler.Start.2) scheduler.Start.1 := by
  cases schedule : scheduler.Schedule with
  | nil =>
      rw [start_of_nil schedule, List.append_nil]
      exact recorded
  | cons top rest =>
      rw [start_of_cons schedule]
      have same : liveAfter (trace ++ [.started]) = liveAfter trace := liveAfter_append _ _
      refine ⟨recorded.rightly.snoc trivial, recorded.heap, ?_, ?_, ?_, ?_⟩
      · rw [same]
        exact recorded.live
      · rw [same]
        exact recorded.nodup
      · rw [same]
        exact recorded.created
      · rw [startedAfter_append]
        rfl

theorem Start_Schedule : scheduler.Start.1.Schedule = scheduler.Schedule ∧
    scheduler.Start.1.executing = scheduler.executing ∧ scheduler.Start.1.now = scheduler.now := by
  unfold Start
  split <;> exact ⟨rfl, rfl, rfl⟩

theorem Executing.start (executing : Executing scheduler) : Executing scheduler.Start.1 := by
  obtain ⟨schedule, task, now⟩ := @Start_Schedule scheduler
  unfold Executing
  rw [schedule, task, now]
  exact executing

/-- `Start` where it is called when the scheduler runs. -/
theorem Invariant.restart (recorded : Recorded queue trace scheduler)
    (starts : ∀ n ∈ scheduler.pTimer.handlers, n ≤ scheduler.starts)
    (notEmpty : scheduler.Schedule ≠ [])
    (unarmed : scheduler.running = false → scheduler.armed = none)
    (executing : Executing scheduler) :
    Invariant queue (trace ++ scheduler.restart.2) scheduler.restart.1 := by
  unfold ASIOScheduler.restart
  cases running : scheduler.running with
  | true =>
      exact ⟨recorded.start, timed_start starts fun empty => absurd empty notEmpty,
        executing.start⟩
  | false =>
      rw [if_neg Bool.false_ne_true, List.append_nil]
      refine ⟨recorded, ⟨starts, fun n armed => ?_⟩, executing⟩
      rw [unarmed running] at armed
      cases armed

/-- A scheduler that is not running has no armed handler. -/
theorem Timed.unarmed (timed : Timed scheduler) (stopped : scheduler.running = false) :
    scheduler.armed = none := by
  cases armed : scheduler.armed with
  | none => rfl
  | some n =>
      rw [(timed.armed n armed).1] at stopped
      cases stopped

theorem push_ne_nil (heap : List ASIOSchedulerTask) (task : ASIOSchedulerTask) :
    queue.push heap task ≠ [] := by
  intro empty
  have perm := queue.perm_push heap task
  rw [empty] at perm
  exact List.cons_ne_nil _ _ (List.nil_perm.mp perm)

/-- A task that is added does not take the place of the one whose action runs. -/
theorem Executing.push (executing : Executing scheduler) (heap : queue.IsHeap scheduler.Schedule)
    {task : ASIOSchedulerTask} (later : scheduler.now ≤ task.nextpoll) (created : Nat) :
    Executing { scheduler with Schedule := queue.push scheduler.Schedule task, created } := by
  intro running isRunning
  obtain ⟨top, due⟩ := executing running isRunning
  refine ⟨?_, due⟩
  obtain ⟨rest, schedule⟩ : ∃ rest, scheduler.Schedule = running :: rest :=
    ⟨_, (List.cons_head?_tail top).symm⟩
  dsimp only
  rw [schedule] at heap ⊢
  exact queue.top_push heap (Nat.le_trans due later)

theorem Invariant.add (holds : Invariant queue trace scheduler) (periodms : Nat) :
    Invariant queue (trace ++ (scheduler.Add queue periodms).2) (scheduler.Add queue periodms).1 := by
  obtain ⟨recorded, timed, executing⟩ := holds
  unfold ASIOScheduler.Add
  dsimp only
  rw [← List.singleton_append, ← List.append_assoc]
  refine Invariant.restart ?_ timed.starts (push_ne_nil _ _) timed.unarmed
    (executing.push recorded.heap (Nat.le_add_right _ _) _)
  have live : liveAfter (trace ++ [.added scheduler.created]) =
      liveAfter trace ++ [scheduler.created] := liveAfter_append _ _
  have new : scheduler.created ∉ liveAfter trace := fun member =>
    Nat.lt_irrefl _ (recorded.created _ member)
  refine ⟨recorded.rightly.snoc trivial, queue.isHeap_push recorded.heap, ?_, ?_, ?_, ?_⟩
  · refine ((queue.perm_push _ _).map _).trans ?_
    dsimp only [ASIOSchedulerTask.schedule]
    rw [live, List.map_cons]
    exact (recorded.live.cons _).trans (List.perm_append_singleton _ _).symm
  · dsimp only [ASIOSchedulerTask.schedule]
    rw [live]
    refine List.nodup_append.mpr ⟨recorded.nodup, List.pairwise_singleton _ _, ?_⟩
    intro old member added last equal
    rw [equal, List.mem_singleton.mp last] at member
    exact new member
  · dsimp only [ASIOSchedulerTask.schedule]
    rw [live]
    intro id member
    rcases List.mem_append.mp member with old | added
    · exact Nat.lt_succ_of_lt (recorded.created id old)
    · rw [List.mem_singleton.mp added]
      exact Nat.lt_succ_self _
  · rw [startedAfter_append]
    exact recorded.running

theorem Invariant.start (holds : Invariant queue trace scheduler) :
    Invariant queue (trace ++ scheduler.Start.2) scheduler.Start.1 :=
  ⟨holds.recorded.start, timed_start holds.timed.starts fun _ => holds.timed,
    holds.executing.start⟩

theorem Invariant.stop (holds : Invariant queue trace scheduler) :
    Invariant queue (trace ++ scheduler.Stop.2) scheduler.Stop.1 := by
  obtain ⟨recorded, timed, executing⟩ := holds
  have same : liveAfter (trace ++ [.stopped]) = liveAfter trace := liveAfter_append _ _
  refine ⟨⟨recorded.rightly.snoc trivial, recorded.heap, ?_, ?_, ?_, ?_⟩, ⟨?_, ?_⟩, executing⟩
  · exact same ▸ recorded.live
  · exact same ▸ recorded.nodup
  · exact same ▸ recorded.created
  · exact (startedAfter_append trace [.stopped]).symm
  · intro n member
    exact timed.starts n (WaitTimer.mem_handlers_complete.mp member)
  · intro n armed
    cases armed

/-- The schedule is cleared while no action runs. -/
theorem Invariant.clear (holds : Invariant queue trace scheduler)
    (idle : scheduler.executing = none) :
    Invariant queue (trace ++ scheduler.Clear.2) scheduler.Clear.1 := by
  obtain ⟨recorded, timed, executing⟩ := holds
  have none : liveAfter (trace ++ [.cleared]) = [] := liveAfter_append _ _
  refine ⟨⟨recorded.rightly.snoc trivial, queue.isHeap_nil, ?_, ?_, ?_, ?_⟩, ⟨timed.starts, ?_⟩, ?_⟩
  · exact none ▸ List.Perm.refl _
  · exact none ▸ List.nodup_nil
  · exact none ▸ fun _ member => absurd member List.not_mem_nil
  · rw [startedAfter_append]
    exact recorded.running
  · intro n armed
    cases armed
  · intro task running
    exact absurd (idle.symm.trans running) (by simp)

/-- The armed handler executes the task on top. -/
theorem Invariant.doScheduledTask (holds : Invariant queue trace scheduler) {top : ASIOSchedulerTask}
    {rest : List ASIOSchedulerTask} (schedule : scheduler.Schedule = top :: rest)
    (running : scheduler.running = true) (due : top.nextpoll ≤ scheduler.now) :
    Invariant queue (trace ++ scheduler.DoScheduledTask.2) scheduler.DoScheduledTask.1 := by
  obtain ⟨recorded, timed, executing⟩ := holds
  have begins : scheduler.DoScheduledTask = ({ scheduler with executing := some top, armed := none },
      [.executed top scheduler.Schedule scheduler.now]) := by
    unfold ASIOScheduler.DoScheduledTask
    rw [schedule]
  rw [begins]
  have same : liveAfter (trace ++ [.executed top scheduler.Schedule scheduler.now]) =
      liveAfter trace := liveAfter_append _ _
  have onTop : top ∈ scheduler.Schedule := by
    rw [schedule]
    exact List.mem_cons_self
  have least : ∀ other ∈ scheduler.Schedule, top.nextpoll ≤ other.nextpoll := by
    have heap := recorded.heap
    rw [schedule] at heap ⊢
    exact queue.top_le heap
  refine ⟨⟨recorded.rightly.snoc ⟨?_, ?_, onTop, least, due⟩, recorded.heap, ?_, ?_, ?_, ?_⟩,
    ⟨timed.starts, ?_⟩, ?_⟩
  · exact recorded.running.symm.trans running
  · exact recorded.live.mem_iff.mp (List.mem_map_of_mem onTop)
  · exact same ▸ recorded.live
  · exact same ▸ recorded.nodup
  · exact same ▸ recorded.created
  · rw [startedAfter_append]
    exact recorded.running
  · intro n armed
    cases armed
  · intro task isRunning
    obtain rfl : top = task := Option.some.inj isRunning
    exact ⟨by rw [schedule]; rfl, due⟩

/-- The action ends: the task on top is the one that was executed. -/
theorem Invariant.actionEnds (holds : Invariant queue trace scheduler) :
    Invariant queue (trace ++ (scheduler.actionEnds queue).2) (scheduler.actionEnds queue).1 := by
  obtain ⟨recorded, timed, executing⟩ := holds
  cases running : scheduler.executing with
  | none =>
      have idle : scheduler.actionEnds queue = (scheduler, []) := by
        unfold ASIOScheduler.actionEnds
        rw [running]
      rw [idle, List.append_nil]
      exact ⟨recorded, timed, executing⟩
  | some task =>
      obtain ⟨top, -⟩ := executing task running
      obtain ⟨rest, schedule⟩ : ∃ rest, scheduler.Schedule = task :: rest :=
        ⟨_, (List.cons_head?_tail top).symm⟩
      have popped := queue.perm_pop task rest
      have ids := recorded.live
      rw [schedule, List.map_cons] at ids
      have single : task.id ∉ rest.map ASIOSchedulerTask.id :=
        (List.nodup_cons.mp (ids.nodup_iff.mpr recorded.nodup)).1
      -- no other task in the schedule changes with this one
      have unchanged : ((queue.pop (task :: rest)).map fun other =>
          if other.id = task.id then task.reschedule else other) = queue.pop (task :: rest) := by
        refine (List.map_congr_left fun other member => if_neg fun same => ?_).trans (List.map_id _)
        exact single (same ▸ List.mem_map_of_mem (popped.mem_iff.mp member))
      have ends : scheduler.actionEnds queue =
          let pushed := { scheduler with
            Schedule := queue.push (queue.pop (task :: rest)) task.reschedule
            executing := none }
          (pushed.restart.1, .rescheduled task.id :: pushed.restart.2) := by
        unfold ASIOScheduler.actionEnds
        rw [running, schedule]
        dsimp only
        rw [unchanged]
      rw [ends]
      dsimp only
      rw [List.append_cons]
      have same : liveAfter (trace ++ [.rescheduled task.id]) = liveAfter trace :=
        liveAfter_append _ _
      have heap := recorded.heap
      rw [schedule] at heap
      refine Invariant.restart ⟨recorded.rightly.snoc ?_, queue.isHeap_push (queue.isHeap_pop heap),
        ?_, ?_, ?_, ?_⟩ timed.starts (push_ne_nil _ _) timed.unarmed ?_
      · exact ids.mem_iff.mp List.mem_cons_self
      · rw [same]
        refine ((queue.perm_push _ _).map _).trans ?_
        rw [List.map_cons]
        exact ((popped.map _).cons _).trans ids
      · exact same ▸ recorded.nodup
      · exact same ▸ recorded.created
      · rw [startedAfter_append]
        exact recorded.running
      · intro other isRunning
        cases isRunning

/-- Time passes, and the timer may expire. -/
theorem Invariant.later (holds : Invariant queue trace scheduler) (ms : Nat) :
    Invariant queue trace { scheduler with now := scheduler.now + ms } where
  recorded := { holds.recorded with }
  timed := by
    refine ⟨holds.timed.starts, fun n armed => ?_⟩
    obtain ⟨running, top, rest, schedule, expires, due⟩ := holds.timed.armed n armed
    refine ⟨running, top, rest, schedule, expires, fun entry member same expired => ?_⟩
    exact Nat.le_add_right_of_le (due entry member same expired)
  executing := by
    intro task running
    obtain ⟨top, due⟩ := holds.executing task running
    exact ⟨top, Nat.le_add_right_of_le due⟩

theorem Invariant.expiry (holds : Invariant queue trace scheduler)
    (come : scheduler.expiresAt ≤ scheduler.now) :
    Invariant queue trace { scheduler with pTimer := scheduler.pTimer.expire } where
  recorded := { holds.recorded with }
  timed := by
    refine ⟨fun n member => holds.timed.starts n (WaitTimer.mem_handlers_complete.mp member), ?_⟩
    intro n armed
    obtain ⟨running, top, rest, schedule, expires, due⟩ := holds.timed.armed n armed
    refine ⟨running, top, rest, schedule, expires, fun entry member same expired => ?_⟩
    rcases WaitTimer.mem_queued_expire.mp member with queued | -
    · exact due entry queued same expired
    · exact expires ▸ come
  executing := holds.executing

/-- A handler leaves the queue. -/
theorem Invariant.take (holds : Invariant queue trace scheduler) (k : Nat) :
    Invariant queue trace { scheduler with pTimer := scheduler.pTimer.take k } where
  recorded := { holds.recorded with }
  timed := by
    refine ⟨fun n member => holds.timed.starts n (WaitTimer.mem_handlers_of_take member), ?_⟩
    intro n armed
    obtain ⟨running, top, rest, schedule, expires, due⟩ := holds.timed.armed n armed
    exact ⟨running, top, rest, schedule, expires, fun entry member =>
      due entry (WaitTimer.mem_queued_of_take member)⟩
  executing := holds.executing

/-- A handler runs. -/
theorem Invariant.handler (holds : Invariant queue trace scheduler) (k : Nat)
    (current : scheduler.Current (.handler k)) :
    Invariant queue (trace ++ (scheduler.step queue (.handler k)).2)
      (scheduler.step queue (.handler k)).1 := by
  unfold ASIOScheduler.step
  unfold Current at current
  dsimp only at current ⊢
  split
  · next n completion idle queued =>
    cases completion with
    | aborted =>
        rw [if_neg fun differ => differ rfl, List.append_nil]
        exact holds.take k
    | expired =>
        rw [if_pos (by decide)]
        rw [queued] at current
        have armed := current (n, .expired) List.mem_cons_self rfl idle
        obtain ⟨running, top, rest, schedule, -, due⟩ := holds.timed.armed n armed
        exact (holds.take k).doScheduledTask schedule running
          (due (n, .expired) (List.mem_of_getElem? queued) rfl rfl)
  · rw [List.append_nil]
    exact holds

/-- **Every step keeps the invariant** when a handler that runs is the armed one, and no action
clears the schedule. -/
theorem Invariant.step (holds : Invariant queue trace scheduler) (input : SchedulerStep)
    (current : scheduler.Current input) :
    Invariant queue (trace ++ (scheduler.step queue input).2) (scheduler.step queue input).1 := by
  cases input with
  | add periodms => exact holds.add periodms
  | start => exact holds.start
  | stop => exact holds.stop
  | clear => exact holds.clear current
  | actionEnds => exact holds.actionEnds
  | tick ms =>
      refine (List.append_nil trace).symm ▸ ?_
      exact holds.later ms
  | expiry =>
      unfold ASIOScheduler.step
      dsimp only
      split
      · next come =>
        rw [List.append_nil]
        exact holds.expiry come
      · rw [List.append_nil]
        exact holds
  | handler k => exact holds.handler k current

end ASIOScheduler

end OpenDataCon.Scheduler
