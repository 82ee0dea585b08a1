import Mathlib.Algebra.GroupWithZero.Nat
import Mathlib.Data.List.Count
import Mathlib.Logic.Relation

/-!
# Threads are parked for a reload

`ParkThreads` sets a flag and posts a task. A thread that takes the task posts the next one, counts
itself and waits until the flag is cleared. A reload goes on when it counts as many threads as
there are, and it always comes to that (`parks_all`).

A thread that leaves is counted until it says otherwise. If no thread is about to leave when a
reload parks the threads, then none runs while the new configuration is applied
(`parked_while_applying`).
-/

set_option autoImplicit false

namespace OpenDataCon.Configuration.Parking

open Relation

/-! ## The threads and the reload -/

/-- Where a thread is: it takes tasks, or in `ParkThread` it has seen the flag, has posted the next
task, waits in the loop, or has seen the flag cleared. -/
inductive Activity where
  | running
  | checked
  | posted
  | parked
  | leaving

inductive Reloader where
  | idle
  | parkThreads
  | applying
deriving DecidableEq

/-- The threads, with the tasks of `ParkThread` that are posted. -/
structure ThreadPool where
  threads : List Activity
  tasks : ℕ := 0
  parking : Bool := false
  shutting_down : Bool := false
  num_parked_threads : ℕ := 0
  reloader : Reloader := .idle

variable {pool next : ThreadPool}

def ThreadPool.start (threads : ℕ) : ThreadPool where
  threads := .replicate threads .running

/-- The condition of the loop in `ParkThread`. -/
def ThreadPool.parks (pool : ThreadPool) : Bool := !pool.shutting_down && pool.parking

/-- What a thread does next. -/
def ThreadPool.parkThread (pool : ThreadPool) : Activity → Option (Activity × ThreadPool)
  | .running =>
    if pool.tasks = 0 then none
    else some (if pool.parks then .checked else .running, { pool with tasks := pool.tasks - 1 })
  | .checked => some (.posted, { pool with tasks := pool.tasks + 1 })
  | .posted => some (.parked, { pool with num_parked_threads := pool.num_parked_threads + 1 })
  | .parked => if pool.parks then none else some (.leaving, pool)
  | .leaving => some (.running, { pool with num_parked_threads := pool.num_parked_threads - 1 })

def ThreadStep (pool next : ThreadPool) : Prop :=
  ∃ before activity after going moved, pool.threads = before ++ activity :: after ∧
    pool.parkThread activity = some (going, moved) ∧
    next = { moved with threads := before ++ going :: after }

/-- A thread goes on, or a reload parks the threads, goes on when all are counted, gives up, or
clears the flag. -/
inductive Step : ThreadPool → ThreadPool → Prop where
  | thread {pool next : ThreadPool} (step : ThreadStep pool next) : Step pool next
  | park {pool : ThreadPool} (idle : pool.reloader = .idle) :
      Step pool { pool with parking := true, tasks := pool.tasks + 1, reloader := .parkThreads }
  | apply {pool : ThreadPool} (waits : pool.reloader = .parkThreads)
      (all : pool.threads.length ≤ pool.num_parked_threads) (runs : pool.shutting_down = false) :
      Step pool { pool with reloader := .applying }
  | giveUp {pool : ThreadPool} (waits : pool.reloader = .parkThreads)
      (stops : pool.shutting_down = true) :
      Step pool { pool with parking := false, reloader := .idle }
  | release {pool : ThreadPool} (applying : pool.reloader = .applying) :
      Step pool { pool with parking := false, reloader := .idle }
  | shutdown (pool : ThreadPool) : Step pool { pool with shutting_down := true }

/-! ## What is counted -/

def Activity.isCounted : Activity → Bool
  | .parked | .leaving => true
  | _ => false

/-- The threads that wait or leave are counted, and as long as the flag is set the next task is
posted or about to be. -/
structure Counted (threads : ℕ) (pool : ThreadPool) : Prop where
  length : pool.threads.length = threads
  counted : pool.num_parked_threads = pool.threads.countP Activity.isCounted
  posted : pool.parks = true → 0 < pool.tasks ∨ .checked ∈ pool.threads
  parking : pool.reloader ≠ .idle → pool.parking = true

theorem counted_start (threads : ℕ) : Counted threads (.start threads) where
  length := List.length_replicate
  counted := by simp [ThreadPool.start, List.countP_replicate, Activity.isCounted]
  posted parks := by cases parks
  parking busy := absurd rfl busy

theorem Counted.parks {threads : ℕ} (holds : Counted threads pool) (busy : pool.reloader ≠ .idle)
    (runs : pool.shutting_down = false) : pool.parks = true := by
  rw [ThreadPool.parks, runs, holds.parking busy]
  rfl

/-- A step of a thread leaves the flags as they were. -/
theorem ThreadStep.flags (step : ThreadStep pool next) :
    next.parking = pool.parking ∧ next.parks = pool.parks ∧ next.reloader = pool.reloader := by
  obtain ⟨before, activity, after, going, moved, -, goes, rfl⟩ := step
  cases activity <;> grind [ThreadPool.parkThread, ThreadPool.parks]

theorem ThreadStep.counted {threads : ℕ} (step : ThreadStep pool next)
    (holds : Counted threads pool) : Counted threads next := by
  obtain ⟨length, counted, posted, busy⟩ := holds
  obtain ⟨parking, parks, reloader⟩ := step.flags
  obtain ⟨before, activity, after, going, moved, here, goes, rfl⟩ := step
  rw [← parking, ← reloader] at busy
  rw [← parks, here] at posted
  rw [here] at length counted
  refine ⟨by simpa using length, ?_, fun waits => ?_, busy⟩
  · rw [List.countP_append, List.countP_cons] at counted ⊢
    cases activity <;> grind [ThreadPool.parkThread, Activity.isCounted]
  · have posted := posted waits
    rw [parks] at waits
    cases activity <;> grind [ThreadPool.parkThread]

theorem Step.counted {threads : ℕ} (step : Step pool next) (holds : Counted threads pool) :
    Counted threads next := by
  cases step with
  | thread step => exact step.counted holds
  | park idle => exact ⟨holds.1, holds.2, fun _ => .inl (Nat.succ_pos _), fun _ => rfl⟩
  | apply waits all runs =>
      exact ⟨holds.1, holds.2, holds.3, fun _ => holds.4 (by simp [waits])⟩
  | giveUp | release =>
      exact ⟨holds.1, holds.2, fun parks => by simp [ThreadPool.parks] at parks,
        fun busy => absurd rfl busy⟩
  | shutdown =>
      exact ⟨holds.1, holds.2, fun parks => by simp [ThreadPool.parks] at parks, holds.4⟩

theorem counted_run {threads : ℕ} (run : ReflTransGen Step (.start threads) pool) :
    Counted threads pool := by
  induction run with
  | refl => exact counted_start threads
  | tail _ step holds => exact step.counted holds

/-! ## No thread runs while the configuration is applied -/

/-- A step that parks the threads only when none is about to leave. -/
def SettledStep (pool next : ThreadPool) : Prop :=
  Step pool next ∧ (pool.reloader = .idle → next.reloader ≠ .idle → .leaving ∉ pool.threads)

/-- While the threads are to be parked none leaves, and then all are parked. -/
structure Held (pool : ThreadPool) : Prop where
  stays : pool.parks = true → pool.reloader ≠ .idle → .leaving ∉ pool.threads
  parked : pool.parks = true → pool.reloader = .applying →
    ∀ activity ∈ pool.threads, activity = .parked

theorem SettledStep.held {threads : ℕ} (step : SettledStep pool next)
    (counts : Counted threads pool) (holds : Held pool) : Held next := by
  obtain ⟨step, settled⟩ := step
  obtain ⟨stays, parked⟩ := holds
  cases step with
  | thread step =>
      obtain ⟨-, parks, reloader⟩ := step.flags
      obtain ⟨before, activity, after, going, moved, here, goes, rfl⟩ := step
      rw [here] at stays parked
      constructor <;> rw [parks, reloader] <;> intro waits busy
      · have stays := stays waits busy
        cases activity <;> grind [ThreadPool.parkThread]
      · cases parked waits busy activity (by simp)
        simp [ThreadPool.parkThread, waits] at goes
  | park idle =>
      exact ⟨fun _ _ => settled idle nofun, fun _ busy => by cases busy⟩
  | apply waits all runs =>
      have stays := stays (counts.parks (by simp [waits]) runs) (by simp [waits])
      refine ⟨fun _ _ => stays, fun _ _ activity here => ?_⟩
      rw [counts.counted] at all
      have counted :=
        List.countP_eq_length.1 (Nat.le_antisymm List.countP_le_length all) activity here
      cases activity with
      | parked => rfl
      | leaving => exact absurd here stays
      | _ => cases counted
  | giveUp | release =>
      exact ⟨fun _ busy => absurd rfl busy, fun _ busy => by cases busy⟩
  | shutdown =>
      constructor <;> intro parks <;> simp [ThreadPool.parks] at parks

/-- **No thread runs while a new configuration is applied, if none was about to leave when the
threads were parked for it.** -/
theorem parked_while_applying {threads : ℕ}
    (run : ReflTransGen SettledStep (.start threads) pool) (applying : pool.reloader = .applying)
    (runs : pool.shutting_down = false) : pool.threads = .replicate threads .parked := by
  have holds : Counted threads pool ∧ Held pool := by
    clear applying runs
    induction run with
    | refl =>
        exact ⟨counted_start threads, fun _ busy => absurd rfl busy, fun _ busy => by cases busy⟩
    | tail _ step holds => exact ⟨step.1.counted holds.1, step.held holds.1 holds.2⟩
  exact List.eq_replicate_iff.2 ⟨holds.1.length,
    holds.2.parked (holds.1.parks (by simp [applying]) runs) applying⟩

theorem parked_while_applying_oneThread :
    (⟨[.parked], 1, true, false, 1, .applying⟩ : ThreadPool).threads = .replicate 1 .parked := by
  have goes {pool moved : ThreadPool} {activity going : Activity}
      (here : pool.threads = [activity]) (goes : pool.parkThread activity = some (going, moved))
      (waits : pool.reloader = .parkThreads) :
      SettledStep pool { moved with threads := [going] } :=
    ⟨.thread ⟨[], activity, [], going, moved, here, goes, rfl⟩,
      fun idle => by cases waits.symm.trans idle⟩
  refine parked_while_applying (.head ⟨.park rfl, fun _ _ => ?_⟩ (.head (goes rfl rfl rfl)
    (.head (goes rfl rfl rfl) (.head (goes rfl rfl rfl) (.single
      ⟨.apply rfl (Nat.le_refl 1) rfl, fun idle => by cases idle⟩))))) rfl rfl
  simp [ThreadPool.start]

/-! ## A reload is not kept waiting -/

/-- A reload that waits goes on, in whatever order the threads do. -/
inductive Inevitable : ThreadPool → Prop where
  | now {pool : ThreadPool} (step : Step pool { pool with reloader := .applying }) :
      Inevitable pool
  | later {pool : ThreadPool} (some : ∃ next, ThreadStep pool next)
      (all : ∀ next, ThreadStep pool next → Inevitable next) : Inevitable pool

/-- The number of steps of a thread until it is parked. -/
def Activity.steps : Activity → ℕ
  | .parked => 0
  | .posted => 1
  | .checked => 2
  | .running => 3
  | .leaving => 4

def ThreadPool.steps (pool : ThreadPool) : ℕ := (pool.threads.map Activity.steps).sum

theorem ThreadStep.steps (step : ThreadStep pool next) (parks : pool.parks = true) :
    next.steps + 1 = pool.steps := by
  obtain ⟨before, activity, after, going, moved, here, goes, rfl⟩ := step
  rw [ThreadPool.steps, ThreadPool.steps, here]
  simp only [List.map_append, List.map_cons, List.sum_append, List.sum_cons]
  cases activity <;> grind [ThreadPool.parkThread, Activity.steps]

/-- As long as not all threads are counted, one of them can go on. -/
theorem Counted.moves {threads : ℕ} (holds : Counted threads pool) (parks : pool.parks = true)
    (some : pool.num_parked_threads < pool.threads.length) : ∃ next, ThreadStep pool next := by
  have goes {activity : Activity} (here : activity ∈ pool.threads)
      (can : (pool.parkThread activity).isSome) : ∃ next, ThreadStep pool next := by
    obtain ⟨before, after, parts⟩ := List.append_of_mem here
    obtain ⟨⟨going, moved⟩, goes⟩ := Option.isSome_iff_exists.1 can
    exact ⟨_, before, activity, after, going, moved, parts, goes, rfl⟩
  rcases holds.posted parks with tasks | checked
  · rw [holds.counted] at some
    obtain ⟨activity, here, out⟩ := List.countP_lt_length_iff.1 some
    refine goes here ?_
    cases activity <;> simp_all [ThreadPool.parkThread, Activity.isCounted, Nat.pos_iff_ne_zero]
  · exact goes checked rfl

/-- **A reload that parks the threads goes on, in whatever order they do, as long as the system
does not shut down.** -/
theorem parks_all {threads : ℕ} (run : ReflTransGen Step (.start threads) pool)
    (waits : pool.reloader = .parkThreads) (runs : pool.shutting_down = false) :
    Inevitable pool := by
  have holds := counted_run run
  have parks := holds.parks (by simp [waits]) runs
  clear run runs
  induction steps : pool.steps using Nat.strongRecOn generalizing pool with
  | _ steps later =>
      by_cases all : pool.threads.length ≤ pool.num_parked_threads
      · exact .now (.apply waits all (by simpa using (Bool.and_eq_true_iff.1 parks).1))
      · refine .later (holds.moves parks (Nat.not_le.1 all)) fun next step => ?_
        have fewer := step.steps parks
        exact later next.steps (by omega) (step.flags.2.2.trans waits) (step.counted holds)
          (step.flags.2.1.trans parks) rfl

theorem parks_all_oneThread :
    Inevitable { threads := [.running], tasks := 1, parking := true, reloader := .parkThreads } :=
  @parks_all _ 1 (.single (.park rfl)) rfl rfl

end OpenDataCon.Configuration.Parking
