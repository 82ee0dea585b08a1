import Mathlib.Data.List.Basic
import Mathlib.Data.List.Perm.Basic

/-!
# Timers with handlers

A handler waits for a timer until the timer expires or the wait is aborted; either way the handler
is complete and goes to a queue, with how it was completed. A handler in the queue runs some time
later, and nothing recalls it.

Each handler that was given to the timer is waiting or queued, once (`handlers`): `cancel` and
`expire` move it, `arm` adds one and `take` removes one.
-/

set_option autoImplicit false

namespace OpenDataCon.WaitTimers

universe u

/-- How a wait ended. -/
inductive Completion where
  | expired | aborted
deriving DecidableEq, Repr

/-- The handlers that wait, and those that are complete but have not run. -/
structure WaitTimer (τ : Type u) where
  waiting : List τ := []
  queued : List (τ × Completion) := []
deriving Repr

namespace WaitTimer

variable {τ : Type u}

/-- The waits end. -/
def complete (timer : WaitTimer τ) (completion : Completion) : WaitTimer τ where
  waiting := []
  queued := timer.queued ++ timer.waiting.map (fun handler => (handler, completion))

/-- `cancel()`: it aborts the waits. -/
def cancel (timer : WaitTimer τ) : WaitTimer τ := timer.complete .aborted

/-- The count `cancel()` returns. -/
def aborts (timer : WaitTimer τ) : Nat := timer.waiting.length

/-- The timer expires. -/
def expire (timer : WaitTimer τ) : WaitTimer τ := timer.complete .expired

/-- `expires_at` or `expires_from_now`, which abort the waits, and `async_wait`. -/
def arm (timer : WaitTimer τ) (handler : τ) : WaitTimer τ :=
  { timer.cancel with waiting := [handler] }

/-- A queued handler is taken to run. -/
def take (timer : WaitTimer τ) (k : Nat) : WaitTimer τ :=
  { timer with queued := timer.queued.eraseIdx k }

/-- How many handlers wait or have expired: they run without an error, unless they are aborted. -/
def due (timer : WaitTimer τ) : Nat :=
  timer.waiting.length + timer.queued.countP fun entry => entry.2 = .expired

/-- The handlers that have not run. -/
def handlers (timer : WaitTimer τ) : List τ := timer.waiting ++ timer.queued.map Prod.fst

variable {timer : WaitTimer τ}

@[simp] theorem waiting_complete (completion : Completion) :
    (timer.complete completion).waiting = [] := rfl

@[simp] theorem waiting_cancel : timer.cancel.waiting = [] := rfl

@[simp] theorem waiting_expire : timer.expire.waiting = [] := rfl

@[simp] theorem waiting_arm (handler : τ) : (timer.arm handler).waiting = [handler] := rfl

@[simp] theorem waiting_take (k : Nat) : (timer.take k).waiting = timer.waiting := rfl

@[simp] theorem queued_arm (handler : τ) : (timer.arm handler).queued = timer.cancel.queued := rfl

/-- The queue after the waits have ended holds what it held and what waited. -/
theorem mem_queued_complete {completion : Completion} {entry : τ × Completion} :
    entry ∈ (timer.complete completion).queued ↔
      entry ∈ timer.queued ∨ entry.1 ∈ timer.waiting ∧ entry.2 = completion := by
  obtain ⟨handler, how⟩ := entry
  rw [complete, List.mem_append, List.mem_map]
  constructor
  · rintro (queued | ⟨waiting, member, same⟩)
    · exact .inl queued
    · obtain ⟨rfl, rfl⟩ := Prod.mk.injEq .. ▸ same
      exact .inr ⟨member, rfl⟩
  · rintro (queued | ⟨member, rfl⟩)
    · exact .inl queued
    · exact .inr ⟨handler, member, rfl⟩

theorem mem_queued_cancel {entry : τ × Completion} :
    entry ∈ timer.cancel.queued ↔
      entry ∈ timer.queued ∨ entry.1 ∈ timer.waiting ∧ entry.2 = .aborted := mem_queued_complete

theorem mem_queued_expire {entry : τ × Completion} :
    entry ∈ timer.expire.queued ↔
      entry ∈ timer.queued ∨ entry.1 ∈ timer.waiting ∧ entry.2 = .expired := mem_queued_complete

/-- What is left in the queue was there. -/
theorem mem_queued_of_take {k : Nat} {entry : τ × Completion}
    (member : entry ∈ (timer.take k).queued) : entry ∈ timer.queued :=
  List.mem_of_mem_eraseIdx member

/-- The end of the waits moves handlers only. -/
theorem mem_handlers_complete {completion : Completion} {handler : τ} :
    handler ∈ (timer.complete completion).handlers ↔ handler ∈ timer.handlers := by
  simp only [handlers, complete, List.nil_append, List.map_append, List.mem_append, List.map_map]
  constructor
  · rintro (queued | waiting)
    · exact .inr queued
    · obtain ⟨waited, member, rfl⟩ := List.mem_map.mp waiting
      exact .inl member
  · rintro (waiting | queued)
    · exact .inr (List.mem_map.mpr ⟨handler, waiting, rfl⟩)
    · exact .inl queued

theorem mem_handlers_arm {new handler : τ} :
    handler ∈ (timer.arm new).handlers ↔ handler = new ∨ handler ∈ timer.handlers := by
  have moved : handler ∈ timer.cancel.handlers ↔ handler ∈ timer.handlers := mem_handlers_complete
  rw [← moved, handlers, waiting_arm, queued_arm, List.mem_append, List.mem_singleton]
  rfl

theorem mem_handlers_of_take {k : Nat} {handler : τ}
    (member : handler ∈ (timer.take k).handlers) : handler ∈ timer.handlers := by
  rcases List.mem_append.mp member with waiting | queued
  · exact List.mem_append_left _ waiting
  · obtain ⟨entry, left, rfl⟩ := List.mem_map.mp queued
    exact List.mem_append_right _ (List.mem_map_of_mem (mem_queued_of_take left))

/-- A queued handler is one that has not run. -/
theorem mem_handlers_of_queued {entry : τ × Completion} (member : entry ∈ timer.queued) :
    entry.1 ∈ timer.handlers :=
  List.mem_append_right _ (List.mem_map_of_mem member)

theorem mem_handlers_of_waiting {handler : τ} (member : handler ∈ timer.waiting) :
    handler ∈ timer.handlers := List.mem_append_left _ member

/-! ## Handlers that run without an error -/

@[simp] theorem due_expire : timer.expire.due = timer.due := by
  rw [due, due, waiting_expire, expire, complete, List.countP_append, List.countP_map]
  have every : timer.waiting.countP
      ((fun entry : τ × Completion => decide (entry.2 = .expired)) ∘ fun handler =>
        (handler, .expired)) = timer.waiting.length :=
    List.countP_eq_length.mpr fun _ _ => rfl
  rw [every, List.length_nil]
  omega

/-- What `cancel` does not recall. -/
theorem due_cancel :
    timer.cancel.due = timer.queued.countP fun entry => entry.2 = .expired := by
  rw [due, waiting_cancel, cancel, complete, List.countP_append, List.countP_map]
  have none : timer.waiting.countP
      ((fun entry : τ × Completion => decide (entry.2 = .expired)) ∘ fun handler =>
        (handler, .aborted)) = 0 :=
    List.countP_eq_zero.mpr fun _ _ => Bool.noConfusion
  rw [none, List.length_nil]
  omega

theorem due_cancel_of_aborted (aborted : ∀ entry ∈ timer.queued, entry.2 = .aborted) :
    timer.cancel.due = 0 ∧ timer.due = timer.waiting.length := by
  have none : timer.queued.countP (fun entry => entry.2 = .expired) = 0 := by
    refine List.countP_eq_zero.mpr fun entry member expired => ?_
    rw [aborted entry member] at expired
    exact Bool.noConfusion expired
  exact ⟨due_cancel.trans none, by rw [due, none, Nat.add_zero]⟩

@[simp] theorem due_arm (handler : τ) : (timer.arm handler).due = timer.cancel.due + 1 := by
  rw [due, waiting_arm, queued_arm, due, waiting_cancel, List.length_singleton, List.length_nil]
  omega

/-- A handler that is taken was due if it has expired. -/
theorem due_take {k : Nat} {handler : τ} {completion : Completion}
    (taken : timer.queued[k]? = some (handler, completion)) :
    (timer.take k).due + (if completion = .expired then 1 else 0) = timer.due := by
  obtain ⟨bound, found⟩ := List.getElem?_eq_some_iff.mp taken
  have counted := (List.getElem_cons_eraseIdx_perm bound).countP_eq
    fun entry : τ × Completion => decide (entry.2 = .expired)
  rw [found, List.countP_cons] at counted
  rw [due, due, waiting_take, take, ← counted]
  simp only [decide_eq_true_eq]
  omega

end WaitTimer

end OpenDataCon.WaitTimers
