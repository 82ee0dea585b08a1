import Mathlib.Data.List.Nodup
import Mathlib.Data.List.Perm.Basic

/-!
# Operations that override themselves

Operations, named by keys, act on a state one after the other. An operation overrides itself when
doing it again changes nothing and when two states that it makes equal stay so under every other
operation. Then, of an operation done twice with others between, the earlier time does not matter
(`applyAll_moveLast`). So a state that was made by operations that were done several times is made
by doing each of them once, in the order of their last times.
-/

set_option autoImplicit false

namespace OpenDataCon.Linearization

universe u v

variable {κ : Type u} {σ : Type v} (apply : κ → σ → σ)

/-- The operations in order. -/
def applyAll (order : List κ) (state : σ) : σ :=
  order.foldl (fun state key => apply key state) state

@[simp] theorem applyAll_nil (state : σ) : applyAll apply [] state = state := rfl

theorem applyAll_cons (key : κ) (order : List κ) (state : σ) :
    applyAll apply (key :: order) state = applyAll apply order (apply key state) := rfl

theorem applyAll_append (first second : List κ) (state : σ) :
    applyAll apply (first ++ second) state = applyAll apply second (applyAll apply first state) :=
  List.foldl_append

/-- Every operation overrides itself. -/
structure Overriding : Prop where
  again : ∀ key state, apply key (apply key state) = apply key state
  congr : ∀ key other first second, apply key first = apply key second →
    apply key (apply other first) = apply key (apply other second)

variable {apply}

/-- Two states that an operation makes equal stay so. -/
theorem Overriding.applyAll_congr (overriding : Overriding apply) (key : κ) (order : List κ)
    {first second : σ} (same : apply key first = apply key second) :
    apply key (applyAll apply order first) = apply key (applyAll apply order second) := by
  induction order generalizing first second with
  | nil => exact same
  | cons other rest ih => exact ih (overriding.congr key other first second same)

variable [DecidableEq κ]

/-- Do an operation last, and only then. -/
def moveLast (order : List κ) (key : κ) : List κ := order.erase key ++ [key]

/-- **An operation that is done again moves to the end of the order.** -/
theorem Overriding.applyAll_moveLast (overriding : Overriding apply) (order : List κ) (key : κ)
    (state : σ) :
    applyAll apply (moveLast order key) state = apply key (applyAll apply order state) := by
  rw [moveLast, applyAll_append]
  change apply key (applyAll apply (order.erase key) state) = _
  by_cases before : key ∈ order
  · obtain ⟨first, second, -, whole, erased⟩ := List.exists_erase_eq before
    rw [erased, whole, applyAll_append, applyAll_append, applyAll_cons]
    exact (overriding.applyAll_congr key second (overriding.again key _)).symm
  · rw [List.erase_of_not_mem before]

theorem mem_moveLast {order : List κ} {key other : κ} :
    other ∈ moveLast order key ↔ other = key ∨ other ∈ order := by
  rw [moveLast, List.mem_append, List.mem_singleton]
  by_cases same : other = key
  · simp [same]
  · simp [same, List.mem_erase_of_ne same]

theorem nodup_moveLast {order : List κ} (nodup : order.Nodup) (key : κ) :
    (moveLast order key).Nodup := by
  rw [moveLast, List.nodup_append]
  refine ⟨nodup.erase key, List.nodup_singleton key, ?_⟩
  rintro other member last isLast rfl
  rw [List.mem_singleton.mp isLast] at member
  exact nodup.not_mem_erase member

/-- An order of some of the first numbers that has all of them is an arrangement of them. -/
theorem perm_range {order : List Nat} {count : Nat} (nodup : order.Nodup)
    (mem : ∀ i, i ∈ order ↔ i < count) : order.Perm (List.range count) :=
  (List.perm_ext_iff_of_nodup nodup List.nodup_range).mpr fun i =>
    (mem i).trans List.mem_range.symm

end OpenDataCon.Linearization
