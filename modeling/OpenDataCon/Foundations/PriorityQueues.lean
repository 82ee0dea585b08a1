import Mathlib.Data.List.Perm.Basic

/-!
# Priority queues

A priority queue keeps items in a list whose first element, the top, has the least key. Which one
of the items with the same key is on top is left open, up to one thing: a new item does not take the
place of a top that has the same key.

A list that is kept sorted is a priority queue (`sorted`).
-/

set_option autoImplicit false

namespace OpenDataCon

universe u

/-- A way to keep items by their keys. -/
structure PriorityQueue (τ : Type u) (key : τ → Nat) where
  IsHeap : List τ → Prop
  push : List τ → τ → List τ
  pop : List τ → List τ
  isHeap_nil : IsHeap []
  isHeap_push : ∀ {heap : List τ} {item : τ}, IsHeap heap → IsHeap (push heap item)
  isHeap_pop : ∀ {heap : List τ}, IsHeap heap → IsHeap (pop heap)
  perm_push : ∀ (heap : List τ) (item : τ), (push heap item).Perm (item :: heap)
  perm_pop : ∀ (top : τ) (rest : List τ), (pop (top :: rest)).Perm rest
  least : ∀ {top : τ} {rest : List τ}, IsHeap (top :: rest) → ∀ item ∈ rest, key top ≤ key item
  top_push : ∀ {top : τ} {rest : List τ} {item : τ}, IsHeap (top :: rest) → key top ≤ key item →
    (push (top :: rest) item).head? = some top

namespace PriorityQueue

variable {τ : Type u} (key : τ → Nat)

/-- Insert an item after those that do not come later. -/
def insertSorted (item : τ) : List τ → List τ
  | [] => [item]
  | first :: rest =>
    if key first ≤ key item then first :: insertSorted item rest else item :: first :: rest

variable {key}

theorem perm_insertSorted (item : τ) (heap : List τ) :
    (insertSorted key item heap).Perm (item :: heap) := by
  induction heap with
  | nil => exact List.Perm.refl _
  | cons first rest ih =>
      unfold insertSorted
      split
      · exact (ih.cons first).trans (List.Perm.swap item first rest)
      · exact List.Perm.refl _

theorem pairwise_insertSorted (item : τ) {heap : List τ}
    (ordered : heap.Pairwise fun first second => key first ≤ key second) :
    (insertSorted key item heap).Pairwise fun first second => key first ≤ key second := by
  induction heap with
  | nil => exact List.pairwise_singleton _ _
  | cons first rest ih =>
      obtain ⟨least, orderedRest⟩ := List.pairwise_cons.mp ordered
      unfold insertSorted
      split
      · next earlier =>
        refine List.pairwise_cons.mpr ⟨fun other member => ?_, ih orderedRest⟩
        rcases List.mem_cons.mp ((perm_insertSorted item rest).mem_iff.mp member) with rfl | old
        · exact earlier
        · exact least other old
      · next later =>
        refine List.pairwise_cons.mpr ⟨fun other member => ?_, ordered⟩
        rcases List.mem_cons.mp member with rfl | old
        · exact Nat.le_of_not_le later
        · exact Nat.le_trans (Nat.le_of_not_le later) (least other old)

variable (key) in
/-- A sorted list. -/
def sorted : PriorityQueue τ key where
  IsHeap heap := heap.Pairwise fun first second => key first ≤ key second
  push heap item := insertSorted key item heap
  pop := List.tail
  isHeap_nil := List.Pairwise.nil
  isHeap_push := pairwise_insertSorted _
  isHeap_pop := List.Pairwise.tail
  perm_push heap item := perm_insertSorted item heap
  perm_pop _ rest := List.Perm.refl rest
  least ordered := (List.pairwise_cons.mp ordered).1
  top_push _ earlier := congrArg List.head? (if_pos earlier)

variable (queue : PriorityQueue τ key)

/-- The top comes before every item, itself included. -/
theorem top_le {top : τ} {rest : List τ} (heap : queue.IsHeap (top :: rest)) :
    ∀ item ∈ top :: rest, key top ≤ key item := by
  intro item member
  rcases List.mem_cons.mp member with rfl | other
  · exact Nat.le_refl _
  · exact queue.least heap item other

end PriorityQueue

end OpenDataCon
