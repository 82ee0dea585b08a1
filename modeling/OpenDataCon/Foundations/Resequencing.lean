import Mathlib.Data.List.Perm.Basic

/-!
# Putting reordered items back into order

Items are sent in one order and arrive in another, in which only the items of one
class keep their order (`Reordered`). The receiver keeps what it cannot use yet in a
buffer, and takes the oldest item of a class out of it (`pop`).

When the receiver knows the class of the item that is next, the item it pops is the
one that was sent next (`Awaited.pop`), whatever the order of arrival, and when
everything has arrived, the next item is there (`Awaited.arrived`).
-/

set_option autoImplicit false

namespace OpenDataCon.Resequencing

variable {α κ : Type*} [DecidableEq κ] (cls : α → κ)

/-- The items of a class, in order. -/
def ofClass (k : κ) (items : List α) : List α := items.filter fun x => cls x = k

/-- Take the oldest item of a class out of a buffer. -/
def pop (k : κ) : List α → Option (α × List α)
  | [] => none
  | x :: rest =>
    if cls x = k then some (x, rest) else (pop k rest).map fun popped => (popped.1, x :: popped.2)

/-- Nothing is lost and nothing arrives twice, and the items of a class keep their order. -/
def Reordered (sent delivered : List α) : Prop :=
  ∀ k, ofClass cls k delivered = ofClass cls k sent

/-- What is buffered and what is still to arrive is what is to be taken. -/
def Awaited (buffer coming rest : List α) : Prop :=
  ∀ k, ofClass cls k buffer ++ ofClass cls k coming = ofClass cls k rest

variable {cls}

theorem ofClass_append (k : κ) (first second : List α) :
    ofClass cls k (first ++ second) = ofClass cls k first ++ ofClass cls k second :=
  List.filter_append _ _

theorem ofClass_cons_self (x : α) (rest : List α) :
    ofClass cls (cls x) (x :: rest) = x :: ofClass cls (cls x) rest :=
  List.filter_cons_of_pos (by simp)

theorem ofClass_cons_ne {k : κ} {x : α} (other : cls x ≠ k) (rest : List α) :
    ofClass cls k (x :: rest) = ofClass cls k rest :=
  List.filter_cons_of_neg (by simpa using other)

/-! ## Taking an item -/

theorem pop_mem {k : κ} {buffer rest : List α} {x : α}
    (popped : pop cls k buffer = some (x, rest)) : cls x = k ∧ x ∈ buffer ∧ rest ⊆ buffer := by
  induction buffer generalizing rest with
  | nil => cases popped
  | cons first others ih =>
      rw [pop] at popped
      split at popped
      · next here =>
        cases popped
        exact ⟨here, List.mem_cons_self, List.subset_cons_self _ _⟩
      · obtain ⟨inner, found, same⟩ := Option.map_eq_some_iff.mp popped
        cases same
        obtain ⟨here, member, sub⟩ := ih found
        exact ⟨here, List.mem_cons_of_mem _ member, List.cons_subset_cons _ sub⟩

theorem pop_eq_none {k : κ} {buffer : List α} :
    pop cls k buffer = none ↔ ofClass cls k buffer = [] := by
  induction buffer with
  | nil => exact ⟨fun _ => rfl, fun _ => rfl⟩
  | cons x rest ih =>
      rw [pop]
      by_cases here : cls x = k
      · subst here
        rw [if_pos rfl, ofClass_cons_self]
        simp
      · rw [if_neg here, ofClass_cons_ne here, Option.map_eq_none_iff, ih]

/-- Taking an item shortens its class by one and leaves the others alone. -/
theorem pop_ofClass {k : κ} {buffer rest : List α} {x : α}
    (popped : pop cls k buffer = some (x, rest)) :
    ofClass cls k buffer = x :: ofClass cls k rest ∧
      ∀ other, other ≠ k → ofClass cls other buffer = ofClass cls other rest := by
  induction buffer generalizing rest with
  | nil => cases popped
  | cons first others ih =>
      rw [pop] at popped
      split at popped
      · next here =>
        cases popped
        subst here
        exact ⟨ofClass_cons_self _ _, fun other different => ofClass_cons_ne different.symm _⟩
      · next different =>
        obtain ⟨inner, found, same⟩ := Option.map_eq_some_iff.mp popped
        cases same
        obtain ⟨mine, theirs⟩ := ih found
        refine ⟨?_, fun other apart => ?_⟩
        · rw [ofClass_cons_ne different, ofClass_cons_ne different, mine]
        · by_cases here : cls first = other
          · subst here
            rw [ofClass_cons_self, ofClass_cons_self, theirs _ apart]
          · rw [ofClass_cons_ne here, ofClass_cons_ne here, theirs _ apart]

/-- An item that arrives when its class is empty is the one that is popped. -/
theorem pop_append {k : κ} {buffer : List α} {x : α} (missing : pop cls k buffer = none)
    (here : cls x = k) : pop cls k (buffer ++ [x]) = some (x, buffer) := by
  induction buffer with
  | nil => exact if_pos here
  | cons first rest ih =>
      rw [pop] at missing
      split at missing
      · cases missing
      · next different =>
        rw [List.cons_append, pop, if_neg different, ih (Option.map_eq_none_iff.mp missing)]
        rfl

/-- An item of another class does not matter. -/
theorem pop_append_none {k : κ} {buffer : List α} {x : α} (missing : pop cls k buffer = none)
    (other : cls x ≠ k) : pop cls k (buffer ++ [x]) = none := by
  rw [pop_eq_none] at missing ⊢
  rw [ofClass_append, missing, ofClass_cons_ne other]
  rfl

theorem length_pop {k : κ} {buffer rest : List α} {x : α}
    (popped : pop cls k buffer = some (x, rest)) : buffer.length = rest.length + 1 := by
  induction buffer generalizing rest with
  | nil => cases popped
  | cons first others ih =>
      rw [pop] at popped
      split at popped
      · cases popped
        rfl
      · obtain ⟨inner, found, same⟩ := Option.map_eq_some_iff.mp popped
        cases same
        exact congrArg (· + 1) (ih found)

/-- An item is taken out of the buffer, and nothing else is. -/
theorem pop_perm {k : κ} {buffer rest : List α} {x : α}
    (popped : pop cls k buffer = some (x, rest)) : buffer.Perm (x :: rest) := by
  induction buffer generalizing rest with
  | nil => cases popped
  | cons first others ih =>
      rw [pop] at popped
      split at popped
      · cases popped
        exact .refl _
      · obtain ⟨inner, found, same⟩ := Option.map_eq_some_iff.mp popped
        cases same
        exact ((ih found).cons first).trans (.swap _ _ _)

/-! ## Reordered items -/

/-- Reordered items are a permutation. -/
theorem Reordered.perm [DecidableEq α] {sent delivered : List α}
    (reordered : Reordered cls sent delivered) : delivered.Perm sent := by
  apply List.perm_iff_count.mpr
  intro x
  have count : ∀ items : List α, items.count x = (ofClass cls (cls x) items).count x :=
    fun items => (List.count_filter (by simp)).symm
  rw [count delivered, reordered, ← count sent]

/-- Only the classes that occur matter. -/
theorem Reordered.of_classes {sent delivered : List α}
    (same : ∀ k ∈ (sent ++ delivered).map cls, ofClass cls k delivered = ofClass cls k sent) :
    Reordered cls sent delivered := by
  intro k
  by_cases occurs : k ∈ (sent ++ delivered).map cls
  · exact same k occurs
  · have absent : ∀ items ⊆ sent ++ delivered, ofClass cls k items = [] := by
      intro items sub
      refine List.filter_eq_nil_iff.mpr fun x member here => occurs ?_
      exact List.mem_map.mpr ⟨x, sub member, by simpa using here⟩
    rw [absent _ (List.subset_append_right _ _), absent _ (List.subset_append_left _ _)]

/-- What the items of a class are mapped to. -/
theorem ofClass_filterMap {β : Type*} {cls : β → κ} (f : α → Option β) (k : κ) (items : List α) :
    ofClass cls k (items.filterMap f) =
      (ofClass (fun x => (f x).map cls) (some k) items).filterMap f := by
  induction items with
  | nil => rfl
  | cons x rest ih =>
      cases here : f x with
      | none =>
          rw [List.filterMap_cons_none here, ofClass_cons_ne (by simp [here]), ih]
      | some y =>
          rw [List.filterMap_cons_some here]
          by_cases mine : cls y = k
          · subst mine
            have same : (fun x => (f x).map cls) x = some (cls y) := congrArg (Option.map cls) here
            rw [ofClass_cons_self, ih, ← same, ofClass_cons_self, List.filterMap_cons_some here]
          · rw [ofClass_cons_ne mine, ih, ofClass_cons_ne (by simpa [here] using mine)]

/-- Reordered items stay reordered when they are mapped to what their classes are of. -/
theorem Reordered.filterMap {β : Type*} {cls : β → κ} {f : α → Option β}
    {sent delivered : List α} (reordered : Reordered (fun x => (f x).map cls) sent delivered) :
    Reordered cls (sent.filterMap f) (delivered.filterMap f) := by
  intro k
  rw [ofClass_filterMap, ofClass_filterMap, reordered]

theorem Reordered.awaited {sent delivered : List α} (reordered : Reordered cls sent delivered) :
    Awaited cls [] delivered sent :=
  fun k => reordered k

theorem Awaited.arrive {buffer coming rest : List α} {x : α}
    (awaited : Awaited cls buffer (x :: coming) rest) :
    Awaited cls (buffer ++ [x]) coming rest := by
  intro k
  rw [← awaited k, ofClass_append, List.append_assoc, ← ofClass_append]
  rfl

/-- **The item that is popped is the one that was sent next.** -/
theorem Awaited.pop {buffer coming rest later : List α} {x y : α}
    (awaited : Awaited cls buffer coming (y :: rest))
    (popped : Resequencing.pop cls (cls y) buffer = some (x, later)) :
    x = y ∧ Awaited cls later coming rest := by
  obtain ⟨mine, theirs⟩ := pop_ofClass popped
  have next := awaited (cls y)
  rw [mine, ofClass_cons_self, List.cons_append] at next
  obtain ⟨same, tail⟩ := List.cons.inj next
  refine ⟨same, fun k => ?_⟩
  by_cases here : k = cls y
  · rw [here]
    exact tail
  · rw [← theirs k here, awaited k, ofClass_cons_ne (Ne.symm here)]

/-- **When everything has arrived, the next item is there.** -/
theorem Awaited.arrived {buffer rest : List α} {y : α}
    (awaited : Awaited cls buffer [] (y :: rest)) : Resequencing.pop cls (cls y) buffer ≠ none := by
  rw [Ne, pop_eq_none]
  intro empty
  have next := awaited (cls y)
  rw [empty, ofClass_cons_self] at next
  cases next

/-- When nothing is to be taken any more, nothing is left. -/
theorem Awaited.empty {buffer coming : List α} (awaited : Awaited cls buffer coming []) :
    buffer = [] ∧ coming = [] := by
  have none : ∀ items : List α, (∀ k, ofClass cls k items = []) → items = [] := by
    intro items classes
    cases items with
    | nil => rfl
    | cons x rest =>
        have here := classes (cls x)
        rw [ofClass_cons_self] at here
        cases here
  refine ⟨none buffer fun k => ?_, none coming fun k => ?_⟩
  · exact (List.append_eq_nil_iff.mp (awaited k)).1
  · exact (List.append_eq_nil_iff.mp (awaited k)).2

end OpenDataCon.Resequencing
