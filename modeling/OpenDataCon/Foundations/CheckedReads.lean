import Mathlib

/-!
# Reading a list by index

Code that reads an array by index is written in `Option`: a read past the end gives nothing, and
then the code gives nothing. A loop over a range of indexes gives something when all that it reads
is there, and it is then the loop over the elements (`foldlM_read`, `mapM_eq_map`).
-/

set_option autoImplicit false

namespace OpenDataCon.CheckedReads

universe u v

variable {α : Type u} {σ : Type v}

/-- **A loop over indexes that are all there goes over the elements**, each with its turn. -/
theorem foldlM_read {f : σ → Nat → α → σ} {elements : List α} {start count : Nat}
    (fits : start + count ≤ elements.length) (state : σ) :
    (List.range count).foldlM (fun state i => (elements[start + i]?).map (f state i)) state =
      some (((List.range count).zip (elements.drop start)).foldl
        (fun state item => f state item.1 item.2) state) := by
  induction count generalizing start state f with
  | zero => rfl
  | succ count ih =>
      have inside : start < elements.length := by omega
      have next : ∀ i, elements[start + (i + 1)]? = elements[start + 1 + i]? := by
        intro i
        rw [Nat.add_right_comm, Nat.add_assoc]
      rw [List.range_succ_eq_map, List.foldlM_cons, Nat.add_zero,
        List.getElem?_eq_getElem inside, List.drop_eq_getElem_cons inside, List.zip_cons_cons,
        List.foldl_cons, List.zip_map_left, List.foldl_map]
      simp only [Option.map_some, Option.bind_eq_bind, Option.bind_some, List.foldlM_map,
        Nat.succ_eq_add_one, next]
      exact ih (by omega) _

/-- The loop without the turns. -/
theorem foldlM_read_take {f : σ → α → σ} {elements : List α} {start count : Nat}
    (fits : start + count ≤ elements.length) (state : σ) :
    (List.range count).foldlM (fun state i => (elements[start + i]?).map (f state)) state =
      some (((elements.drop start).take count).foldl f state) := by
  have turns : ((List.range count).zip (elements.drop start)).map Prod.snd =
      (elements.drop start).take count := by
    have shorter : (elements.drop start).length = elements.length - start := List.length_drop
    rw [List.zip_eq_zip_take_min, List.length_range, shorter, Nat.min_eq_left (by omega)]
    apply List.map_snd_zip
    rw [List.length_take, List.length_take, List.length_range]
    omega
  rw [foldlM_read fits, ← turns, List.foldl_map]

theorem zip_append_left {β : Type u} (first second : List β) (elements : List α) :
    (first ++ second).zip elements =
      first.zip elements ++ second.zip (elements.drop first.length) := by
  induction first generalizing elements with
  | nil => rfl
  | cons turn rest ih =>
      cases elements with
      | nil => simp
      | cons element later => simp [ih]

/-- Calls that all give something. -/
theorem mapM_eq_map {β : Type u} {f : β → Option α} {g : β → α} {arguments : List β}
    (each : ∀ argument ∈ arguments, f argument = some (g argument)) :
    arguments.mapM f = some (arguments.map g) := by
  induction arguments with
  | nil => rfl
  | cons argument rest ih =>
      obtain ⟨first, later⟩ := List.forall_mem_cons.mp each
      rw [List.mapM_cons, first, ih later]
      rfl

/-- A read of an index that is there. -/
theorem read_eq_getD {elements : List α} {i : Nat} (inside : i < elements.length) (other : α) :
    elements[i]? = some (elements.getD i other) := by
  rw [List.getD_eq_getElem _ _ inside, List.getElem?_eq_getElem inside]

/-- What reads one element and needs no other. -/
theorem isSome_read_bind {β : Type u} {elements : List β} {i : Nat} {f : β → Option α}
    (gives : ∀ element, (f element).isSome = true) :
    (elements[i]? >>= f).isSome = true ↔ i < elements.length := by
  cases element : elements[i]? with
  | none =>
      exact iff_of_false Bool.false_ne_true (Nat.not_lt.mpr (List.getElem?_eq_none_iff.mp element))
  | some value => exact iff_of_true (gives value) (List.getElem?_eq_some_iff.mp element).1

/-- Two ways that both give something. -/
theorem isSome_ite {c : Prop} [Decidable c] {first second : Option α}
    (yes : c → first.isSome = true) (no : ¬c → second.isSome = true) :
    (if c then first else second).isSome = true := by
  split
  · next holds => exact yes holds
  · next fails => exact no fails

/-- A read that is left out past the end. -/
def readWithin (elements : List α) (i : Nat) (other : α) : Option α :=
  if i < elements.length then elements[i]? else some other

theorem readWithin_eq (elements : List α) (i : Nat) (other : α) :
    readWithin elements i other = some (elements.getD i other) := by
  rw [readWithin]
  split
  · next inside => exact read_eq_getD inside other
  · next outside => rw [List.getD_eq_default _ _ (Nat.not_lt.mp outside)]

end OpenDataCon.CheckedReads
