import Mathlib

/-!
# Listing keys once in an ordered traversal

A traversal in the order of some keys meets a key several times in a row. It lists each once
when it only compares with the one listed last (`foldl_listOnce`). An ordered list falls into the
part below a key and the part from it on (`exists_split_at`).
-/

set_option autoImplicit false

namespace OpenDataCon.OrderedTraversals

universe u v

section Listing

variable {κ : Type u} [LinearOrder κ]

/-- One turn: list the key, unless it was listed last. -/
def listOnce (state : κ × List κ) (key : κ) : κ × List κ :=
  if state.1 ≠ key then (key, state.2 ++ [key]) else state

/-- **An ordered traversal lists every key once, in order.** What was listed before is either no
key of the traversal or not above any. -/
theorem foldl_listOnce {keys : List κ} (sorted : keys.Pairwise (· ≤ ·)) {last : κ}
    {listed : List κ} (apart : (∀ key ∈ keys, last ≤ key) ∨ last ∉ keys) :
    ∃ new, (keys.foldl listOnce (last, listed)).2 = listed ++ new ∧
      new.Pairwise (· < ·) ∧ (∀ key, key ∈ new ↔ key ∈ keys ∧ key ≠ last) ∧
      ((keys.foldl listOnce (last, listed)).1 = last ∨
        (keys.foldl listOnce (last, listed)).1 ∈ new) := by
  induction keys generalizing last listed with
  | nil => exact ⟨[], (List.append_nil listed).symm, .nil, by simp, .inl rfl⟩
  | cons key rest ih =>
      obtain ⟨below, restSorted⟩ := List.pairwise_cons.mp sorted
      rw [List.foldl_cons, listOnce]
      by_cases again : last = key
      · subst again
        obtain ⟨new, isNew, newSorted, members, ends⟩ := ih restSorted (.inl below)
        rw [if_neg (not_not_intro rfl)]
        refine ⟨new, isNew, newSorted, fun other => ?_, ends⟩
        rw [members, List.mem_cons]
        exact ⟨fun here => ⟨.inr here.1, here.2⟩,
          fun here => ⟨here.1.resolve_left here.2, here.2⟩⟩
      · obtain ⟨new, isNew, newSorted, members, ends⟩ := ih restSorted (.inl below)
        rw [if_pos again]
        refine ⟨key :: new, ?_, List.pairwise_cons.mpr ⟨fun other member => ?_, newSorted⟩,
          fun other => ?_, .inr ?_⟩
        · rw [isNew, List.append_assoc, List.singleton_append]
        · obtain ⟨inRest, apartFrom⟩ := (members other).mp member
          exact lt_of_le_of_ne (below other inRest) (Ne.symm apartFrom)
        · have lastApart : ∀ other ∈ rest, other ≠ last := by
            rintro other member rfl
            rcases apart with least | absent
            · exact again (le_antisymm (least key (.head _)) (below other member))
            · exact absent (.tail _ member)
          rw [List.mem_cons, List.mem_cons, members]
          constructor
          · rintro (rfl | ⟨inRest, -⟩)
            · exact ⟨.inl rfl, Ne.symm again⟩
            · exact ⟨.inr inRest, lastApart other inRest⟩
          · rintro ⟨isKey | inRest, -⟩
            · exact .inl isKey
            · by_cases same : other = key
              · exact .inl same
              · exact .inr ⟨inRest, same⟩
        · exact List.mem_cons.mpr ends

end Listing

section Splitting

variable {α : Type u} {κ : Type v} [LinearOrder κ] (view : α → κ)

/-- The part of an ordered list below a key, and the part from it on. -/
theorem exists_split_at {entries : List α}
    (sorted : entries.Pairwise fun first second => view first ≤ view second) (start : κ) :
    ∃ lower upper, entries = lower ++ upper ∧ (∀ entry ∈ lower, view entry < start) ∧
      ∀ entry ∈ upper, start ≤ view entry := by
  induction entries with
  | nil => exact ⟨[], [], rfl, by simp, by simp⟩
  | cons entry rest ih =>
      obtain ⟨above, restSorted⟩ := List.pairwise_cons.mp sorted
      by_cases isBelow : view entry < start
      · obtain ⟨lower, upper, parts, below, from_⟩ := ih restSorted
        refine ⟨entry :: lower, upper, by rw [parts, List.cons_append], ?_, from_⟩
        exact List.forall_mem_cons.mpr ⟨isBelow, below⟩
      · have reached := not_lt.mp isBelow
        refine ⟨[], entry :: rest, rfl, by simp, ?_⟩
        exact List.forall_mem_cons.mpr ⟨reached, fun other member =>
          reached.trans (above other member)⟩

end Splitting

end OpenDataCon.OrderedTraversals
