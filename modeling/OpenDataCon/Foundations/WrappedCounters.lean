import Mathlib.Data.List.Range

/-!
# Loops with a counter that wraps

A loop counts up to a bound with a counter that is taken modulo some number. When the counter can
hold the bound, the loop visits every number below it once (`collectBelow_eq`). When it cannot,
the counter goes round without end (`collectBelow_unending`). So a loop that ends has visited what
it was to visit (`collectBelow_ends`).
-/

set_option autoImplicit false

namespace OpenDataCon.WrappedCounters

universe u

variable {α : Type u} (modulus bound : Nat) (body : Nat → α)

/-- What a loop collects while its counter is below a bound, if it ends with that much fuel. -/
def collectBelow : Nat → Nat → Option (List α)
  | 0, _ => none
  | fuel + 1, counter =>
    if counter < bound then
      (collectBelow fuel ((counter + 1) % modulus)).map fun later => body counter :: later
    else some []

variable {modulus bound}

/-- A bound that the counter cannot hold is never reached. -/
theorem collectBelow_unending (wide : modulus ≤ bound) (fuel : Nat) {counter : Nat}
    (small : counter < modulus) : collectBelow modulus bound body fuel counter = none := by
  induction fuel generalizing counter with
  | zero => rfl
  | succ fuel ih =>
      rw [collectBelow, if_pos (Nat.lt_of_lt_of_le small wide),
        ih (Nat.mod_lt _ (Nat.zero_lt_of_lt small))]
      rfl

/-- **A bound that the counter can hold is reached**, and every number below it is visited. -/
theorem collectBelow_eq (fits : bound < modulus) {fuel counter : Nat} (order : counter ≤ bound)
    (enough : bound < counter + fuel) :
    collectBelow modulus bound body fuel counter =
      some ((List.range' counter (bound - counter)).map body) := by
  induction fuel generalizing counter with
  | zero => exact absurd enough (Nat.not_lt_of_le order)
  | succ fuel ih =>
      rw [collectBelow]
      by_cases below : counter < bound
      · have next : (counter + 1) % modulus = counter + 1 := Nat.mod_eq_of_lt (by omega)
        have visited : bound - counter = (bound - (counter + 1)) + 1 := by omega
        rw [if_pos below, next, ih below (by omega), visited, List.range'_succ]
        rfl
      · obtain rfl := Nat.le_antisymm order (Nat.le_of_not_lt below)
        rw [if_neg below, Nat.sub_self]
        rfl

/-- A loop that ends has a bound that its counter can hold, and has visited every number below
it. -/
theorem collectBelow_ends {fuel counter : Nat} (small : counter < modulus)
    (order : counter ≤ bound) {visited : List α}
    (ends : collectBelow modulus bound body fuel counter = some visited) :
    bound < modulus ∧ visited = (List.range' counter (bound - counter)).map body := by
  have fits : bound < modulus := by
    by_contra wide
    rw [collectBelow_unending body (Nat.le_of_not_lt wide) fuel small] at ends
    cases ends
  refine ⟨fits, ?_⟩
  clear small
  induction fuel generalizing counter visited with
  | zero => cases ends
  | succ fuel ih =>
      rw [collectBelow] at ends
      by_cases below : counter < bound
      · have next : (counter + 1) % modulus = counter + 1 := Nat.mod_eq_of_lt (by omega)
        have step : bound - counter = (bound - (counter + 1)) + 1 := by omega
        rw [if_pos below, next] at ends
        obtain ⟨later, rest, rfl⟩ := Option.map_eq_some_iff.mp ends
        rw [ih below rest, step, List.range'_succ]
        rfl
      · obtain rfl := Nat.le_antisymm order (Nat.le_of_not_lt below)
        rw [if_neg below] at ends
        obtain rfl := Option.some.inj ends
        rw [Nat.sub_self]
        rfl

end OpenDataCon.WrappedCounters
