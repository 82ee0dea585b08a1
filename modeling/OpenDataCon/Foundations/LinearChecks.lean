import Mathlib.Data.BitVec

/-!
# Linear checks

The remainder of a word under a linear check is additive in exclusive or. The column of a bit is the
remainder of the word with that bit alone. A word that passes, with some bits inverted, passes again
exactly when the columns of these bits add up to zero: for one bit, when its column is zero
(`flip_passes_iff`), and for two, when their columns are equal (`flip_flip_passes_iff`). So the
columns tell which single and double errors are found.
-/

set_option autoImplicit false

namespace OpenDataCon.LinearChecks

universe u

section Additive

variable {w r : Nat}

/-- The remainder of an exclusive or is the exclusive or of the remainders. -/
def Additive (remainder : BitVec w → BitVec r) : Prop :=
  ∀ first second, remainder (first ^^^ second) = remainder first ^^^ remainder second

theorem Additive.xor {first second : BitVec w → BitVec r} (firstAdds : Additive first)
    (secondAdds : Additive second) : Additive fun word => first word ^^^ second word := by
  intro a b
  dsimp only
  rw [firstAdds a b, secondAdds a b]
  ac_rfl

/-- A mask may be taken before or after. -/
theorem xor_and_mask (first second mask : BitVec w) :
    (first ^^^ second) &&& mask = (first &&& mask) ^^^ (second &&& mask) := by
  apply BitVec.eq_of_getLsbD_eq
  intro i _
  simp only [BitVec.getLsbD_and, BitVec.getLsbD_xor, Bool.and_xor_distrib_right]

/-- A remainder that a loop makes is additive when each turn is, from any two accumulators that
the loop can have. -/
theorem additive_foldl {κ : Type u} {step : BitVec w → BitVec r → κ → BitVec r}
    {Good : BitVec r → Prop} (items : List κ)
    (keeps : ∀ item ∈ items, ∀ word sum, Good sum → Good (step word sum item))
    (adds : ∀ item ∈ items, ∀ first second sum sum', Good sum → Good sum' →
      step (first ^^^ second) (sum ^^^ sum') item = step first sum item ^^^ step second sum' item)
    (zero : Good 0#r) : Additive fun word => items.foldl (step word) 0#r := by
  have general (first second : BitVec w) (sum sum' : BitVec r) (good : Good sum)
      (good' : Good sum') :
      items.foldl (step (first ^^^ second)) (sum ^^^ sum') =
        items.foldl (step first) sum ^^^ items.foldl (step second) sum' := by
    induction items generalizing sum sum' with
    | nil => rfl
    | cons item rest ih =>
        have here : item ∈ item :: rest := List.mem_cons_self
        rw [List.foldl_cons, adds item here first second sum sum' good good']
        exact ih (fun later member => keeps later (List.mem_cons_of_mem _ member))
          (fun later member => adds later (List.mem_cons_of_mem _ member)) _ _
          (keeps item here first sum good) (keeps item here second sum' good')
  intro first second
  have both := general first second 0#r 0#r zero zero
  rwa [BitVec.xor_zero] at both

variable {remainder : BitVec w → BitVec r}

/-- The remainder of one bit. -/
def column (remainder : BitVec w → BitVec r) (i : Nat) : BitVec r := remainder (1#w <<< i)

/-- **One error** is missed when its column is zero. -/
theorem flip_passes_iff (additive : Additive remainder) {word : BitVec w}
    (passes : remainder word = 0#r) (i : Nat) :
    remainder (word ^^^ 1#w <<< i) = 0#r ↔ column remainder i = 0#r := by
  rw [additive, passes, BitVec.zero_xor]
  rfl

/-- **Two errors** are missed when their columns are equal. -/
theorem flip_flip_passes_iff (additive : Additive remainder) {word : BitVec w}
    (passes : remainder word = 0#r) (i j : Nat) :
    remainder (word ^^^ 1#w <<< i ^^^ 1#w <<< j) = 0#r ↔
      column remainder i = column remainder j := by
  rw [additive, additive, passes, BitVec.zero_xor]
  exact BitVec.xor_eq_zero_iff

end Additive

end OpenDataCon.LinearChecks
