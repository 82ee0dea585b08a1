import Mathlib.Data.Prod.Basic
import Mathlib.Logic.Basic

/-!
# Validating readers

A reader computes one value from what it is given, where its checks pass, and throws
otherwise. Some of what can be thrown is bad. Readers are put together step by step
(`Reads.bind`), and a reader is exact or rejects what it is given, without anything bad,
exactly when nothing bad is thrown and what passes the checks fits (`exactOrRejects_iff`).
-/

set_option autoImplicit false

namespace OpenDataCon.Validation

variable {ε α β : Type} {Bad : ε → Prop}

/-- The result of a reader: the value where the checks pass, and otherwise something that is
thrown, and that is bad where the reader fails. -/
structure Reads (Bad : ε → Prop) (result : Except ε α) (value : α) (Passes Fails : Prop) : Prop where
  ok : Passes → result = .ok value
  error : ¬Passes → ∃ thrown, result = .error thrown ∧ (Bad thrown ↔ Fails)
  apart : Fails → ¬Passes

/-- Throw unless a check passes. -/
def check (passes : Bool) (thrown : ε) : Except ε Unit := if passes then .ok () else .error thrown

theorem Reads.of_ok (value : α) : Reads Bad (.ok value) value True False where
  ok _ := rfl
  error fails := absurd trivial fails
  apart := False.elim

theorem Reads.pure (value : α) : Reads Bad (pure value : Except ε α) value True False :=
  Reads.of_ok value

/-- A check that throws nothing bad. -/
theorem Reads.check {thrown : ε} (fine : ¬Bad thrown) (passes : Bool) :
    Reads Bad (check passes thrown) () (passes = true) False where
  ok pass := if_pos pass
  error fails := ⟨thrown, if_neg fails, iff_of_false fine id⟩
  apart := False.elim

section Steps

variable {first : Except ε α} {value : α} {Passes Fails : Prop} {next : α → Except ε β} {made : β}
  {PassesNext FailsNext : Prop}

/-- **Two steps.** -/
theorem Reads.bind (reads : Reads Bad first value Passes Fails)
    (later : Reads Bad (next value) made PassesNext FailsNext) :
    Reads Bad (first >>= next) made (Passes ∧ PassesNext) (Fails ∨ Passes ∧ FailsNext) where
  ok both := by
    rw [reads.ok both.1]
    exact later.ok both.2
  error fails := by
    by_cases passes : Passes
    · obtain ⟨thrown, result, bad⟩ := later.error fun passesNext => fails ⟨passes, passesNext⟩
      refine ⟨thrown, by rw [reads.ok passes]; exact result, bad.trans ?_⟩
      rw [and_iff_right passes, or_iff_right fun failed => reads.apart failed passes]
    · obtain ⟨thrown, result, bad⟩ := reads.error passes
      refine ⟨thrown, by rw [result]; rfl, bad.trans ?_⟩
      rw [or_iff_left fun other => passes other.1]
  apart failed both := by
    rcases failed with here | ⟨-, later_fails⟩
    · exact reads.apart here both.1
    · exact later.apart later_fails both.2

/-- A value that is changed. -/
theorem Reads.map (reads : Reads Bad first value Passes Fails) (change : α → β) :
    Reads Bad (first.map change) (change value) Passes Fails where
  ok passes := by rw [reads.ok passes]; rfl
  error fails := by
    obtain ⟨thrown, result, bad⟩ := reads.error fails
    exact ⟨thrown, by rw [result]; rfl, bad⟩
  apart := reads.apart

/-- The conditions may be said in other words. -/
theorem Reads.congr {PassesToo FailsToo : Prop} (reads : Reads Bad first value Passes Fails)
    (passes : Passes ↔ PassesToo) (fails : Fails ↔ FailsToo) :
    Reads Bad first value PassesToo FailsToo where
  ok pass := reads.ok (passes.mpr pass)
  error fail := by
    obtain ⟨thrown, result, bad⟩ := reads.error fun pass => fail (passes.mp pass)
    exact ⟨thrown, result, bad.trans fails⟩
  apart failed pass := reads.apart (fails.mpr failed) (passes.mpr pass)

end Steps

/-! ## What may be missing -/

section Missing

variable {value : α → β} {Passes Fails : α → Prop}

/-- What is found is read, and otherwise a default stands for it. -/
def readOr (found : Option α) (default : β) (read : α → Except ε β) : Except ε β :=
  match found with
  | some given => read given
  | none => .ok default

theorem Reads.readOr {read : α → Except ε β}
    (reads : ∀ given, Reads Bad (read given) (value given) (Passes given) (Fails given))
    (found : Option α) (default : β) :
    Reads Bad (readOr found default read) (found.elim default value)
      (∀ given ∈ found, Passes given) (∃ given ∈ found, Fails given) := by
  cases found with
  | some given =>
      refine (reads given).congr ?_ ?_
      · simp
      · simp
  | none =>
      refine (Reads.of_ok default).congr ?_ ?_
      · simp
      · simp

end Missing

/-! ## Exceptions that are caught -/

/-- What is caught is thrown again as something else. -/
def rethrow (caught : ε → Bool) (change : ε → ε) (result : Except ε α) : Except ε α :=
  match result with
  | .ok value => .ok value
  | .error thrown => .error (if caught thrown then change thrown else thrown)

theorem Reads.rethrow {result : Except ε α} {value : α} {Passes Fails : Prop} {caught : ε → Bool}
    {change : ε → ε} (reads : Reads Bad result value Passes Fails)
    (kept : ∀ thrown, caught thrown = true → (Bad (change thrown) ↔ Bad thrown)) :
    Reads Bad (rethrow caught change result) value Passes Fails where
  ok passes := by rw [reads.ok passes]; rfl
  error fails := by
    obtain ⟨thrown, result, bad⟩ := reads.error fails
    rw [result]
    by_cases catches : caught thrown = true
    · refine ⟨change thrown, ?_, (kept thrown catches).trans bad⟩
      exact congrArg Except.error (if_pos catches)
    · exact ⟨thrown, congrArg Except.error (if_neg catches), bad⟩
  apart := reads.apart

/-! ## Exact or rejected -/

/-- What is read is what is written, or nothing bad is thrown. -/
def ExactOrRejects (Bad : ε → Prop) (result : Except ε α) (Writes : α → Prop) : Prop :=
  match result with
  | .ok value => Writes value
  | .error thrown => ¬Bad thrown

/-- **A reader is exact or rejects** when it does not fail, and the value fits where it passes. -/
theorem Reads.exactOrRejects_iff {result : Except ε α} {value : α} {Passes Fails : Prop}
    {Writes : α → Prop} (reads : Reads Bad result value Passes Fails) :
    ExactOrRejects Bad result Writes ↔ ¬Fails ∧ (Passes → Writes value) := by
  by_cases passes : Passes
  · rw [reads.ok passes, ExactOrRejects, forall_prop_of_true passes,
      and_iff_right fun failed => reads.apart failed passes]
  · obtain ⟨thrown, result, bad⟩ := reads.error passes
    rw [result, ExactOrRejects, bad, and_iff_left fun pass => absurd pass passes]

/-- **Before another step**, a reader has to pass for what comes then to matter. -/
theorem Reads.exactOrRejects_bind {first : Except ε α} {value : α} {Passes Fails : Prop}
    {next : α → Except ε β} {Writes : β → Prop} (reads : Reads Bad first value Passes Fails) :
    ExactOrRejects Bad (first >>= next) Writes ↔
      ¬Fails ∧ (Passes → ExactOrRejects Bad (next value) Writes) := by
  by_cases passes : Passes
  · rw [reads.ok passes, forall_prop_of_true passes,
      and_iff_right fun failed => reads.apart failed passes]
    rfl
  · obtain ⟨thrown, result, bad⟩ := reads.error passes
    rw [result, ← bad, and_iff_left fun pass => absurd pass passes]
    rfl

end OpenDataCon.Validation
