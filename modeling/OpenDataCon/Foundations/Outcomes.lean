import Mathlib.Data.List.Basic

/-!
# Functions with effects that may raise an exception

The outcome of a call is the list of its effects in their order and its value, or the exception that
left it; the effects that came before an exception stay. A call whose effects of some kind are
counted is `Silent` when it returns and has none of them, and does it `Once` when it returns and has
exactly one. What a silent part is followed by decides (`once_bind`), and nothing that lets an
exception out does it once (`not_once_error`).
-/

set_option autoImplicit false

namespace OpenDataCon

universe u v

/-- The effects of a call, and its value or the exception that left it. -/
structure Outcome (ε : Type u) (X : Type u) (α : Type v) where
  effects : List ε
  result : Except X α

namespace Outcome

variable {ε X : Type u} {α β : Type v}

/-- A single effect. -/
def emit (effect : ε) : Outcome ε X PUnit := ⟨[effect], .ok ⟨⟩⟩

/-- No effect. -/
def ofExcept (result : Except X α) : Outcome ε X α := ⟨[], result⟩

/-- What follows happens unless an exception is raised. -/
def andThen (first : Outcome ε X α) (next : α → Outcome ε X β) : Outcome ε X β :=
  match first.result with
  | .ok value => ⟨first.effects ++ (next value).effects, (next value).result⟩
  | .error exception => ⟨first.effects, .error exception⟩

instance instMonad : Monad (Outcome ε X) where
  pure value := ofExcept (.ok value)
  bind := andThen

/-- A block with a handler for its exceptions. -/
def tryCatch (body : Outcome ε X α) (handler : X → Outcome ε X α) : Outcome ε X α :=
  match body.result with
  | .ok _ => body
  | .error exception => ⟨body.effects ++ (handler exception).effects, (handler exception).result⟩

/-! ## Counting effects -/

section Counting

variable (p : ε → Bool)

/-- The call returns the value, and none of its effects is one of those that are counted. -/
structure Silent (outcome : Outcome ε X α) (value : α) : Prop where
  returns : outcome.result = .ok value
  none : outcome.effects.countP p = 0

/-- The call returns, and exactly one of its effects is one of those that are counted. -/
structure Once (outcome : Outcome ε X α) : Prop where
  returns : ∃ value, outcome.result = .ok value
  one : outcome.effects.countP p = 1

variable {p}

theorem silent_pure (value : α) : Silent p (pure value : Outcome ε X α) value := ⟨rfl, rfl⟩

theorem silent_emit {effect : ε} (other : p effect = false) :
    Silent p (emit effect : Outcome ε X PUnit) ⟨⟩ :=
  ⟨rfl, List.countP_eq_zero.mpr (by simp [emit, other])⟩

theorem silent_ofExcept {result : Except X α} {value : α} (returns : result = .ok value) :
    Silent p (ofExcept result : Outcome ε X α) value := ⟨returns, rfl⟩

theorem bind_of_ok {first : Outcome ε X α} {value : α} (returns : first.result = .ok value)
    (next : α → Outcome ε X β) :
    (first >>= next) = ⟨first.effects ++ (next value).effects, (next value).result⟩ := by
  change andThen first next = _
  rw [andThen, returns]

theorem bind_of_error {first : Outcome ε X α} {exception : X}
    (raises : first.result = .error exception) (next : α → Outcome ε X β) :
    (first >>= next) = ⟨first.effects, .error exception⟩ := by
  change andThen first next = _
  rw [andThen, raises]

theorem Silent.bind {first : Outcome ε X α} {value : α} (silent : Silent p first value)
    {next : α → Outcome ε X β} {last : β} (after : Silent p (next value) last) :
    Silent p (first >>= next) last := by
  rw [bind_of_ok silent.returns]
  exact ⟨after.returns, by rw [List.countP_append, silent.none, after.none]⟩

/-- **What follows a silent part decides.** -/
theorem once_bind {first : Outcome ε X α} {value : α} (silent : Silent p first value)
    (next : α → Outcome ε X β) : Once p (first >>= next) ↔ Once p (next value) := by
  rw [bind_of_ok silent.returns]
  constructor
  · intro once
    refine ⟨once.returns, ?_⟩
    have one := once.one
    rwa [List.countP_append, silent.none, Nat.zero_add] at one
  · intro once
    refine ⟨once.returns, ?_⟩
    rw [List.countP_append, silent.none, Nat.zero_add]
    exact once.one

theorem once_emit {effect : ε} (counted : p effect = true) :
    Once p (emit effect : Outcome ε X PUnit) :=
  ⟨⟨⟨⟩, rfl⟩, by simp [emit, counted]⟩

theorem Silent.not_once {outcome : Outcome ε X α} {value : α} (silent : Silent p outcome value) :
    ¬Once p outcome :=
  fun once => Nat.zero_ne_one (silent.none.symm.trans once.one)

/-- A call that lets an exception out does nothing exactly once. -/
theorem not_once_error {outcome : Outcome ε X α} {exception : X}
    (raises : outcome.result = .error exception) : ¬Once p outcome := by
  rintro ⟨⟨value, returns⟩, -⟩
  rw [raises] at returns
  contradiction

/-- A part that does it once, and another one after it. -/
theorem not_once_bind {first : Outcome ε X α} {value : α} (returns : first.result = .ok value)
    (one : first.effects.countP p = 1) {next : α → Outcome ε X β} (again : Once p (next value)) :
    ¬Once p (first >>= next) := by
  rw [bind_of_ok returns]
  intro once
  have two := once.one
  rw [List.countP_append, one, again.one] at two
  contradiction

theorem bind_ok_error {first : Outcome ε X α} {value : α} (returns : first.result = .ok value)
    {next : α → Outcome ε X β} {exception : X} (raises : (next value).result = .error exception) :
    (first >>= next).result = .error exception := by
  rw [bind_of_ok returns]
  exact raises

/-- Effects before an exception are handled as if the handler came next. -/
theorem tryCatch_of_ok {body : Outcome ε X α} {value : α} (returns : body.result = .ok value)
    (handler : X → Outcome ε X α) : tryCatch body handler = body := by
  rw [tryCatch, returns]

theorem tryCatch_of_error {body : Outcome ε X α} {exception : X}
    (raises : body.result = .error exception) (handler : X → Outcome ε X α) :
    tryCatch body handler =
      ⟨body.effects ++ (handler exception).effects, (handler exception).result⟩ := by
  rw [tryCatch, raises]

end Counting

end Outcome

end OpenDataCon
