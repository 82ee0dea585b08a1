import Mathlib.Data.List.Basic

/-!
# Values that are sent as differences

A sender keeps for every key the value it sent last, its base. An update covers some
keys: it carries their values, or only what has changed since the base, and the base
moves to the values. Updates arrive in the order in which they were sent, but may be
lost.

The receiver holds a value for every key. Seen from it, the updates on their way lead
from what it holds to the sender's base (`InStep`), except for the keys that are out
of step: those whose base was moved by an update that was lost. An update moves a key
that is in step to its value (`InStep.refers`), and one that carries values brings its
keys back into step (`InStep.receive`).
-/

set_option autoImplicit false

namespace OpenDataCon.Differences

variable {κ α : Type*}

/-- An update: the keys it covers, the sender's base before it, and the values. -/
structure Update (κ α : Type*) where
  covers : κ → Bool
  base : κ → α
  value : κ → α

/-- The sender's base after an update. -/
def Update.after (update : Update κ α) (k : κ) : α :=
  if update.covers k then update.value k else update.base k

/-- The update moves the base of a key. -/
def Update.Moves (update : Update κ α) (k : κ) : Prop :=
  update.covers k = true ∧ update.value k ≠ update.base k

/-- Each update was sent from the base that the one before it has left. -/
def Linked : (κ → α) → List (Update κ α) → (κ → α) → Prop
  | start, [], base => start = base
  | start, update :: rest, base => update.base = start ∧ Linked update.after rest base

/-- The updates on their way lead from what the receiver holds to the base of the sender,
except for the keys that are out of step. -/
def InStep (outOfStep : κ → Prop) (held : κ → α) (coming : List (Update κ α)) (base : κ → α) :
    Prop :=
  ∃ start, Linked start coming base ∧ ∀ k, ¬ outOfStep k → held k = start k

section Steps

variable {outOfStep later : κ → Prop} {held next base : κ → α} {coming : List (Update κ α)}
  {update : Update κ α}

theorem after_of_not_moves {k : κ} (still : ¬ update.Moves k) :
    update.after k = update.base k := by
  rw [Update.after]
  split
  · next covered =>
    by_contra moved
    exact still ⟨covered, moved⟩
  · rfl

theorem Linked.send {start : κ → α} (linked : Linked start coming base)
    (sent : update.base = base) : Linked start (coming ++ [update]) update.after := by
  induction coming generalizing start with
  | nil =>
      have here : start = base := linked
      exact ⟨sent.trans here.symm, rfl⟩
  | cons first rest ih => exact ⟨linked.1, ih linked.2⟩

/-- The sender sends an update from its base. -/
theorem InStep.send (inStep : InStep outOfStep held coming base) (update : Update κ α)
    (sent : update.base = base) : InStep outOfStep held (coming ++ [update]) update.after := by
  obtain ⟨start, linked, same⟩ := inStep
  exact ⟨start, linked.send sent, same⟩

/-- **The next update was sent from what the receiver holds.** -/
theorem InStep.refers (inStep : InStep outOfStep held (update :: coming) base) {k : κ}
    (fresh : ¬ outOfStep k) : held k = update.base k := by
  obtain ⟨start, ⟨first, -⟩, same⟩ := inStep
  rw [same k fresh, first]

/-- An update is lost: the keys it moves are out of step. -/
theorem InStep.lose (inStep : InStep outOfStep held (update :: coming) base)
    (out : ∀ k, outOfStep k ∨ update.Moves k → later k) : InStep later held coming base := by
  refine ⟨update.after, inStep.choose_spec.1.2, fun k fresh => ?_⟩
  rw [inStep.refers fun old => fresh (out k (.inl old)),
    after_of_not_moves fun moved => fresh (out k (.inr moved))]

/-- An update arrives: its keys hold their values, or are out of step. -/
theorem InStep.receive (inStep : InStep outOfStep held (update :: coming) base)
    (covered : ∀ k, update.covers k = true → ¬ later k → next k = update.value k)
    (others : ∀ k, update.covers k = false → ¬ later k → ¬ outOfStep k ∧ next k = held k) :
    InStep later next coming base := by
  refine ⟨update.after, inStep.choose_spec.1.2, fun k fresh => ?_⟩
  rw [Update.after]
  split
  · next here => exact covered k here fresh
  · next elsewhere =>
    obtain ⟨old, same⟩ := others k (by simpa using elsewhere) fresh
    rw [same, inStep.refers old]

/-- What the receiver holds is changed for keys that are then out of step. -/
theorem InStep.disturb (inStep : InStep outOfStep held coming base)
    (kept : ∀ k, ¬ later k → ¬ outOfStep k ∧ next k = held k) : InStep later next coming base := by
  obtain ⟨start, linked, same⟩ := inStep
  refine ⟨start, linked, fun k fresh => ?_⟩
  obtain ⟨old, still⟩ := kept k fresh
  rw [still, same k old]

end Steps

end OpenDataCon.Differences
