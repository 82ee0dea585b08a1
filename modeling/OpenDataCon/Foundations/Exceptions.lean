import Mathlib.Data.List.Basic
import Mathlib.Data.List.Induction

/-!
# Exceptions

What a program throws, by the classes of the standard library and of a library with
exceptions of its own, and loops that stop at the first exception: a loop goes
through when no element throws (`foldlM_ok`) and throws when one does, whatever was
reached before it (`foldlM_error`).
-/

set_option autoImplicit false

namespace OpenDataCon.Exceptions

universe u v w

/-- What is thrown: exceptions of the standard library, logic and runtime errors of another
library, and a literal, which is no exception. -/
inductive Thrown where
  | runtimeError (message : String)
  | invalidArgument (message : String)
  | outOfRange (message : String)
  | libraryLogicError (message : String)
  | libraryRuntimeError (message : String)
  | literal (text : String)
deriving DecidableEq, Repr

/-- Whether a handler of standard exceptions catches it. -/
def Thrown.isStandard : Thrown → Bool
  | .literal _ => false
  | _ => true

/-- Whether a handler of runtime errors of the standard library catches it. -/
def Thrown.isRuntimeError : Thrown → Bool
  | .runtimeError _ => true
  | _ => false

/-- The text of an exception. -/
def Thrown.what : Thrown → String
  | .runtimeError message => message
  | .invalidArgument message => message
  | .outOfRange message => message
  | .libraryLogicError message => message
  | .libraryRuntimeError message => message
  | .literal text => text

section Steps

variable {ε : Type u} {α β : Type v}

/-- What is computed in two steps goes through when both do. -/
theorem bind_eq_ok_iff {result : Except ε α} {next : α → Except ε β} {made : β} :
    (result >>= next) = .ok made ↔ ∃ value, result = .ok value ∧ next value = .ok made := by
  cases result with
  | error thrown => exact ⟨fun failed => (nomatch failed), fun ⟨_, failed, _⟩ => nomatch failed⟩
  | ok value =>
      constructor
      · exact fun goes => ⟨value, rfl, goes⟩
      · rintro ⟨_, same, goes⟩
        cases same
        exact goes

theorem map_eq_ok_iff {result : Except ε α} {change : α → β} {made : β} :
    result.map change = .ok made ↔ ∃ value, result = .ok value ∧ change value = made := by
  cases result with
  | error thrown => exact ⟨fun failed => (nomatch failed), fun ⟨_, failed, _⟩ => nomatch failed⟩
  | ok value =>
      constructor
      · exact fun same => ⟨value, rfl, Except.ok.inj same⟩
      · rintro ⟨_, same, rfl⟩
        cases same
        rfl

end Steps

section Any

variable {ε α : Type u} {items : List α} {check : α → Except ε Bool} {holds : α → Bool}

/-- A search goes through when no element throws. -/
theorem anyM_ok (passes : ∀ item ∈ items, check item = .ok (holds item)) :
    items.anyM check = .ok (items.any holds) := by
  induction items with
  | nil => rfl
  | cons first rest ih =>
      rw [List.anyM_cons, passes first List.mem_cons_self, List.any_cons]
      cases holds first with
      | true => rfl
      | false => exact ih fun item later => passes item (List.mem_cons_of_mem first later)

end Any

section Loops

variable {ε : Type u} {α : Type v} {β : Type u} {step : β → α → Except ε β}

/-- **A loop throws when one of its elements does**, whatever was reached before. -/
theorem foldlM_error {items : List α} {item : α} (member : item ∈ items)
    (throws : ∀ reached, ∃ thrown, step reached item = .error thrown) (start : β) :
    ∃ thrown, items.foldlM step start = .error thrown := by
  induction items generalizing start with
  | nil => exact absurd member List.not_mem_nil
  | cons first rest ih =>
      rw [List.foldlM_cons]
      cases result : step start first with
      | error thrown => exact ⟨thrown, rfl⟩
      | ok reached =>
          rcases List.mem_cons.mp member with rfl | later
          · obtain ⟨thrown, fails⟩ := throws start
            cases fails.symm.trans result
          · exact ih later reached

/-- **A loop goes through when no element throws.** -/
theorem foldlM_ok {items : List α} {next : β → α → β}
    (passes : ∀ item ∈ items, ∀ reached, step reached item = .ok (next reached item)) (start : β) :
    items.foldlM step start = .ok (items.foldl next start) := by
  induction items generalizing start with
  | nil => rfl
  | cons first rest ih =>
      rw [List.foldlM_cons, passes first List.mem_cons_self, List.foldl_cons]
      exact ih (fun item later => passes item (List.mem_cons_of_mem first later)) _

/-- **A loop goes through with an invariant** that speaks of the elements that are done. -/
theorem foldlM_spec {items : List α} {holds : List α → β → Prop} {start : β}
    (first : holds [] start)
    (each : ∀ done item, done ++ [item] <+: items → ∀ reached, holds done reached →
      ∃ next, step reached item = .ok next ∧ holds (done ++ [item]) next) :
    ∃ last, items.foldlM step start = .ok last ∧ holds items last := by
  induction items using List.reverseRecOn with
  | nil => exact ⟨start, rfl, first⟩
  | append_singleton items item ih =>
      obtain ⟨reached, loops, held⟩ := ih fun done other before =>
        each done other (before.trans (List.prefix_append items [item]))
      obtain ⟨next, steps, holdsNext⟩ := each items item List.prefix_rfl reached held
      refine ⟨next, ?_, holdsNext⟩
      rw [List.foldlM_append, loops]
      change List.foldlM step reached [item] = .ok next
      rw [List.foldlM_cons, steps]
      rfl

/-- What a loop has reached is a function of the elements that are done. -/
theorem foldlM_eq {items : List α} {reached : List α → β} {start : β} (first : reached [] = start)
    (each : ∀ done item, done ++ [item] <+: items →
      step (reached done) item = .ok (reached (done ++ [item]))) :
    items.foldlM step start = .ok (reached items) := by
  obtain ⟨last, loops, rfl⟩ :=
    @foldlM_spec _ _ _ step items (fun done last => last = reached done) start first.symm
      fun done item before last held => ⟨_, held ▸ each done item before, rfl⟩
  exact loops

/-- **A loop goes through with an invariant** that each element keeps. -/
theorem foldlM_keeps {items : List α} {holds : β → Prop} {start : β} (first : holds start)
    (each : ∀ item ∈ items, ∀ reached, holds reached →
      ∃ next, step reached item = .ok next ∧ holds next) :
    ∃ last, items.foldlM step start = .ok last ∧ holds last :=
  foldlM_spec first fun done item before reached held =>
    each item (before.subset (List.mem_append_right done List.mem_cons_self)) reached held

end Loops

end OpenDataCon.Exceptions
