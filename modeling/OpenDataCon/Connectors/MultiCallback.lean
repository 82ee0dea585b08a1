import Mathlib.Data.List.Perm.Basic
import OpenDataCon.Foundations.Runs

/-!
# One callback for many receivers

An event that goes to several receivers gives each of them the closure that
`SyncMultiCallback` makes of the sender's status callback. The closure runs on a
strand, so its calls come one after the other; it counts them, keeps the combined
status, and calls the sender's callback.

The closure calls on after at most as many calls as there are receivers, and
which calls it makes does not depend on the order in which the answers come
(`run_call_perm`). With all answers in, it has called on exactly once, with the
status that the answers combine to (`run_call_full`).
-/

set_option autoImplicit false

namespace OpenDataCon.Connectors

open Runs

/-- The status of a command, as callbacks report it. -/
inductive CommandStatus where
  | SUCCESS | TIMEOUT | NO_SELECT | FORMAT_ERROR | NOT_SUPPORTED | ALREADY_ACTIVE
  | HARDWARE_ERROR | LOCAL | TOO_MANY_OPS | NOT_AUTHORIZED | AUTOMATION_INHIBIT
  | PROCESSING_LIMITED | OUT_OF_RANGE | DOWNSTREAM_LOCAL | ALREADY_COMPLETE | BLOCKED
  | CANCELLED | BLOCKED_OTHER_MASTER | DOWNSTREAM_FAIL | NON_PARTICIPATING | UNDEFINED
deriving DecidableEq, Repr

/-- The variables that the calls of one closure share. -/
structure MultiCallback where
  cbNumber : Nat
  execCount : Nat := 0
  combinedStatus : CommandStatus := .SUCCESS
deriving DecidableEq, Repr

namespace MultiCallback

/-- One call of the closure, and the calls it makes of the sender's callback. -/
def call (cb : MultiCallback) (status : CommandStatus) : MultiCallback × List CommandStatus :=
  if cb.combinedStatus = .UNDEFINED then (cb, [])
  else
    let counted := { cb with execCount := cb.execCount + 1 }
    if counted.execCount = 1 then
      let first := { counted with combinedStatus := status }
      if first.combinedStatus = .UNDEFINED then (first, [first.combinedStatus])
      else (first, if first.cbNumber ≤ first.execCount then [first.combinedStatus] else [])
    else if status ≠ counted.combinedStatus then
      ({ counted with combinedStatus := .UNDEFINED }, [.UNDEFINED])
    else
      (counted, if counted.cbNumber ≤ counted.execCount then [counted.combinedStatus] else [])

/-- So many calls may still come. -/
def Allows (cb : MultiCallback) (calls : Nat) : Prop := cb.execCount + calls ≤ cb.cbNumber

/-! ## What one call does -/

section Calls

variable (cb : MultiCallback)

/-- A closure that has reported `UNDEFINED` does nothing more. -/
theorem call_undefined (dead : cb.combinedStatus = .UNDEFINED) (status : CommandStatus) :
    cb.call status = (cb, []) := if_pos dead

/-- The first answer becomes the combined status. -/
theorem call_first (live : cb.combinedStatus ≠ .UNDEFINED) (fresh : cb.execCount = 0)
    (status : CommandStatus) :
    cb.call status = ({ cb with execCount := 1, combinedStatus := status },
      if status = .UNDEFINED ∨ cb.cbNumber ≤ 1 then [status] else []) := by
  unfold call
  rw [if_neg live]
  by_cases none : status = .UNDEFINED
  · simp [fresh, none]
  · simp [fresh, none]

/-- A later answer that agrees is counted. -/
theorem call_agrees (live : cb.combinedStatus ≠ .UNDEFINED) (begun : cb.execCount ≠ 0) :
    cb.call cb.combinedStatus = ({ cb with execCount := cb.execCount + 1 },
      if cb.cbNumber ≤ cb.execCount + 1 then [cb.combinedStatus] else []) := by
  unfold call
  rw [if_neg live]
  simp [begun]

/-- A later answer that differs ends the closure. -/
theorem call_differs (live : cb.combinedStatus ≠ .UNDEFINED) (begun : cb.execCount ≠ 0)
    {status : CommandStatus} (differs : status ≠ cb.combinedStatus) :
    cb.call status =
      ({ cb with execCount := cb.execCount + 1, combinedStatus := .UNDEFINED }, [.UNDEFINED]) := by
  unfold call
  rw [if_neg live]
  simp [begun, differs]

/-- A call leaves the number of receivers, and is counted unless the closure was done. -/
theorem call_counts (status : CommandStatus) :
    (cb.call status).1.cbNumber = cb.cbNumber ∧
      ((cb.call status).1 = cb ∨ (cb.call status).1.execCount = cb.execCount + 1) := by
  by_cases live : cb.combinedStatus = .UNDEFINED
  · rw [call_undefined cb live]
    exact ⟨rfl, .inl rfl⟩
  · by_cases fresh : cb.execCount = 0
    · rw [call_first cb live fresh, fresh]
      exact ⟨rfl, .inr rfl⟩
    · by_cases agrees : status = cb.combinedStatus
      · rw [agrees, call_agrees cb live fresh]
        exact ⟨rfl, .inr rfl⟩
      · rw [call_differs cb live fresh agrees]
        exact ⟨rfl, .inr rfl⟩

end Calls

variable {cb : MultiCallback}

/-- One call leads to at most one call. -/
theorem call_length_le (status : CommandStatus) : (cb.call status).2.length ≤ 1 := by
  by_cases live : cb.combinedStatus = .UNDEFINED
  · rw [call_undefined cb live]
    exact Nat.zero_le 1
  · by_cases fresh : cb.execCount = 0
    · rw [call_first cb live fresh]
      dsimp only
      split_ifs <;> simp
    · by_cases agrees : status = cb.combinedStatus
      · rw [agrees, call_agrees cb live fresh]
        dsimp only
        split_ifs <;> simp
      · rw [call_differs cb live fresh agrees]
        exact Nat.le_refl 1

theorem call_allows {calls : Nat} (allowed : cb.Allows (calls + 1)) (status : CommandStatus) :
    (cb.call status).1.Allows calls := by
  obtain ⟨number, unchanged | counted⟩ := call_counts cb status
  · rw [unchanged]
    exact Nat.le_of_succ_le allowed
  · unfold Allows at allowed ⊢
    rw [number, counted]
    omega

theorem run_call_undefined (dead : cb.combinedStatus = .UNDEFINED)
    (statuses : List CommandStatus) : run call cb statuses = (cb, []) := by
  induction statuses with
  | nil => rfl
  | cons status rest ih =>
      rw [run_cons, call_undefined cb dead, ih]
      rfl

/-! ## The order of the calls -/

/-- Two different answers: one of the two calls reports `UNDEFINED`, and it is all
the closure reports. -/
theorem run_call_differing (live : cb.combinedStatus ≠ .UNDEFINED)
    {first second : CommandStatus} (differ : first ≠ second) (rest : List CommandStatus)
    (allowed : cb.Allows (rest.length + 2)) :
    (run call cb (first :: second :: rest)).2 = [.UNDEFINED] := by
  unfold Allows at allowed
  rw [run_cons]
  by_cases fresh : cb.execCount = 0
  · rw [call_first cb live fresh]
    by_cases none : first = .UNDEFINED
    · rw [if_pos (.inl none), run_call_undefined none, none]
      rfl
    · have more : ¬(first = .UNDEFINED ∨ cb.cbNumber ≤ 1) := by
        rintro (undefined | few)
        · exact none undefined
        · omega
      rw [if_neg more, run_cons, call_differs _ none Nat.one_ne_zero differ.symm,
        run_call_undefined rfl]
      rfl
  · by_cases agrees : first = cb.combinedStatus
    · have counted : ¬cb.cbNumber ≤ cb.execCount + 1 := by omega
      have ended : MultiCallback.call { cb with execCount := cb.execCount + 1 } second =
          ({ cb with execCount := cb.execCount + 2, combinedStatus := .UNDEFINED },
            [.UNDEFINED]) :=
        call_differs { cb with execCount := cb.execCount + 1 } live (Nat.succ_ne_zero _)
          fun equal => differ (agrees.trans equal.symm)
      rw [agrees, call_agrees cb live fresh, if_neg counted, run_cons, ended,
        run_call_undefined rfl]
      rfl
    · rw [call_differs cb live fresh agrees, run_call_undefined rfl]
      rfl

/-- **The calls a closure makes do not depend on the order of the answers.** -/
theorem run_call_perm {statuses statuses' : List CommandStatus} (perm : statuses.Perm statuses')
    (allowed : cb.Allows statuses.length) :
    (run call cb statuses).2 = (run call cb statuses').2 := by
  induction perm generalizing cb with
  | nil => rfl
  | cons status _ ih =>
      rw [run_cons, run_cons, ih (call_allows allowed status)]
  | swap first second rest =>
      by_cases live : cb.combinedStatus = .UNDEFINED
      · rw [run_call_undefined live, run_call_undefined live]
      · by_cases same : first = second
        · rw [same]
        · rw [run_call_differing live (Ne.symm same) rest allowed,
            run_call_differing live same rest allowed]
  | trans left _ ihLeft ihRight =>
      exact (ihLeft allowed).trans (ihRight (left.length_eq ▸ allowed))

/-! ## All calls of a new closure -/

/-- A closure for so many receivers. -/
def new (cbNumber : Nat) : MultiCallback := { cbNumber }

theorem new_allows {cbNumber calls : Nat} (few : calls ≤ cbNumber) :
    (new cbNumber).Allows calls := by
  unfold Allows new
  dsimp only
  omega

theorem new_live (cbNumber : Nat) : (new cbNumber).combinedStatus ≠ .UNDEFINED :=
  CommandStatus.noConfusion

/-- What several answers combine to: the one that all gave, or `UNDEFINED`. -/
structure Combines (statuses : List CommandStatus) (combined : CommandStatus) : Prop where
  agreed : ∀ status ∈ statuses, (∀ other ∈ statuses, other = status) → combined = status
  differed : ∀ status ∈ statuses, ∀ other ∈ statuses, status ≠ other →
    combined = .UNDEFINED
  undefined : .UNDEFINED ∈ statuses → combined = .UNDEFINED

theorem combines_singleton (status : CommandStatus) : Combines [status] status where
  agreed _ member _ := (List.mem_singleton.mp member).symm
  differed _ left _ right differ :=
    absurd ((List.mem_singleton.mp left).trans (List.mem_singleton.mp right).symm) differ
  undefined member := (List.mem_singleton.mp member).symm

theorem combines_undefined {statuses : List CommandStatus} (member : .UNDEFINED ∈ statuses) :
    Combines statuses .UNDEFINED where
  agreed _ _ all := all _ member
  differed _ _ _ _ _ := rfl
  undefined _ := rfl

/-- Answers always combine to something. -/
theorem exists_combines (statuses : List CommandStatus) :
    ∃ combined, Combines statuses combined := by
  by_cases agreed : ∃ status ∈ statuses, ∀ other ∈ statuses, other = status
  · obtain ⟨status, member, all⟩ := agreed
    exact ⟨status,
      { agreed := fun other right _ => (all other right).symm
        differed := fun one left other right differ =>
          absurd ((all one left).trans (all other right).symm) differ
        undefined := fun undefined => (all _ undefined).symm }⟩
  · exact ⟨.UNDEFINED,
      { agreed := fun status member all => absurd ⟨status, member, all⟩ agreed
        differed := fun _ _ _ _ _ => rfl
        undefined := fun _ => rfl }⟩

variable {cbNumber : Nat} {statuses : List CommandStatus}

/-- One `UNDEFINED` among the answers is reported at once. -/
theorem run_new_undefined (member : .UNDEFINED ∈ statuses) (few : statuses.length ≤ cbNumber) :
    (run call (new cbNumber) statuses).2 = [.UNDEFINED] := by
  rw [run_call_perm (List.perm_cons_erase member) (new_allows few), run_cons,
    call_first _ (new_live _) rfl, if_pos (.inl rfl), run_call_undefined rfl]
  rfl

/-- Two answers that differ are reported as `UNDEFINED`. -/
theorem run_new_differing {first second : CommandStatus} (left : first ∈ statuses)
    (right : second ∈ statuses) (differ : first ≠ second) (few : statuses.length ≤ cbNumber) :
    (run call (new cbNumber) statuses).2 = [.UNDEFINED] := by
  have still : second ∈ statuses.erase first := (List.mem_erase_of_ne (Ne.symm differ)).mpr right
  have perm : statuses.Perm (first :: second :: (statuses.erase first).erase second) :=
    (List.perm_cons_erase left).trans ((List.perm_cons_erase still).cons first)
  have allowed : (new cbNumber).Allows (((statuses.erase first).erase second).length + 2) :=
    new_allows (le_of_eq_of_le perm.length_eq.symm few)
  rw [run_call_perm perm (new_allows few),
    run_call_differing (new_live _) differ _ allowed]

/-- Further answers that agree are counted; the last one is reported. -/
theorem run_call_replicate (cb : MultiCallback) (live : cb.combinedStatus ≠ .UNDEFINED)
    (begun : cb.execCount ≠ 0) (calls : Nat) (allowed : cb.Allows calls) :
    (run call cb (List.replicate calls cb.combinedStatus)).2 =
      if calls ≠ 0 ∧ cb.execCount + calls = cb.cbNumber then [cb.combinedStatus] else [] := by
  induction calls generalizing cb with
  | zero => rfl
  | succ calls ih =>
      unfold Allows at allowed
      have later := ih { cb with execCount := cb.execCount + 1 } live
        (Nat.succ_ne_zero _) (by unfold Allows; dsimp only; omega)
      dsimp only at later
      rw [List.replicate_succ, run_cons, call_agrees cb live begun, later]
      by_cases last : calls = 0
      · subst last
        by_cases full : cb.execCount + 1 = cb.cbNumber
        · simp [full]
        · have waiting : ¬cb.cbNumber ≤ cb.execCount + 1 := by omega
          simp [full, waiting]
      · have waiting : ¬cb.cbNumber ≤ cb.execCount + 1 := by omega
        have shift : cb.execCount + 1 + calls = cb.execCount + (calls + 1) := by omega
        simp [last, waiting, shift]

/-- Answers that all agree are reported when they are all in. -/
theorem run_new_agreeing {status : CommandStatus} (defined : status ≠ .UNDEFINED)
    (several : 2 ≤ cbNumber) (all : ∀ other ∈ statuses, other = status)
    (few : statuses.length ≤ cbNumber) :
    (run call (new cbNumber) statuses).2 =
      if statuses.length = cbNumber then [status] else [] := by
  obtain ⟨calls, rfl⟩ : ∃ calls, statuses = List.replicate calls status :=
    ⟨_, List.eq_replicate_of_mem all⟩
  rw [List.length_replicate] at few ⊢
  cases calls with
  | zero =>
      rw [if_neg (by omega)]
      rfl
  | succ calls =>
      have more : ¬(status = .UNDEFINED ∨ (new cbNumber).cbNumber ≤ 1) := by
        rintro (undefined | one)
        · exact defined undefined
        · dsimp only [new] at one
          omega
      have later := run_call_replicate
        { new cbNumber with execCount := 1, combinedStatus := status } defined
        Nat.one_ne_zero calls (by unfold Allows; dsimp only [new]; omega)
      dsimp only [new] at later
      rw [List.replicate_succ, run_cons, call_first _ (new_live _) rfl, if_neg more]
      dsimp only [new]
      rw [later, List.nil_append]
      exact if_congr (by omega) rfl rfl

/-- **With all answers in, a closure has called on exactly once**, with what they
combine to. -/
theorem run_new_full (several : 2 ≤ cbNumber) (full : statuses.length = cbNumber) :
    ∃ combined, (run call (new cbNumber) statuses).2 = [combined] ∧
      Combines statuses combined := by
  obtain ⟨combined, combines⟩ := exists_combines statuses
  refine ⟨combined, ?_, combines⟩
  by_cases none : .UNDEFINED ∈ statuses
  · rw [run_new_undefined none (Nat.le_of_eq full), combines.undefined none]
  · obtain ⟨status, member⟩ := List.exists_mem_of_length_pos (l := statuses) (by omega)
    have defined : status ≠ .UNDEFINED := fun equal => none (equal ▸ member)
    by_cases all : ∀ other ∈ statuses, other = status
    · rw [run_new_agreeing defined several all (Nat.le_of_eq full), if_pos full,
        combines.agreed status member all]
    · push Not at all
      obtain ⟨other, right, differ⟩ := all
      rw [run_new_differing right member differ (Nat.le_of_eq full),
        combines.differed other right status member differ]

/-- A closure calls on at most once. -/
theorem run_new_length_le (several : 2 ≤ cbNumber) (few : statuses.length ≤ cbNumber) :
    (run call (new cbNumber) statuses).2.length ≤ 1 := by
  by_cases none : .UNDEFINED ∈ statuses
  · rw [run_new_undefined none few]
    exact Nat.le_refl 1
  · cases statuses with
    | nil => exact Nat.zero_le 1
    | cons status rest =>
        have defined : status ≠ .UNDEFINED := fun equal => none (equal ▸ List.mem_cons_self)
        by_cases all : ∀ other ∈ status :: rest, other = status
        · rw [run_new_agreeing defined several all few]
          split_ifs
          · exact Nat.le_refl 1
          · exact Nat.zero_le 1
        · push Not at all
          obtain ⟨other, right, differ⟩ := all
          rw [run_new_differing right List.mem_cons_self differ few]
          exact Nat.le_refl 1

end MultiCallback

end OpenDataCon.Connectors
