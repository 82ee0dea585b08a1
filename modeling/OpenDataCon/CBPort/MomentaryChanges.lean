import OpenDataCon.CBPort.OutstationScan

/-!
# The change flags of momentary contacts

Between two scans a momentary contact is set any number of times. The flag of the second scan
should tell of a rise (type A), of a fall (type B), or of two changes (type C) since the first one,
and is cleared by the scan. For the first two types it does. Type C looks at the mark of the last
value alone, so a value that is set again hides the change before it: the flag tells of two changes
in a row (`setAll_status`). The flags of a run are those due exactly when between two scans a contact
C has no two changes or has two in a row (`run_scanFlags_iff`).
-/

set_option autoImplicit false

namespace OpenDataCon.CBPort

open CBOutstation PointTable Runs

/-! ## Changes in a list of values -/

/-- How many of the values follow a value that they are in a relation with. -/
def countSteps (counts : Bool → Bool → Bool) : Bool → List Bool → Nat
  | _, [] => 0
  | value, next :: rest => (counts value next).toNat + countSteps counts next rest

/-- One of the values counts, the first or a later one. -/
theorem countSteps_cons_pos (counts : Bool → Bool → Bool) (value next : Bool) (rest : List Bool) :
    decide (0 < countSteps counts value (next :: rest)) =
      (counts value next || decide (0 < countSteps counts next rest)) := by
  rw [countSteps]
  cases counts value next with
  | true => exact decide_eq_true (by rw [Bool.toNat_true]; omega)
  | false => rw [Bool.toNat_false, Nat.zero_add, Bool.false_or]

def rises : Bool → List Bool → Nat := countSteps fun value next => !value && next

def falls : Bool → List Bool → Nat := countSteps fun value next => value && !next

def transitions : Bool → List Bool → Nat := countSteps fun value next => value != next

/-- A change comes right after another one; the first mark tells of one before the values. -/
def changesInARow : Bool → Bool → List Bool → Bool
  | _, _, [] => false
  | changed, value, next :: rest =>
    changed && value != next || changesInARow (value != next) next rest

/-- What the flag of a scan should tell of the values since the scan before. -/
def flagDue (pointType : BinaryPointType) (value : Bool) (values : List Bool) : Bool :=
  match pointType with
  | .MCA => decide (0 < rises value values)
  | .MCB => decide (0 < falls value values)
  | .MCC => decide (2 ≤ transitions value values)
  | .DIG | .BINCONTROL => false

/-- Two changes in a row are two changes, or one with one before. -/
theorem transitions_of_changesInARow {changed value : Bool} {values : List Bool}
    (inARow : changesInARow changed value values = true) :
    2 ≤ changed.toNat + transitions value values := by
  induction values generalizing changed value with
  | nil => cases inARow
  | cons next rest ih =>
      simp only [transitions, countSteps]
      rcases Bool.or_eq_true_iff.mp inARow with both | later
      · rw [Bool.and_eq_true] at both
        simp only [both.1, both.2, Bool.toNat_true]
        omega
      · have two := ih later
        simp only [transitions] at two
        omega

/-! ## The marks of a point -/

/-- The point after some values were set. -/
def CBBinaryPoint.setAll (point : CBBinaryPoint) (updates : List (Bool × Nat)) : CBBinaryPoint :=
  updates.foldl (fun point update => point.setBinary update.1 update.2) point

/-- What the change status tells of the values that were set. -/
def statusOf (point : CBBinaryPoint) (values : List Bool) : Bool :=
  match point.pointType with
  | .MCA => decide (0 < rises point.binary values)
  | .MCB => decide (0 < falls point.binary values)
  | .MCC => changesInARow point.changed point.binary values
  | .DIG | .BINCONTROL => false

@[simp] theorem setAll_pointType (point : CBBinaryPoint) (updates : List (Bool × Nat)) :
    (point.setAll updates).pointType = point.pointType := by
  induction updates generalizing point with
  | nil => rfl
  | cons update rest ih => exact ih (point.setBinary update.1 update.2)

@[simp] theorem setAll_channel (point : CBBinaryPoint) (updates : List (Bool × Nat)) :
    (point.setAll updates).channel = point.channel := by
  induction updates generalizing point with
  | nil => rfl
  | cons update rest ih => exact ih (point.setBinary update.1 update.2)

/-- The change status after one value. -/
theorem setBinary_status (point : CBBinaryPoint) (b : Bool) (ctime : Nat) :
    (point.setBinary b ctime).momentaryChangeStatus =
      (point.momentaryChangeStatus || match point.pointType with
        | .MCA => !point.binary && b
        | .MCB => point.binary && !b
        | .MCC => point.changed && point.binary != b
        | .DIG | .BINCONTROL => false) := by
  unfold CBBinaryPoint.setBinary
  cases kind : point.pointType <;>
    cases point.momentaryChangeStatus <;> cases point.binary <;> cases b <;> cases point.changed <;>
      rfl

/-- **The change status after some values**, one value at a time. -/
theorem setAll_status (point : CBBinaryPoint) (updates : List (Bool × Nat)) :
    (point.setAll updates).momentaryChangeStatus =
      (point.momentaryChangeStatus || statusOf point (updates.map Prod.fst)) := by
  induction updates generalizing point with
  | nil =>
      have none : statusOf point [] = false := by
        unfold statusOf
        split <;> rfl
      rw [List.map_nil, none, Bool.or_false]
      rfl
  | cons update rest ih =>
      have next := ih (point.setBinary update.1 update.2)
      rw [CBBinaryPoint.setAll, List.foldl_cons, ← CBBinaryPoint.setAll, next, setBinary_status,
        Bool.or_assoc]
      congr 1
      simp only [statusOf, CBBinaryPoint.setBinary_pointType, CBBinaryPoint.setBinary_binary,
        List.map_cons]
      cases point.pointType with
      | DIG | BINCONTROL => rfl
      | MCA => exact (countSteps_cons_pos (fun value next => !value && next) _ _ _).symm
      | MCB => exact (countSteps_cons_pos (fun value next => value && !next) _ _ _).symm
      | MCC => rfl

/-- The value after some values: the last one of them, or the one before. -/
theorem setAll_binary (point : CBBinaryPoint) (updates : List (Bool × Nat)) :
    (point.setAll updates).binary = (updates.map Prod.fst).getLastD point.binary := by
  induction updates generalizing point with
  | nil => rfl
  | cons update rest ih =>
      rw [CBBinaryPoint.setAll, List.foldl_cons, ← CBBinaryPoint.setAll, ih, List.map_cons,
        List.getLastD_cons]
      rfl

/-! ## Scans -/

/-- A value is set, or a scan reads the point. -/
inductive PointInput where
  | set (b : Bool) (ctime : Nat)
  | scan
deriving DecidableEq, Repr

/-- What is put out is the change flag in the word of a scan. -/
def scanStep (isBakerDevice : Bool) (point : CBBinaryPoint) :
    PointInput → CBBinaryPoint × List Bool
  | .set b ctime => (point.setBinary b ctime, [])
  | .scan =>
    let result := binaryPayload isBakerDevice point
    (result.1, [result.2.getLsbD (momentaryShifts isBakerDevice point.channel).2])

/-- Some values and a scan. -/
def untilScan (updates : List (Bool × Nat)) : List PointInput :=
  updates.map (fun update => .set update.1 update.2) ++ [.scan]

/-- The flags that are due, with the values between one scan and the next. -/
def flagsDue (pointType : BinaryPointType) : Bool → List (List Bool) → List Bool
  | _, [] => []
  | value, values :: rest =>
    flagDue pointType value values :: flagsDue pointType (values.getLastD value) rest

/-- Between two scans a contact C has no two changes, or two in a row. -/
def ChangesSeen (pointType : BinaryPointType) : Bool → List (List Bool) → Prop
  | _, [] => True
  | value, values :: rest =>
    (pointType = .MCC → 2 ≤ transitions value values →
      changesInARow false value values = true) ∧
      ChangesSeen pointType (values.getLastD value) rest

instance decidableChangesSeen (pointType : BinaryPointType) :
    ∀ value segments, Decidable (ChangesSeen pointType value segments)
  | _, [] => .isTrue trivial
  | value, values :: rest =>
    have := decidableChangesSeen pointType (values.getLastD value) rest
    inferInstanceAs (Decidable ((_ → _ → _) ∧ _))

section Scans

variable {isBakerDevice : Bool} {point : CBBinaryPoint}

/-- The change flag in the word is the change status. -/
theorem changeFlag_eq (dual : isDualBit point.pointType = true) (low : 1 ≤ point.channel)
    (high : point.channel ≤ 6) :
    (binaryPayload isBakerDevice point).2.getLsbD
        (momentaryShifts isBakerDevice point.channel).2 = point.momentaryChangeStatus := by
  obtain ⟨inWord, inWord', distinct⟩ :
      (momentaryShifts isBakerDevice point.channel).1 < 16 ∧
        (momentaryShifts isBakerDevice point.channel).2 < 16 ∧
        (momentaryShifts isBakerDevice point.channel).2 ≠
          (momentaryShifts isBakerDevice point.channel).1 := by
    unfold momentaryShifts
    split <;> simp <;> omega
  rw [binaryPayload_momentary dual, BitVec.getLsbD_or, getLsbD_optionalBit _ inWord,
    getLsbD_optionalBit _ inWord']
  simp [distinct]

/-- A scan clears the change marks. -/
theorem binaryPayload_cleared (dual : isDualBit point.pointType = true) :
    (binaryPayload isBakerDevice point).1 = unmark point := by
  cases kind : point.pointType with
  | DIG | BINCONTROL => simp [isDualBit, kind] at dual
  | MCA | MCB | MCC =>
      simp only [binaryPayload, kind]
      rfl

/-- The values that are set before a scan. -/
theorem run_untilScan (point : CBBinaryPoint) (updates : List (Bool × Nat))
    (rest : List PointInput) :
    run (scanStep isBakerDevice) point (untilScan updates ++ rest) =
      ((run (scanStep isBakerDevice)
          (binaryPayload isBakerDevice (point.setAll updates)).1 rest).1,
        (binaryPayload isBakerDevice (point.setAll updates)).2.getLsbD
            (momentaryShifts isBakerDevice (point.setAll updates).channel).2 ::
          (run (scanStep isBakerDevice)
            (binaryPayload isBakerDevice (point.setAll updates)).1 rest).2) := by
  induction updates generalizing point with
  | nil => rfl
  | cons update later ih =>
      have next := ih (point.setBinary update.1 update.2)
      rw [untilScan, List.map_cons, List.cons_append, List.cons_append, run_cons]
      rw [untilScan] at next
      dsimp only [scanStep]
      rw [List.nil_append]
      exact next

/-- The flag of a scan is the one due, when two changes are seen as such. -/
theorem statusOf_eq_iff (cleared : point.changed = false)
    (dual : isDualBit point.pointType = true) (values : List Bool) :
    statusOf point values = flagDue point.pointType point.binary values ↔
      (point.pointType = .MCC → 2 ≤ transitions point.binary values →
        changesInARow false point.binary values = true) := by
  cases kind : point.pointType with
  | DIG | BINCONTROL => simp [isDualBit, kind] at dual
  | MCA | MCB => simp [statusOf, flagDue, kind]
  | MCC =>
      simp only [statusOf, flagDue, kind, cleared, forall_const]
      cases inARow : changesInARow false point.binary values with
      | true =>
          have two := transitions_of_changesInARow inARow
          rw [Bool.toNat_false, Nat.zero_add] at two
          simp [two]
      | false => simp

/-- **Each scan tells what is due of the values since the scan before**, exactly when no two changes
of a contact C are hidden by values that are set again. -/
theorem run_scanFlags_iff (isBakerDevice : Bool) (point : CBBinaryPoint)
    (dual : isDualBit point.pointType = true) (low : 1 ≤ point.channel) (high : point.channel ≤ 6)
    (segments : List (List (Bool × Nat))) :
    (run (scanStep isBakerDevice) (scanStep isBakerDevice point .scan).1
        (segments.flatMap untilScan)).2 =
      flagsDue point.pointType point.binary (segments.map (List.map Prod.fst)) ↔
    ChangesSeen point.pointType point.binary (segments.map (List.map Prod.fst)) := by
  have start : (scanStep isBakerDevice point .scan).1 = unmark point := binaryPayload_cleared dual
  rw [start]
  induction segments generalizing point with
  | nil => simp [flagsDue, ChangesSeen]
  | cons updates rest ih =>
      have dualNow : isDualBit ((unmark point).setAll updates).pointType = true := by
        rw [setAll_pointType]
        exact dual
      have flag := @changeFlag_eq isBakerDevice ((unmark point).setAll updates) dualNow
        (by rw [setAll_channel]; exact low) (by rw [setAll_channel]; exact high)
      have status := setAll_status (unmark point) updates
      have due := @statusOf_eq_iff (unmark point) rfl dual (updates.map Prod.fst)
      have later := ih ((unmark point).setAll updates) dualNow
        (by rw [setAll_channel]; exact low) (by rw [setAll_channel]; exact high)
        (binaryPayload_cleared dualNow)
      rw [setAll_pointType, setAll_binary] at later
      rw [List.flatMap_cons, run_untilScan, flag, status, binaryPayload_cleared dualNow,
        List.map_cons, flagsDue, ChangesSeen, List.cons.injEq]
      exact and_congr (by simpa [unmark] using due) later

end Scans

/-- Values that are set again do not hide the changes of a contact A. -/
theorem run_scanFlags_contactA :
    let point : CBBinaryPoint := { pointType := .MCA, channel := 1 }
    (run (scanStep false) (scanStep false point .scan).1
        ([[(false, 1), (false, 2), (true, 3)], [(true, 4)]].flatMap untilScan)).2 =
      [true, false] :=
  (run_scanFlags_iff false { pointType := .MCA, channel := 1 } (by decide) (by decide) (by decide)
    [[(false, 1), (false, 2), (true, 3)], [(true, 4)]]).mpr (by decide)

/-- Two changes of a contact C, with a value that is set again between them. -/
theorem run_scanFlags_hidden :
    let point : CBBinaryPoint := { pointType := .MCC, channel := 1 }
    transitions point.binary [false, false, true] = 2 ∧
      (run (scanStep false) (scanStep false point .scan).1
        ([[(false, 1), (false, 2), (true, 3)]].flatMap untilScan)).2 ≠
          flagsDue point.pointType point.binary [[false, false, true]] := by
  decide

end OpenDataCon.CBPort
