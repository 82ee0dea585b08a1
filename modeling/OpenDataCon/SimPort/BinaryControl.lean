import Mathlib.Data.Rat.Floor
import OpenDataCon.DNP3Port.TypeConversion

/-!
# Position feedback

A binary control of a simulated point can move a position up and down: that of a tap
changer, which binary points hold. The configuration names the points, what an on and an
off command do, the limits and the step. A configuration that is accepted has only points
that are configured, and limits of 32 bits, beside the default of the upper one
(`configured_of_processFeedbackPosition`).
-/

set_option autoImplicit false

namespace OpenDataCon.SimPort

open DNP3Port (ControlCode)

/-! ## Feedback -/

inductive FeedbackType where
  | ANALOG | BINARY | BCD | UNDEFINED
deriving DecidableEq, Repr

inductive PositionAction where
  | RAISE | LOWER | UNDEFINED
deriving DecidableEq, Repr

/-- `odc::to_lower`. -/
def toLower (text : List Char) : List Char := text.map Char.toLower

def toFeedbackType (strType : List Char) : FeedbackType :=
  if toLower strType = ['a', 'n', 'a', 'l', 'o', 'g'] then .ANALOG
  else if toLower strType = ['b', 'i', 'n', 'a', 'r', 'y'] then .BINARY
  else if toLower strType = ['b', 'c', 'd'] then .BCD
  else .UNDEFINED

def toPositionAction (strAction : List Char) : PositionAction :=
  if toLower strAction = ['r', 'a', 'i', 's', 'e'] then .RAISE
  else if toLower strAction = ['l', 'o', 'w', 'e', 'r'] then .LOWER
  else .UNDEFINED

/-- The step is the value of a double. -/
structure PositionFeedback where
  type : FeedbackType
  onAction : PositionAction
  offAction : PositionAction
  indexes : List Nat
  lowerLimit : Nat
  raiseLimit : Nat
  tapStep : ℚ
deriving DecidableEq

def isOffCommand (code : ControlCode) : Bool :=
  code = .LATCH_OFF || code = .TRIP_PULSE_ON || code = .PULSE_OFF

/-- What a command does. -/
def PositionFeedback.action (feedback : PositionFeedback) (functionCode : ControlCode) :
    PositionAction :=
  if isOffCommand functionCode then feedback.offAction else feedback.onAction

/-! ## Configuration -/

/-- The members of the configuration; a member that is missing is `none`. -/
structure FeedbackPosition where
  type : Option (List Char) := none
  index : Option Nat := none
  indexes : List Nat := []
  offAction : Option (List Char) := none
  onAction : Option (List Char) := none
  lowerLimit : Option Nat := none
  raiseLimit : Option Nat := none
  step : Option ℚ := none

/-- An unsigned number of 32 bits. Larger ones are refused by an exception. -/
def asUInt (value : Nat) : Option Nat := if value < 2 ^ 32 then some value else none

/-- `std::numeric_limits<size_t>::max()`. -/
def SizeMax : Nat := 2 ^ 64 - 1

/-- Whether a point is configured, of the kind that holds the position. -/
def isIndex (isBinary isAnalog : Nat → Bool) : FeedbackType → Nat → Bool
  | .ANALOG => isAnalog
  | _ => isBinary

/-- The feedback that is created, if any; nothing after an exception. The predicates say which
points are configured. -/
def processFeedbackPosition (isBinary isAnalog : Nat → Bool) (feedbackPosition : FeedbackPosition) :
    Option (Option PositionFeedback) := do
  let type := (feedbackPosition.type.map toFeedbackType).getD .UNDEFINED
  let index ← feedbackPosition.index.toList.mapM asUInt
  let more ← feedbackPosition.indexes.mapM asUInt
  let indexes := index ++ more
  let offAction := (feedbackPosition.offAction.map toPositionAction).getD .UNDEFINED
  let onAction := (feedbackPosition.onAction.map toPositionAction).getD .UNDEFINED
  let lowerLimit ← (feedbackPosition.lowerLimit.map asUInt).getD (some 0)
  let raiseLimit ← (feedbackPosition.raiseLimit.map asUInt).getD (some SizeMax)
  let tapStep := feedbackPosition.step.getD 1
  if type = .UNDEFINED then pure none
  else if indexes.all (isIndex isBinary isAnalog type) then
    pure (some { type, onAction, offAction, indexes, lowerLimit, raiseLimit, tapStep })
  else pure none

/-- What is known of a feedback whose position is held by binary points. -/
structure PositionFeedback.Configured (isBinary : Nat → Bool) (feedback : PositionFeedback) :
    Prop where
  points : ∀ index ∈ feedback.indexes, isBinary index = true
  lower : feedback.lowerLimit < 2 ^ 32
  raise : feedback.raiseLimit < 2 ^ 32 ∨ feedback.raiseLimit = SizeMax

theorem asUInt_eq_some {value number : Nat} (read : asUInt value = some number) :
    number < 2 ^ 32 := by
  rw [asUInt] at read
  split at read
  · next small =>
      cases read
      exact small
  · cases read

/-- A number with a default. -/
theorem readNumber_eq_some {member : Option Nat} {other number : Nat}
    (read : (member.map asUInt).getD (some other) = some number) :
    number < 2 ^ 32 ∨ number = other := by
  cases member with
  | none => exact .inr (Option.some.inj read).symm
  | some value => exact .inl (asUInt_eq_some read)

/-- **What is accepted is configured.** -/
theorem configured_of_processFeedbackPosition {isBinary isAnalog : Nat → Bool}
    {feedbackPosition : FeedbackPosition} {feedback : PositionFeedback}
    (accepted : processFeedbackPosition isBinary isAnalog feedbackPosition = some (some feedback))
    (binary : feedback.type ≠ .ANALOG) : feedback.Configured isBinary := by
  obtain ⟨index, -, accepted⟩ := Option.bind_eq_some_iff.mp accepted
  obtain ⟨more, -, accepted⟩ := Option.bind_eq_some_iff.mp accepted
  obtain ⟨lowerLimit, lower, accepted⟩ := Option.bind_eq_some_iff.mp accepted
  obtain ⟨raiseLimit, raise, accepted⟩ := Option.bind_eq_some_iff.mp accepted
  dsimp only at accepted
  split at accepted
  · cases accepted
  · split at accepted
    · next all =>
        cases accepted
        have kind : isIndex isBinary isAnalog
            ((feedbackPosition.type.map toFeedbackType).getD .UNDEFINED) = isBinary := by
          rw [isIndex]
          exact binary
        rw [kind] at all
        refine ⟨List.all_eq_true.mp all, ?_, readNumber_eq_some raise⟩
        rcases readNumber_eq_some lower with small | none
        · exact small
        · subst none
          exact Nat.two_pow_pos 32
    · cases accepted

end OpenDataCon.SimPort
