import OpenDataCon.MD3Port.ControlCodecs
import OpenDataCon.MD3Port.ControlExchange
import OpenDataCon.Outstations.Performing

/-!
# The controls of a message

A message that passes its checks is performed, and the calls of its callback send the responses;
one that does not is rejected at once. A pulse, an input point control and a value for an analog
output are each for a single point, and each call of their callback sends a response. An output
word has a control for each point of its module; its callback counts its calls, which are those of
the controls and one more for each channel.

The controls of single points are published once exactly by an outstation that is not on its own
(`controlledOnce_point_iff`).
-/

set_option autoImplicit false

namespace OpenDataCon.MD3Port

open MD3BlockData Runs

namespace ControlTables

variable (tables : ControlTables) (failControlResponse : Bool)

/-- A value for an analog output. No response is made to fail. -/
def doAOMControl (header : MD3BlockData) (completeMD3Message : MD3Message) : ControlAction :=
  let second := completeMD3Message.getD 1 {}
  let index := tables.getAnalogControlODCIndexUsingMD3Index header.getModuleAddress
    header.getChannel
  if header.getStationAddress = 0 then .ignored
  else if completeMD3Message.length ≠ 2 ∨ header.verifyAomSecondBlock second = false then .rejected
  else
    match index with
    | none => .rejected
    | some index =>
      .performed (.analogOutputInt16 index (getOutputFromAomSecondBlock second).toNat)

/-- All messages with controls. -/
def processControl (completeMD3Message : MD3Message) : ControlAction :=
  let header := completeMD3Message.headD {}
  if header.isMasterToStationMessage = false then .ignored
  else if header.getFunctionCode = AOM_TYPE_CONTROL then
    tables.doAOMControl header completeMD3Message
  else tables.processMD3Message failControlResponse completeMD3Message

end ControlTables

namespace ControlAction

/-- What is done with the controls of a message, by a port that is enabled. -/
def actions (waitforresult : Bool) : ControlAction → List (Outstations.Action ControlEvent)
  | .ignored => []
  | .rejected => []
  | .performed event => Outstations.perform true waitforresult event
  | .performedWord channels =>
    channels.flatMap fun channel =>
      Outstations.performAll waitforresult channel.toList ++ [.call .SUCCESS]

/-- The responses to a message: a rejection at once, or what its callback makes of its calls. -/
def responses (action : ControlAction) (called : List Connectors.CommandStatus) : List Bool :=
  match action with
  | .ignored => []
  | .rejected => [false]
  | .performed _ => called.map (· == .SUCCESS)
  | .performedWord _ => (run countStatus (true, 0) called).2

/-- The message has at most one control. -/
def IsSingle : ControlAction → Prop
  | .performedWord _ => False
  | _ => True

end ControlAction

/-- The codes of the messages for a single point. -/
def IsPointControl (functionCode : Nat) : Prop :=
  functionCode = POM_TYPE_CONTROL ∨ functionCode = AOM_TYPE_CONTROL ∨
    functionCode = INPUT_POINT_CONTROL

section PointControls

variable {tables : ControlTables} {failControlResponse : Bool}

theorem doPOMControl_isSingle (header : MD3BlockData) (completeMD3Message : MD3Message) :
    (tables.doPOMControl failControlResponse header completeMD3Message).IsSingle := by
  unfold ControlTables.doPOMControl
  dsimp only
  split_ifs
  · trivial
  · trivial
  all_goals split <;> trivial

theorem doAOMControl_isSingle (header : MD3BlockData) (completeMD3Message : MD3Message) :
    (tables.doAOMControl header completeMD3Message).IsSingle := by
  unfold ControlTables.doAOMControl
  dsimp only
  split_ifs
  · trivial
  · trivial
  · split <;> trivial

theorem doInputPointControl_isSingle (header : MD3BlockData) (completeMD3Message : MD3Message) :
    (tables.doInputPointControl failControlResponse header completeMD3Message).IsSingle := by
  unfold ControlTables.doInputPointControl
  dsimp only
  split_ifs
  · trivial
  · trivial
  all_goals split <;> trivial

/-- **The messages for a single point have at most one control.** -/
theorem processControl_isSingle {completeMD3Message : MD3Message}
    (point : IsPointControl (completeMD3Message.headD {}).getFunctionCode) :
    (tables.processControl failControlResponse completeMD3Message).IsSingle := by
  unfold ControlTables.processControl ControlTables.processMD3Message
  dsimp only
  by_cases request : (completeMD3Message.headD {}).isMasterToStationMessage = false
  · rw [if_pos request]
    trivial
  · rcases point with code | code | code
    · rw [if_neg request, code, if_neg (by decide), if_neg request, if_pos rfl]
      exact doPOMControl_isSingle _ _
    · rw [if_neg request, code, if_pos rfl]
      exact doAOMControl_isSingle _ _
    · rw [if_neg request, code, if_neg (by decide), if_neg request, if_neg (by decide),
        if_neg (by decide)]
      split
      · exact doInputPointControl_isSingle _ _
      · trivial

/-- What is done with a single control is performing it. -/
theorem actions_eq_performAll {action : ControlAction} (single : action.IsSingle)
    (waitforresult : Bool) :
    action.actions waitforresult = Outstations.performAll waitforresult action.events := by
  cases action with
  | ignored => rfl
  | rejected => rfl
  | performed event => exact (List.flatMap_singleton _ _).symm
  | performedWord channels => cases single

/-- A single control has one response when its callback was called once. -/
theorem responses_length_le {action : ControlAction} (single : action.IsSingle)
    {called : List Connectors.CommandStatus} (length : called.length = action.events.length) :
    (action.responses called).length ≤ 1 := by
  cases action with
  | ignored => exact Nat.zero_le 1
  | rejected => exact Nat.le_refl 1
  | performed event => exact Nat.le_of_eq ((List.length_map _).trans length)
  | performedWord channels => cases single

/-- **The control of a single point.** With all events answered each subscriber has received the
control of the message once, if it has one, and there is one response at most, exactly at an
outstation that is not on its own, if there is a control. -/
theorem controlledOnce_point_iff (standAloneOutstation : Bool) {completeMD3Message : MD3Message}
    (point : IsPointControl (completeMD3Message.headD {}).getFunctionCode) {subscribers : Nat}
    (positive : 0 < subscribers) {inputs : List Outstations.Input} :
    let action := tables.processControl failControlResponse completeMD3Message
    let performed := run (Outstations.step subscribers)
      { todo := action.actions (!standAloneOutstation) } inputs
    Outstations.Done performed.1 →
      (Outstations.ControlledOnce subscribers action.events 1 performed.2
          (action.responses (Outstations.called performed.2)).length ↔
        standAloneOutstation = false ∨ action.events = []) := by
  intro action performed
  have single : action.IsSingle := processControl_isSingle point
  subst performed
  rw [actions_eq_performAll single]
  intro done
  refine (Outstations.controlledOnce_iff positive _ _ done ?_).trans ?_
  · exact responses_length_le single
  · rw [Bool.not_eq_true']

end PointControls

end OpenDataCon.MD3Port
