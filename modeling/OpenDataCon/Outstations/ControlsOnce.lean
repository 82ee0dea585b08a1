import OpenDataCon.CBPort.ExecutedControls
import OpenDataCon.MD3Port.PerformedControls

/-!
# Controls are published once

Both outstations perform their controls with the same function. A port that is enabled and waits
for results publishes a control to each subscriber once and calls its callback once. One that is on
its own publishes it twice and calls the callback twice, and a port that is disabled calls the
callback and then publishes all the same (`perform_once_iff`).
-/

set_option autoImplicit false

namespace OpenDataCon.Outstations

open Connectors Runs

/-- **Controls are published once.** Whatever the subscribers answer and in whatever order, a
control that is performed, the controls of an execute, and the control of a message for a single
point are published to each subscriber once and are answered once, if and only if the port waits
for results and, for a control alone, is enabled; or there is no control. -/
theorem perform_once_iff {subscribers : Nat} (positive : 0 < subscribers) (inputs : List Input) :
    (∀ (ε : Type) (enabled waitforresult : Bool) (event : ε),
      let performed := run (step subscribers)
        { todo := perform enabled waitforresult event } inputs
      Done performed.1 →
        (PerformedOnce subscribers enabled event performed.2 ↔
          enabled = true ∧ waitforresult = true)) ∧
    (∀ (conf : CBPort.CBOutstationConf) (now : Nat) (outstation : CBPort.CBOutstation)
        (header : CBPort.CBBlockData) (rest : CBPort.CBMessage),
      outstation.enabled = true → header.getFunctionCode = CBPort.FUNC_EXECUTE_COMMAND →
      let controls := CBPort.selectedControls conf now outstation header
      let performed := run (step subscribers)
        { todo := CBPort.actions (outstation.processCBMessage conf (header :: rest) now).2 } inputs
      Done performed.1 →
        (ControlledOnce subscribers controls controls.length performed.2
            (CBPort.executeResponses (called performed.2)).length ↔
          conf.standAloneOutstation = false ∨ controls = [])) ∧
    ∀ (tables : MD3Port.ControlTables) (failControlResponse standAloneOutstation : Bool)
        (message : MD3Port.MD3Message),
      MD3Port.IsPointControl (message.headD {}).getFunctionCode →
      let action := tables.processControl failControlResponse message
      let performed := run (step subscribers)
        { todo := action.actions (!standAloneOutstation) } inputs
      Done performed.1 →
        (ControlledOnce subscribers action.events 1 performed.2
            (action.responses (called performed.2)).length ↔
          standAloneOutstation = false ∨ action.events = []) := by
  refine ⟨?_, ?_, ?_⟩
  · intro ε enabled waitforresult event performed done
    exact performedOnce_iff positive enabled waitforresult event done
  · intro conf now outstation header rest enabled execute controls performed done
    exact CBPort.controlledOnce_execute_iff enabled execute rest positive done
  · intro tables failControlResponse standAloneOutstation message point action performed done
    exact MD3Port.controlledOnce_point_iff standAloneOutstation point positive done

/-- The answers of two subscribers to the first event. -/
def twoAnswers : List Input :=
  [.next, .answer 0 1 .SUCCESS, .answer 0 0 .SUCCESS]

/-- An outstation at which a trip was selected. -/
def trippedStation : CBPort.CBOutstation :=
  (CBPort.CBOutstation.breakerStation.processCBMessage {} CBPort.CBOutstation.tripMessage 1000).1

def executeHeader : CBPort.CBBlockData :=
  .addressBlock 1 1 CBPort.FUNC_EXECUTE_COMMAND 0#16 true

/-- A pulse of the point at module 1. -/
def pulseMessage : MD3Port.MD3Message :=
  MD3Port.sendPOMOutputCommand MD3Port.stationFive.address 1 0

/-- A control alone, the execute of a trip, and a pulse, each with two subscribers. -/
theorem perform_once_two :
    PerformedOnce 2 true 5 (run (step 2) { todo := perform true true 5 } twoAnswers).2 ∧
    (let controls := CBPort.selectedControls {} 11000 trippedStation executeHeader
     let outputs := (run (step 2)
       { todo := CBPort.actions (trippedStation.processCBMessage {} [executeHeader] 11000).2 }
       twoAnswers).2
     ControlledOnce 2 controls controls.length outputs
       (CBPort.executeResponses (called outputs)).length) ∧
    (let action := MD3Port.controlTables.processControl false pulseMessage
     let outputs := (run (step 2) { todo := action.actions true } twoAnswers).2
     ControlledOnce 2 action.events 1 outputs (action.responses (called outputs)).length) := by
  obtain ⟨alone, execute, point⟩ := perform_once_iff (by decide : 0 < 2) twoAnswers
  refine ⟨(alone Nat true true 5 (by decide)).mpr ⟨rfl, rfl⟩, ?_, ?_⟩
  · exact (execute {} 11000 trippedStation executeHeader [] (by decide +kernel) (by decide +kernel)
      (by decide +kernel)).mpr (.inl rfl)
  · exact (point MD3Port.controlTables false false pulseMessage (.inl (by decide +kernel))
      (by decide +kernel)).mpr (.inl rfl)

/-- A port on its own publishes a control twice, and a disabled one calls the callback twice. -/
theorem perform_twice :
    ¬PerformedOnce 1 true 5 (run (step 1) { todo := perform true false 5 }
      [.next, .next, .next, .answer 0 0 .SUCCESS, .answer 1 0 .SUCCESS]).2 ∧
    ¬PerformedOnce 1 false 5 (run (step 1) { todo := perform false true 5 }
      [.next, .next, .answer 0 0 .SUCCESS]).2 := by
  constructor
  · intro once
    exact absurd once.called (by decide)
  · intro once
    exact absurd once.called (by decide)

end OpenDataCon.Outstations
