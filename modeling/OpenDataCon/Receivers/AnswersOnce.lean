import OpenDataCon.Receivers.DNP3Ports
import OpenDataCon.Receivers.JSONPort
import OpenDataCon.Receivers.PyPort

/-!
# Receivers that answer once

An event that goes to several receivers gives each of them one closure, which calls the sender's
callback when all of them have answered. That needs every receiver to answer exactly once.
`receiver_answeredOnce_iff` says when a port does: a disabled JSON port answers twice, and a Python
port that does not queue an event does not answer at all (`receiver_not_answeredOnce`).
-/

set_option autoImplicit false

namespace OpenDataCon.Receivers

open Connectors Connectors.Demand DNP3Port MultiCallback Outcome Runs

variable {D : Type} {P : EventType → Type}

inductive Receiver (D : Type) (P : EventType → Type) where
  | pyPort (port : PyPort D P)
  | jsonPort (port : JSONPort)
  | dnp3Master (port : DNP3MasterPort D P)
  | dnp3Outstation (port : DNP3OutstationPort D P)

namespace Receiver

def event (receiver : Receiver D P) (event : Event D P) (sender : String) : EventM D P Unit :=
  match receiver with
  | .pyPort port => port.event event sender
  | .jsonPort port => port.event event sender
  | .dnp3Master port => port.event event sender
  | .dnp3Outstation port => port.event event sender

/-- An octet string of the stack that is set to nothing is empty. -/
def SetsEmpty : Receiver D P → Prop
  | .dnp3Outstation port => port.setSize 0 = 0
  | _ => True

/-- When a port answers: a Python port queues the event if it queues events, a JSON port is enabled
and reads texts, and a master's receivers take what it publishes again. -/
def Answers (receiver : Receiver D P) (event : Event D P) (sender : String) : Prop :=
  match receiver with
  | .pyPort port => port.enabled → port.conf.pyEventsAreQueued → port.Queues event sender
  | .jsonPort port => port.enabled = true ∧ port.ReadsTexts event
  | .dnp3Master port =>
    port.enabled → connectState? event = some .PORT_UP →
      port.Takes (DNP3MasterPort.republished { port with pDB := port.pDB.set event })
  | .dnp3Outstation _ => True

/-- **A port answers an event exactly once if and only if** it is in a state to do so
(`Receiver.Answers`). -/
theorem receiver_answeredOnce_iff (receiver : Receiver D P) (setsEmpty : receiver.SetsEmpty)
    (event : Event D P) (sender : String) :
    AnsweredOnce (receiver.event event sender) ↔ receiver.Answers event sender := by
  cases receiver with
  | pyPort port => exact PyPort.event_answeredOnce_iff
  | jsonPort port => exact JSONPort.event_answeredOnce_iff sender
  | dnp3Master port => exact DNP3MasterPort.event_answeredOnce_iff event sender
  | dnp3Outstation port =>
      exact iff_of_true (DNP3OutstationPort.event_answeredOnce setsEmpty event sender) trivial

/-- An octet string without bytes. -/
def emptyString : Event Nat (fun _ => Unit) where
  type := .OctetString
  index := 3
  timestamp := 0
  quality := 0
  sourcePort := "RTU"
  payload := show List (BitVec 8) from []

/-- An outstation that is enabled, and an octet string without bytes. -/
theorem receiver_answeredOnce_iff_outstation :
    let receiver : Receiver Nat (fun _ => Unit) := .dnp3Outstation
      { enabled := true, stack := { serverType := .PERSISTENT, stackEnabled := true }
        setSize := fun size => min size 255 }
    answers (receiver.event emptyString "Connector") = [.SUCCESS] ∧
      (AnsweredOnce (receiver.event emptyString "Connector") ↔
        receiver.Answers emptyString "Connector") :=
  ⟨rfl, receiver_answeredOnce_iff
    (.dnp3Outstation
      { enabled := true, stack := { serverType := .PERSISTENT, stackEnabled := true }
        setSize := fun size => min size 255 }) (Nat.zero_min 255) emptyString "Connector"⟩

/-- A value of an analog point. -/
def analogEvent : Event Nat (fun _ => Unit) where
  type := .Analog
  index := 3
  timestamp := 0
  quality := 0
  sourcePort := "RTU"
  payload := show Nat from 7

/-- A JSON port with this name of its points. -/
def jsonReceiver (enabled : Bool) (name : JSONValue) : Receiver Nat (fun _ => Unit) :=
  .jsonPort { enabled, pointConf := { Analogs := fun _ => some { name } } }

/-- A Python port that queues events, and what comes of formatting one. -/
def pythonReceiver (pyQueueFormatString : String) (pyOnlyQueueEventsWithTags : Bool)
    (formatted : Except String String) : Receiver Nat (fun _ => Unit) :=
  .pyPort
    { enabled := true
      conf := { pyEventsAreQueued := true, pyQueueFormatString, pyOnlyQueueEventsWithTags }
      format := fun _ _ => formatted
      pyCall := fun _ _ => .SUCCESS }

/-- A disabled JSON port answers twice, and a point whose name is an array raises an exception. A
Python port that queues events does not answer when there is no format, when the event has no tag,
or when the format does not fit. -/
theorem receiver_not_answeredOnce :
    ¬AnsweredOnce ((jsonReceiver false (.string "Level")).event analogEvent "Connector") ∧
      ¬AnsweredOnce ((jsonReceiver true .array).event analogEvent "Connector") ∧
      ¬AnsweredOnce ((pythonReceiver "" false (.ok "")).event analogEvent "Connector") ∧
      ¬AnsweredOnce
        ((pythonReceiver "\x7b4\x7d" true (.ok "7")).event analogEvent "Connector") ∧
      ¬AnsweredOnce
        ((pythonReceiver "\x7b4" false (.error "invalid format string")).event analogEvent
          "Connector") :=
  ⟨not_answeredOnce [.UNDEFINED, .SUCCESS] rfl (by decide),
    not_answeredOnce [] rfl (by decide),
    not_answeredOnce [] rfl (by decide),
    not_answeredOnce [] rfl (by decide),
    not_answeredOnce [] rfl (by decide)⟩

end Receiver

end OpenDataCon.Receivers
