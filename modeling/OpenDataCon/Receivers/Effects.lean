import OpenDataCon.Connectors.ConnectionDemand
import OpenDataCon.Connectors.MultiCallback
import OpenDataCon.Connectors.Transforms
import OpenDataCon.DNP3Port.OnDemand
import OpenDataCon.Foundations.Outcomes

/-!
# What a port does with an event

A port that receives an event is given a status callback with it. The port stores the event, passes
it on, and calls the callback or posts the call of it. All of this are effects of the port's `Event`,
in their order (`EventM`); a call of the callback is an answer (`Effect.isAnswer`).
-/

set_option autoImplicit false

namespace OpenDataCon.Receivers

open Connectors Connectors.Demand DNP3Port Outcome

/-! ## Events and their store -/

/-- Octet strings and connection states are looked into; other payloads are a family `P`. -/
def Payload (P : EventType → Type) : EventType → Type
  | .ConnectState => ConnectState
  | .OctetString => List (BitVec 8)
  | type => P type

/-- An event with a payload of its type. -/
abbrev Event (D : Type) (P : EventType → Type) := EventInfo D (Payload P)

variable {D : Type} {P : EventType → Type}

/-- The payload of a connection event. -/
def connectState? : Event D P → Option ConnectState
  | { type := .ConnectState, payload := state, .. } => some state
  | _ => none

/-- The payload of an octet string event. -/
def octetString? : Event D P → Option (List (BitVec 8))
  | { type := .OctetString, payload := data, .. } => some data
  | _ => none

/-- The last event of each point; a point that was not heard of yet has no payload. -/
structure EventDB (D : Type) (P : EventType → Type) where
  PointEvents : EventType → BitVec 64 → Option (Option (Event D P)) := fun _ _ => none

/-- Only points that are there are set. -/
def EventDB.set (db : EventDB D P) (event : Event D P) : EventDB D P where
  PointEvents type index :=
    if type = event.type ∧ index = event.index then
      (db.PointEvents type index).map fun _ => some event
    else db.PointEvents type index

def EventDB.get (db : EventDB D P) (type : EventType) (index : BitVec 64) :
    Option (Option (Event D P)) := db.PointEvents type index

/-! ## Effects -/

inductive DataToStringMethod where
  | Raw | Hex
deriving DecidableEq, Repr

/-- What the markers of the output template are replaced with. -/
structure JSONOutput (D : Type) (P : EventType → Type) where
  event : Event D P
  format : DataToStringMethod := .Hex
  name : String
  sender : String

/-- What the functions of the ports do, apart from logging. -/
inductive Effect (D : Type) (P : EventType → Type) where
  /-- `(*pStatusCallback)(status)`. -/
  | call (status : CommandStatus)
  /-- `PostCallbackCall(pStatusCallback, status)`: the posted handler makes the call. -/
  | post (status : CommandStatus)
  /-- `pDB->Set(event)`. -/
  | store (event : Event D P)
  /-- The text that goes to the socket. -/
  | write (output : JSONOutput D P)
  /-- `pWrapper->QueueEvent`. -/
  | queueEvent (text : String)
  /-- The call of the Python code. -/
  | python (event : Event D P) (sender : String)
  /-- `PublishEvent`, without a callback. -/
  | publish (event : Event D P)
  /-- A handler for the stack. -/
  | handler (handler : StackHandler)
  /-- A command to the outstation, of the event's value in a type. -/
  | directOperate (event : Event D P) (type : EventType) (index : BitVec 64)
  /-- A new value of a point of the stack. -/
  | update (event : Event D P)
  /-- New flags of a point of the stack, by the event and the point's binary state. -/
  | modify (event : Event D P) (state : Bool)

/-- Whether the status callback is called. -/
def Effect.isAnswer : Effect D P → Bool
  | .call _ => true
  | .post _ => true
  | _ => false

/-- The status that the callback is called with. -/
def Effect.answer? : Effect D P → Option CommandStatus
  | .call status => some status
  | .post status => some status
  | _ => none

theorem Effect.isSome_answer? (effect : Effect D P) : effect.answer?.isSome = effect.isAnswer := by
  cases effect <;> rfl

/-- A function of a port. Exceptions have a text. -/
abbrev EventM (D : Type) (P : EventType → Type) := Outcome (Effect D P) String

/-- The statuses that the callback is called with. -/
def answers (outcome : EventM D P Unit) : List CommandStatus :=
  outcome.effects.filterMap Effect.answer?

/-- **A receiver answers once**: exactly one call of the callback, and no exception. -/
abbrev AnsweredOnce (outcome : EventM D P Unit) : Prop := Once Effect.isAnswer outcome

theorem length_answers (outcome : EventM D P Unit) :
    (answers outcome).length = outcome.effects.countP Effect.isAnswer := by
  rw [answers, List.length_filterMap_eq_countP]
  exact List.countP_congr fun effect _ => by rw [Effect.isSome_answer?]

/-- Other than one answer. -/
theorem not_answeredOnce {outcome : EventM D P Unit} (statuses : List CommandStatus)
    (called : answers outcome = statuses) (other : statuses.length ≠ 1) :
    ¬AnsweredOnce outcome := by
  intro once
  rw [← called, length_answers] at other
  exact other once.one

end OpenDataCon.Receivers
