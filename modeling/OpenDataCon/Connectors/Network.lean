import Mathlib
import OpenDataCon.Connectors.MultiCallback

/-!
# A network of ports and connectors

`PublishEvent` hands an event and a status callback to all subscribers. A
subscriber answers by calling its callback: a port with a status of its own, a
port that relays by publishing the event again with the callback it was given, a
connector by passing it to the destinations of the sender, or with `UNDEFINED`
when it is disabled or has no connection for the sender.

The state of a run is what still holds a callback: an event that waits to be
handled, a call that waits for its strand, or a closure of `SyncMultiCallback`
with what still holds that closure. A step handles an event or runs a call, in any
order (`Handlers.Step`).
-/

set_option autoImplicit false

namespace OpenDataCon.Connectors

open Runs MultiCallback

universe u

variable {Name : Type u}

/-! ## The network and what it does with an event -/

/-- How an `IOHandler` treats an event that it receives. -/
inductive Handler (Name : Type u) where
  /-- Calls the callback with a status of its own. -/
  | port
  /-- Publishes the event to its own subscribers with the same callback. -/
  | relay
  | connector (enabled : Bool) (SenderConnections : Name → List Name)

/-- What becomes of an event at a receiver. -/
inductive Reaction (Name : Type u) where
  | answer
  | refuse
  | pass (targets : List Name)

/-- Whom each handler publishes to, and how each treats what it receives. -/
structure Handlers (Name : Type u) where
  Subscribers : Name → List Name
  handler : Name → Handler Name

def Handlers.reaction (net : Handlers Name) (receiver sender : Name) : Reaction Name :=
  match net.handler receiver with
  | .port => .answer
  | .relay => .pass (net.Subscribers receiver)
  | .connector enabled SenderConnections =>
    if !enabled then .refuse
    else if 0 < (SenderConnections sender).length then .pass (SenderConnections sender)
    else .refuse

/-- The receiver passes what it gets from some sender on to the next. -/
def Handlers.PassesTo (net : Handlers Name) (next receiver : Name) : Prop :=
  ∃ sender targets, net.reaction receiver sender = .pass targets ∧ next ∈ targets

/-- A network in which no event comes back to a handler it has passed. -/
structure Network (Name : Type u) extends Handlers Name where
  acyclic : WellFounded toHandlers.PassesTo

/-- What holds a callback. The place of an event is its way through the network. -/
inductive Pending (Name : Type u) where
  | event (receiver sender : Name) (place : List Nat)
  | call (status : CommandStatus)
  | multi (cb : MultiCallback) (waiting : List (Pending Name))

/-- The receivers get the callback itself, or a closure if they are two or more. -/
def syncMultiCallback (cbNumber : Nat) (waiting : List (Pending Name)) : List (Pending Name) :=
  if cbNumber < 2 then waiting else [.multi (.new cbNumber) waiting]

/-- The event goes to all targets. -/
def deliveries (targets : List Name) (sender : Name) (place : List Nat) : List (Pending Name) :=
  List.ofFn fun i : Fin targets.length => .event (targets.get i) sender (i.val :: place)

/-- A callback of all targets for one event. -/
def passOn (targets : List Name) (sender : Name) (place : List Nat) : List (Pending Name) :=
  syncMultiCallback targets.length (deliveries targets sender place)

def Handlers.publishEvent (net : Handlers Name) (sender : Name) (place : List Nat) :
    List (Pending Name) :=
  passOn (net.Subscribers sender) sender place

/-- `DataConnector::Event`, without the transforms. -/
def connectorEvent (enabled : Bool) (SenderConnections : Name → List Name)
    (connector sender : Name) (place : List Nat) : List (Pending Name) :=
  if !enabled then [.call .UNDEFINED]
  else if 0 < (SenderConnections sender).length then
    passOn (SenderConnections sender) connector place
  else [.call .UNDEFINED]

/-- A handler receives an event; a port answers as it will. -/
def Handlers.event (net : Handlers Name) (answer : List Nat → CommandStatus)
    (receiver sender : Name) (place : List Nat) : List (Pending Name) :=
  match net.handler receiver with
  | .port => [.call (answer place)]
  | .relay => net.publishEvent receiver place
  | .connector enabled SenderConnections =>
    connectorEvent enabled SenderConnections receiver sender place

/-- One step of what holds a callback; the calls of the callback itself stay. -/
inductive Handlers.Handles (net : Handlers Name) (answer : List Nat → CommandStatus) :
    List (Pending Name) → List (Pending Name) → Prop where
  | event (before after : List (Pending Name)) (receiver sender : Name) (place : List Nat) :
      net.Handles answer (before ++ .event receiver sender place :: after)
        (before ++ net.event answer receiver sender place ++ after)
  | call (before after : List (Pending Name)) (cb : MultiCallback)
      (left right : List (Pending Name)) (status : CommandStatus) :
      net.Handles answer (before ++ .multi cb (left ++ .call status :: right) :: after)
        (before ++ .multi (cb.call status).1 (left ++ right) ::
          ((cb.call status).2.map .call ++ after))
  | within (before after : List (Pending Name)) (cb : MultiCallback)
      {waiting waiting' : List (Pending Name)} (inner : net.Handles answer waiting waiting') :
      net.Handles answer (before ++ .multi cb waiting :: after)
        (before ++ .multi cb waiting' :: after)

/-- What holds the publisher's callback, and the calls it has received. -/
structure CallbackState (Name : Type u) where
  pending : List (Pending Name)
  called : List CommandStatus := []

/-- One step of the whole: in the network, or a call that reaches the publisher's callback. -/
inductive Handlers.Step (net : Handlers Name) (answer : List Nat → CommandStatus) :
    CallbackState Name → CallbackState Name → Prop where
  | handles {pending pending' : List (Pending Name)} (called : List CommandStatus)
      (inner : net.Handles answer pending pending') :
      net.Step answer { pending, called } { pending := pending', called }
  | arrives (before after : List (Pending Name)) (status : CommandStatus)
      (called : List CommandStatus) :
      net.Step answer { pending := before ++ .call status :: after, called }
        { pending := before ++ after, called := called ++ [status] }

/-- The states that a published event can lead to. -/
inductive Handlers.Reaches (net : Handlers Name) (answer : List Nat → CommandStatus)
    (name : Name) : CallbackState Name → Prop where
  | publish : net.Reaches answer name { pending := net.publishEvent name [] }
  | step {state state' : CallbackState Name} (reached : net.Reaches answer name state)
      (next : net.Step answer state state') : net.Reaches answer name state'

/-- No step is possible any more. -/
def Handlers.Finished (net : Handlers Name) (answer : List Nat → CommandStatus)
    (state : CallbackState Name) : Prop := ∀ state', ¬net.Step answer state state'

namespace Network

variable (net : Network Name) (answer : List Nat → CommandStatus)

theorem event_eq (receiver sender : Name) (place : List Nat) :
    net.event answer receiver sender place =
      match net.reaction receiver sender with
      | .answer => [.call (answer place)]
      | .refuse => [.call .UNDEFINED]
      | .pass targets => passOn targets receiver place := by
  unfold Handlers.event Handlers.reaction
  cases net.handler receiver with
  | port => rfl
  | relay => rfl
  | connector enabled connections =>
      dsimp only [connectorEvent]
      split_ifs <;> rfl

end Network

end OpenDataCon.Connectors
