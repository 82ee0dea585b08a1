import OpenDataCon.Configuration.ChangedConfs
import OpenDataCon.Foundations.Exceptions
import Mathlib.Logic.Function.Basic

/-!
# Ports, connectors and the pointers between them

Ports and connectors register themselves by their names. A connector looks up the two ports of
each of its connections, keeps their addresses, and subscribes to both. To follow a pointer to an
object that has been deleted is a fault.

Loops over the objects change them in their places: the same ones stay registered and alive
(`Rewritten`). A connection between two ports changes the connector and both of them
(`Concentrator.addConnection_eq`).
-/

set_option autoImplicit false

namespace OpenDataCon.Configuration

universe u

/-! ## The objects -/

/-- An entry of `SenderConnections`: events of the sender go to the receiver, at its address. -/
structure SenderConnection where
  sender : String
  receiver : String
  address : Nat
deriving DecidableEq

/-- A port or a connector, with the names of those who have it in demand. -/
structure Handler where
  Name : String
  isConnector : Bool
  enabled : Bool := false
  Subscribers : List (String × Nat) := []
  SenderConnections : List SenderConnection := []
  demands : Finset String := ∅

/-- The objects that are alive, by their addresses, and the three maps of addresses by names. -/
structure Concentrator where
  heap : Nat → Option Handler := fun _ => none
  next : Nat := 0
  IOHandlers : String → Option Nat := fun _ => none
  DataPorts : String → Option Nat := fun _ => none
  DataConnectors : String → Option Nat := fun _ => none

/-- A pointer to an object that was deleted is followed, a name is not in the map, or the reload
gives up. -/
inductive Fault where
  | dangling
  | outOfRange
  | failedTerminally
deriving DecidableEq

namespace Handler

/-- `Subscribers[aName] = pIOHandler`. -/
def subscribe (aName : String) (pIOHandler : Nat) (handler : Handler) : Handler :=
  { handler with
    Subscribers :=
      (aName, pIOHandler) :: handler.Subscribers.filter fun subscriber => subscriber.1 ≠ aName }

def unSubscribe (aName : String) (handler : Handler) : Handler :=
  { handler with
    Subscribers := handler.Subscribers.filter fun subscriber => subscriber.1 ≠ aName }

/-- Both directions of a connection. -/
def insertConnections (ConPort1 ConPort2 : String) (address1 address2 : Nat) (handler : Handler) :
    Handler :=
  { handler with
    SenderConnections := handler.SenderConnections ++
      [⟨ConPort1, ConPort2, address2⟩, ⟨ConPort2, ConPort1, address1⟩] }

end Handler

namespace Concentrator

/-- A pointer is followed. -/
def follow (datacon : Concentrator) (address : Nat) : Except Fault Handler :=
  match datacon.heap address with
  | some handler => .ok handler
  | none => .error .dangling

/-- A pointer is followed to an object that changes. -/
def modify (datacon : Concentrator) (address : Nat) (change : Handler → Handler) :
    Except Fault Concentrator :=
  match datacon.heap address with
  | some handler =>
    .ok { datacon with heap := Function.update datacon.heap address (some (change handler)) }
  | none => .error .dangling

/-- A new object registers itself. -/
def create (datacon : Concentrator) (Name : String) (isConnector : Bool) : Concentrator :=
  { datacon with
    heap := Function.update datacon.heap datacon.next (some { Name, isConnector })
    next := datacon.next + 1
    IOHandlers := Function.update datacon.IOHandlers Name (some datacon.next) }

def addPort (datacon : Concentrator) (Name : String) : Concentrator :=
  { datacon.create Name false with
    DataPorts := Function.update datacon.DataPorts Name (some datacon.next) }

/-- One connection in the files of the connector at this address. -/
def addConnection (Name : String) (this : Nat) (datacon : Concentrator)
    (connection : String × String) : Except Fault Concentrator :=
  match datacon.IOHandlers connection.1, datacon.IOHandlers connection.2 with
  | some address1, some address2 => do
    let inserted ← datacon.modify this
      (Handler.insertConnections connection.1 connection.2 address1 address2)
    let subscribed ← inserted.modify address1 (Handler.subscribe Name this)
    subscribed.modify address2 (Handler.subscribe Name this)
  | _, _ => .ok datacon

def listConnector (Name : String) (address : Nat) (datacon : Concentrator) : Concentrator :=
  { datacon with DataConnectors := Function.update datacon.DataConnectors Name (some address) }

def addConnector (datacon : Concentrator) (Name : String) (connections : List (String × String)) :
    Except Fault Concentrator :=
  (connections.foldlM (addConnection Name datacon.next) (datacon.create Name true)).map
    (listConnector Name datacon.next)

end Concentrator

/-- What the files say of the entries: which ones have the members that they need, and what the
connections of a connector are. -/
structure Reading (E : Type u) where
  portComplete : Object E → Bool
  connectorComplete : Object E → Bool
  connectionsOf : Object E → List (String × String)

namespace Concentrator

variable {E : Type u} (reading : Reading E)

def processPort (datacon : Concentrator) (object : Object E) : Concentrator :=
  match object.Name with
  | none => datacon
  | some Name =>
    if ¬reading.portComplete object then datacon
    else if (datacon.DataPorts Name).isSome then datacon
    else datacon.addPort Name

def processPorts (datacon : Concentrator) (Ports : List (Object E)) : Concentrator :=
  Ports.foldl (processPort reading) datacon

def processConnector (datacon : Concentrator) (object : Object E) : Except Fault Concentrator :=
  match object.Name with
  | none => .ok datacon
  | some Name =>
    if ¬reading.connectorComplete object then .ok datacon
    else if (datacon.DataConnectors Name).isSome then .ok datacon
    else datacon.addConnector Name (reading.connectionsOf object)

def processConnectors (datacon : Concentrator) (Connectors : List (Object E)) :
    Except Fault Concentrator :=
  Connectors.foldlM (processConnector reading) datacon

end Concentrator

/-! ## What loops over the objects keep -/

/-- The same objects are registered. -/
structure SameNames (before after : Concentrator) : Prop where
  next : after.next = before.next
  IOHandlers : after.IOHandlers = before.IOHandlers
  DataPorts : after.DataPorts = before.DataPorts
  DataConnectors : after.DataConnectors = before.DataConnectors

/-- The same objects are registered and alive; each is related to what it was. -/
structure Rewritten (rel : Nat → Handler → Handler → Prop) (before after : Concentrator) : Prop
    extends SameNames before after where
  heap : ∀ address, Option.Rel (rel address) (before.heap address) (after.heap address)

section Rewriting

variable {rel : Nat → Handler → Handler → Prop} {before between after datacon : Concentrator}
  {address : Nat} {handler : Handler}

theorem SameNames.refl (datacon : Concentrator) : SameNames datacon datacon :=
  ⟨rfl, rfl, rfl, rfl⟩

theorem SameNames.trans (first : SameNames before between) (second : SameNames between after) :
    SameNames before after where
  next := second.next.trans first.next
  IOHandlers := second.IOHandlers.trans first.IOHandlers
  DataPorts := second.DataPorts.trans first.DataPorts
  DataConnectors := second.DataConnectors.trans first.DataConnectors

theorem optionRel_refl {α : Type u} {r : α → α → Prop} (reflexive : ∀ value, r value value)
    (x : Option α) : Option.Rel r x x := by
  cases x with
  | none => exact .none
  | some value => exact .some (reflexive value)

theorem optionRel_trans {α : Type u} {r : α → α → Prop} {x y z : Option α}
    (transitive : ∀ {one two three}, r one two → r two three → r one three)
    (first : Option.Rel r x y) (second : Option.Rel r y z) : Option.Rel r x z := by
  cases first with
  | none => exact second
  | some related =>
      cases second with
      | some other => exact .some (transitive related other)

theorem optionRel_imp {α : Type u} {r r' : α → α → Prop} {x y : Option α}
    (implies : ∀ {one two}, x = some one → y = some two → r one two → r' one two)
    (related : Option.Rel r x y) : Option.Rel r' x y := by
  cases related with
  | none => exact .none
  | some related => exact .some (implies rfl rfl related)

theorem Rewritten.refl (reflexive : ∀ address handler, rel address handler handler)
    (datacon : Concentrator) : Rewritten rel datacon datacon where
  toSameNames := .refl datacon
  heap address := optionRel_refl (reflexive address) _

theorem Rewritten.trans
    (transitive : ∀ address {one two three}, rel address one two → rel address two three →
      rel address one three)
    (first : Rewritten rel before between) (second : Rewritten rel between after) :
    Rewritten rel before after where
  toSameNames := first.toSameNames.trans second.toSameNames
  heap address := optionRel_trans (transitive address) (first.heap address) (second.heap address)

theorem Rewritten.imp {rel' : Nat → Handler → Handler → Prop}
    (rewritten : Rewritten rel before after)
    (implies : ∀ {address was now}, before.heap address = some was →
      after.heap address = some now → rel address was now → rel' address was now) :
    Rewritten rel' before after where
  toSameNames := rewritten.toSameNames
  heap address := optionRel_imp implies (rewritten.heap address)

/-- What each object that is alive becomes. -/
def Concentrator.mapHeap (datacon : Concentrator) (change : Nat → Handler → Handler) :
    Concentrator :=
  { datacon with heap := fun address => (datacon.heap address).map (change address) }

theorem Rewritten.map {change : Nat → Handler → Handler}
    (related : ∀ {address handler}, datacon.heap address = some handler →
      rel address handler (change address handler)) :
    Rewritten rel datacon (datacon.mapHeap change) where
  toSameNames := ⟨rfl, rfl, rfl, rfl⟩
  heap address := by
    unfold Concentrator.mapHeap
    dsimp only
    cases alive : datacon.heap address with
    | none => exact .none
    | some handler => exact .some (related alive)

/-- What became of an object that was alive. -/
theorem Rewritten.alive (rewritten : Rewritten rel before after)
    (alive : before.heap address = some handler) :
    ∃ changed, after.heap address = some changed ∧ rel address handler changed := by
  have related := rewritten.heap address
  rw [alive] at related
  generalize found : after.heap address = now at related
  cases related with
  | some related => exact ⟨_, rfl, related⟩

/-- What an object that is alive came from. -/
theorem Rewritten.was_alive (rewritten : Rewritten rel before after)
    (alive : after.heap address = some handler) :
    ∃ old, before.heap address = some old ∧ rel address old handler := by
  have related := rewritten.heap address
  rw [alive] at related
  generalize found : before.heap address = now at related
  cases related with
  | some related => exact ⟨_, rfl, related⟩

theorem Concentrator.modify_eq {change : Handler → Handler}
    (alive : datacon.heap address = some handler) :
    datacon.modify address change = .ok { datacon with
      heap := Function.update datacon.heap address (some (change handler)) } := by
  rw [Concentrator.modify, alive]

/-- **A pointer to an object that is alive** can be followed, and only that object changes. -/
theorem Concentrator.modify_spec {change : Handler → Handler}
    (reflexive : ∀ address handler, rel address handler handler)
    (alive : datacon.heap address = some handler) (related : rel address handler (change handler)) :
    ∃ after, datacon.modify address change = .ok after ∧ Rewritten rel datacon after ∧
      after.heap address = some (change handler) := by
  refine ⟨_, modify_eq alive, ⟨⟨rfl, rfl, rfl, rfl⟩, fun other => ?_⟩, Function.update_self _ _ _⟩
  dsimp only
  by_cases here : other = address
  · subst here
    rw [Function.update_self, alive]
    exact .some related
  · rw [Function.update_of_ne here]
    exact optionRel_refl (reflexive other) _

end Rewriting

/-! ## One connection -/

namespace Handler

/-- What a connection between two ports at these addresses changes in each object. -/
def connect (Name : String) (this address1 address2 : Nat) (connection : String × String)
    (address : Nat) (handler : Handler) : Handler :=
  if address = this then
    handler.insertConnections connection.1 connection.2 address1 address2
  else if address = address1 ∨ address = address2 then handler.subscribe Name this
  else handler

section Connect

variable {Name : String} {this address1 address2 : Nat} {connection : String × String}
  {address : Nat} {handler : Handler}

theorem connect_this : handler.connect Name this address1 address2 connection this =
    handler.insertConnections connection.1 connection.2 address1 address2 :=
  if_pos rfl

theorem connect_port (other : address ≠ this) (port : address = address1 ∨ address = address2) :
    handler.connect Name this address1 address2 connection address =
      handler.subscribe Name this := by
  rw [connect, if_neg other, if_pos port]

theorem connect_other (other : address ≠ this)
    (apart : ¬(address = address1 ∨ address = address2)) :
    handler.connect Name this address1 address2 connection address = handler := by
  rw [connect, if_neg other, if_neg apart]

theorem connect_kept : (handler.connect Name this address1 address2 connection address).Name =
      handler.Name ∧
    (handler.connect Name this address1 address2 connection address).isConnector =
      handler.isConnector := by
  unfold connect
  split_ifs <;> exact ⟨rfl, rfl⟩

theorem mem_subscribe {subscriber : String} {pointer : Nat} :
    (subscriber, pointer) ∈ (handler.subscribe Name this).Subscribers ↔
      subscriber = Name ∧ pointer = this ∨
        subscriber ≠ Name ∧ (subscriber, pointer) ∈ handler.Subscribers := by
  simp [subscribe, and_comm]

theorem subscribe_subscribe :
    (handler.subscribe Name this).subscribe Name this = handler.subscribe Name this := by
  simp [subscribe]

end Connect

end Handler

namespace Concentrator

section MapHeap

variable {datacon : Concentrator} {change other : Nat → Handler → Handler}

theorem heap_mapHeap {address : Nat} {handler : Handler}
    (alive : datacon.heap address = some handler) :
    (datacon.mapHeap change).heap address = some (change address handler) :=
  congrArg (Option.map (change address)) alive

theorem sameNames_mapHeap : SameNames datacon (datacon.mapHeap change) :=
  ⟨rfl, rfl, rfl, rfl⟩

theorem mapHeap_congr (same : ∀ {address handler}, datacon.heap address = some handler →
      change address handler = other address handler) :
    datacon.mapHeap change = datacon.mapHeap other := by
  unfold mapHeap
  congr 1
  funext address
  exact Option.map_congr fun handler alive => same alive

theorem mapHeap_mapHeap : (datacon.mapHeap change).mapHeap other =
    datacon.mapHeap fun address handler => other address (change address handler) := by
  simp [mapHeap, Function.comp_def]

theorem mapHeap_self : datacon.mapHeap (fun _ handler => handler) = datacon := by
  simp [mapHeap]

/-- An object is changed at one address. -/
theorem modify_eq_map {address : Nat} {handler : Handler} (change : Handler → Handler)
    (alive : datacon.heap address = some handler) :
    datacon.modify address change = .ok (datacon.mapHeap fun other handler =>
      if other = address then change handler else handler) := by
  rw [modify_eq alive, mapHeap]
  congr 2
  funext other
  by_cases here : other = address
  · subst here
    simp [alive]
  · simp [here]

end MapHeap

/-- The connection goes to both ports, and subscribes to both. -/
theorem addConnection_eq {datacon : Concentrator} {Name : String}
    {this address1 address2 : Nat} {connection : String × String} {connector port1 port2 : Handler}
    (found1 : datacon.IOHandlers connection.1 = some address1)
    (found2 : datacon.IOHandlers connection.2 = some address2)
    (alive : datacon.heap this = some connector) (alive1 : datacon.heap address1 = some port1)
    (alive2 : datacon.heap address2 = some port2) (apart1 : address1 ≠ this)
    (apart2 : address2 ≠ this) :
    addConnection Name this datacon connection =
      .ok (datacon.mapHeap (Handler.connect Name this address1 address2 connection)) := by
  rw [addConnection, found1, found2]
  dsimp only
  rw [modify_eq_map _ alive]
  change (modify _ _ _ >>= _) = _
  rw [modify_eq_map _ (heap_mapHeap alive1)]
  change modify _ _ _ = _
  rw [modify_eq_map _ (heap_mapHeap (heap_mapHeap alive2)), mapHeap_mapHeap, mapHeap_mapHeap]
  refine congrArg _ (mapHeap_congr fun {address handler} _ => ?_)
  by_cases here : address = this
  · subst here
    rw [if_neg apart2.symm, if_neg apart1.symm, if_pos rfl, Handler.connect_this]
  · rw [if_neg here]
    by_cases first : address = address1
    · rw [if_pos first, Handler.connect_port here (.inl first), Handler.subscribe_subscribe,
        ite_self]
    · rw [if_neg first]
      by_cases second : address = address2
      · rw [if_pos second, Handler.connect_port here (.inr second)]
      · rw [if_neg second, Handler.connect_other here (by simp [first, second])]

end Concentrator

end OpenDataCon.Configuration
