import OpenDataCon.Receivers.Effects

/-!
# Events at the DNP3 ports

The `Event` of a DNP3 master sends a command of a point that it knows to the outstation, whose
result is reported, and refuses everything else; on `PORT_UP` it first publishes its points again.
The `Event` of a DNP3 outstation updates a point of its stack. Both answer once
(`DNP3MasterPort.event_answeredOnce_iff`, `DNP3OutstationPort.event_answeredOnce`), unless an
exception comes back from a receiver of what the master publishes.
-/

set_option autoImplicit false

namespace OpenDataCon.Receivers

open Connectors Connectors.Demand DNP3Port Outcome

variable {D : Type} {P : EventType → Type}

/-- What the handling of connection events needs, in both ports. -/
structure DNP3Stack where
  serverType : ServerType
  mDemandMap : Demands String := []
  stackEnabled : Bool

/-- The handlers that a connection event posts. -/
def DNP3Stack.handlers (stack : DNP3Stack) (state : ConnectState) : List StackHandler :=
  (StackState.event stack.serverType
    { mDemandMap := stack.mDemandMap, stackEnabled := stack.stackEnabled } state).posted

/-- Effects one after the other. -/
def emitAll : List (Effect D P) → EventM D P Unit
  | [] => pure ()
  | effect :: rest => do
    emit effect
    emitAll rest

theorem emitAll_silent {effects : List (Effect D P)}
    (others : ∀ effect ∈ effects, effect.isAnswer = false) :
    Silent Effect.isAnswer (emitAll effects) () := by
  induction effects with
  | nil => exact silent_pure _
  | cons effect rest ih =>
      exact (silent_emit (others effect List.mem_cons_self)).bind
        (ih fun other member => others other (List.mem_cons_of_mem _ member))

/-! ## The master -/

/-- The points of a master, by the lists of their indexes. -/
structure DNP3PointConf where
  BinaryIndexes : List (BitVec 16) := []
  AnalogIndexes : List (BitVec 16) := []
  OctetStringIndexes : List (BitVec 16) := []
  AnalogOutputStatusIndexes : List (BitVec 16) := []
  BinaryOutputStatusIndexes : List (BitVec 16) := []
  ControlIndexes : List (BitVec 16) := []
  AnalogControlIndexes : List (BitVec 16) := []
  AnalogControlTypes : BitVec 16 → EventType := fun _ => .AnalogOutputInt16
  /-- The index of the comms point, if there is one. -/
  mCommsPoint : Option (BitVec 64) := none

inductive TaskCompletion where
  | SUCCESS | FAILURE_BAD_RESPONSE | FAILURE_RESPONSE_TIMEOUT | FAILURE_START_TIMEOUT
  | FAILURE_MESSAGE_FORMAT_ERROR | FAILURE_NO_COMMS
deriving DecidableEq, Repr

/-- A master, with what becomes of its commands and of the events that it publishes. -/
structure DNP3MasterPort (D : Type) (P : EventType → Type) where
  enabled : Bool
  stack : DNP3Stack
  pointConf : DNP3PointConf
  pDB : EventDB D P := {}
  response : Event D P → TaskCompletion
  publishEvent : Event D P → Except String Unit

namespace DNP3MasterPort

/-- The points that are published again, in their order. -/
def points (conf : DNP3PointConf) : List (EventType × BitVec 64) :=
  let each (type : EventType) (indexes : List (BitVec 16)) :=
    indexes.map fun index => (type, index.setWidth 64)
  each .Binary conf.BinaryIndexes ++ each .Analog conf.AnalogIndexes ++
    each .OctetString conf.OctetStringIndexes ++
    each .AnalogOutputStatus conf.AnalogOutputStatusIndexes ++
    each .BinaryOutputStatus conf.BinaryOutputStatusIndexes ++
    (conf.mCommsPoint.map fun index => (EventType.Binary, index)).toList

/-- The events of these points; `InitEventDB` has an entry for each of them. -/
def republished (port : DNP3MasterPort D P) : List (Event D P) :=
  (points port.pointConf).filterMap fun point => (port.pDB.get point.1 point.2).join

def publishAll (port : DNP3MasterPort D P) : List (Event D P) → EventM D P Unit
  | [] => pure ()
  | event :: rest => do
    emit (.publish event)
    ofExcept (port.publishEvent event)
    port.publishAll rest

def rePublishEvents (port : DNP3MasterPort D P) : EventM D P Unit :=
  port.publishAll port.republished

/-- `DNP3Callback`: the status of a result. -/
def resultStatus : TaskCompletion → CommandStatus
  | .SUCCESS => .SUCCESS
  | .FAILURE_RESPONSE_TIMEOUT => .TIMEOUT
  | _ => .UNDEFINED

/-- `DirectOperate` calls its callback once. -/
def directOperate (port : DNP3MasterPort D P) (event : Event D P) (type : EventType) :
    EventM D P Unit := do
  emit (.directOperate event type event.index)
  emit (.call (resultStatus (port.response event)))

/-- The types of analog outputs. -/
def isAnalogOutput : EventType → Bool
  | .AnalogOutputInt16 => true
  | .AnalogOutputInt32 => true
  | .AnalogOutputFloat32 => true
  | .AnalogOutputDouble64 => true
  | _ => false

/-- Whether `ConvertEvent` can convert an event; the value is capped to the new type. -/
def convertEvent (event : Event D P) (type : EventType) : EventM D P Unit :=
  if isAnalogOutput event.type && isAnalogOutput type then pure ()
  else ofExcept (.error "EventConversion: Cannot convert between event types")

/-- A list of 16-bit indexes is searched for a wider one. -/
def hasIndex (indexes : List (BitVec 16)) (index : BitVec 64) : Bool :=
  indexes.any fun listed => listed.setWidth 64 == index

/-- The command of a converted event. -/
def operateAs (port : DNP3MasterPort D P) (event : Event D P) (type : EventType) :
    EventM D P Unit :=
  if isAnalogOutput type then port.directOperate event type
  else emit (.call .NOT_SUPPORTED)

def analogControl (port : DNP3MasterPort D P) (event : Event D P) : EventM D P Unit :=
  let new_event_type := port.pointConf.AnalogControlTypes (event.index.setWidth 16)
  tryCatch
    (do
      convertEvent event new_event_type
      port.operateAs event new_event_type)
    fun _ => emit (.call .NOT_SUPPORTED)

def connection (port : DNP3MasterPort D P) (state : ConnectState) : EventM D P Unit := do
  if state = .PORT_UP then port.rePublishEvents
  emitAll ((port.stack.handlers state).map .handler)
  emit (.call .SUCCESS)

def event (port : DNP3MasterPort D P) (event : Event D P) (_sender : String) :
    EventM D P Unit :=
  if !port.enabled then emit (.call .UNDEFINED)
  else do
    emit (.store event)
    match connectState? event with
    | some state => connection { port with pDB := port.pDB.set event } state
    | none =>
      if !port.stack.stackEnabled then emit (.call .UNDEFINED)
      else if event.type = .ControlRelayOutputBlock then
        if hasIndex port.pointConf.ControlIndexes event.index then
          port.directOperate event .ControlRelayOutputBlock
        else emit (.call .NOT_SUPPORTED)
      else if isAnalogOutput event.type then
        if hasIndex port.pointConf.AnalogControlIndexes event.index then port.analogControl event
        else emit (.call .NOT_SUPPORTED)
      else emit (.call .NOT_SUPPORTED)

/-! ## When a master answers once -/

section Answers

variable {port : DNP3MasterPort D P}

theorem directOperate_once (event : Event D P) (type : EventType) :
    AnsweredOnce (port.directOperate event type) :=
  (once_bind (silent_emit rfl) _).mpr (once_emit rfl)

theorem operateAs_once (event : Event D P) (type : EventType) :
    AnsweredOnce (port.operateAs event type) := by
  unfold operateAs
  split
  · exact directOperate_once event type
  · exact once_emit rfl

/-- An event that is not converted is refused, as the exception is caught. -/
theorem analogControl_once (event : Event D P) : AnsweredOnce (port.analogControl event) := by
  unfold analogControl
  dsimp only
  generalize port.pointConf.AnalogControlTypes (event.index.setWidth 16) = type
  by_cases converts : (isAnalogOutput event.type && isAnalogOutput type) = true
  · have converted : Silent Effect.isAnswer (convertEvent event type) () := by
      rw [convertEvent, if_pos converts]
      exact silent_pure _
    have body := (once_bind converted fun _ => port.operateAs event type).mpr
      (operateAs_once event type)
    obtain ⟨value, returns⟩ := body.returns
    rw [tryCatch_of_ok returns]
    exact body
  · have raises : (convertEvent event type).result =
        .error "EventConversion: Cannot convert between event types" := by
      rw [convertEvent, if_neg converts]
      rfl
    have nothing : (convertEvent event type).effects = [] := by
      rw [convertEvent, if_neg converts]
      rfl
    rw [tryCatch_of_error (congrArg Outcome.result (bind_of_error raises _)),
      bind_of_error raises, nothing]
    exact ⟨⟨⟨⟩, rfl⟩, rfl⟩

/-- What is published is taken by its receivers without an exception. -/
def Takes (port : DNP3MasterPort D P) (events : List (Event D P)) : Prop :=
  ∀ event ∈ events, port.publishEvent event = .ok ()

theorem publishAll_silent {events : List (Event D P)} (takes : port.Takes events) :
    Silent Effect.isAnswer (port.publishAll events) () := by
  induction events with
  | nil => exact silent_pure _
  | cons event rest ih =>
      exact (silent_emit rfl).bind ((silent_ofExcept (takes event List.mem_cons_self)).bind
        (ih fun other member => takes other (List.mem_cons_of_mem _ member)))

theorem publishAll_raises {events : List (Event D P)} (refused : ¬port.Takes events) :
    ∃ exception, (port.publishAll events).result = .error exception := by
  induction events with
  | nil => exact absurd (fun event member => nomatch member) refused
  | cons event rest ih =>
      cases published : port.publishEvent event with
      | error exception =>
          exact ⟨exception, bind_ok_error rfl (congrArg Outcome.result (bind_of_error published _))⟩
      | ok =>
          have later : ¬port.Takes rest := by
            intro takes
            refine refused fun other member => ?_
            rcases List.mem_cons.mp member with rfl | member
            · exact published
            · exact takes other member
          obtain ⟨exception, raises⟩ := ih later
          exact ⟨exception, bind_ok_error rfl (bind_ok_error published raises)⟩

theorem connection_rest_once (state : ConnectState) :
    AnsweredOnce (D := D) (P := P) (do
      emitAll ((port.stack.handlers state).map .handler)
      emit (.call .SUCCESS)) := by
  refine (once_bind (emitAll_silent ?_) _).mpr (once_emit rfl)
  intro effect member
  obtain ⟨handler, -, rfl⟩ := List.mem_map.mp member
  rfl

theorem connection_once_iff (state : ConnectState) :
    AnsweredOnce (port.connection state) ↔
      (state = .PORT_UP → port.Takes port.republished) := by
  unfold connection
  by_cases up : state = .PORT_UP
  · rw [if_pos up]
    by_cases takes : port.Takes port.republished
    · exact iff_of_true ((once_bind (publishAll_silent takes) _).mpr (connection_rest_once state))
        fun _ => takes
    · obtain ⟨exception, raises⟩ := publishAll_raises takes
      exact iff_of_false
        (not_once_error (congrArg Outcome.result (bind_of_error raises _)))
        fun all => takes (all up)
  · rw [if_neg up]
    exact iff_of_true (connection_rest_once state) fun isUp => absurd isUp up

/-- **A master answers once**, unless an exception comes from a receiver of what it publishes
again. -/
theorem event_answeredOnce_iff (event : Event D P) (sender : String) :
    AnsweredOnce (port.event event sender) ↔
      (port.enabled → connectState? event = some .PORT_UP →
        port.Takes (republished { port with pDB := port.pDB.set event })) := by
  unfold DNP3MasterPort.event
  by_cases enabled : port.enabled = true
  · rw [if_neg (by simp [enabled])]
    refine (once_bind (silent_emit rfl) _).trans ?_
    cases connects : connectState? event with
    | some state =>
        refine (connection_once_iff state).trans ?_
        simp [enabled, Takes]
    | none =>
        refine iff_of_true ?_ (by simp)
        dsimp only
        split
        · exact once_emit rfl
        · split
          · split
            · exact directOperate_once event _
            · exact once_emit rfl
          · split
            · split
              · exact analogControl_once event
              · exact once_emit rfl
            · exact once_emit rfl
  · rw [if_pos (by simp [enabled])]
    exact iff_of_true (once_emit rfl) fun enabling => absurd enabling enabled

end Answers

end DNP3MasterPort

/-! ## The outstation -/

/-- An outstation, with the size that the stack's octet string has when it is set. -/
structure DNP3OutstationPort (D : Type) (P : EventType → Type) where
  enabled : Bool
  stack : DNP3Stack
  pDB : EventDB D P := {}
  setSize : Nat → Nat

namespace DNP3OutstationPort

/-- `FromODC` of an octet string. -/
def fromOctetString (port : DNP3OutstationPort D P) (data : List (BitVec 8)) :
    EventM D P Unit :=
  if data.length = 0 ∧ port.setSize data.length ≠ 0 then
    ofExcept (.error "Data conversion ODC -> DNP3 OctetString failed for zero sized buffer")
  else pure ()

/-- The state of a binary point; a point without payload counts as off. -/
def previousState (port : DNP3OutstationPort D P) (index : BitVec 64) : Option Bool :=
  (port.pDB.get .Binary index).map fun previous =>
    match previous with
    | some { type := .Binary, payload := state, .. } => show Bool from state
    | _ => false

/-- New flags of a binary point go to the stack if the point is known. `UpdateQuality` has put them
into the store, which keeps the payload. -/
def binaryQuality (port : DNP3OutstationPort D P) (event : Event D P) : EventM D P Unit :=
  match port.previousState (event.index.setWidth 16 |>.setWidth 64) with
  | none => pure ()
  | some state => emit (.modify event state)

def event (port : DNP3OutstationPort D P) (event : Event D P) (_sender : String) :
    EventM D P Unit :=
  if !port.enabled then emit (.call .UNDEFINED)
  else do
    emit (.store event)
    match event.type with
    | .Binary => do
      emit (.update event)
      emit (.call .SUCCESS)
    | .Analog => do
      emit (.update event)
      emit (.call .SUCCESS)
    | .OctetString => do
      port.fromOctetString ((octetString? event).getD [])
      emit (.update event)
      emit (.call .SUCCESS)
    | .AnalogOutputStatus => do
      emit (.update event)
      emit (.call .SUCCESS)
    | .BinaryOutputStatus => do
      emit (.update event)
      emit (.call .SUCCESS)
    | .BinaryQuality => do
      binaryQuality { port with pDB := port.pDB.set event } event
      emit (.call .SUCCESS)
    | .AnalogQuality => do
      emit (.modify event false)
      emit (.call .SUCCESS)
    | .ConnectState => do
      emitAll ((port.stack.handlers ((connectState? event).getD .UNDEFINED)).map .handler)
      emit (.call .SUCCESS)
    | _ => emit (.call .NOT_SUPPORTED)

variable {port : DNP3OutstationPort D P}

theorem fromOctetString_silent (emptySet : port.setSize 0 = 0) (data : List (BitVec 8)) :
    Silent Effect.isAnswer (port.fromOctetString data) () := by
  unfold fromOctetString
  rw [if_neg]
  · exact silent_pure _
  · rintro ⟨empty, sized⟩
    rw [empty] at sized
    exact sized emptySet

theorem binaryQuality_silent (event : Event D P) :
    Silent Effect.isAnswer (port.binaryQuality event) () := by
  unfold binaryQuality
  split
  · exact silent_pure _
  · exact silent_emit rfl

/-- **An outstation answers once.** -/
theorem event_answeredOnce (emptySet : port.setSize 0 = 0) (event : Event D P)
    (sender : String) : AnsweredOnce (port.event event sender) := by
  have updated : AnsweredOnce (D := D) (P := P) (do
      emit (.update event)
      emit (.call .SUCCESS)) := (once_bind (silent_emit rfl) _).mpr (once_emit rfl)
  unfold DNP3OutstationPort.event
  split
  · exact once_emit rfl
  · refine (once_bind (silent_emit rfl) _).mpr ?_
    split
    · exact updated
    · exact updated
    · exact (once_bind (fromOctetString_silent emptySet _) _).mpr updated
    · exact updated
    · exact updated
    · exact (once_bind (binaryQuality_silent event) _).mpr (once_emit rfl)
    · exact (once_bind (silent_emit rfl) _).mpr (once_emit rfl)
    · refine (once_bind (emitAll_silent ?_) _).mpr (once_emit rfl)
      intro effect member
      obtain ⟨handler, -, rfl⟩ := List.mem_map.mp member
      rfl
    · exact once_emit rfl

end DNP3OutstationPort

end OpenDataCon.Receivers
