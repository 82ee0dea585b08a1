import OpenDataCon.Receivers.Effects

/-!
# Events at a Python port

`PyPort::Event` calls the Python code on a strand, or formats the event as a text that the Python
code takes from a queue. Every call of the callback is posted. An event that is not queued, because
there is no format, because it has no tag, or because the format does not fit, is dropped without
an answer (`PyPort.event_answeredOnce_iff`).
-/

set_option autoImplicit false

namespace OpenDataCon.Receivers

open Connectors Outcome

variable {D : Type} {P : EventType → Type}

structure PyPortConf where
  pyEventsAreQueued : Bool := false
  pyQueueFormatString : String := ""
  pyOnlyQueueEventsWithTags : Bool := false
  pyTagPrefixString : String := ""
  pyOctetStringFormat : DataToStringMethod := .Raw

/-- The tags of the points of one sender. -/
structure PortMapClass where
  AnalogMap : BitVec 64 → Option String := fun _ => none
  BinaryMap : BitVec 64 → Option String := fun _ => none
  OctetStringMap : BitVec 64 → Option String := fun _ => none
  BinaryControlMap : BitVec 64 → Option String := fun _ => none
  AnalogControlMap : BitVec 64 → Option String := fun _ => none

/-- What a queued event is made of: the arguments of `fmt::format`. -/
structure QueueArguments (D : Type) (P : EventType → Type) where
  event : Event D P
  octetStringFormat : DataToStringMethod
  sender : String
  tag : String
  tagPrefix : String

/-- A Python port, with `fmt::format` and the status that the Python code comes to. -/
structure PyPort (D : Type) (P : EventType → Type) where
  enabled : Bool
  conf : PyPortConf
  PortTagMap : String → Option PortMapClass := fun _ => none
  format : String → QueueArguments D P → Except String String
  pyCall : Event D P → String → CommandStatus

namespace PyPort

/-! ## The event -/

def getTagValue (port : PyPort D P) (sender : String) (type : EventType) (index : BitVec 64) :
    String :=
  match port.PortTagMap sender with
  | none => ""
  | some foundport =>
    match type with
    | .Analog => (foundport.AnalogMap index).getD ""
    | .Binary => (foundport.BinaryMap index).getD ""
    | .OctetString => (foundport.OctetStringMap index).getD ""
    | .ControlRelayOutputBlock => (foundport.BinaryControlMap index).getD ""
    | .AnalogOutputDouble64 => (foundport.AnalogControlMap index).getD ""
    | .AnalogOutputFloat32 => (foundport.AnalogControlMap index).getD ""
    | .AnalogOutputInt16 => (foundport.AnalogControlMap index).getD ""
    | .AnalogOutputInt32 => (foundport.AnalogControlMap index).getD ""
    | _ => ""

/-- What is formatted for an event. -/
def queueArguments (port : PyPort D P) (event : Event D P) (sender : String) :
    QueueArguments D P where
  event
  octetStringFormat := port.conf.pyOctetStringFormat
  sender
  tag := port.getTagValue sender event.type event.index
  tagPrefix := port.conf.pyTagPrefixString

/-- The block of a port whose events are queued. -/
def queue (port : PyPort D P) (event : Event D P) (sender : String) : EventM D P Unit :=
  if port.conf.pyQueueFormatString = "" then pure ()
  else if port.conf.pyOnlyQueueEventsWithTags ∧
      port.getTagValue sender event.type event.index = "" then pure ()
  else do
    let jsonevent ← ofExcept
      (port.format port.conf.pyQueueFormatString (port.queueArguments event sender))
    emit (.queueEvent jsonevent)
    emit (.post .SUCCESS)

def event (port : PyPort D P) (event : Event D P) (sender : String) : EventM D P Unit :=
  if !port.enabled then emit (.post .UNDEFINED)
  else if port.conf.pyEventsAreQueued then
    -- a format that does not fit is logged, and that is all
    tryCatch (port.queue event sender) fun _ => pure ()
  else do
    emit (.python event sender)
    emit (.post (port.pyCall event sender))

/-! ## When it answers once -/

/-- An event comes to the queue: there is a format, the event has a tag if it needs one, and the
format fits. -/
def Queues (port : PyPort D P) (event : Event D P) (sender : String) : Prop :=
  port.conf.pyQueueFormatString ≠ "" ∧
    (port.conf.pyOnlyQueueEventsWithTags →
      port.getTagValue sender event.type event.index ≠ "") ∧
    ∃ text, port.format port.conf.pyQueueFormatString (port.queueArguments event sender) = .ok text

variable {port : PyPort D P} {event : Event D P} {sender : String}

theorem queue_once (queues : port.Queues event sender) :
    AnsweredOnce (port.queue event sender) := by
  obtain ⟨format, tagged, text, formatted⟩ := queues
  unfold queue
  rw [if_neg format, if_neg fun untagged => tagged untagged.1 untagged.2]
  exact (once_bind (silent_ofExcept formatted) _).mpr
    ((once_bind (silent_emit rfl) _).mpr (once_emit rfl))

/-- What is not queued is dropped. -/
theorem queue_dropped (dropped : ¬port.Queues event sender) :
    Silent Effect.isAnswer (tryCatch (port.queue event sender) fun _ => pure ()) () := by
  unfold queue
  split
  · exact silent_pure _
  · next format =>
    split
    · exact silent_pure _
    · next tagged =>
      cases formatted : port.format port.conf.pyQueueFormatString
          (port.queueArguments event sender) with
      | ok text =>
          exact absurd ⟨format, fun only none => tagged ⟨only, none⟩, text, formatted⟩ dropped
      | error exception => exact ⟨rfl, rfl⟩

/-- **A Python port answers once exactly if** it does not queue its events, or this one comes to the
queue. -/
theorem event_answeredOnce_iff :
    AnsweredOnce (port.event event sender) ↔
      (port.enabled → port.conf.pyEventsAreQueued → port.Queues event sender) := by
  unfold PyPort.event
  by_cases enabled : port.enabled = true
  · by_cases queued : port.conf.pyEventsAreQueued = true
    · rw [if_neg (by simp [enabled]), if_pos queued]
      by_cases queues : port.Queues event sender
      · obtain ⟨value, returns⟩ := (queue_once queues).returns
        rw [tryCatch_of_ok returns]
        exact iff_of_true (queue_once queues) fun _ _ => queues
      · exact iff_of_false (queue_dropped queues).not_once fun all => queues (all enabled queued)
    · rw [if_neg (by simp [enabled]), if_neg queued]
      exact iff_of_true ((once_bind (silent_emit rfl) _).mpr (once_emit rfl))
        fun _ queueing => absurd queueing queued
  · rw [if_pos (by simp [enabled])]
    exact iff_of_true (once_emit rfl) fun enabling => absurd enabling enabled

end PyPort

end OpenDataCon.Receivers
