import OpenDataCon.PyPort.AnyStrings

/-!
# Which events come through as texts

An event is published with the texts of its type, its quality and its payload and is created
from them again. This goes wrong for controls with times of `2 ^ 31` milliseconds and
more, which are read as an `int`, and for connection states without a name
(`events_published_iff`).
-/

set_option autoImplicit false

namespace OpenDataCon.PyPort

open Connectors (EventType QualityFlags)
open Events
open Exceptions
open FileTransfer (Bytes ascii)

/-! ## Events that come through -/

section RoundTrips

variable {D F : Type} [FloatTexts D F]

/-- The types of events that come through. -/
def published : List EventType :=
  [.Binary, .ConnectState, .ControlRelayOutputBlock, .AnalogOutputInt16, .AnalogOutputInt32,
    .OctetString]

/-- Payloads are the same, analog outputs in their values. -/
def Agree : Payload D F → Payload D F → Prop
  | .AO16 value _, .AO16 other _ => value = other
  | .AO32 value _, .AO32 other _ => value = other
  | payload, other => payload = other

structure SameEvent (event created : EventInfo D F) : Prop where
  type : created.type = event.type
  payload : ∃ before ∈ event.payload, ∃ after ∈ created.payload, Agree before after
  index : event.type ≠ number .ConnectState → created.index = event.index
  quality : event.type ≠ number .ConnectState → created.quality = event.quality

/-- What is created of the texts of an event is the event. -/
def RoundTrips (event : EventInfo D F) : Prop :=
  ∃ text, event.payloadString .Raw = .ok text ∧ ∀ now SourcePort, ∃ created,
    createEventFromStrParams now (eventTypeToString event.type) event.index
      (qualityFlagsToString event.quality) text SourcePort = some created ∧
    SameEvent event created

/-- The payloads whose texts are read back. -/
def Textual : Payload D F → Prop
  | .ConnectState state => state ∈ connectStates
  | .ControlRelayOutputBlock control => ControlComesThrough control
  | _ => True

/-- A payload is read back from its text when it is textual. -/
theorem reads_back_iff {name : EventType} {payload : Payload D F} (inScope : name ∈ published)
    (data : name ≠ .ConnectState) (type : EventTypePayload name = payload.type) :
    (∃ after, payloadFromString name (payload.string .Raw) = some (.ok after) ∧
      Agree payload after) ↔ Textual payload := by
  have ints : ∀ {w : Nat} (value : BitVec w), 0 < w → w ≤ 32 →
      stoi (signedDecimal value.toInt) = .ok value.toInt := by
    intro w value positive small
    have low := BitVec.le_toInt value
    have high := BitVec.toInt_lt (x := value)
    have scale : (2 : Int) ^ (w - 1) ≤ 2 ^ 31 := by
      exact_mod_cast Nat.pow_le_pow_right (show 0 < 2 by decide) (show w - 1 ≤ 31 by omega)
    exact stoi_signedDecimal (by omega) (by omega)
  cases name with
  | Binary =>
      cases payload with
      | bool value =>
          refine iff_of_true ?_ trivial
          cases value
          · exact ⟨_, rfl, rfl⟩
          · exact ⟨_, rfl, rfl⟩
      | _ => cases type
  | OctetString =>
      cases payload with
      | OctetStringBuffer data => exact iff_of_true ⟨_, rfl, rfl⟩ trivial
      | _ => cases type
  | AnalogOutputInt16 =>
      cases payload with
      | AO16 value status =>
          refine iff_of_true ⟨.AO16 value 0#8, ?_, rfl⟩ trivial
          change some ((stoi (signedDecimal value.toInt)).map _) = _
          rw [ints value (by decide) (by decide), Except.map, BitVec.ofInt_toInt]
      | _ => cases type
  | AnalogOutputInt32 =>
      cases payload with
      | AO32 value status =>
          refine iff_of_true ⟨.AO32 value 0#8, ?_, rfl⟩ trivial
          change some ((stoi (signedDecimal value.toInt)).map _) = _
          rw [ints value (by decide) (by decide), Except.map, BitVec.ofInt_toInt]
      | _ => cases type
  | ControlRelayOutputBlock =>
      cases payload with
      | ControlRelayOutputBlock control =>
          change _ ↔ ControlComesThrough control
          rw [← controlFromString_toString_iff]
          constructor
          · rintro ⟨after, read, same⟩
            obtain ⟨_, found, rfl⟩ := map_eq_ok_iff.mp (Option.some.inj read)
            cases same
            exact found
          · intro found
            refine ⟨_, ?_, rfl⟩
            change some ((controlFromString (controlToString control)).map _) = _
            rw [found]
            rfl
      | _ => cases type
  | ConnectState => exact absurd rfl data
  | _ => exact absurd inScope (by decide)

omit [FloatTexts D F] in
theorem typed_name {event : EventInfo D F} {payload : Payload D F} {name : EventType}
    (carries : event.payload = some payload) (type : event.type = number name) :
    EventTypePayload name = payload.type := by
  have typed := event.typed payload carries
  rw [type, payloadType, named_number] at typed
  exact Option.some.inj typed

theorem payloadString_of_published {event : EventInfo D F} {payload : Payload D F}
    {name : EventType} (carries : event.payload = some payload) (type : event.type = number name)
    (inScope : name ∈ published) : event.payloadString .Raw = .ok (payload.string .Raw) := by
  refine EventInfo.payloadString_of_payload carries ?_ .Raw
  rw [← typed_name carries type]
  cases name <;> first | rfl | exact absurd inScope (by decide)

/-- The event that the texts of an event name, before its payload is read. -/
theorem texts_name {type : BitVec 8} {quality : QualityFlags} {name : EventType}
    (isName : type = number name) (flagged : quality ≠ Connectors.QualityFlags.NONE)
    (defined : quality.toNat < 2 ^ 10) :
    named (eventTypeFromString (eventTypeToString type)) = some name ∧
      eventTypeFromString (eventTypeToString type) = type ∧
      qualityFlagsFromString (qualityFlagsToString quality) = quality ∧
      qualityFlagsFromString (qualityFlagsToString quality) ≠ Connectors.QualityFlags.NONE := by
  have sameQuality := qualityFlagsFromString_toString defined
  rw [isName, eventTypeFromString_toString, named_number, sameQuality]
  exact ⟨rfl, rfl, rfl, flagged⟩

section Through

variable {event : EventInfo D F} {payload : Payload D F} {name : EventType}
  (carries : event.payload = some payload) (type : event.type = number name)
  (flagged : event.quality ≠ Connectors.QualityFlags.NONE)
  (defined : event.quality.toNat < 2 ^ 10)

include carries type flagged defined

/-- A connection state comes through when it has a name, without the index and the quality. -/
theorem roundTrips_state_iff (state : name = .ConnectState) :
    RoundTrips event ↔ Textual payload := by
  subst state
  obtain ⟨known, sameType, -, someFlag⟩ := texts_name type flagged defined
  have text := payloadString_of_published carries type (by decide)
  have matching := typed_name carries type
  cases payload with
  | ConnectState state =>
      unfold RoundTrips
      simp only [text, Except.ok.injEq, exists_eq_left', create_of_state known someFlag]
      change _ ↔ state ∈ connectStates
      by_cases member : state ∈ connectStates
      · have read : connectStateFromString
            ((.ConnectState state : Payload D F).string .Raw) = state :=
          connectStateFromString_toString member
        have named_state : state ≠ 4#32 := by
          rintro rfl
          exact absurd member (by decide)
        refine iff_of_true ?_ member
        intro now SourcePort
        simp only [read, if_neg named_state, sameType]
        obtain ⟨created, made, keptType, -, -, held⟩ := @withPayload_ok D F
          { type := event.type, sourcePort := SourcePort, timestamp := now }
          (.ConnectState state) (event.typed _ carries)
        exact ⟨created, congrArg some made, keptType, ⟨_, carries, _, held, rfl⟩,
          fun other => absurd type other, fun other => absurd type other⟩
      · have read : connectStateFromString
            ((.ConnectState state : Payload D F).string .Raw) = 4#32 :=
          connectStateFromString_of_unknown member
        refine iff_of_false ?_ member
        intro through
        obtain ⟨created, made, -⟩ := through 0 []
        rw [if_pos read] at made
        cases made
  | _ => cases matching

/-- Other events come through when their payloads are read back. -/
theorem roundTrips_data_iff (inScope : name ∈ published) (data : name ≠ .ConnectState) :
    RoundTrips event ↔ Textual payload := by
  obtain ⟨known, sameType, sameQuality, someFlag⟩ := texts_name type flagged defined
  have text := payloadString_of_published carries type inScope
  have start : ∀ now SourcePort (value : Payload D F), EventTypePayload name = value.type →
      ∃ created, withPayload {
        type := eventTypeFromString (eventTypeToString event.type)
        index := event.index
        sourcePort := SourcePort
        quality := qualityFlagsFromString (qualityFlagsToString event.quality)
        timestamp := now } (.ok value) = created ∧ created.type = event.type ∧
        created.index = event.index ∧ created.quality = event.quality ∧
        created.payload = some value := by
    intro now SourcePort value matching
    obtain ⟨created, made, keptType, keptIndex, keptQuality, held⟩ := @withPayload_ok D F
      { type := eventTypeFromString (eventTypeToString event.type)
        index := event.index
        sourcePort := SourcePort
        quality := qualityFlagsFromString (qualityFlagsToString event.quality)
        timestamp := now } value (by rw [payloadType, known]; exact congrArg some matching)
    exact ⟨created, made, keptType.trans sameType, keptIndex, keptQuality.trans sameQuality, held⟩
  rw [← reads_back_iff inScope data (typed_name carries type)]
  unfold RoundTrips
  simp only [text, Except.ok.injEq, exists_eq_left', create_of_named known someFlag data]
  constructor
  · intro through
    obtain ⟨created, made, -, ⟨before, isBefore, after, isAfter, agree⟩, -⟩ := through 0 []
    cases carries.symm.trans isBefore
    obtain ⟨result, tried, rfl⟩ := Option.map_eq_some_iff.mp made
    cases result with
    | error thrown => cases isAfter
    | ok value =>
        obtain ⟨created, isCreated, -, -, -, held⟩ :=
          start 0 [] value (type_of_payloadFromString tried rfl)
        rw [isCreated, held] at isAfter
        cases isAfter
        exact ⟨_, tried, agree⟩
  · rintro ⟨after, read, agree⟩ now SourcePort
    obtain ⟨created, made, keptType, keptIndex, keptQuality, held⟩ :=
      start now SourcePort after (type_of_payloadFromString read rfl)
    refine ⟨created, ?_, keptType, ⟨_, carries, _, held, agree⟩, fun _ => keptIndex,
      fun _ => keptQuality⟩
    rw [read, Option.map_some, made]

/-- **An event comes through exactly when its payload is textual.** -/
theorem roundTrips_iff (inScope : name ∈ published) : RoundTrips event ↔ Textual payload := by
  by_cases state : name = .ConnectState
  · exact roundTrips_state_iff carries type flagged defined state
  · exact roundTrips_data_iff carries type flagged defined inScope state

end Through

/-! ## The texts of events, and any texts -/

/-- What makes four texts honest: the type they name reads the payload. -/
def ReadableTexts (D F : Type) [FloatTexts D F] (EventTypeStr QualityStr PayloadStr : Bytes) :
    Prop :=
  qualityFlagsFromString QualityStr ≠ Connectors.QualityFlags.NONE →
    ∀ type ∈ named (eventTypeFromString EventTypeStr), Readable D F type PayloadStr

end RoundTrips

/-- Rationals do for examples. -/
instance : FloatTexts ℚ ℚ where
  doubleString := fun _ => []
  floatString := fun _ => []
  stod := fun _ => .error (.invalidArgument "stod")
  stof := fun _ => .error (.invalidArgument "stof")

/-- A control with a pulse of the longest time that is read. -/
def pulseEvent : EventInfo ℚ ℚ where
  type := number .ControlRelayOutputBlock
  index := 3#64
  quality := 0x101#16
  timestamp := 0
  payload := some (.ControlRelayOutputBlock
    { functionCode := 3#8, count := 255#8, onTimeMS := 0x7FFFFFFF#32, offTimeMS := 0#32 })
  typed := by
    rintro value ⟨⟩
    decide

end OpenDataCon.PyPort
