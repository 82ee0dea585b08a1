import OpenDataCon.Receivers.Effects

/-!
# Events at a JSON port

`JSONPort::Event` writes the event to the socket as a copy of the output template. A disabled port
reports `UNDEFINED` and goes on, so the callback is called again, and the name and the format of a
point are read as text, which raises an exception for an array or an object
(`JSONPort.event_answeredOnce_iff`).
-/

set_option autoImplicit false

namespace OpenDataCon.Receivers

open Connectors Outcome

variable {D : Type} {P : EventType → Type}

/-! ## Point configuration -/

/-- A JSON value; a number has the text that it is written as. -/
inductive JSONValue where
  | null
  | boolean (value : Bool)
  | number (text : String)
  | string (text : String)
  | array
  | object
deriving DecidableEq, Repr

/-- `Json::Value::asString`. -/
def JSONValue.asString : JSONValue → Except String String
  | .null => .ok ""
  | .boolean value => .ok (if value then "true" else "false")
  | .number text => .ok text
  | .string text => .ok text
  | .array => .error "Type is not convertible to string"
  | .object => .error "Type is not convertible to string"

/-- Whether a value is converted to text. -/
def JSONValue.isText : JSONValue → Bool
  | .array => false
  | .object => false
  | _ => true

theorem JSONValue.asString_of_isText {value : JSONValue} (text : value.isText = true) :
    ∃ read, value.asString = .ok read := by
  cases value with
  | array => contradiction
  | object => contradiction
  | null | boolean | number | string => exact ⟨_, rfl⟩

theorem JSONValue.asString_of_not_isText {value : JSONValue} (other : ¬value.isText = true) :
    ∃ exception, value.asString = .error exception := by
  cases value with
  | array | object => exact ⟨_, rfl⟩
  | null | boolean | number | string => exact absurd rfl other

/-- The members of a point that an event reads. -/
structure JSONPoint where
  name : JSONValue := .null
  format : Option JSONValue := none
deriving DecidableEq, Repr

structure JSONPointConf where
  Binaries : BitVec 16 → Option JSONPoint := fun _ => none
  Analogs : BitVec 16 → Option JSONPoint := fun _ => none
  OctetStrings : BitVec 16 → Option JSONPoint := fun _ => none
  Controls : BitVec 16 → Option JSONPoint := fun _ => none
  /-- The output template is `null`, and so is every copy of it. -/
  nullTemplate : Bool := false

structure JSONPort where
  enabled : Bool
  pointConf : JSONPointConf
  printAll : Bool := false

namespace JSONPort

/-! ## The event -/

def getOctetStringFormat (point : JSONPoint) : EventM D P DataToStringMethod :=
  match point.format with
  | none => pure .Raw
  | some format => do
    let text ← ofExcept format.asString
    pure (if text = "Hex" then .Hex else .Raw)

def instantiate (port : JSONPort) (output : JSONOutput D P) : Option (JSONOutput D P) :=
  if port.pointConf.nullTemplate then none else some output

/-- The points of an event's type, if there is a table of them. -/
def pointsOf (port : JSONPort) : EventType → Option (BitVec 16 → Option JSONPoint)
  | .Analog => some port.pointConf.Analogs
  | .Binary => some port.pointConf.Binaries
  | .OctetString => some port.pointConf.OctetStrings
  | .ControlRelayOutputBlock => some port.pointConf.Controls
  | _ => none

/-- The index is cut to the 16 bits of the keys. -/
def pointAt (port : JSONPort) (event : Event D P) : Option JSONPoint :=
  (port.pointsOf event.type).bind fun points => points (event.index.setWidth 16)

/-- The format that an octet string is written in, by its point. -/
def formatOf (event : Event D P) (point : JSONPoint) : EventM D P DataToStringMethod :=
  if event.type = .OctetString then getOctetStringFormat point else pure .Hex

def toJSON (port : JSONPort) (event : Event D P) (sender : String) :
    EventM D P (Option (JSONOutput D P)) :=
  if (port.pointsOf event.type).isSome then
    match port.pointAt event with
    | some point => do
      let format ← formatOf event point
      let name ← ofExcept point.name.asString
      pure (port.instantiate { event, format, name, sender })
    | none =>
      if port.printAll then pure (port.instantiate { event, name := "UNKNOWN", sender })
      else pure none
  else pure none

def event (port : JSONPort) (event : Event D P) (sender : String) : EventM D P Unit := do
  -- there is no return here: a disabled port goes on
  if !port.enabled then
    emit (.call .UNDEFINED)
  emit (.store event)
  match ← port.toJSON event sender with
  | none => emit (.call .NOT_SUPPORTED)
  | some output => do
    emit (.write output)
    emit (.call .SUCCESS)

/-! ## When it answers once -/

/-- The members that are read of the point of an event are texts. -/
def ReadsTexts (port : JSONPort) (event : Event D P) : Prop :=
  ∀ point, port.pointAt event = some point →
    point.name.isText = true ∧
      (event.type = .OctetString → ∀ format, point.format = some format → format.isText = true)

section Answers

variable {port : JSONPort} {event : Event D P} (sender : String)

theorem getOctetStringFormat_silent {point : JSONPoint}
    (text : ∀ format, point.format = some format → format.isText = true) :
    ∃ format, Silent Effect.isAnswer (getOctetStringFormat point : EventM D P _) format := by
  unfold getOctetStringFormat
  cases given : point.format with
  | none => exact ⟨.Raw, silent_pure _⟩
  | some format =>
      obtain ⟨read, reads⟩ := format.asString_of_isText (text format given)
      exact ⟨_, (silent_ofExcept reads).bind (silent_pure _)⟩

theorem getOctetStringFormat_raises {point : JSONPoint} {format : JSONValue}
    (given : point.format = some format) (other : ¬format.isText = true) :
    ∃ exception, (getOctetStringFormat point : EventM D P _).result = .error exception := by
  obtain ⟨exception, raises⟩ := format.asString_of_not_isText other
  unfold getOctetStringFormat
  rw [given]
  exact ⟨exception, congrArg Outcome.result (bind_of_error raises _)⟩

theorem toJSON_of_point {point : JSONPoint} (found : port.pointAt event = some point) :
    port.toJSON event sender = (do
      let format ← formatOf event point
      let name ← ofExcept point.name.asString
      pure (port.instantiate { event, format, name, sender })) := by
  have listed : (port.pointsOf event.type).isSome := by
    unfold pointAt at found
    cases table : port.pointsOf event.type with
    | none => rw [table] at found; contradiction
    | some points => rfl
  unfold toJSON
  rw [if_pos listed, found]

theorem toJSON_silent (texts : port.ReadsTexts event) :
    ∃ output, Silent Effect.isAnswer (port.toJSON event sender) output := by
  cases found : port.pointAt event with
  | none =>
      unfold toJSON
      rw [found]
      dsimp only
      split
      · split
        · exact ⟨_, silent_pure _⟩
        · exact ⟨_, silent_pure _⟩
      · exact ⟨_, silent_pure _⟩
  | some point =>
      obtain ⟨named, formatted⟩ := texts point found
      obtain ⟨name, reads⟩ := point.name.asString_of_isText named
      have format : ∃ format, Silent Effect.isAnswer (formatOf event point) format := by
        unfold formatOf
        split
        · next octets => exact getOctetStringFormat_silent (formatted octets)
        · exact ⟨_, silent_pure _⟩
      obtain ⟨format, silent⟩ := format
      rw [toJSON_of_point sender found]
      exact ⟨_, silent.bind ((silent_ofExcept reads).bind (silent_pure _))⟩

theorem toJSON_raises (other : ¬port.ReadsTexts event) :
    ∃ exception, (port.toJSON event sender).result = .error exception := by
  unfold ReadsTexts at other
  push Not at other
  obtain ⟨point, found, unread⟩ := other
  rw [toJSON_of_point sender found]
  cases made : (formatOf event point).result with
  | error exception => exact ⟨exception, congrArg Outcome.result (bind_of_error made _)⟩
  | ok format =>
      have unnamed : ¬point.name.isText = true := by
        intro named
        obtain ⟨octets, format, given, untext⟩ := unread named
        obtain ⟨exception, raises⟩ := getOctetStringFormat_raises (D := D) (P := P) given untext
        unfold formatOf at made
        rw [if_pos octets, raises] at made
        contradiction
      obtain ⟨exception, raises⟩ := point.name.asString_of_not_isText unnamed
      exact ⟨exception, bind_ok_error made (congrArg Outcome.result (bind_of_error raises _))⟩

/-- What a port does with an event once it goes on. -/
def report (port : JSONPort) (event : Event D P) (sender : String) : EventM D P Unit := do
  emit (.store event)
  match ← port.toJSON event sender with
  | none => emit (.call .NOT_SUPPORTED)
  | some output => do
    emit (.write output)
    emit (.call .SUCCESS)

theorem report_once (texts : port.ReadsTexts event) :
    AnsweredOnce (port.report event sender) := by
  obtain ⟨output, silent⟩ := toJSON_silent sender texts
  refine (once_bind (silent_emit rfl) _).mpr ((once_bind silent _).mpr ?_)
  cases output with
  | none => exact once_emit rfl
  | some output => exact (once_bind (silent_emit rfl) _).mpr (once_emit rfl)

theorem report_raises (other : ¬port.ReadsTexts event) :
    ∃ exception, (port.report event sender).result = .error exception := by
  obtain ⟨exception, raises⟩ := toJSON_raises sender other
  exact ⟨exception, bind_ok_error rfl (congrArg Outcome.result (bind_of_error raises _))⟩

theorem event_eq : port.event event sender =
    if port.enabled then port.report event sender
    else emit (.call .UNDEFINED) >>= fun _ => port.report event sender := by
  unfold JSONPort.event
  cases port.enabled with
  | true => rfl
  | false => rfl

/-- **A JSON port answers once exactly if it is enabled** and the members that it reads of the
point are texts. -/
theorem event_answeredOnce_iff :
    AnsweredOnce (port.event event sender) ↔ port.enabled = true ∧ port.ReadsTexts event := by
  rw [event_eq]
  by_cases texts : port.ReadsTexts event
  · by_cases enabled : port.enabled = true
    · rw [if_pos enabled]
      exact iff_of_true (report_once sender texts) ⟨enabled, texts⟩
    · rw [if_neg enabled]
      exact iff_of_false (not_once_bind rfl rfl (report_once sender texts))
        fun both => enabled both.1
  · obtain ⟨exception, raises⟩ := report_raises sender texts
    refine iff_of_false (@not_once_error _ _ _ _ _ exception ?_) fun both => texts both.2
    split
    · exact raises
    · exact bind_ok_error rfl raises

end Answers

end JSONPort

end OpenDataCon.Receivers
