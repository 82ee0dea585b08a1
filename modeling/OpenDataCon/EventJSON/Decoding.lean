import OpenDataCon.EventJSON.Payloads

/-!
# Events in JSON

The type, index, source, quality and time of an event are read first, and then its payload,
by the type of the event (`eventInfoFromJson`). The standard exceptions of the payload are
caught and thrown again; a literal is not.

An event is what is written, or a standard exception is thrown, exactly when the numbers
that are accepted have no more bits than the fields they are read into, and no literal is
thrown; and the text of a quality is read back exactly when a flag is set
(`eventInfoFromJson_exact_iff`).
-/

set_option autoImplicit false

namespace OpenDataCon.EventJSON

open Connectors (EventType QualityFlags)
open Events
open Exceptions Validation
open FileTransfer (Bytes ascii)
open JSON (Value Doubles)

section Head

variable {D : Type} [Doubles D] (library : Library D) (now : BitVec 64) (json : Value D)

/-! ## The head of an event -/

/-- An exception of the decoder. -/
def invalid (message : String) (json : Value D) : Thrown :=
  .invalidArgument ("EventInfoFromJson() " ++ message ++ ": " ++ library.toStyledString json)

/-- A text. -/
def stringFromJson (thrown : Thrown) (json : Value D) : Except Thrown Bytes :=
  match json with
  | .string text => .ok text
  | _ => .error thrown

variable {F : Type}

/-- The members before the payload. -/
def headFromJson : Except Thrown (EventInfo D F) := do
  check json.isObject (invalid library "requires a JSON object" json)
  check (isMember json "EventType") (invalid library "requires an 'EventType' member" json)
  let type ← eventTypeFromJson (invalid library "Invalid 'EventType'" (field json "EventType"))
    (field json "EventType")
  let index ← unsignedFromJson 64
    (invalid library "requires an unsigned integer 'Index' member" json) (field json "Index")
  let sourcePort ← readOr (memberOf json "SourcePort") [] fun given =>
    stringFromJson (invalid library "Invalid 'SourcePort' - should be string" given) given
  let quality ← readOr (memberOf json "QualityFlags") Connectors.QualityFlags.ONLINE fun given =>
    eventQualityFromJson (invalid library "Invalid 'QualityFlags'" given) given
  let timestamp ← readOr (memberOf json "Timestamp") now fun given =>
    timeFromJson library (invalid library "Invalid 'Timestamp'" given) given
  return { type, index, sourcePort, quality, timestamp }

/-- The members before the payload are accepted. -/
def AcceptsHead : Prop :=
  json.isObject = true ∧ isMember json "EventType" = true ∧
    (NumberOr (fun _ => true) (field json "EventType") ∧
      inRange (eventTypeOf (field json "EventType")) = true) ∧
    (field json "Index").isUInt = true ∧
    (∀ given ∈ memberOf json "SourcePort", given.isString = true) ∧
    (∀ given ∈ memberOf json "QualityFlags", NumberOr isQualityText given) ∧
    ∀ given ∈ memberOf json "Timestamp", IsTime library given

/-- The event without its payload. -/
def headOf : EventInfo D F where
  type := eventTypeOf (field json "EventType")
  index := BitVec.ofInt 64 (number (field json "Index"))
  sourcePort := (memberOf json "SourcePort").elim [] textOf
  quality := (memberOf json "QualityFlags").elim Connectors.QualityFlags.ONLINE eventQuality
  timestamp := (memberOf json "Timestamp").elim now (timeOf library)

omit [Doubles D] in
theorem stringFromJson_reads {thrown : Thrown} (standard : thrown.isStandard = true)
    (json : Value D) :
    Reads NotStandard (stringFromJson thrown json) (textOf json) (json.isString = true) False := by
  cases json with
  | string text => exact (Reads.of_ok text).congr (iff_of_true trivial rfl) Iff.rfl
  | null | int | uint | real | boolean | array | object =>
      exact ⟨Bool.noConfusion, fun _ => ⟨thrown, rfl, notStandard_iff standard⟩, False.elim⟩

theorem headFromJson_reads :
    Reads NotStandard (headFromJson library now json : Except Thrown (EventInfo D F))
      (headOf library now json) (AcceptsHead library json) False := by
  have fine : ∀ {message json}, ¬NotStandard (invalid library message json) :=
    not_notStandard rfl
  unfold headFromJson
  refine Reads.congr (Reads.bind (Reads.check fine _) (Reads.bind (Reads.check fine _)
    (Reads.bind (eventTypeFromJson_reads rfl) (Reads.bind (unsigned_reads rfl _)
      (Reads.bind (Reads.readOr (fun _ => stringFromJson_reads rfl _) _ _)
        (Reads.bind (Reads.readOr (fun _ => eventQualityFromJson_reads rfl) _ _)
          (Reads.bind (Reads.readOr (fun _ => timeFromJson_reads library rfl) _ _)
            (Reads.pure _)))))))) ?_ (by simp)
  rw [AcceptsHead, and_true]

/-- The type, index, quality and time of an event are what is written. -/
@[mk_iff]
structure WritesHead (event : EventInfo D F) : Prop where
  type : WritesType (field json "EventType") event.type
  index : IsInteger (field json "Index") event.index.toNat
  quality : ∀ given ∈ memberOf json "QualityFlags", WritesQuality given event.quality
  timestamp : ∀ given ∈ memberOf json "Timestamp", WritesTime library given event.timestamp

/-- What the fields before the payload can hold. -/
def FitsHead : Prop :=
  FitsIn 8 (field json "EventType") ∧ (∀ given ∈ memberOf json "QualityFlags", FitsIn 8 given) ∧
    ∀ given ∈ memberOf json "Timestamp", FitsTime library given

theorem head_writes_iff (accepts : AcceptsHead library json) :
    WritesHead library json (headOf library now json : EventInfo D F) ↔
      FitsHead library json := by
  obtain ⟨-, -, ⟨type, range⟩, index, -, quality, timestamp⟩ := accepts
  have typeIff := eventType_writes_iff type range
  have qualityIff : ∀ given ∈ memberOf json "QualityFlags",
      (WritesQuality given (headOf library now json : EventInfo D F).quality ↔
        FitsIn 8 given) := by
    intro given found
    rw [headOf, found, Option.elim_some]
    exact eventQuality_writes_iff (quality given found)
  have timeIff : ∀ given ∈ memberOf json "Timestamp",
      (WritesTime library given (headOf library now json : EventInfo D F).timestamp ↔
        FitsTime library given) := by
    intro given found
    rw [headOf, found, Option.elim_some]
    exact time_writes_iff library (timestamp given found)
  constructor
  · intro writes
    exact ⟨typeIff.mp writes.type,
      fun given found => (qualityIff given found).mp (writes.quality given found),
      fun given found => (timeIff given found).mp (writes.timestamp given found)⟩
  · rintro ⟨fitsType, fitsQuality, fitsTime⟩
    refine ⟨typeIff.mpr fitsType, ?_,
      fun given found => (qualityIff given found).mpr (fitsQuality given found),
      fun given found => (timeIff given found).mpr (fitsTime given found)⟩
    have small := (number_of_isUInt index).2.2
    exact (unsigned_writes_iff index).mpr (by omega)

/-- A payload is set, and the rest of the event stays as it is. -/
theorem setPayload_head {event : EventInfo D F} {type : PayloadType}
    (known : payloadType event.type = some type) (value : Payload D F) (same : value.type = type) :
    ∃ set, event.setPayload value = .ok set ∧
      (WritesHead library json set ↔ WritesHead library json event) ∧
      set.quality = event.quality ∧ set.payload = some value := by
  have matching : payloadType event.type = some value.type := by rw [known, same]
  obtain ⟨set, result, types, index, -, quality, timestamp, payload⟩ :=
    EventInfo.setPayload_of_type matching
  refine ⟨set, result, ?_, quality, payload⟩
  rw [writesHead_iff, writesHead_iff, types, index, quality, timestamp]

end Head

section Decoding

variable {D F : Type} [Doubles D] [Floats D F] [Zero D] [Zero F] (library : Library D)
  (now : BitVec 64) (json : Value D)

/-! ## The decoder -/

/-- `PayloadFromJson` of an event. -/
def payloadFromJson (load : Value D) (event : EventInfo D F) : Except Thrown (EventInfo D F) :=
  match payloadType event.type with
  | some type => loadFromJson library type load >>= event.setPayload
  | none => .error (.runtimeError
      "Can't parse Payload for unknown EventType <no_string_representation>")

/-- The event with its payload, or with the default of its type. -/
def withPayload (event : EventInfo D F) : Except Thrown (EventInfo D F) :=
  match memberOf json "Payload" with
  | some load => rethrow Thrown.isStandard
      (fun thrown => .invalidArgument ("EventInfoFromJson() Invalid 'Payload': " ++
        library.toStyledString load ++ ": " ++ thrown.what))
      (payloadFromJson library load event)
  | none => event.setDefaultPayload

/-- `EventInfoFromJson`, at a time. -/
def eventInfoFromJson : Except Thrown (EventInfo D F) :=
  headFromJson library now json >>= withPayload library json

/-! ## Exactness -/

/-- **An event is what is written.** -/
def WritesEvent (event : EventInfo D F) : Prop :=
  WritesHead library json event ∧
    ∀ load ∈ memberOf json "Payload", ∃ value ∈ event.payload, WritesPayload library load value

variable {json}

/-- An event without a payload gets the default one. -/
theorem withPayload_none {event : EventInfo D F} {type : PayloadType}
    (known : payloadType event.type = some type) (empty : event.payload = none)
    (none : memberOf json "Payload" = none) :
    ∃ set, withPayload library json event = .ok set ∧
      (WritesHead library json set ↔ WritesHead library json event) ∧
      set.quality = event.quality := by
  obtain ⟨set, result, head, quality, -⟩ :=
    setPayload_head library json known (Payload.default type) (Payload.type_default type)
  refine ⟨set, ?_, head, quality⟩
  rw [withPayload, none]
  dsimp only
  rw [EventInfo.setDefaultPayload, empty, known]
  exact result

/-- The payload of an event is what is written, or a standard exception is thrown, unless it is
accepted without fitting or a literal is thrown. -/
theorem withPayload_exact_iff {event : EventInfo D F} {type : PayloadType}
    (known : payloadType event.type = some type) (empty : event.payload = none) :
    ExactOrRejects NotStandard (withPayload library json event) (WritesEvent library json) ↔
      (∀ load ∈ memberOf json "Payload", ¬ThrowsLiteral type load) ∧
        ((∀ load ∈ memberOf json "Payload", Accepts F library type load) →
          WritesHead library json event ∧
            ∀ load ∈ memberOf json "Payload", Fits F library type load) := by
  cases found : memberOf json "Payload" with
  | none =>
      obtain ⟨set, result, head, -⟩ := withPayload_none library known empty found
      rw [result, ExactOrRejects, WritesEvent, head, found]
      simp
  | some load =>
      obtain ⟨set, result, head, -, payload⟩ := setPayload_head library json known
        (EventJSON.load library type load) (type_load library type load)
      have stored : Reads NotStandard (event.setPayload (EventJSON.load library type load)) set
          True False := by
        rw [result]
        exact Reads.of_ok set
      have loaded : payloadFromJson library load event =
          loadFromJson library type load >>= event.setPayload := by
        rw [payloadFromJson, known]
      have reads : Reads NotStandard (withPayload library json event) set
          (Accepts F library type load) (ThrowsLiteral type load) := by
        rw [withPayload, found]
        dsimp only
        rw [loaded]
        refine (Reads.rethrow ((loadFromJson_reads library type load).bind stored) ?_).congr
          (and_iff_left trivial) (by simp)
        intro thrown standard
        exact iff_of_false (not_notStandard rfl) (not_notStandard standard)
      have written : Accepts F library type load → (WritesEvent library json set ↔
          WritesHead library json event ∧ Fits F library type load) := by
        intro accepts
        rw [WritesEvent, head, found, payload, ← load_writes_iff library accepts]
        simp
      rw [reads.exactOrRejects_iff, forall_congr' written]
      simp

/-- The type of the payload of an event. -/
def typeOfPayload (json : Value D) : Option PayloadType :=
  payloadType (eventTypeOf (field json "EventType"))

variable (json)

/-- The event is accepted until a literal is thrown. -/
def ThrowsText : Prop :=
  AcceptsHead library json ∧ ∃ type ∈ typeOfPayload json, ∃ load ∈ memberOf json "Payload",
    ThrowsLiteral type load

/-- The event is accepted. -/
def AcceptsEvent (F : Type) [Floats D F] : Prop :=
  AcceptsHead library json ∧ ∀ type ∈ typeOfPayload json, ∀ load ∈ memberOf json "Payload",
    Accepts F library type load

/-- What the fields of the event can hold. -/
def FitsEvent (F : Type) [Floats D F] : Prop :=
  FitsHead library json ∧ ∀ type ∈ typeOfPayload json, ∀ load ∈ memberOf json "Payload",
    Fits F library type load

/-- A number in the range is an event type. -/
theorem payloadType_of_inRange {type : BitVec 8} (range : inRange type = true) :
    ∃ payload, payloadType type = some payload := by
  rw [inRange, Bool.and_eq_true, decide_eq_true_iff, decide_eq_true_iff] at range
  have first : type ≠ BeforeRange := by
    rintro rfl
    exact absurd range.1 (Nat.lt_irrefl _)
  have known : type.toNat - 1 < eventTypes.length := by
    have last : type.toNat < 45 := range.2
    change type.toNat - 1 < 44
    omega
  refine ⟨EventTypePayload eventTypes[type.toNat - 1], ?_⟩
  rw [payloadType, named, if_neg first, List.getElem?_eq_getElem known]
  rfl

/-- **An event is what is written, or a standard exception is thrown**, exactly when no literal is
thrown and what is accepted fits. -/
theorem eventInfo_exact_iff :
    ExactOrRejects NotStandard (eventInfoFromJson library now json : Except Thrown (EventInfo D F))
        (WritesEvent library json) ↔
      ¬ThrowsText library json ∧ (AcceptsEvent library json F → FitsEvent library json F) := by
  rw [eventInfoFromJson, (headFromJson_reads library now json).exactOrRejects_bind]
  by_cases accepts : AcceptsHead library json
  · obtain ⟨type, known⟩ := payloadType_of_inRange accepts.2.2.1.2
    have typed : typeOfPayload json = some type := known
    have headKnown : payloadType (headOf library now json : EventInfo D F).type = some type := known
    rw [withPayload_exact_iff library headKnown rfl, head_writes_iff library now json accepts,
      ThrowsText, AcceptsEvent, FitsEvent, typed]
    simp [accepts]
  · simp [ThrowsText, AcceptsEvent, accepts]

end Decoding

/-! ## Qualities as texts -/

section Qualities

variable {D : Type} [Doubles D] (library : Library D) (now : BitVec 64) {q : QualityFlags}

/-- The text of a quality is accepted when a flag is set. -/
theorem isQualityText_iff (defined : q.toNat < 2 ^ 10) :
    isQualityText (qualityFlagsToString q) = true ↔ q ≠ 0 := by
  rw [isQualityText, qualityFlagsFromString_toString defined, Bool.or_eq_true, decide_eq_true_iff,
    decide_eq_true_iff]
  refine or_iff_left ?_
  intro same
  have bars : bar ∈ qualityFlagsToString q := by
    rw [qualityFlagsToString]
    split
    · decide
    · exact List.mem_cons_self
  rw [same] at bars
  exact absurd bars (by decide)

/-- An event with its quality as a text. -/
def qualityEvent (type : EventType) (index : Nat) (q : QualityFlags) : Value D :=
  .object [(ascii "EventType", .int (Events.number type).toNat), (ascii "Index", .int index),
    (ascii "QualityFlags", .string (qualityFlagsToString q))]

/-- An event with its quality as a text is accepted when the text is. -/
theorem acceptsHead_qualityEvent (type : EventType) {index : Nat} (small : index < 2 ^ 32) :
    AcceptsHead library (qualityEvent type index q) ↔
      isQualityText (qualityFlagsToString q) = true := by
  have typeField : field (qualityEvent type index q : Value D) "EventType" =
      .int (Events.number type).toNat := rfl
  have indexField : field (qualityEvent type index q : Value D) "Index" = .int index := rfl
  have source : memberOf (qualityEvent type index q : Value D) "SourcePort" = none := rfl
  have quality : memberOf (qualityEvent type index q : Value D) "QualityFlags" =
      some (.string (qualityFlagsToString q)) := rfl
  have timestamp : memberOf (qualityEvent type index q : Value D) "Timestamp" = none := rfl
  obtain ⟨unsigned, same⟩ := eventTypeOf_number (D := D) type
  have indexed : (.int index : Value D).isUInt = true :=
    isIntegerIn_iff.mpr ⟨index, rfl, Int.natCast_nonneg _, by omega⟩
  rw [AcceptsHead, typeField, indexField, source, quality, timestamp, same]
  constructor
  · rintro ⟨-, -, -, -, -, accepted, -⟩
    rcases accepted _ rfl with number | ⟨text, equal, accepted⟩
    · cases number
    · cases equal
      exact accepted
  · intro accepted
    refine ⟨rfl, rfl, ⟨.inl unsigned, inRange_number type⟩, indexed, ?_, ?_, ?_⟩
    · intro given found
      cases found
    · intro given found
      cases found
      exact .inr ⟨_, rfl, accepted⟩
    · intro given found
      cases found

variable {F : Type} [Floats D F] [Zero D] [Zero F]

/-- The text of a quality is read back as the quality, in events of all types. -/
def ReadsBack (F : Type) [Floats D F] [Zero F] (q : QualityFlags) : Prop :=
  ∀ (type : EventType) (index : Nat), index < 2 ^ 32 →
    ∃ event : EventInfo D F,
      eventInfoFromJson library now (qualityEvent type index q) = .ok event ∧ event.quality = q

/-- **The text of a quality is read back** exactly when a flag is set. -/
theorem readsBack_iff (defined : q.toNat < 2 ^ 10) :
    ReadsBack library now F q ↔ q ≠ 0 := by
  rw [← isQualityText_iff defined]
  constructor
  · intro back
    obtain ⟨event, result, -⟩ := back .Binary 0 (by decide)
    by_contra rejected
    have zero : 0 < 2 ^ 32 := by decide
    rw [← acceptsHead_qualityEvent library .Binary zero] at rejected
    obtain ⟨thrown, failed, -⟩ := (headFromJson_reads library now _).error rejected
    rw [eventInfoFromJson, failed] at result
    cases result
  · intro accepted type index small
    have accepts := (acceptsHead_qualityEvent library type small).mpr accepted
    let head : EventInfo D F := headOf library now (qualityEvent type index q)
    have read : headFromJson library now (qualityEvent type index q) = .ok head :=
      (headFromJson_reads library now _).ok accepts
    obtain ⟨payload, known⟩ := payloadType_of_inRange accepts.2.2.1.2
    have headKnown : payloadType head.type = some payload := known
    have bare : memberOf (qualityEvent type index q : Value D) "Payload" = none := rfl
    obtain ⟨event, result, -, quality⟩ := withPayload_none library headKnown rfl bare
    refine ⟨event, ?_, quality.trans ?_⟩
    · rw [eventInfoFromJson, read]
      exact result
    · exact qualityFlagsFromString_toString defined

end Qualities

/-- A library that knows no texts. -/
def noTexts : Library ℚ where
  toStyledString _ := ""
  quoted _ := ""
  datetime _ := none

/-- A binary event with a number of its type. -/
def binaryEvent (type : ℤ) : Value ℚ :=
  .object [(ascii "EventType", .int type), (ascii "Index", .int 7),
    (ascii "Payload", .boolean true), (ascii "QualityFlags", .int 5)]

/-- A control whose count is no unsigned integer. -/
def badCount : Value ℚ :=
  .object [(ascii "EventType", .int 16), (ascii "Index", .int 0),
    (ascii "Payload", .object [(ascii "ControlCode", .string (ascii "LATCH_ON")),
      (ascii "Count", .int (-1))])]

end OpenDataCon.EventJSON
