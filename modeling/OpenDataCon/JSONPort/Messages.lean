import OpenDataCon.JSON.Texts
import OpenDataCon.JSONPort.Decoding

/-!
# Any message at a JSON port

A JSON port is to take any message, and to publish one event for each point that the
message has a value for, whatever it has for the other points. It does so unless the
parser throws, a path leads on from a value without members, the timestamp or the value
of a point cannot be converted, or an analog control before another has a value that is
no number and no text, which ends the function (`processBraced_serves_iff`).
-/

set_option autoImplicit false

namespace OpenDataCon.JSONPort

open Connectors Exceptions JSON Outcome
open FileTransfer (Bytes ascii stoul)

/-! ## Results made of results -/

/-- Making something of a result raises no exception. -/
theorem bind_returns_iff {α β : Type} {result : Except Thrown α} {next : α → Except Thrown β}
    (goes : ∀ value, ∃ made, next value = .ok made) :
    (∃ made, (result >>= next) = .ok made) ↔ ∃ value, result = .ok value := by
  cases result with
  | error thrown => exact ⟨fun ⟨_, made⟩ => (nomatch made), fun ⟨_, value⟩ => nomatch value⟩
  | ok value => exact ⟨fun _ => ⟨value, rfl⟩, fun _ => goes value⟩

variable {D : Type} [Doubles D]

/-! ## Analog controls that end the function -/

/-- A value that is no number and no text ends the function. -/
def Stops (port : Port D) (JSONRoot : Value D) (point : Point D) : Prop :=
  ∃ val, AtPath JSONRoot point val ∧ val.isNumeric = false ∧ val.isString = false ∧
    (port.logging = true → val.isLeaf = true)

/-- Which analog controls end the function. -/
theorem stops_iff {port : Port D} {JSONRoot : Value D} {timestamp : BitVec 64} (index : Index)
    (point : Point D) :
    stops (analogControlTurn port JSONRoot timestamp) (index, point) = true ↔
      Stops port JSONRoot point := by
  rw [stops_eq_true]
  constructor
  · intro stopped
    rcases atPath_cases stopped with none | ⟨val, at_path, made⟩
    · contradiction
    · obtain ⟨value, decodes, made⟩ := bind_eq_ok_iff.mp made
      have logged := (analogControlValue_returns_iff.mp ⟨value, decodes⟩).1
      rw [analogControlValue_logged logged] at decodes
      refine ⟨val, at_path, ?_, ?_, logged⟩
      · by_contra number
        rw [analogControlValue_number (Bool.eq_true_of_not_eq_false number)] at decodes
        cases converted : val.asUInt with
        | error thrown =>
            rw [converted] at decodes
            exact nomatch decodes
        | ok number =>
            rw [converted] at decodes
            cases decodes
            exact nomatch made
      · cases val with
        | string text =>
            cases decodes
            exact nomatch made
        | null | int | uint | real | boolean | array | object => rfl
  · rintro ⟨val, at_path, notNumber, notString, logged⟩
    rw [analogControlTurn, at_path.eq, analogControlValue_logged logged]
    cases val with
    | int | uint | real => exact nomatch notNumber
    | string => exact nomatch notString
    | null | boolean | array | object => rfl

/-! ## The timestamp -/

/-- The timestamp of a message can be read, if there is one. -/
def TimeFits (port : Port D) (JSONRoot : Value D) : Prop :=
  port.pointConf.TimestampPath.isNull = true ∨
    PathFits JSONRoot port.pointConf.TimestampPath ∧
      ∀ val, traversePath JSONRoot port.pointConf.TimestampPath = .ok val →
        ∃ time, val.asUInt64 = .ok time

omit [Doubles D] in
/-- What the library raises is no runtime error of the standard library. -/
theorem walk_error {val : Value D} {nodes : List (Value D)} {thrown : Thrown}
    (fails : walk val nodes = .error thrown) : thrown.isRuntimeError = false := by
  induction nodes generalizing val with
  | nil => cases fails
  | cons node nodes ih =>
      cases read : node.asCString with
      | error other =>
          rw [walk, read] at fails
          cases fails
          cases node <;> cases read <;> rfl
      | ok key =>
          cases found : val.member key with
          | error other =>
              rw [walk, read] at fails
              change (val.member key >>= _) = _ at fails
              rw [found] at fails
              cases fails
              cases val <;> cases found <;> rfl
          | ok next =>
              rw [walk_cons_ok read found] at fails
              by_cases null : next.isNull = true
              · rw [if_pos null] at fails
                cases fails
              · rw [if_neg null] at fails
                exact ih fails

omit [Doubles D] in
theorem traversePath_error {JSONRoot nodes : Value D} {thrown : Thrown}
    (fails : traversePath JSONRoot nodes = .error thrown) : thrown.isRuntimeError = false := by
  rw [traversePath] at fails
  cases given : nodes.elements with
  | ok items =>
      rw [given] at fails
      exact walk_error fails
  | error other =>
      rw [given] at fails
      cases fails
      cases nodes with
      | object members =>
          cases members <;> cases given
          rfl
      | null | int | uint | real | boolean | string | array => cases given

theorem asInteger_error {val : Value D} {target : String} {low high : Int} {thrown : Thrown}
    (fails : val.asInteger target low high = .error thrown) : thrown.isRuntimeError = false := by
  unfold Value.asInteger at fails
  cases val with
  | int value =>
      dsimp only at fails
      split_ifs at fails
      cases fails
      rfl
  | uint value =>
      dsimp only at fails
      split_ifs at fails
      cases fails
      rfl
  | real value =>
      dsimp only at fails
      cases exact : Doubles.exact value with
      | none =>
          rw [exact] at fails
          cases fails
          rfl
      | some number =>
          rw [exact] at fails
          dsimp only at fails
          split_ifs at fails
          cases fails
          rfl
  | null | boolean => exact nomatch fails
  | string | array | object =>
      cases fails
      rfl

theorem timestamp_error {JSONRoot nodes : Value D} {thrown : Thrown}
    (fails : (traversePath JSONRoot nodes >>= Value.asUInt64) = .error thrown) :
    thrown.isRuntimeError = false := by
  cases walked : traversePath JSONRoot nodes with
  | error other =>
      rw [walked] at fails
      cases fails
      exact traversePath_error walked
  | ok val =>
      rw [walked] at fails
      change (val.asInteger "UInt64" 0 (2 ^ 64)).map _ = _ at fails
      cases read : val.asInteger "UInt64" 0 (2 ^ 64) with
      | ok number =>
          rw [read] at fails
          exact nomatch fails
      | error other =>
          rw [read] at fails
          cases fails
          exact asInteger_error read

/-- **When the timestamp raises no exception.** -/
theorem messageTime_returns_iff {port : Port D} {JSONRoot : Value D} {now : BitVec 64} :
    (∃ timestamp, messageTime port JSONRoot now = .ok timestamp) ↔ TimeFits port JSONRoot := by
  unfold messageTime TimeFits
  by_cases none : port.pointConf.TimestampPath.isNull = true
  · rw [if_pos none]
    exact ⟨fun _ => .inl none, fun _ => ⟨now, rfl⟩⟩
  · rw [if_neg none, or_iff_right none]
    cases reading : traversePath JSONRoot port.pointConf.TimestampPath >>= Value.asUInt64 with
    | ok time =>
        obtain ⟨val, walked, read⟩ := bind_eq_ok_iff.mp reading
        refine ⟨fun _ => ⟨traversePath_returns_iff.mp ⟨val, walked⟩, ?_⟩, fun _ => ⟨_, rfl⟩⟩
        intro other walked'
        obtain rfl := Except.ok.inj (walked.symm.trans walked')
        exact ⟨time, read⟩
    | error thrown =>
        dsimp only
        rw [timestamp_error reading]
        refine ⟨fun ⟨_, made⟩ => (nomatch made), fun fits => ?_⟩
        obtain ⟨val, walked⟩ := traversePath_returns_iff.mpr fits.1
        obtain ⟨time, read⟩ := fits.2 val walked
        rw [walked] at reading
        exact nomatch read.symm.trans reading

variable [DecidableEq D]

/-! ## Kinds of points -/

inductive Kind where
  | Analog | Binary | OctetString | Control | AnalogControl
deriving DecidableEq, Repr

namespace Kind

def type : Kind → EventType
  | .Analog => .Analog
  | .Binary => .Binary
  | .OctetString => .OctetString
  | .Control => .ControlRelayOutputBlock
  | .AnalogControl => .AnalogOutputInt16

theorem type_inj {kind other : Kind} (same : kind.type = other.type) : kind = other := by
  cases kind <;> cases other <;> first | rfl | cases same

end Kind

/-- The points of a kind. -/
def Port.points (port : Port D) : Kind → PointMap D
  | .Analog => port.pointConf.Analogs
  | .Binary => port.pointConf.Binaries
  | .OctetString => port.pointConf.OctetStrings
  | .Control => port.pointConf.Controls
  | .AnalogControl => port.pointConf.AnalogControls

/-- A value that a point of a kind is there for. -/
def Decodable (point : Point D) (val : Value D) : Kind → Prop
  | .Analog => val.isNumeric = true ∨
      ∃ text value, val = .string text ∧ Doubles.ofText (D := D) text = .ok value
  | .Binary =>
    match point.lookup (ascii "TrueVal"), point.lookup (ascii "FalseVal") with
    | some trueVal, some falseVal => val = trueVal ∨ val = falseVal
    | none, none => val.isNumeric = true ∨ val.isBool = true ∨
        val = .string (ascii "true") ∨ val = .string (ascii "false")
    | _, _ => True
  | .OctetString => val.isLeaf = true
  | .Control => ∃ code, functionCode point val = .ok (some code)
  | .AnalogControl => (val.isNumeric = true ∧ ∃ number, val.asUInt = .ok number) ∨
      ∃ text number, val = .string text ∧ stoul text = some number

/-- The message has a value for a point of a kind. -/
def Demanded (JSONRoot : Value D) (kind : Kind) (point : Point D) : Prop :=
  ∃ val, AtPath JSONRoot point val ∧ Decodable point val kind

/-- A value that raises no exception at a point of a kind. -/
def ValueFits (port : Port D) (point : Point D) (val : Value D) : Kind → Prop
  | .Analog => True
  | .Binary => True
  | .OctetString =>
    (∀ format, point.lookup (ascii "Format") = some format → format.isLeaf = true) ∧
      val.isLeaf = true
  | .Control => ∀ code, functionCode point val = .ok (some code) → NumbersFit point
  | .AnalogControl => (port.logging = true → val.isLeaf = true) ∧
      (val.isNumeric = true → ∃ number, val.asUInt = .ok number)

/-- A point that raises no exception. -/
def PointFits (port : Port D) (JSONRoot : Value D) (kind : Kind) (point : Point D) : Prop :=
  PointLeads JSONRoot point ∧ ∀ val, AtPath JSONRoot point val → ValueFits port point val kind

/-! ## What a point gives -/

section Points

variable {port : Port D} {JSONRoot : Value D} {timestamp : BitVec 64}

/-- What a kind of points goes through, and the event of a point. -/
def produced (port : Port D) (JSONRoot : Value D) (timestamp : BitVec 64) :
    Kind → Index × Point D → Option (Event D)
  | .Analog => decoded (analogEvent port JSONRoot timestamp)
  | .Binary => decoded (binaryEvent port JSONRoot timestamp)
  | .OctetString => decoded (octetStringEvent port JSONRoot timestamp)
  | .Control => yielded (controlTurn port JSONRoot timestamp)
  | .AnalogControl => yielded (analogControlTurn port JSONRoot timestamp)

/-- A point is gone through without an exception. -/
def Returns (port : Port D) (JSONRoot : Value D) (timestamp : BitVec 64) (kind : Kind)
    (point : Index × Point D) : Prop :=
  match kind with
  | .Analog => ∃ event, analogEvent port JSONRoot timestamp point = .ok event
  | .Binary => ∃ event, binaryEvent port JSONRoot timestamp point = .ok event
  | .OctetString => ∃ event, octetStringEvent port JSONRoot timestamp point = .ok event
  | .Control => ∃ turn, controlTurn port JSONRoot timestamp point = .ok turn
  | .AnalogControl => ∃ turn, analogControlTurn port JSONRoot timestamp point = .ok turn

/-- **A point is gone through without an exception when it fits.** -/
theorem returns_iff (kind : Kind) (index : Index) (point : Point D) :
    Returns port JSONRoot timestamp kind (index, point) ↔ PointFits port JSONRoot kind point := by
  cases kind with
  | Analog =>
      refine atPath_returns_iff.trans (and_congr_right fun _ => forall₂_congr fun val _ => ?_)
      exact (bind_returns_iff fun _ => ⟨_, rfl⟩).trans (iff_true_intro (analogValue_returns val))
  | Binary =>
      refine atPath_returns_iff.trans (and_congr_right fun _ => forall₂_congr fun val _ => ?_)
      exact (bind_returns_iff fun _ => ⟨_, rfl⟩).trans
        (iff_true_intro (binaryValue_returns point val))
  | OctetString =>
      refine atPath_returns_iff.trans (and_congr_right fun _ => forall₂_congr fun val _ => ?_)
      exact (bind_returns_iff fun _ => ⟨_, rfl⟩).trans octetStringData_returns_iff
  | Control =>
      refine atPath_returns_iff.trans (and_congr_right fun _ => forall₂_congr fun val _ => ?_)
      refine (bind_returns_iff fun command => ?_).trans controlCommand_returns_iff
      cases command <;> exact ⟨_, rfl⟩
  | AnalogControl =>
      refine atPath_returns_iff.trans (and_congr_right fun _ => forall₂_congr fun val _ => ?_)
      refine (bind_returns_iff fun value => ?_).trans analogControlValue_returns_iff
      cases value <;> exact ⟨_, rfl⟩

/-- An event is of the type of its point's kind, and of its index. -/
theorem produced_spec {kind : Kind} {index : Index} {point : Point D} {event : Event D}
    (given : produced port JSONRoot timestamp kind (index, point) = some event) :
    event.payload.type = kind.type ∧ event.index = index := by
  cases kind with
  | Analog =>
      rcases atPath_cases (decoded_eq_some.mp given) with none | ⟨val, -, made⟩
      · contradiction
      · obtain ⟨⟨value, quality⟩, -, made⟩ := bind_eq_ok_iff.mp made
        cases made
        exact ⟨rfl, rfl⟩
  | Binary =>
      rcases atPath_cases (decoded_eq_some.mp given) with none | ⟨val, -, made⟩
      · contradiction
      · obtain ⟨⟨value, quality⟩, -, made⟩ := bind_eq_ok_iff.mp made
        cases made
        exact ⟨rfl, rfl⟩
  | OctetString =>
      rcases atPath_cases (decoded_eq_some.mp given) with none | ⟨val, -, made⟩
      · contradiction
      · obtain ⟨data, -, made⟩ := bind_eq_ok_iff.mp made
        cases made
        exact ⟨rfl, rfl⟩
  | Control =>
      rcases atPath_cases (yielded_eq_some.mp given) with none | ⟨val, -, made⟩
      · contradiction
      · obtain ⟨command, -, made⟩ := bind_eq_ok_iff.mp made
        cases command <;> cases made
        exact ⟨rfl, rfl⟩
  | AnalogControl =>
      rcases atPath_cases (yielded_eq_some.mp given) with none | ⟨val, -, made⟩
      · contradiction
      · obtain ⟨value, -, made⟩ := bind_eq_ok_iff.mp made
        cases value <;> cases made
        exact ⟨rfl, rfl⟩

/-- **A point that fits gives an event for a value that it is there for.** -/
theorem produced_of_demanded {kind : Kind} {index : Index} {point : Point D}
    (fits : PointFits port JSONRoot kind point) (demanded : Demanded JSONRoot kind point) :
    ∃ event, produced port JSONRoot timestamp kind (index, point) = some event := by
  obtain ⟨val, at_path, decodable⟩ := demanded
  have valueFits := fits.2 val at_path
  cases kind with
  | Analog =>
      obtain ⟨result, decodes⟩ := analogValue_returns val
      refine ⟨⟨index, port.name, result.2, timestamp, .Analog result.1⟩, decoded_eq_some.mpr ?_⟩
      rw [analogEvent, at_path.eq, decodes]
      rfl
  | Binary =>
      obtain ⟨result, decodes⟩ := binaryValue_returns point val
      refine ⟨⟨index, port.name, result.2, timestamp, .Binary result.1⟩, decoded_eq_some.mpr ?_⟩
      rw [binaryEvent, at_path.eq, decodes]
      rfl
  | OctetString =>
      obtain ⟨data, decodes⟩ := octetStringData_returns_iff.mpr valueFits
      refine ⟨⟨index, port.name, QualityFlags.ONLINE, timestamp, .OctetString data⟩,
        decoded_eq_some.mpr ?_⟩
      rw [octetStringEvent, at_path.eq, decodes]
      rfl
  | Control =>
      obtain ⟨code, directed⟩ := decodable
      obtain ⟨command, decodes, -⟩ := controlCommand_ok directed (valueFits code directed)
      refine ⟨⟨index, port.name, QualityFlags.NONE, timestamp, .ControlRelayOutputBlock command⟩,
        yielded_eq_some.mpr ?_⟩
      rw [controlTurn, at_path.eq, decodes]
      rfl
  | AnalogControl =>
      have asked : ∃ value, analogControlValue port.logging val = .ok (some value) := by
        rw [analogControlValue_logged valueFits.1]
        rcases decodable with ⟨number, read, converted⟩ | ⟨text, number, rfl, read⟩
        · rw [analogControlValue_number number, converted]
          exact ⟨_, rfl⟩
        · exact ⟨_, rfl⟩
      obtain ⟨value, decodes⟩ := asked
      refine ⟨⟨index, port.name, QualityFlags.ONLINE, timestamp, .AnalogOutputInt16 value .SUCCESS⟩,
        yielded_eq_some.mpr ?_⟩
      rw [analogControlTurn, at_path.eq, decodes]
      rfl

end Points

/-! ## The whole message -/

section Message

variable {port : Port D} {JSONRoot : Value D} {timestamp now : BitVec 64}

/-- The points of a kind that the message comes to. -/
def reachedPoints (port : Port D) (JSONRoot : Value D) (timestamp : BitVec 64) (kind : Kind) :
    List (Index × Point D) :=
  if kind = .AnalogControl then
    reached (analogControlTurn port JSONRoot timestamp) port.pointConf.AnalogControls.points
  else (port.points kind).points

/-- Every point that the message comes to is gone through without an exception. -/
def AllReturn (port : Port D) (JSONRoot : Value D) (timestamp : BitVec 64) : Prop :=
  ∀ kind, ∀ point ∈ reachedPoints port JSONRoot timestamp kind,
    Returns port JSONRoot timestamp kind point

/-- The events of the points that the message comes to. -/
def eventsOf (port : Port D) (JSONRoot : Value D) (timestamp : BitVec 64) (kind : Kind) :
    List (Event D) :=
  (reachedPoints port JSONRoot timestamp kind).filterMap (produced port JSONRoot timestamp kind)

theorem measurements_eq (returns : AllReturn port JSONRoot timestamp) :
    measurements port JSONRoot timestamp =
      .ok (eventsOf port JSONRoot timestamp .Analog ++ eventsOf port JSONRoot timestamp .Binary ++
        eventsOf port JSONRoot timestamp .OctetString) := by
  have analogs := collect_eq (returns .Analog)
  have binaries := collect_eq (returns .Binary)
  have octetStrings := collect_eq (returns .OctetString)
  unfold measurements
  change collect (analogEvent port JSONRoot timestamp) port.pointConf.Analogs.points = _ at analogs
  change collect (binaryEvent port JSONRoot timestamp) port.pointConf.Binaries.points = _
    at binaries
  change collect (octetStringEvent port JSONRoot timestamp) port.pointConf.OctetStrings.points = _
    at octetStrings
  rw [analogs, binaries, octetStrings]
  rfl

theorem measurements_returns {events : List (Event D)}
    (measured : measurements port JSONRoot timestamp = .ok events) {kind : Kind}
    (measurement : kind = .Analog ∨ kind = .Binary ∨ kind = .OctetString) :
    ∀ point ∈ reachedPoints port JSONRoot timestamp kind,
      Returns port JSONRoot timestamp kind point := by
  obtain ⟨analogs, collectedAnalogs, measured⟩ := bind_eq_ok_iff.mp measured
  obtain ⟨binaries, collectedBinaries, measured⟩ := bind_eq_ok_iff.mp measured
  obtain ⟨octetStrings, collectedOctets, -⟩ := bind_eq_ok_iff.mp measured
  rcases measurement with rfl | rfl | rfl
  · exact collect_returns_iff.mp ⟨analogs, collectedAnalogs⟩
  · exact collect_returns_iff.mp ⟨binaries, collectedBinaries⟩
  · exact collect_returns_iff.mp ⟨octetStrings, collectedOctets⟩

/-- No control stops the loop of the controls. -/
theorem controlTurn_stops (point : Index × Point D) :
    stops (controlTurn port JSONRoot timestamp) point = false := by
  rw [Bool.eq_false_iff, ne_eq, stops_eq_true]
  intro stopped
  rcases atPath_cases stopped with none | ⟨val, -, made⟩
  · contradiction
  · obtain ⟨command, -, made⟩ := bind_eq_ok_iff.mp made
    cases command <;> exact nomatch made

/-- **When a message is gone through without an exception.** -/
theorem processValue_returns_iff :
    (processValue port JSONRoot now).result = .ok ⟨⟩ ↔
      ∃ timestamp, messageTime port JSONRoot now = .ok timestamp ∧
        AllReturn port JSONRoot timestamp := by
  constructor
  · intro returns
    obtain ⟨timestamp, timed, returns⟩ := Outcome.bind_returns_iff.mp returns
    obtain ⟨events, measured, returns⟩ := Outcome.bind_returns_iff.mp returns
    obtain ⟨-, -, returns⟩ := Outcome.bind_returns_iff.mp returns
    obtain ⟨⟨⟩, controlled, returns⟩ := Outcome.bind_returns_iff.mp returns
    refine ⟨timestamp, timed, ?_⟩
    intro kind
    cases kind with
    | Analog => exact measurements_returns measured (.inl rfl)
    | Binary => exact measurements_returns measured (.inr (.inl rfl))
    | OctetString => exact measurements_returns measured (.inr (.inr rfl))
    | Control =>
        have turns := each_returns_iff.mp controlled
        rw [reached_eq fun point _ => controlTurn_stops point] at turns
        exact turns
    | AnalogControl => exact each_returns_iff.mp returns
  · rintro ⟨timestamp, timed, returns⟩
    have controlled : (each (controlTurn port JSONRoot timestamp)
        port.pointConf.Controls.points).result = .ok ⟨⟩ := by
      rw [each_returns_iff, reached_eq fun point _ => controlTurn_stops point]
      exact returns .Control
    exact Outcome.bind_returns_iff.mpr ⟨timestamp, timed, Outcome.bind_returns_iff.mpr
      ⟨_, measurements_eq returns, Outcome.bind_returns_iff.mpr ⟨⟨⟩, rfl,
        Outcome.bind_returns_iff.mpr ⟨⟨⟩, controlled, each_returns_iff.mpr
          (returns .AnalogControl)⟩⟩⟩⟩

/-- **What is published**, kind by kind. -/
theorem processValue_effects (timed : messageTime port JSONRoot now = .ok timestamp)
    (returns : AllReturn port JSONRoot timestamp) :
    (processValue port JSONRoot now).effects =
      eventsOf port JSONRoot timestamp .Analog ++ eventsOf port JSONRoot timestamp .Binary ++
        eventsOf port JSONRoot timestamp .OctetString ++
          (eventsOf port JSONRoot timestamp .Control ++
            eventsOf port JSONRoot timestamp .AnalogControl) := by
  have controlled : (each (controlTurn port JSONRoot timestamp)
      port.pointConf.Controls.points).result = .ok ⟨⟩ := by
    rw [each_returns_iff, reached_eq fun point _ => controlTurn_stops point]
    exact returns .Control
  have controls : (each (controlTurn port JSONRoot timestamp)
      port.pointConf.Controls.points).effects = eventsOf port JSONRoot timestamp .Control := by
    rw [each_effects controlled, reached_eq fun point _ => controlTurn_stops point]
    rfl
  have analogControls : (each (analogControlTurn port JSONRoot timestamp)
      port.pointConf.AnalogControls.points).effects =
        eventsOf port JSONRoot timestamp .AnalogControl :=
    each_effects (each_returns_iff.mpr (returns .AnalogControl))
  have time : (ofExcept (messageTime port JSONRoot now) :
      Outcome (Event D) Thrown (BitVec 64)).result = .ok timestamp := timed
  have measured : (ofExcept (measurements port JSONRoot timestamp) :
      Outcome (Event D) Thrown (List (Event D))).result = _ := measurements_eq returns
  unfold processValue
  rw [bind_of_ok time, bind_of_ok measured, bind_of_ok rfl, bind_of_ok controlled, controls,
    analogControls]
  rfl

/-! ### Counting events -/

/-- Whether an event is of a kind and of an index. -/
def isOf (kind : Kind) (index : Index) (event : Event D) : Bool :=
  event.payload.type = kind.type && event.index = index

theorem isOf_produced {kind : Kind} (point : Index × Point D) (event : Event D)
    (given : produced port JSONRoot timestamp kind point = some event) (index : Index) :
    isOf kind index event = decide (point.1 = index) := by
  obtain ⟨type, same⟩ := produced_spec given
  rw [isOf, type, same]
  simp

theorem countP_other {kind other : Kind} (apart : other ≠ kind) (index : Index) :
    (eventsOf port JSONRoot timestamp other).countP (isOf kind index) = 0 := by
  rw [List.countP_eq_zero]
  intro event inside
  obtain ⟨point, -, given⟩ := List.mem_filterMap.mp inside
  have type := (produced_spec given).1
  simp only [isOf, Bool.and_eq_true, decide_eq_true_eq, not_and]
  intro same
  exact absurd (Kind.type_inj (type.symm.trans same)) apart

/-- Events of a kind come from its points. -/
theorem countP_effects (timed : messageTime port JSONRoot now = .ok timestamp)
    (returns : AllReturn port JSONRoot timestamp) (kind : Kind) (index : Index) :
    (processValue port JSONRoot now).effects.countP (isOf kind index) =
      (eventsOf port JSONRoot timestamp kind).countP (isOf kind index) := by
  rw [processValue_effects timed returns]
  simp only [List.countP_append]
  cases kind <;> simp [countP_other]

omit [Doubles D] [DecidableEq D] in
theorem nodup_points (points : PointMap D) : (points.points.map Prod.fst).Nodup :=
  points.sorted.imp ne_of_lt

omit [DecidableEq D] in
theorem reachedPoints_sublist (kind : Kind) :
    (reachedPoints port JSONRoot timestamp kind).Sublist (port.points kind).points := by
  unfold reachedPoints
  by_cases analog : kind = .AnalogControl
  · rw [if_pos analog, analog]
    exact List.takeWhile_sublist _
  · rw [if_neg analog]

/-! ### Taking a message -/

/-- A message is taken: no exception leaves, and each point that it has a value for gets
exactly one event. -/
structure Serves (port : Port D) (JSONRoot : Value D) (outcome : Outcome (Event D) Thrown PUnit) :
    Prop where
  returns : outcome.result = .ok ⟨⟩
  published : ∀ kind, ∀ point ∈ (port.points kind).points, Demanded JSONRoot kind point.2 →
    outcome.effects.countP (isOf kind point.1) = 1

/-- A message that a port can take. -/
structure Fits (port : Port D) (JSONRoot : Value D) : Prop where
  time : TimeFits port JSONRoot
  others : ∀ kind, kind ≠ .AnalogControl → ∀ point ∈ (port.points kind).points,
    PointFits port JSONRoot kind point.2
  analogControls : ∀ point ∈ port.pointConf.AnalogControls.points,
    (∀ earlier ∈ port.pointConf.AnalogControls.points, earlier.1 < point.1 →
      ¬Stops port JSONRoot earlier.2) → PointFits port JSONRoot .AnalogControl point.2
  unreached : ∀ point ∈ port.pointConf.AnalogControls.points,
    (∃ earlier ∈ port.pointConf.AnalogControls.points, earlier.1 < point.1 ∧
      Stops port JSONRoot earlier.2) → ¬Demanded JSONRoot .AnalogControl point.2

omit [DecidableEq D] in
theorem mem_reachedPoints {point : Index × Point D} :
    point ∈ reachedPoints port JSONRoot timestamp .AnalogControl ↔
      point ∈ port.pointConf.AnalogControls.points ∧
        ∀ other ∈ port.pointConf.AnalogControls.points, other.1 ≤ point.1 →
          ¬Stops port JSONRoot other.2 := by
  refine (mem_reached_iff port.pointConf.AnalogControls.sorted).trans
    (and_congr_right fun _ => forall₂_congr fun other _ => imp_congr_right fun _ => ?_)
  rw [← stops_iff other.1, Bool.not_eq_true]

/-- A value that a point is there for does not end the function. -/
theorem Demanded.not_stops {point : Point D} (demanded : Demanded JSONRoot .AnalogControl point) :
    ¬Stops port JSONRoot point := by
  rintro ⟨val, at_path, notNumber, notString, -⟩
  obtain ⟨val', at_path', decodable⟩ := demanded
  obtain rfl := at_path.unique at_path'
  rcases decodable with ⟨number, -⟩ | ⟨text, -, rfl, -⟩
  · rw [notNumber] at number
    contradiction
  · contradiction

omit [Doubles D] [DecidableEq D] in
theorem eq_of_index {points : PointMap D} {point other : Index × Point D}
    (inside : point ∈ points.points) (member : other ∈ points.points) (same : other.1 = point.1) :
    other = point :=
  List.inj_on_of_nodup_map (nodup_points points) member inside same

theorem Serves.fits (serves : Serves port JSONRoot (processValue port JSONRoot now)) :
    Fits port JSONRoot := by
  obtain ⟨timestamp, timed, returns⟩ := processValue_returns_iff.mp serves.returns
  refine ⟨messageTime_returns_iff.mp ⟨timestamp, timed⟩, ?_, ?_, ?_⟩
  · intro kind other point inside
    refine (returns_iff kind point.1 point.2).mp (returns kind point ?_)
    rw [reachedPoints, if_neg other]
    exact inside
  · intro point inside goes
    have fits_iff : Returns port JSONRoot timestamp .AnalogControl point ↔
        PointFits port JSONRoot .AnalogControl point.2 :=
      returns_iff .AnalogControl point.1 point.2
    refine fits_iff.mp ?_
    by_cases stopped : Stops port JSONRoot point.2
    · exact ⟨.stop, stops_eq_true.mp ((stops_iff point.1 point.2).mpr stopped)⟩
    · refine returns .AnalogControl point (mem_reachedPoints.mpr ⟨inside, ?_⟩)
      intro other member low
      rcases lt_or_eq_of_le low with less | same
      · exact goes other member less
      · rwa [eq_of_index inside member same]
  · rintro point inside ⟨earlier, member, less, stopped⟩ demanded
    have one := serves.published .AnalogControl point inside demanded
    have missing : ∀ other ∈ reachedPoints port JSONRoot timestamp .AnalogControl,
        other.1 ≠ point.1 := by
      intro other reached same
      have within := (mem_reachedPoints.mp reached).2 earlier member
      rw [same] at within
      exact within less.le stopped
    rw [countP_effects timed returns, eventsOf,
      countP_of_missing (fun item made => isOf_produced item made) missing] at one
    contradiction

theorem Fits.serves (fits : Fits port JSONRoot) :
    Serves port JSONRoot (processValue port JSONRoot now) := by
  obtain ⟨timestamp, timed⟩ := messageTime_returns_iff.mpr fits.time
  have returns : AllReturn port JSONRoot timestamp := by
    intro kind point reached
    refine (returns_iff kind point.1 point.2).mpr ?_
    by_cases analog : kind = .AnalogControl
    · subst analog
      obtain ⟨inside, goes⟩ := mem_reachedPoints.mp reached
      exact fits.analogControls point inside fun earlier member less => goes earlier member less.le
    · exact fits.others kind analog point ((reachedPoints_sublist kind).subset reached)
  refine ⟨processValue_returns_iff.mpr ⟨timestamp, timed, returns⟩, ?_⟩
  intro kind point inside demanded
  have reached : point ∈ reachedPoints port JSONRoot timestamp kind := by
    by_cases analog : kind = .AnalogControl
    · subst analog
      refine mem_reachedPoints.mpr ⟨inside, ?_⟩
      intro other member low stopped
      rcases lt_or_eq_of_le low with less | same
      · exact fits.unreached point inside ⟨other, member, less, stopped⟩ demanded
      · rw [eq_of_index inside member same] at stopped
        exact demanded.not_stops stopped
    · rw [reachedPoints, if_neg analog]
      exact inside
  have pointFits := (returns_iff kind point.1 point.2).mp (returns kind point reached)
  obtain ⟨event, given⟩ : ∃ event, produced port JSONRoot timestamp kind point = some event :=
    produced_of_demanded pointFits demanded
  have distinct : ((reachedPoints port JSONRoot timestamp kind).map Prod.fst).Nodup :=
    (nodup_points (port.points kind)).sublist ((reachedPoints_sublist kind).map Prod.fst)
  rw [countP_effects timed returns, eventsOf]
  exact countP_of_mem (fun item made => isOf_produced item made) distinct reached given

/-- **When a port takes a message** that stands for a value: the parser does not throw, the
value fits when the parser reads it, and there is nothing for any point when the parser
rejects it. -/
theorem processBraced_serves_iff {parse : Bytes → Except Thrown (Option (Value D))}
    {braced : Bytes} (stands : ∀ read, parse braced = .ok (some read) → read = JSONRoot) :
    Serves port JSONRoot (processBraced port parse now braced) ↔
      (∃ read, parse braced = .ok read) ∧
        (parse braced = .ok (some JSONRoot) → Fits port JSONRoot) ∧
        (parse braced = .ok none → ∀ kind, ∀ point ∈ (port.points kind).points,
          ¬Demanded JSONRoot kind point.2) := by
  cases parsed : parse braced with
  | error thrown =>
      have outcome : processBraced port parse now braced = ⟨[], .error thrown⟩ := by
        unfold processBraced
        rw [parsed]
        rfl
      rw [outcome]
      exact ⟨fun serves => (nomatch serves.returns), fun fits => (nomatch fits.1)⟩
  | ok read =>
      cases read with
      | none =>
          have outcome : processBraced port parse now braced = ⟨[], .ok ⟨⟩⟩ := by
            unfold processBraced
            rw [parsed]
            rfl
          rw [outcome]
          constructor
          · intro serves
            refine ⟨⟨none, rfl⟩, nofun, ?_⟩
            intro _ kind point inside demanded
            exact nomatch serves.published kind point inside demanded
          · rintro ⟨-, -, rejected⟩
            exact ⟨rfl, fun kind point inside demanded =>
              absurd demanded (rejected rfl kind point inside)⟩
      | some read =>
          obtain rfl := stands read parsed
          have outcome : processBraced port parse now braced = processValue port read now := by
            unfold processBraced
            rw [bind_of_ok parsed]
            rfl
          rw [outcome]
          constructor
          · intro serves
            exact ⟨⟨some read, rfl⟩, fun _ => serves.fits, nofun⟩
          · rintro ⟨-, fits, -⟩
            exact (fits rfl).serves

end Message

/-- A point with a path and nothing else. -/
def pointAt (path : List String) : Point ℚ :=
  [(ascii "JSONPath", .array (path.map fun node => .string (ascii node)))]

theorem processBraced_serves_iff_binary :
    Serves ⟨"J", { Binaries := .single 1 (pointAt ["a"]) }, true⟩
      (.object [(ascii "a", .boolean true)])
      (processBraced ⟨"J", { Binaries := .single 1 (pointAt ["a"]) }, true⟩
        (fun _ => .ok (some (.object [(ascii "a", .boolean true)]))) 0
        (ascii "\x7b\"a\":true\x7d")) := by
  refine (processBraced_serves_iff fun read parsed => ?_).mpr ⟨⟨_, rfl⟩, fun _ => ?_, nofun⟩
  · cases parsed
    rfl
  · refine ⟨.inl rfl, ?_, nofun, nofun⟩
    intro kind other point inside
    cases kind with
    | Binary =>
        rw [List.mem_singleton.mp inside]
        refine ⟨?_, fun _ _ => trivial⟩
        rintro nodes ⟨⟩
        exact ⟨_, rfl, rfl, .inr rfl, fun _ _ _ _ _ => trivial⟩
    | Analog | OctetString | Control => exact nomatch inside
    | AnalogControl => exact absurd rfl other

/-- A path that leads on from a text. -/
theorem processBraced_throws :
    IsObject (ascii "\x7b\"a\":\"b\"\x7d") ∧
      (processBraced ⟨"J", { Analogs := .single 1 (pointAt ["a", "b"]) }, true⟩
        (fun _ => .ok (some (.object [(ascii "a", .string (ascii "b"))]))) 0
        (ascii "\x7b\"a\":\"b\"\x7d")).result =
      .error (.libraryLogicError "in Json::Value::resolveReference(): requires objectValue") := by
  have name : IsString (0x22 :: (ascii "a" ++ [0x22])) := isString_plain (by decide)
  have text : IsString (0x22 :: (ascii "b" ++ [0x22])) := isString_plain (by decide)
  exact ⟨@isObject_member 1 _ _ name (.string text), rfl⟩

end OpenDataCon.JSONPort
