import OpenDataCon.EventJSON.Numbers

/-!
# Payloads in JSON

There is a reader for each type of payload. What it accepts has the members of the type,
with values of their kinds (`Accepts`), and it is then read as `load`
(`loadFromJson_reads`). This is what is written when the numbers have no more bits than the
fields (`load_writes_iff`). Only the count and the times of a control are rejected by a
literal that is thrown (`ThrowsLiteral`).
-/

set_option autoImplicit false

namespace OpenDataCon.EventJSON

open Connectors (QualityFlags)
open Events
open Exceptions Validation
open FileTransfer (Bytes ascii)
open JSON (Value Doubles)

section Payloads

variable {D F : Type} [Doubles D] [Floats D F] {json : Value D}

/-! ## The readers -/

/-- `PayloadFromJson<bool>`. -/
def boolFromJson (json : Value D) : Except Thrown (Payload D F) := do
  check json.isBool (.invalidArgument "Payload is not boolean.")
  let value ← json.asBool
  return .bool value

def dbbError : Thrown := .invalidArgument
  "Payload is not a JSON object with 'First' and 'Second' member booleans."

/-- `PayloadFromJson<DBB>`. -/
def dbbFromJson (json : Value D) : Except Thrown (Payload D F) := do
  check json.isObject dbbError
  check (isMember json "First") dbbError
  check (isMember json "Second") dbbError
  let first ← (field json "First").asBool
  let second ← (field json "Second").asBool
  return .DBB first second

def taiError : Thrown := .invalidArgument
  "Payload is not a JSON object with 'Timestamp', 'Interval' and 'Units' members."

/-- `PayloadFromJson<TAI>`. -/
def taiFromJson (library : Library D) (json : Value D) : Except Thrown (Payload D F) := do
  check json.isObject taiError
  check (isMember json "Timestamp") taiError
  check (isMember json "Interval") taiError
  let interval ← unsignedFromJson 32
    (.invalidArgument "Payload 'Interval' is not unsigned integer.") (field json "Interval")
  check (isMember json "Units") taiError
  let units ← unsignedFromJson 8
    (.invalidArgument "Payload 'Units' is not unsigned integer.") (field json "Units")
  let timestamp ← timeFromJson library
    (.invalidArgument "Payload 'Timestamp' is not unsigned integer or string.")
    (field json "Timestamp")
  return .TAI timestamp interval units

def ssError : Thrown := .invalidArgument
  "Payload is not a JSON object with 'First' and 'Second' member unsigned integers."

/-- `PayloadFromJson<SS>`. A member that is missing is null, which is no unsigned integer. -/
def ssFromJson (json : Value D) : Except Thrown (Payload D F) := do
  check json.isObject ssError
  let first ← unsignedFromJson 16 ssError (field json "First")
  let second ← unsignedFromJson 32 ssError (field json "Second")
  return .SS first second

def crobError : Thrown := .invalidArgument
  "Payload is not a JSON object with 'ControlCode' member."

/-- An optional number of a control. What is thrown is a literal. -/
def crobNumber {bits : Nat} (json : Value D) (key : String) (default : BitVec bits) :
    Except Thrown (BitVec bits) :=
  readOr (memberOf json key) default
    (unsignedFromJson bits (.literal ("Payload '" ++ key ++ "' isn't an unsigned integer.")))

/-- `PayloadFromJson<ControlRelayOutputBlock>`. -/
def crobFromJson (json : Value D) : Except Thrown (Payload D F) := do
  check json.isObject crobError
  check (isMember json "ControlCode") crobError
  let functionCode ← controlCodeFromJson (field json "ControlCode")
  let status ← readOr (memberOf json "CommandStatus") 0#8 commandStatusFromJson
  let count ← crobNumber json "Count" 1#8
  let onTimeMS ← crobNumber json "msOnTime" 100#32
  let offTimeMS ← crobNumber json "msOffTime" 100#32
  return .ControlRelayOutputBlock { functionCode, count, onTimeMS, offTimeMS, status }

def outputError : Thrown := .invalidArgument
  "Payload is not a JSON object with 'Value' and 'CommandStatus' members."

/-- A value with a command status. -/
def outputFromJson {α : Type} (read : Value D → Except Thrown α)
    (make : α → BitVec 8 → Payload D F) (json : Value D) : Except Thrown (Payload D F) := do
  check json.isObject outputError
  check (isMember json "Value") outputError
  let value ← read (field json "Value")
  check (isMember json "CommandStatus") outputError
  let status ← commandStatusFromJson (field json "CommandStatus")
  return make value status

/-- `PayloadFromJson<AO16>`. -/
def ao16FromJson : Value D → Except Thrown (Payload D F) :=
  outputFromJson (intFromJson 16 (-32768) 32767
    (.invalidArgument "Payload 'Value' is not a 16 bit integer.")) .AO16

/-- `PayloadFromJson<AO32>`. -/
def ao32FromJson : Value D → Except Thrown (Payload D F) :=
  outputFromJson (intFromJson 32 (-2147483648) 2147483647
    (.invalidArgument "Payload 'Value' is not a integer.")) .AO32

/-- `PayloadFromJson<AOF>`. -/
def aofFromJson : Value D → Except Thrown (Payload D F) :=
  outputFromJson (floatFromJson (.invalidArgument "Payload 'Value' is not 32bit float")) .AOF

/-- `PayloadFromJson<AOD>`. -/
def aodFromJson : Value D → Except Thrown (Payload D F) :=
  outputFromJson (doubleFromJson (.invalidArgument "Payload 'Value' is not numeric")) .AOD

/-- `PayloadFromJson<char>`: the first character of a text of two or more, or a number. -/
def charFromJson (json : Value D) : Except Thrown (BitVec 8) :=
  match json with
  | .string (first :: _ :: _) => .ok first.toBitVec
  | _ => intFromJson 8 (-128) 127 (.invalidArgument "Payload is not convertable to char") json

/-- `PayloadFromJson`, by the type of the payload. -/
def loadFromJson (library : Library D) : PayloadType → Value D → Except Thrown (Payload D F)
  | .bool, json => boolFromJson json
  | .DBB, json => dbbFromJson json
  | .double, json =>
    (doubleFromJson (.invalidArgument "Payload is not numeric.") json).map .double
  | .uint32, json =>
    (unsignedFromJson 32 (.invalidArgument "Payload is not unsigned integer.") json).map .uint32
  | .CommandStatus, json => (commandStatusFromJson json).map .CommandStatus
  | .OctetStringBuffer, json => (octetStringFromJson json).map .OctetStringBuffer
  | .TAI, json => taiFromJson library json
  | .SS, json => ssFromJson json
  | .ControlRelayOutputBlock, json => crobFromJson json
  | .AO16, json => ao16FromJson json
  | .AO32, json => ao32FromJson json
  | .AOF, json => aofFromJson json
  | .AOD, json => aodFromJson json
  | .QualityFlags, json => (qualityFlagsFromJson json).map .QualityFlags
  | .char, json => (charFromJson json).map .char
  | .ConnectState, json => (connectStateFromJson json).map .ConnectState

/-! ## What is accepted, and what it is read as -/

/-- A member with a value and a member with a command status. -/
def HasOutput (accepts : Value D → Prop) (json : Value D) : Prop :=
  json.isObject = true ∧ isMember json "Value" = true ∧ accepts (field json "Value") ∧
    isMember json "CommandStatus" = true ∧ NumberOr isStatusText (field json "CommandStatus")

/-- The members of a control before its count and times. -/
def StartsControl (json : Value D) : Prop :=
  json.isObject = true ∧ isMember json "ControlCode" = true ∧
    NumberOr (fun _ => true) (field json "ControlCode") ∧
    ∀ status ∈ memberOf json "CommandStatus", NumberOr isStatusText status

/-- The optional numbers of a control. -/
def controlNumbers : List String := ["Count", "msOnTime", "msOffTime"]

def IsControl (json : Value D) : Prop :=
  StartsControl json ∧
    ∀ key ∈ controlNumbers, ∀ given ∈ memberOf json key, given.isUInt = true

/-- What each reader accepts. -/
def Accepts (F : Type) [Floats D F] (library : Library D) : PayloadType → Value D → Prop
  | .bool, json => json.isBool = true
  | .DBB, json => json.isObject = true ∧ isMember json "First" = true ∧
      isMember json "Second" = true ∧ convertsToBool (field json "First") = true ∧
      convertsToBool (field json "Second") = true
  | .double, json => json.isNumeric = true
  | .uint32, json => json.isUInt = true
  | .CommandStatus, json => NumberOr isStatusText json
  | .OctetStringBuffer, json => json.isString = true
  | .TAI, json => json.isObject = true ∧ isMember json "Timestamp" = true ∧
      isMember json "Interval" = true ∧ (field json "Interval").isUInt = true ∧
      isMember json "Units" = true ∧ (field json "Units").isUInt = true ∧
      IsTime library (field json "Timestamp")
  | .SS, json => json.isObject = true ∧ (field json "First").isUInt = true ∧
      (field json "Second").isUInt = true
  | .ControlRelayOutputBlock, json => IsControl json
  | .AO16, json => HasOutput (IsIntBetween (-32768) 32767) json
  | .AO32, json => HasOutput (IsIntBetween (-2147483648) 2147483647) json
  | .AOF, json => HasOutput
      (fun value => value.isNumeric = true ∧ Floats.outside F (doubleOf value) = false) json
  | .AOD, json => HasOutput (fun value => value.isNumeric = true) json
  | .QualityFlags, json => NumberOr isQualityText json
  | .char, json => (∃ first second rest, json = .string (first :: second :: rest)) ∨
      IsIntBetween (-128) 127 json
  | .ConnectState, json => NumberOr (fun text => connectStateFromString text ≠ 4#32) json

/-- **A literal is thrown** when the count or a time of a control is no unsigned integer. -/
def ThrowsLiteral : PayloadType → Value D → Prop
  | .ControlRelayOutputBlock, json =>
      StartsControl json ∧ ∃ key ∈ controlNumbers, ∃ given ∈ memberOf json key, ¬given.isUInt = true
  | _, _ => False

/-- The number of a member, or a default. -/
def numberOr {bits : Nat} (json : Value D) (key : String) (default : BitVec bits) : BitVec bits :=
  (memberOf json key).elim default fun given => BitVec.ofInt bits (number given)

def controlOf (json : Value D) : ControlRelayOutputBlock where
  functionCode := controlCode (field json "ControlCode")
  count := numberOr json "Count" 1#8
  onTimeMS := numberOr json "msOnTime" 100#32
  offTimeMS := numberOr json "msOffTime" 100#32
  status := (memberOf json "CommandStatus").elim 0#8 commandStatus

def charOf : Value D → BitVec 8
  | .string (first :: _) => first.toBitVec
  | json => BitVec.ofInt 8 (number json)

/-- The payload that is read. -/
def load (library : Library D) : PayloadType → Value D → Payload D F
  | .bool, json => .bool (boolOf json)
  | .DBB, json => .DBB (boolOf (field json "First")) (boolOf (field json "Second"))
  | .double, json => .double (doubleOf json)
  | .uint32, json => .uint32 (BitVec.ofInt 32 (number json))
  | .CommandStatus, json => .CommandStatus (commandStatus json)
  | .OctetStringBuffer, json => .OctetStringBuffer ((octetStringFromJson json).toOption.getD [])
  | .TAI, json => .TAI (timeOf library (field json "Timestamp"))
      (BitVec.ofInt 32 (number (field json "Interval")))
      (BitVec.ofInt 8 (number (field json "Units")))
  | .SS, json => .SS (BitVec.ofInt 16 (number (field json "First")))
      (BitVec.ofInt 32 (number (field json "Second")))
  | .ControlRelayOutputBlock, json => .ControlRelayOutputBlock (controlOf json)
  | .AO16, json => .AO16 (BitVec.ofInt 16 (number (field json "Value")))
      (commandStatus (field json "CommandStatus"))
  | .AO32, json => .AO32 (BitVec.ofInt 32 (number (field json "Value")))
      (commandStatus (field json "CommandStatus"))
  | .AOF, json => .AOF (floatOf (field json "Value")) (commandStatus (field json "CommandStatus"))
  | .AOD, json => .AOD (doubleOf (field json "Value")) (commandStatus (field json "CommandStatus"))
  | .QualityFlags, json => .QualityFlags (qualityFlags json)
  | .char, json => .char (charOf json)
  | .ConnectState, json => .ConnectState (connectState json)

theorem type_load (library : Library D) (type : PayloadType) (json : Value D) :
    (load library type json : Payload D F).type = type := by
  cases type <;> rfl

/-! ## Each reader reads what it accepts -/

omit [Floats D F] in
theorem boolFromJson_reads (json : Value D) :
    Reads NotStandard (boolFromJson json : Except Thrown (Payload D F)) (.bool (boolOf json))
      (json.isBool = true) False := by
  unfold boolFromJson
  refine Reads.congr (Reads.bind (Reads.check (not_notStandard rfl) _)
    (Reads.bind (asBool_reads json) (Reads.pure _))) ?_ (by simp)
  rw [and_true, and_iff_left_iff_imp]
  intro boolean
  cases json with
  | boolean => rfl
  | null | int | uint | real | string | array | object => cases boolean

theorem dbbFromJson_reads (library : Library D) (json : Value D) :
    Reads NotStandard (dbbFromJson json : Except Thrown (Payload D F)) (load library .DBB json)
      (Accepts F library .DBB json) False := by
  have fine : ¬NotStandard dbbError := not_notStandard rfl
  unfold dbbFromJson
  refine Reads.congr (Reads.bind (Reads.check fine _) (Reads.bind (Reads.check fine _)
    (Reads.bind (Reads.check fine _) (Reads.bind (asBool_reads _)
      (Reads.bind (asBool_reads _) (Reads.pure _)))))) ?_ (by simp)
  rw [Accepts, and_true]

/-- An unsigned integer, where a standard exception is thrown otherwise. -/
theorem unsigned_reads {bits : Nat} {thrown : Thrown} (standard : thrown.isStandard = true)
    (json : Value D) :
    Reads NotStandard (unsignedFromJson bits thrown json) (BitVec.ofInt bits (number json))
      (json.isUInt = true) False :=
  unsignedFromJson_reads (fun _ => notStandard_iff standard) False.elim

theorem taiFromJson_reads (library : Library D) (json : Value D) :
    Reads NotStandard (taiFromJson library json : Except Thrown (Payload D F))
      (load library .TAI json) (Accepts F library .TAI json) False := by
  have fine : ¬NotStandard taiError := not_notStandard rfl
  unfold taiFromJson
  refine Reads.congr (Reads.bind (Reads.check fine _) (Reads.bind (Reads.check fine _)
    (Reads.bind (Reads.check fine _) (Reads.bind (unsigned_reads rfl _)
      (Reads.bind (Reads.check fine _) (Reads.bind (unsigned_reads rfl _)
        (Reads.bind (timeFromJson_reads library rfl) (Reads.pure _)))))))) ?_ (by simp)
  rw [Accepts, and_true]

theorem ssFromJson_reads (library : Library D) (json : Value D) :
    Reads NotStandard (ssFromJson json : Except Thrown (Payload D F)) (load library .SS json)
      (Accepts F library .SS json) False := by
  unfold ssFromJson
  refine Reads.congr (Reads.bind (Reads.check (not_notStandard rfl) _)
    (Reads.bind (unsigned_reads rfl _) (Reads.bind (unsigned_reads rfl _) (Reads.pure _)))) ?_
    (by simp)
  rw [Accepts, and_true]

/-- An optional number throws a literal when it is there and is no unsigned integer. -/
theorem crobNumber_reads {bits : Nat} (json : Value D) (key : String) (default : BitVec bits) :
    Reads NotStandard (crobNumber json key default) (numberOr json key default)
      (∀ given ∈ memberOf json key, given.isUInt = true)
      (∃ given ∈ memberOf json key, ¬given.isUInt = true) :=
  Reads.readOr (fun _ => unsignedFromJson_reads (iff_of_true notStandard_literal) id) _ _

/-- A check that fails before another one. -/
theorem or_and_of_not {fails passes later : Prop} (otherwise : ¬fails → passes) :
    fails ∨ passes ∧ later ↔ fails ∨ later := by
  by_cases failed : fails
  · exact iff_of_true (.inl failed) (.inl failed)
  · rw [or_iff_right failed, or_iff_right failed, and_iff_right (otherwise failed)]

theorem crobFromJson_reads (library : Library D) (json : Value D) :
    Reads NotStandard (crobFromJson json : Except Thrown (Payload D F))
      (load library .ControlRelayOutputBlock json)
      (Accepts F library .ControlRelayOutputBlock json)
      (ThrowsLiteral .ControlRelayOutputBlock json) := by
  have fine : ¬NotStandard crobError := not_notStandard rfl
  unfold crobFromJson
  refine Reads.congr (Reads.bind (Reads.check fine _) (Reads.bind (Reads.check fine _)
    (Reads.bind controlCodeFromJson_reads
      (Reads.bind (Reads.readOr (fun _ => commandStatusFromJson_reads) _ _)
        (Reads.bind (crobNumber_reads json "Count" _)
          (Reads.bind (crobNumber_reads json "msOnTime" _)
            (Reads.bind (crobNumber_reads json "msOffTime" _) (Reads.pure _)))))))) ?_ ?_
  · simp only [Accepts, IsControl, StartsControl, controlNumbers, List.forall_mem_cons, and_assoc,
      List.not_mem_nil, false_implies, implies_true, and_true]
  · have good : ∀ key, ¬(∃ given ∈ memberOf json key, ¬given.isUInt = true) →
        ∀ given ∈ memberOf json key, given.isUInt = true := by
      intro key none given found
      by_contra other
      exact none ⟨given, found, other⟩
    simp only [ThrowsLiteral, StartsControl, controlNumbers, List.exists_mem_cons_iff,
      List.not_mem_nil, false_and, and_false, exists_false, or_false, false_or, and_assoc,
      or_and_of_not (good _)]

omit [Floats D F] in
/-- A value with a command status is read when the value is. -/
theorem outputFromJson_reads {α : Type} {read : Value D → Except Thrown α} {value : Value D → α}
    {accepts : Value D → Prop} {make : α → BitVec 8 → Payload D F}
    (reads : ∀ given, Reads NotStandard (read given) (value given) (accepts given) False)
    (json : Value D) :
    Reads NotStandard (outputFromJson read make json)
      (make (value (field json "Value")) (commandStatus (field json "CommandStatus")))
      (HasOutput accepts json) False := by
  have fine : ¬NotStandard outputError := not_notStandard rfl
  unfold outputFromJson
  refine Reads.congr (Reads.bind (Reads.check fine _) (Reads.bind (Reads.check fine _)
    (Reads.bind (reads _) (Reads.bind (Reads.check fine _)
      (Reads.bind commandStatusFromJson_reads (Reads.pure _)))))) ?_ (by simp)
  rw [HasOutput, and_true]

omit [Doubles D] in
theorem octetStringFromJson_reads (json : Value D) :
    Reads NotStandard (octetStringFromJson json) ((octetStringFromJson json).toOption.getD [])
      (json.isString = true) False := by
  cases json with
  | string text =>
      have read : ∃ data, octetStringFromJson (.string text : Value D) = .ok data := by
        cases found : matchDataUri text with
        | some b64 => exact ⟨b64decode b64, by rw [octetStringFromJson, found]⟩
        | none => exact ⟨text, by rw [octetStringFromJson, found]⟩
      obtain ⟨data, result⟩ := read
      rw [result]
      exact (Reads.of_ok data).congr (iff_of_true trivial rfl) Iff.rfl
  | null | int value | uint value | real value | boolean value | array items | object members =>
      exact ⟨fun passes => Bool.noConfusion passes,
        fun _ => ⟨_, rfl, notStandard_iff rfl⟩, False.elim⟩

theorem charFromJson_reads (library : Library D) (json : Value D) :
    Reads NotStandard (charFromJson json) (charOf json) (Accepts F library .char json) False := by
  by_cases long : ∃ first second rest, json = .string (first :: second :: rest)
  · obtain ⟨first, second, rest, rfl⟩ := long
    exact (Reads.of_ok _).congr (iff_of_true trivial (.inl ⟨first, second, rest, rfl⟩)) Iff.rfl
  · have asNumber : charFromJson json =
        intFromJson 8 (-128) 127 (.invalidArgument "Payload is not convertable to char") json := by
      unfold charFromJson
      split
      · next first second rest => exact absurd ⟨first, second, rest, rfl⟩ long
      · rfl
    have reads : Reads NotStandard (charFromJson json) (BitVec.ofInt 8 (number json))
        (IsIntBetween (-128) 127 json) False := by
      rw [asNumber]
      exact intFromJson_reads rfl
    rw [Accepts, or_iff_right long]
    cases json with
    | string text => exact ⟨fun passes => Bool.noConfusion passes.1, reads.error, False.elim⟩
    | null | int value | uint value | real value | boolean value | array items | object members =>
        exact reads

/-- **Each reader reads what it accepts**, and throws a literal for the count and the times of a
control only. -/
theorem loadFromJson_reads (library : Library D) (type : PayloadType) (json : Value D) :
    Reads NotStandard (loadFromJson library type json : Except Thrown (Payload D F))
      (load library type json) (Accepts F library type json) (ThrowsLiteral type json) := by
  cases type with
  | bool => exact boolFromJson_reads json
  | DBB => exact dbbFromJson_reads library json
  | double => exact (doubleFromJson_reads rfl).map _
  | uint32 => exact (unsigned_reads rfl json).map _
  | CommandStatus => exact commandStatusFromJson_reads.map _
  | OctetStringBuffer => exact (octetStringFromJson_reads json).map _
  | TAI => exact taiFromJson_reads library json
  | SS => exact ssFromJson_reads library json
  | ControlRelayOutputBlock => exact crobFromJson_reads library json
  | AO16 => exact outputFromJson_reads (fun _ => intFromJson_reads rfl) json
  | AO32 => exact outputFromJson_reads (fun _ => intFromJson_reads rfl) json
  | AOF => exact outputFromJson_reads (fun _ => floatFromJson_reads rfl) json
  | AOD => exact outputFromJson_reads (fun _ => doubleFromJson_reads rfl) json
  | QualityFlags => exact qualityFlagsFromJson_reads.map _
  | char => exact (charFromJson_reads library json).map _
  | ConnectState => exact connectStateFromJson_reads.map _

/-! ## What is written -/

/-- A byte is written as a character, or as the number of one. -/
def WritesChar (json : Value D) (value : BitVec 8) : Prop :=
  IsInteger json value.toInt ∨ json = .string [⟨value⟩]

/-- A payload is what is written. Nothing is asked of octet strings, and of what is not written. -/
def WritesPayload (library : Library D) (json : Value D) : Payload D F → Prop
  | .bool value => json = .boolean value
  | .DBB first second => field json "First" = .boolean first ∧ field json "Second" = .boolean second
  | .double value => IsDouble json value
  | .uint32 value => IsInteger json value.toNat
  | .CommandStatus status => WritesCode commandStatusNames json status
  | .OctetStringBuffer _ => True
  | .TAI timestamp interval units => WritesTime library (field json "Timestamp") timestamp ∧
      IsInteger (field json "Interval") interval.toNat ∧ IsInteger (field json "Units") units.toNat
  | .SS first second => IsInteger (field json "First") first.toNat ∧
      IsInteger (field json "Second") second.toNat
  | .ControlRelayOutputBlock control =>
      WritesCode controlCodeNames (field json "ControlCode") control.functionCode ∧
      (∀ given ∈ memberOf json "CommandStatus",
        WritesCode commandStatusNames given control.status) ∧
      (∀ given ∈ memberOf json "Count", IsInteger given control.count.toNat) ∧
      (∀ given ∈ memberOf json "msOnTime", IsInteger given control.onTimeMS.toNat) ∧
      ∀ given ∈ memberOf json "msOffTime", IsInteger given control.offTimeMS.toNat
  | .AO16 value status => IsInteger (field json "Value") value.toInt ∧
      WritesCode commandStatusNames (field json "CommandStatus") status
  | .AO32 value status => IsInteger (field json "Value") value.toInt ∧
      WritesCode commandStatusNames (field json "CommandStatus") status
  | .AOF value status => IsDouble (field json "Value") (Floats.widen value) ∧
      WritesCode commandStatusNames (field json "CommandStatus") status
  | .AOD value status => IsDouble (field json "Value") value ∧
      WritesCode commandStatusNames (field json "CommandStatus") status
  | .QualityFlags quality => WritesQuality json quality
  | .char value => WritesChar json value
  | .ConnectState state => WritesState json state

/-- A control code has eight bits, or it is written as a name. -/
def FitsCode (json : Value D) : Prop :=
  FitsIn 8 json ∧ ∀ text, json = .string text → ∃ pair ∈ controlCodeNames, text = ascii pair.2

/-- **What the fields of a payload can hold.** -/
def Fits (F : Type) [Floats D F] (library : Library D) : PayloadType → Value D → Prop
  | .DBB, json => (field json "First").isBool = true ∧ (field json "Second").isBool = true
  | .double, json => FitsDouble json
  | .CommandStatus, json => FitsIn 8 json
  | .TAI, json => FitsTime library (field json "Timestamp") ∧ FitsIn 8 (field json "Units")
  | .SS, json => FitsIn 16 (field json "First")
  | .ControlRelayOutputBlock, json => FitsCode (field json "ControlCode") ∧
      (∀ given ∈ memberOf json "CommandStatus", FitsIn 8 given) ∧
      ∀ given ∈ memberOf json "Count", FitsIn 8 given
  | .AO16, json => FitsIn 8 (field json "CommandStatus")
  | .AO32, json => FitsIn 8 (field json "CommandStatus")
  | .AOF, json => FitsFloat F (field json "Value") ∧ FitsIn 8 (field json "CommandStatus")
  | .AOD, json => FitsDouble (field json "Value") ∧ FitsIn 8 (field json "CommandStatus")
  | .QualityFlags, json => FitsIn 16 json
  | .char, json => json.isString = false
  | .ConnectState, json => FitsIn 31 json
  | _, _ => True

/-- **A number of a field of 32 bits is what is written.** -/
theorem unsigned_writes (unsigned : json.isUInt = true) :
    IsInteger json (BitVec.ofInt 32 (number json)).toNat :=
  (unsigned_writes_iff unsigned).mpr (number_of_isUInt unsigned).2.2

theorem unsigned_writes_fits {bits : Nat} (unsigned : json.isUInt = true) :
    IsInteger json (BitVec.ofInt bits (number json)).toNat ↔ FitsIn bits json := by
  rw [unsigned_writes_iff unsigned, FitsIn, forall_prop_of_true unsigned]

/-- The optional number of a control is what is written when it fits. -/
theorem numberOr_writes_iff {bits : Nat} {key : String} {default : BitVec bits}
    (passes : ∀ given ∈ memberOf json key, given.isUInt = true) :
    (∀ given ∈ memberOf json key, IsInteger given (numberOr json key default).toNat) ↔
      ∀ given ∈ memberOf json key, FitsIn bits given := by
  refine forall₂_congr fun given found => ?_
  rw [numberOr, found, Option.elim_some]
  exact unsigned_writes_fits (passes given found)

theorem control_writes_iff (library : Library D) (passes : IsControl json) :
    WritesPayload library json (.ControlRelayOutputBlock (controlOf json) : Payload D F) ↔
      Fits F library .ControlRelayOutputBlock json := by
  obtain ⟨⟨-, -, code, status⟩, numbers⟩ := passes
  simp only [controlNumbers, List.forall_mem_cons, List.not_mem_nil, false_implies, implies_true,
    and_true] at numbers
  obtain ⟨count, onTime, offTime⟩ := numbers
  have large : ∀ {given : Value D}, FitsIn 32 given := fun unsigned =>
    (number_of_isUInt unsigned).2.2
  have statusIff : (∀ given ∈ memberOf json "CommandStatus",
      WritesCode commandStatusNames given (controlOf json).status) ↔
      ∀ given ∈ memberOf json "CommandStatus", FitsIn 8 given := by
    refine forall₂_congr fun given found => ?_
    rw [controlOf, found, Option.elim_some]
    exact commandStatus_writes_iff (status given found)
  rw [WritesPayload, Fits, statusIff, controlOf]
  dsimp only
  rw [numberOr_writes_iff count, numberOr_writes_iff onTime, numberOr_writes_iff offTime,
    controlCode_writes_iff code, FitsCode]
  simp only [large, implies_true, and_true]

/-- A character is what is written when it is written as a number: a text that is accepted has
more characters. -/
theorem char_writes_iff {library : Library D} (passes : Accepts F library .char json) :
    WritesChar json (charOf json) ↔ json.isString = false := by
  rcases passes with ⟨first, second, rest, rfl⟩ | between
  · refine iff_of_false ?_ Bool.noConfusion
    rintro (none | same)
    · exact none
    · cases same
  · have written : IsInteger json (BitVec.ofInt 8 (number json)).toInt :=
      int_writes (by decide) (by decide) (by decide) between
    cases json with
    | string => exact Bool.noConfusion between.1
    | null | int | uint | real | boolean | array | object => exact iff_of_true (.inl written) rfl

/-- **A payload is what is written exactly when its fields hold it.** -/
theorem load_writes_iff (library : Library D) {type : PayloadType}
    (passes : Accepts F library type json) :
    WritesPayload library json (load library type json : Payload D F) ↔
      Fits F library type json := by
  cases type with
  | bool => exact iff_of_true (bool_writes_iff.mpr passes) trivial
  | DBB => exact and_congr bool_writes_iff bool_writes_iff
  | double => exact double_writes_iff passes
  | uint32 => exact iff_of_true (unsigned_writes passes) trivial
  | CommandStatus => exact commandStatus_writes_iff passes
  | OctetStringBuffer => exact Iff.rfl
  | TAI =>
      obtain ⟨-, -, -, interval, -, units, time⟩ := passes
      exact and_congr (time_writes_iff library time)
        ((and_iff_right (unsigned_writes interval)).trans (unsigned_writes_fits units))
  | SS =>
      obtain ⟨-, first, second⟩ := passes
      exact (and_iff_left (unsigned_writes second)).trans (unsigned_writes_fits first)
  | ControlRelayOutputBlock => exact control_writes_iff library passes
  | AO16 =>
      obtain ⟨-, -, value, -, status⟩ := passes
      exact (and_iff_right (int_writes (by decide) (by decide) (by decide) value)).trans
        (commandStatus_writes_iff status)
  | AO32 =>
      obtain ⟨-, -, value, -, status⟩ := passes
      exact (and_iff_right (int_writes (by decide) (by decide) (by decide) value)).trans
        (commandStatus_writes_iff status)
  | AOF =>
      obtain ⟨-, -, value, -, status⟩ := passes
      exact and_congr (float_writes_iff value.1) (commandStatus_writes_iff status)
  | AOD =>
      obtain ⟨-, -, value, -, status⟩ := passes
      exact and_congr (double_writes_iff value) (commandStatus_writes_iff status)
  | QualityFlags => exact quality_writes_iff (fun _ => rfl) passes
  | char => exact char_writes_iff passes
  | ConnectState => exact connectState_writes_iff passes

end Payloads

end OpenDataCon.EventJSON
