import OpenDataCon.EventJSON.OctetStrings
import OpenDataCon.Events.Strings
import OpenDataCon.Foundations.Validation

/-!
# Fields of an event in JSON

Integers, names, qualities and times are read into fields of fewer bits. Each reader has a
check, and takes the low bits of what passes it. So a field is what is written exactly
when the integer that is written has no more bits than the field (`unsigned_writes_iff`,
`signed_writes_iff`). A name is read as the value that it stands for
(`enumFromString_cases`), and only a control code may be a text that is no name
(`controlCode_writes_iff`).
-/

set_option autoImplicit false

namespace OpenDataCon.EventJSON

open Connectors (QualityFlags)
open Events
open Exceptions Validation
open FileTransfer (Bytes ascii)
open JSON (Value Doubles)

/-- What is thrown is no standard exception. -/
def NotStandard (thrown : Thrown) : Prop := thrown.isStandard = false

theorem not_notStandard {thrown : Thrown} (standard : thrown.isStandard = true) :
    ¬NotStandard thrown := by
  intro bad
  exact Bool.false_ne_true (bad.symm.trans standard)

theorem notStandard_literal {text : String} : NotStandard (.literal text) := rfl

theorem notStandard_iff {thrown : Thrown} (standard : thrown.isStandard = true) :
    NotStandard thrown ↔ False := iff_of_false (not_notStandard standard) id

section Fields

variable {D : Type} [Doubles D] {json : Value D} {n : ℤ}

/-! ## Integers -/

/-- The integer that a value is written as. -/
def IsInteger : Value D → ℤ → Prop
  | .int value, n => value = n
  | .uint value, n => (value : ℤ) = n
  | .real value, n => Doubles.exact value = some (n : ℚ)
  | _, _ => False

/-- The integer of a value that is one. -/
def number : Value D → ℤ
  | .int value => value
  | .uint value => value
  | .real value => (Doubles.exact value).elim 0 Rat.num
  | _ => 0

theorem IsInteger.number_eq (written : IsInteger json n) : number json = n := by
  cases json with
  | int value => exact written
  | uint value => exact written
  | real value =>
      have exact : Doubles.exact value = some (n : ℚ) := written
      rw [number, exact, Option.elim_some, Rat.num_intCast]
  | null | string text | boolean value | array items | object members => exact written.elim

theorem isIntegerIn_iff {low high : ℤ} :
    json.isIntegerIn low high = true ↔ ∃ n, IsInteger json n ∧ low ≤ n ∧ n ≤ high := by
  cases json with
  | int value => simp [Value.isIntegerIn, IsInteger]
  | uint value => simp [Value.isIntegerIn, IsInteger]
  | real value =>
      rw [Value.isIntegerIn]
      simp only [IsInteger]
      cases Doubles.exact value with
      | none => simp
      | some exact =>
          simp only [Bool.and_eq_true, decide_eq_true_eq, Option.some.injEq]
          constructor
          · rintro ⟨⟨above, below⟩, whole⟩
            have same := Rat.coe_int_num_of_den_eq_one whole
            rw [← same] at above below
            exact ⟨exact.num, same.symm, by exact_mod_cast above, by exact_mod_cast below⟩
          · rintro ⟨n, rfl, above, below⟩
            exact ⟨⟨by exact_mod_cast above, by exact_mod_cast below⟩, Rat.den_intCast n⟩
  | null | string text | boolean value | array items | object members =>
      simp [Value.isIntegerIn, IsInteger]

theorem asInteger_of_isInteger {target : String} {low high : ℤ} (written : IsInteger json n)
    (above : low ≤ n) (below : n ≤ high) : json.asInteger target low high = .ok n := by
  cases json with
  | int value =>
      obtain rfl : value = n := written
      exact if_pos ⟨above, below⟩
  | uint value =>
      obtain rfl : (value : ℤ) = n := written
      exact if_pos ⟨above, below⟩
  | real value =>
      have exact : Doubles.exact value = some (n : ℚ) := written
      rw [Value.asInteger, exact]
      dsimp only
      rw [if_pos ⟨by exact_mod_cast above, by exact_mod_cast below⟩, Rat.num_intCast,
        Rat.den_intCast]
      exact congrArg Except.ok (Int.tdiv_one n)
  | null | string text | boolean value | array items | object members => exact written.elim

/-- The integer of an unsigned value. -/
theorem number_of_isUInt (unsigned : json.isUInt = true) :
    IsInteger json (number json) ∧ 0 ≤ number json ∧ number json < 2 ^ 32 := by
  obtain ⟨n, written, above, below⟩ := isIntegerIn_iff.mp unsigned
  rw [written.number_eq]
  exact ⟨written, above, by omega⟩

/-- The integer of a signed value. -/
theorem number_of_isInt (signed : json.isInt = true) :
    IsInteger json (number json) ∧ -2 ^ 31 ≤ number json ∧ number json < 2 ^ 31 := by
  obtain ⟨n, written, above, below⟩ := isIntegerIn_iff.mp signed
  rw [written.number_eq]
  exact ⟨written, above, by omega⟩

/-- An unsigned integer, of which so many bits are taken. -/
def unsignedFromJson (bits : Nat) (thrown : Thrown) (json : Value D) :
    Except Thrown (BitVec bits) :=
  if json.isUInt then json.asUInt.map (BitVec.ofInt bits) else .error thrown

theorem unsignedFromJson_of_isUInt {bits : Nat} {thrown : Thrown} (unsigned : json.isUInt = true) :
    unsignedFromJson bits thrown json = .ok (BitVec.ofInt bits (number json)) := by
  obtain ⟨written, above, below⟩ := number_of_isUInt unsigned
  rw [unsignedFromJson, if_pos unsigned, Value.asUInt,
    asInteger_of_isInteger written above (by omega)]
  rfl

theorem unsignedFromJson_reads {bits : Nat} {thrown : Thrown} {Fails : Prop}
    (failure : ¬json.isUInt = true → (NotStandard thrown ↔ Fails))
    (apart : Fails → ¬json.isUInt = true) :
    Reads NotStandard (unsignedFromJson bits thrown json) (BitVec.ofInt bits (number json))
      (json.isUInt = true) Fails where
  ok := unsignedFromJson_of_isUInt
  error fails := ⟨thrown, if_neg fails, failure fails⟩
  apart := apart

theorem isInteger_iff (written : IsInteger json (number json)) :
    IsInteger json n ↔ number json = n :=
  ⟨IsInteger.number_eq, fun same => same ▸ written⟩

theorem toNat_ofInt_eq_iff {bits : Nat} (above : 0 ≤ n) :
    n = ((BitVec.ofInt bits n).toNat : ℤ) ↔ n < 2 ^ bits := by
  have range := (BitVec.ofInt bits n).isLt
  constructor
  · intro same
    rw [same]
    exact_mod_cast range
  · intro small
    rw [BitVec.toNat_ofInt, Nat.cast_pow, Nat.cast_ofNat, Int.emod_eq_of_lt above small,
      Int.toNat_of_nonneg above]

theorem toInt_ofInt_eq_iff {bits : Nat} (some_bits : 0 < bits) :
    n = (BitVec.ofInt bits n).toInt ↔ -2 ^ (bits - 1) ≤ n ∧ n < 2 ^ (bits - 1) := by
  constructor
  · intro same
    rw [same]
    exact ⟨BitVec.le_toInt _, BitVec.toInt_lt⟩
  · rintro ⟨above, below⟩
    exact (BitVec.toInt_ofInt_eq_self some_bits above below).symm

/-- **An unsigned integer is what is written** when it has no more bits. -/
theorem unsigned_writes_iff {bits : Nat} (unsigned : json.isUInt = true) :
    IsInteger json (BitVec.ofInt bits (number json)).toNat ↔ number json < 2 ^ bits := by
  obtain ⟨written, above, -⟩ := number_of_isUInt unsigned
  rw [isInteger_iff written, toNat_ofInt_eq_iff above]

/-- A signed integer is what is written when it is in the range. -/
theorem signed_writes_iff {bits : Nat} (some_bits : 0 < bits)
    (written : IsInteger json (number json)) :
    IsInteger json (BitVec.ofInt bits (number json)).toInt ↔
      -2 ^ (bits - 1) ≤ number json ∧ number json < 2 ^ (bits - 1) := by
  rw [isInteger_iff written, toInt_ofInt_eq_iff some_bits]

/-! ## Numbers and names -/

/-- The text of a value that is one. -/
def textOf : Value D → Bytes
  | .string text => text
  | _ => []

/-- A value of an enumeration: a number, or a text that is accepted. -/
def enumFromJson {bits : Nat} (fromNumber : ℤ → BitVec bits) (fromString : Bytes → BitVec bits)
    (accepts : Bytes → Bool) (refused other : Thrown) (json : Value D) :
    Except Thrown (BitVec bits) :=
  if json.isUInt then json.asUInt.map fromNumber
  else
    match json with
    | .string text => if accepts text then .ok (fromString text) else .error refused
    | _ => .error other

/-- The value that is read. -/
def enumValue {bits : Nat} (fromNumber : ℤ → BitVec bits) (fromString : Bytes → BitVec bits)
    (json : Value D) : BitVec bits :=
  if json.isUInt then fromNumber (number json) else fromString (textOf json)

/-- An unsigned number, or a text that is accepted. -/
def NumberOr (accepts : Bytes → Bool) (json : Value D) : Prop :=
  json.isUInt = true ∨ ∃ text, json = .string text ∧ accepts text = true

theorem enumFromJson_reads {bits : Nat} {fromNumber : ℤ → BitVec bits}
    {fromString : Bytes → BitVec bits} {accepts : Bytes → Bool} {refused other : Thrown}
    (fine : refused.isStandard = true ∧ other.isStandard = true) :
    Reads NotStandard (enumFromJson fromNumber fromString accepts refused other json)
      (enumValue fromNumber fromString json) (NumberOr accepts json) False := by
  by_cases unsigned : json.isUInt = true
  · obtain ⟨written, above, below⟩ := number_of_isUInt unsigned
    refine ⟨fun _ => ?_, fun fails => absurd (.inl unsigned) fails, False.elim⟩
    unfold enumFromJson
    rw [if_pos unsigned, enumValue, if_pos unsigned, Value.asUInt,
      asInteger_of_isInteger written above (by omega)]
    rfl
  · cases json with
    | string text =>
        unfold enumFromJson
        rw [if_neg unsigned, enumValue, if_neg unsigned]
        refine ⟨fun passes => ?_, fun fails => ?_, False.elim⟩
        · obtain ⟨other, same, accepted⟩ := passes.resolve_left unsigned
          cases same
          exact if_pos accepted
        · have refuses : ¬accepts text = true := fun accepted => fails (.inr ⟨text, rfl, accepted⟩)
          exact ⟨refused, if_neg refuses, notStandard_iff fine.1⟩
    | null | int value | uint value | real value | boolean value | array items | object members =>
        unfold enumFromJson
        rw [if_neg unsigned]
        refine ⟨fun passes => ?_, fun _ => ⟨other, rfl, notStandard_iff fine.2⟩, False.elim⟩
        obtain ⟨other, same, -⟩ := passes.resolve_left unsigned
        cases same

/-! ## Enumerations -/

/-- A name of an enumeration is written. -/
def WritesName {bits : Nat} (names : List (BitVec bits × String)) (json : Value D)
    (value : BitVec bits) : Prop :=
  ∃ name, (value, name) ∈ names ∧ json = .string (ascii name)

/-- No number is a name. -/
theorem not_writesName {bits : Nat} {names : List (BitVec bits × String)} {value : BitVec bits}
    (unsigned : json.isUInt = true) : ¬WritesName names json value := by
  rintro ⟨name, -, rfl⟩
  cases unsigned

/-- A number of the bits is written, or a name. -/
def WritesCode {bits : Nat} (names : List (BitVec bits × String)) (json : Value D)
    (value : BitVec bits) : Prop :=
  IsInteger json value.toNat ∨ WritesName names json value

/-- The command statuses that are read, with their names. -/
def readStatuses : List (BitVec 8 × String) :=
  [(0#8, "SUCCESS"), (1#8, "TIMEOUT"), (2#8, "NO_SELECT"), (3#8, "FORMAT_ERROR"),
    (4#8, "NOT_SUPPORTED"), (5#8, "ALREADY_ACTIVE"), (6#8, "HARDWARE_ERROR"), (7#8, "LOCAL"),
    (8#8, "TOO_MANY_OPS"), (9#8, "NOT_AUTHORIZED"), (10#8, "AUTOMATION_INHIBIT"),
    (11#8, "PROCESSING_LIMITED"), (12#8, "OUT_OF_RANGE"), (13#8, "DOWNSTREAM_LOCAL"),
    (14#8, "ALREADY_COMPLETE"), (15#8, "BLOCKED"), (16#8, "CANCELLED"),
    (17#8, "BLOCKED_OTHER_MASTER"), (18#8, "DOWNSTREAM_FAIL"), (126#8, "NON_PARTICIPATING")]

def undefinedStatus : BitVec 8 := 127#8

def commandStatusFromString : Bytes → BitVec 8 := enumFromString readStatuses undefinedStatus

def commandStatusNames : List (BitVec 8 × String) := (undefinedStatus, "UNDEFINED") :: readStatuses

/-- A text is a command status. -/
def isStatusText (text : Bytes) : Bool :=
  commandStatusFromString text ≠ undefinedStatus || text = ascii "UNDEFINED"

/-- `PayloadFromJson<CommandStatus>`. -/
def commandStatusFromJson : Value D → Except Thrown (BitVec 8) :=
  enumFromJson (BitVec.ofInt 8) commandStatusFromString isStatusText
    (.invalidArgument "Can't convert string to odc::CommandStatus.")
    (.invalidArgument "Payload CommandStatus is not unsigned integer or valid string")

def commandStatus : Value D → BitVec 8 := enumValue (BitVec.ofInt 8) commandStatusFromString

theorem commandStatusFromJson_reads :
    Reads NotStandard (commandStatusFromJson json) (commandStatus json)
      (NumberOr isStatusText json) False :=
  enumFromJson_reads ⟨rfl, rfl⟩

/-- An unsigned number is no larger than a field of so many bits. -/
def FitsIn (bits : Nat) (json : Value D) : Prop := json.isUInt = true → number json < 2 ^ bits

/-- **A command status is what is written** when its number has eight bits. -/
theorem commandStatus_writes_iff (passes : NumberOr isStatusText json) :
    WritesCode commandStatusNames json (commandStatus json) ↔ FitsIn 8 json := by
  by_cases unsigned : json.isUInt = true
  · rw [WritesCode, or_iff_left (not_writesName unsigned), commandStatus, enumValue,
      if_pos unsigned, unsigned_writes_iff unsigned, FitsIn, forall_prop_of_true unsigned]
  · refine iff_of_true (.inr ?_) fun other => absurd other unsigned
    obtain ⟨text, rfl, accepted⟩ := passes.resolve_left unsigned
    rw [commandStatus, enumValue, if_neg unsigned, textOf]
    rcases enumFromString_cases readStatuses undefinedStatus text with ⟨name, member, rfl⟩ | none
    · exact ⟨name, List.mem_cons_of_mem _ member, rfl⟩
    · have undefined : commandStatusFromString text = undefinedStatus := none
      rw [isStatusText, undefined] at accepted
      have same : text = ascii "UNDEFINED" := by simpa using accepted
      rw [undefined, same]
      exact ⟨"UNDEFINED", List.mem_cons_self, rfl⟩

/-- A text that is no control code is read as undefined. -/
def controlCodeFromJson : Value D → Except Thrown (BitVec 8) :=
  enumFromJson (BitVec.ofInt 8) controlCodeFromString (fun _ => true)
    (.invalidArgument "Payload 'ControlCode' is not unsigned integer or valid string.")
    (.invalidArgument "Payload 'ControlCode' is not unsigned integer or valid string.")

def controlCode : Value D → BitVec 8 := enumValue (BitVec.ofInt 8) controlCodeFromString

theorem controlCodeFromJson_reads :
    Reads NotStandard (controlCodeFromJson json) (controlCode json)
      (NumberOr (fun _ => true) json) False :=
  enumFromJson_reads ⟨rfl, rfl⟩

/-- **A control code is what is written** when its number has eight bits and its text is a name. -/
theorem controlCode_writes_iff (passes : NumberOr (fun _ => true) json) :
    WritesCode controlCodeNames json (controlCode json) ↔
      FitsIn 8 json ∧ ∀ text, json = .string text → ∃ pair ∈ controlCodeNames, text = ascii pair.2 := by
  by_cases unsigned : json.isUInt = true
  · have noText : ∀ text, json = .string text → ∃ pair ∈ controlCodeNames, text = ascii pair.2 := by
      rintro text rfl
      cases unsigned
    rw [WritesCode, or_iff_left (not_writesName unsigned), controlCode, enumValue,
      if_pos unsigned, unsigned_writes_iff unsigned, FitsIn, forall_prop_of_true unsigned,
      and_iff_left noText]
  · obtain ⟨text, rfl, -⟩ := passes.resolve_left unsigned
    have noNumber : FitsIn 8 (.string text : Value D) := fun other => absurd other unsigned
    have noInteger : ¬IsInteger (.string text : Value D)
        (controlCode (.string text : Value D)).toNat := id
    rw [WritesCode, or_iff_right noInteger, and_iff_right noNumber, controlCode, enumValue,
      if_neg unsigned, textOf]
    constructor
    · rintro ⟨name, member, same⟩ other written
      cases written
      exact ⟨_, member, Value.string.inj same⟩
    · intro known
      obtain ⟨pair, member, rfl⟩ := known text rfl
      have read : ∀ pair ∈ controlCodeNames, controlCodeFromString (ascii pair.2) = pair.1 :=
        List.all_iff_forall_prop.mp (by decide)
      rw [read pair member]
      exact ⟨pair.2, member, rfl⟩

def connectStateFromJson : Value D → Except Thrown (BitVec 32) :=
  enumFromJson (BitVec.ofInt 32) connectStateFromString
    (fun text => connectStateFromString text ≠ 4#32)
    (.invalidArgument "Payload not convertable to odc::ConnectState.")
    (.invalidArgument "Payload not convertable to odc::ConnectState.")

def connectState : Value D → BitVec 32 := enumValue (BitVec.ofInt 32) connectStateFromString

theorem connectStateFromJson_reads :
    Reads NotStandard (connectStateFromJson json) (connectState json)
      (NumberOr (fun text => connectStateFromString text ≠ 4#32) json) False :=
  enumFromJson_reads ⟨rfl, rfl⟩

/-- A connection state is an `int`. -/
def WritesState (json : Value D) (state : BitVec 32) : Prop :=
  IsInteger json state.toInt ∨ WritesName connectStateNames json state

/-- **A connection state is what is written** when its number has 31 bits. -/
theorem connectState_writes_iff
    (passes : NumberOr (fun text => connectStateFromString text ≠ 4#32) json) :
    WritesState json (connectState json) ↔ FitsIn 31 json := by
  by_cases unsigned : json.isUInt = true
  · obtain ⟨written, above, -⟩ := number_of_isUInt unsigned
    rw [WritesState, or_iff_left (not_writesName unsigned), connectState, enumValue,
      if_pos unsigned, signed_writes_iff (by decide) written, FitsIn, forall_prop_of_true unsigned]
    exact and_iff_right (by omega)
  · refine iff_of_true (.inr ?_) fun other => absurd other unsigned
    obtain ⟨text, rfl, accepted⟩ := passes.resolve_left unsigned
    rw [connectState, enumValue, if_neg unsigned, textOf]
    rw [decide_eq_true_iff] at accepted
    rcases enumFromString_cases [(1#32, "CONNECTED"), (2#32, "DISCONNECTED"), (3#32, "PORT_DOWN"),
      (0#32, "PORT_UP")] 4#32 text with ⟨name, member, rfl⟩ | none
    · have known : ∀ pair ∈ [(1#32, "CONNECTED"), (2#32, "DISCONNECTED"), (3#32, "PORT_DOWN"),
          (0#32, "PORT_UP")], pair ∈ connectStateNames := List.all_iff_forall_prop.mp (by decide)
      exact ⟨name, known _ member, rfl⟩
    · exact absurd none accepted

/-! ## Qualities -/

/-- A text has the name of a flag, or it is `NONE`. -/
def isQualityText (text : Bytes) : Bool :=
  qualityFlagsFromString text ≠ 0 || text = ascii "NONE"

/-- `PayloadFromJson<QualityFlags>`. -/
def qualityFlagsFromJson : Value D → Except Thrown QualityFlags :=
  enumFromJson (BitVec.ofInt 16) qualityFlagsFromString isQualityText
    (.invalidArgument "Can't convert string to odc::QualityFlags.")
    (.invalidArgument "Payload QualityFlags is not unsigned integer or valid string")

def qualityFlags : Value D → QualityFlags := enumValue (BitVec.ofInt 16) qualityFlagsFromString

theorem qualityFlagsFromJson_reads :
    Reads NotStandard (qualityFlagsFromJson json) (qualityFlags json)
      (NumberOr isQualityText json) False :=
  enumFromJson_reads ⟨rfl, rfl⟩

/-- The number of a quality is written, or a text with the names of its flags. -/
def WritesQuality (json : Value D) (quality : QualityFlags) : Prop :=
  IsInteger json quality.toNat ∨
    ∃ text, json = .string text ∧ qualityFlagsFromString text = quality

/-- **A quality is what is written** when its number has the bits that are taken. -/
theorem quality_writes_iff {fromNumber : ℤ → QualityFlags} {bits : Nat}
    (taken : ∀ n, (fromNumber n).toNat = (BitVec.ofInt bits n).toNat)
    (passes : NumberOr isQualityText json) :
    WritesQuality json (enumValue fromNumber qualityFlagsFromString json) ↔ FitsIn bits json := by
  by_cases unsigned : json.isUInt = true
  · have noText : ¬∃ text, json = .string text ∧ qualityFlagsFromString text =
        enumValue fromNumber qualityFlagsFromString json := by
      rintro ⟨text, rfl, -⟩
      cases unsigned
    rw [WritesQuality, or_iff_left noText, enumValue, if_pos unsigned, taken,
      unsigned_writes_iff unsigned, FitsIn, forall_prop_of_true unsigned]
  · refine iff_of_true (.inr ?_) fun other => absurd other unsigned
    obtain ⟨text, rfl, -⟩ := passes.resolve_left unsigned
    exact ⟨text, rfl, by rw [enumValue, if_neg unsigned, textOf]⟩

end Fields

end OpenDataCon.EventJSON
