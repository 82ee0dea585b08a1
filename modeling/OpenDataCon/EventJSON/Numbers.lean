import OpenDataCon.EventJSON.Fields

/-!
# Numbers, times and types in JSON

A number that is written is a double or a float only when it has no more digits
(`double_writes_iff`, `float_writes_iff`). A time is written as a number, or as a date and
time with three digits of milliseconds; the text is read as it is written when it has
these digits and the time is not before the epoch (`time_writes_iff`). The number of an
event type is reduced to eight bits before its range is checked (`eventType_writes_iff`).
-/

set_option autoImplicit false

namespace OpenDataCon.EventJSON

open Connectors (EventType QualityFlags)
open Events
open Exceptions Validation
open FileTransfer (Bytes ascii isDigit)
open JSON (Value Doubles)

section Numbers

variable {D : Type} {json : Value D}

/-! ## Members -/

/-- The member of an object, if it has one of the name. -/
def memberOf (json : Value D) (key : String) : Option (Value D) :=
  match json with
  | .object members => members.lookup (ascii key)
  | _ => none

/-- `Value::isMember`. -/
def isMember (json : Value D) (key : String) : Bool := (memberOf json key).isSome

/-- `Value::operator[]`. -/
def field (json : Value D) (key : String) : Value D := (memberOf json key).getD .null

/-! ## Dates and times -/

/-- What other libraries make of values and texts. -/
structure Library (D : Type) where
  toStyledString : Value D → String
  /-- A text in a message. -/
  quoted : Bytes → String
  /-- A date and time without its milliseconds, in milliseconds since the epoch. -/
  datetime : Bytes → Option ℤ

section Dates

variable (library : Library D)

/-- The last three bytes of a text. -/
def millisecondsText (text : Bytes) : Bytes := text.drop (text.length - 3)

def datetimeText (text : Bytes) : Bytes := text.take (text.length - 3)

/-- `datetime_to_since_epoch`, for the format that ends with the milliseconds. -/
def datetimeToSinceEpoch (text : Bytes) : Except Thrown (BitVec 64) :=
  if text.length < 3 then .error (.outOfRange "basic_string::substr")
  else
    match stoi (millisecondsText text) with
    | .error _ => .error (.runtimeError
        ("datetime_to_since_epoch(%Y-%m-%d %H:%M:%S.): Error parsing milliseconds '" ++
          library.quoted (millisecondsText text) ++ "'."))
    | .ok msec =>
      match library.datetime (datetimeText text) with
      | none => .error (.runtimeError
          ("datetime_to_since_epoch(%Y-%m-%d %H:%M:%S.): Error parsing datetime '" ++
            library.quoted (datetimeText text) ++ "'."))
      | some time => .ok (BitVec.ofInt 64 (time + msec))

/-- The time of a text, in milliseconds since the epoch. -/
def datetimeOf (text : Bytes) : ℤ :=
  (library.datetime (datetimeText text)).getD 0 + (integerAt (millisecondsText text)).getD 0

/-- A text has a date and time, and a number of milliseconds. -/
def HasDatetime (text : Bytes) : Prop :=
  3 ≤ text.length ∧ (∃ msec, stoi (millisecondsText text) = .ok msec) ∧
    (library.datetime (datetimeText text)).isSome = true

theorem datetimeToSinceEpoch_reads (text : Bytes) :
    Reads NotStandard (datetimeToSinceEpoch library text) (BitVec.ofInt 64 (datetimeOf library text))
      (HasDatetime library text) False := by
  unfold datetimeToSinceEpoch
  by_cases short : text.length < 3
  · rw [if_pos short]
    exact ⟨fun passes => absurd passes.1 (Nat.not_le.mpr short),
      fun _ => ⟨_, rfl, notStandard_iff rfl⟩, False.elim⟩
  · rw [if_neg short]
    cases read : stoi (millisecondsText text) with
    | error thrown =>
        refine ⟨?_, fun _ => ⟨_, rfl, notStandard_iff rfl⟩, False.elim⟩
        rintro ⟨-, ⟨msec, other⟩, -⟩
        cases read.symm.trans other
    | ok msec =>
        cases found : library.datetime (datetimeText text) with
        | none =>
            refine ⟨?_, fun _ => ⟨_, rfl, notStandard_iff rfl⟩, False.elim⟩
            rintro ⟨-, -, other⟩
            rw [found] at other
            cases other
        | some time =>
            refine ⟨fun _ => ?_, fun fails => ?_, False.elim⟩
            · rw [datetimeOf, found, (stoi_eq_ok.mp read).1]
              rfl
            · refine absurd ⟨by omega, ⟨msec, read⟩, ?_⟩ fails
              rw [found]
              rfl

/-- A date and time with three digits of milliseconds is written. -/
def WritesDatetime (text : Bytes) (timestamp : BitVec 64) : Prop :=
  ∃ start digits time, text = start ++ digits ∧ digits.length = 3 ∧
    (∀ digit ∈ digits, isDigit digit = true) ∧ library.datetime start = some time ∧
    (timestamp.toNat : ℤ) = time + digitsNumber digits

/-- The milliseconds are three digits, and the time has 64 bits. -/
def FitsDatetime (text : Bytes) : Prop :=
  (∀ digit ∈ millisecondsText text, isDigit digit = true) ∧ 0 ≤ datetimeOf library text ∧
    datetimeOf library text < 2 ^ 64

/-- The time of a text that ends with digits. -/
theorem datetimeOf_digits {text : Bytes} {time : ℤ} (long : 3 ≤ text.length)
    (digits : ∀ digit ∈ millisecondsText text, isDigit digit = true)
    (found : library.datetime (datetimeText text) = some time) :
    datetimeOf library text = time + digitsNumber (millisecondsText text) := by
  have some_digit : millisecondsText text ≠ [] := by
    rw [ne_eq, millisecondsText, List.drop_eq_nil_iff]
    omega
  have whole : (millisecondsText text).takeWhile isDigit = millisecondsText text :=
    List.takeWhile_eq_self_iff.mpr digits
  rw [datetimeOf, found, integerAt_digits digits, unsignedAt, whole, if_neg some_digit]
  rfl

/-- **A date and time is what is written** when it ends with three digits and is not before the
epoch. -/
theorem datetime_writes_iff {text : Bytes} (passes : HasDatetime library text) :
    WritesDatetime library text (BitVec.ofInt 64 (datetimeOf library text)) ↔
      FitsDatetime library text := by
  obtain ⟨long, -, known⟩ := passes
  constructor
  · rintro ⟨start, digits, time, rfl, three, all, found, same⟩
    have split : (start ++ digits).length - 3 = start.length := by
      rw [List.length_append]
      omega
    have last : millisecondsText (start ++ digits) = digits := by
      rw [millisecondsText, split, List.drop_left]
    have first : datetimeText (start ++ digits) = start := by
      rw [datetimeText, split, List.take_left]
    have spelt := datetimeOf_digits library long (last.symm ▸ all) (first.symm ▸ found)
    rw [last] at spelt
    rw [← spelt] at same
    have above : 0 ≤ datetimeOf library (start ++ digits) := same ▸ Int.natCast_nonneg _
    exact ⟨last.symm ▸ all, above, (toNat_ofInt_eq_iff above).mp same.symm⟩
  · rintro ⟨digits, above, below⟩
    obtain ⟨time, found⟩ := Option.isSome_iff_exists.mp known
    refine ⟨datetimeText text, millisecondsText text, time, (List.take_append_drop _ _).symm, ?_,
      digits, found, ?_⟩
    · rw [millisecondsText, List.length_drop]
      omega
    · rw [← datetimeOf_digits library long digits found]
      exact ((toNat_ofInt_eq_iff above).mpr below).symm

end Dates

/-! ## Truth values -/

/-- Numbers and null are converted to truth values. -/
def convertsToBool : Value D → Bool
  | .string _ => false
  | .array _ => false
  | .object _ => false
  | _ => true

variable [Doubles D]

/-- What `Value::asBool` gives. -/
def boolOf : Value D → Bool
  | .boolean value => value
  | .int value => value ≠ 0
  | .uint value => value ≠ 0
  | .real value => Doubles.exact value ≠ some 0
  | _ => false

theorem asBool_reads (json : Value D) :
    Reads NotStandard json.asBool (boolOf json) (convertsToBool json = true) False := by
  refine ⟨?_, ?_, False.elim⟩
  · intro converts
    cases json with
    | null | int | uint | real | boolean => rfl
    | string | array | object => cases converts
  · intro fails
    cases json with
    | null | int | uint | real | boolean => exact absurd rfl fails
    | string | array | object => exact ⟨_, rfl, notStandard_iff rfl⟩

/-- **A truth value is what is written** when it is written as one. -/
theorem bool_writes_iff : json = .boolean (boolOf json) ↔ json.isBool = true := by
  cases json with
  | boolean value => exact iff_of_true rfl rfl
  | null | int value | uint value | real value | string text | array items | object members =>
      refine iff_of_false ?_ Bool.false_ne_true
      intro same
      cases same

/-! ## Doubles and floats -/

/-- The double that a value is written as. -/
def IsDouble : Value D → D → Prop
  | .int value, number => Doubles.exact number = some (value : ℚ)
  | .uint value, number => Doubles.exact number = some (value : ℚ)
  | .real value, number => value = number
  | _, _ => False

/-- What `Value::asDouble` gives. -/
def doubleOf : Value D → D
  | .int value => Doubles.ofInt value
  | .uint value => Doubles.ofInt value
  | .real value => value
  | _ => Doubles.ofInt 0

/-- A number. -/
def doubleFromJson (thrown : Thrown) (json : Value D) : Except Thrown D :=
  if json.isNumeric then json.asDouble else .error thrown

theorem asDouble_of_isNumeric (numeric : json.isNumeric = true) :
    json.asDouble = .ok (doubleOf json) := by
  cases json with
  | int | uint | real => rfl
  | null | string | boolean | array | object => cases numeric

theorem doubleFromJson_reads {thrown : Thrown} (standard : thrown.isStandard = true) :
    Reads NotStandard (doubleFromJson thrown json) (doubleOf json) (json.isNumeric = true) False where
  ok numeric := by rw [doubleFromJson, if_pos numeric, asDouble_of_isNumeric numeric]
  error fails := ⟨thrown, if_neg fails, notStandard_iff standard⟩
  apart := False.elim

/-- An integer is a double. -/
def FitsDouble : Value D → Prop
  | .int value => Doubles.exact (Doubles.ofInt value : D) = some (value : ℚ)
  | .uint value => Doubles.exact (Doubles.ofInt value : D) = some (value : ℚ)
  | _ => True

/-- **A double is what is written** when the integer that is written is one. -/
theorem double_writes_iff (numeric : json.isNumeric = true) :
    IsDouble json (doubleOf json) ↔ FitsDouble json := by
  cases json with
  | int | uint => exact Iff.rfl
  | real => exact iff_of_true rfl trivial
  | null | string | boolean | array | object => cases numeric

/-- The floats that doubles and integers are converted to. -/
class Floats (D F : Type) where
  /-- A double above the largest float, or below the lowest one. -/
  outside : D → Bool
  widen : F → D
  ofDouble : D → F
  ofInt : ℤ → F

/-- Rationals do for examples. -/
instance : Floats ℚ ℚ where
  outside := fun _ => false
  widen := id
  ofDouble := id
  ofInt := fun value => value

section Floats

variable {F : Type} [Floats D F]

/-- What `Value::asFloat` gives. -/
def floatOf : Value D → F
  | .int value => Floats.ofInt D value
  | .uint value => Floats.ofInt D value
  | .real value => Floats.ofDouble value
  | _ => Floats.ofInt D 0

/-- A number that is no larger than a float can be. -/
def floatFromJson (thrown : Thrown) (json : Value D) : Except Thrown F := do
  let number ← doubleFromJson thrown json
  check (!Floats.outside F number) thrown
  return floatOf json

theorem floatFromJson_reads {thrown : Thrown} (standard : thrown.isStandard = true) :
    Reads NotStandard (floatFromJson thrown json : Except Thrown F) (floatOf json)
      (json.isNumeric = true ∧ Floats.outside F (doubleOf json) = false) False := by
  unfold floatFromJson
  refine Reads.congr (Reads.bind (doubleFromJson_reads standard)
    (Reads.bind (Reads.check (not_notStandard standard) _) (Reads.pure _))) ?_ ?_
  · rw [Bool.not_eq_true', and_true]
  · simp only [and_false, or_false]

/-- A number is a float. -/
def FitsFloat (F : Type) [Floats D F] : Value D → Prop
  | .int value => Doubles.exact (Floats.widen (Floats.ofInt D value : F) : D) = some (value : ℚ)
  | .uint value => Doubles.exact (Floats.widen (Floats.ofInt D value : F) : D) = some (value : ℚ)
  | .real value => Floats.widen (Floats.ofDouble value : F) = value
  | _ => True

/-- **A float is what is written** when the number that is written is one. -/
theorem float_writes_iff (numeric : json.isNumeric = true) :
    IsDouble json (Floats.widen (floatOf json : F)) ↔ FitsFloat F json := by
  cases json with
  | int | uint => exact Iff.rfl
  | real => exact eq_comm
  | null | string | boolean | array | object => cases numeric

end Floats

/-! ## Signed integers -/

/-- A signed integer between two bounds. -/
def intFromJson (bits : Nat) (low high : ℤ) (thrown : Thrown) (json : Value D) :
    Except Thrown (BitVec bits) :=
  if json.isInt then do
    let value ← json.asInt
    check (low ≤ value && value ≤ high) thrown
    return BitVec.ofInt bits value
  else .error thrown

/-- A signed integer between two bounds is written. -/
def IsIntBetween (low high : ℤ) (json : Value D) : Prop :=
  json.isInt = true ∧ low ≤ number json ∧ number json ≤ high

theorem intFromJson_reads {bits : Nat} {low high : ℤ} {thrown : Thrown}
    (standard : thrown.isStandard = true) :
    Reads NotStandard (intFromJson bits low high thrown json) (BitVec.ofInt bits (number json))
      (IsIntBetween low high json) False := by
  unfold intFromJson
  by_cases signed : json.isInt = true
  · obtain ⟨written, above, below⟩ := number_of_isInt signed
    rw [if_pos signed, Value.asInt, asInteger_of_isInteger written above (by omega)]
    refine Reads.congr (Reads.bind (Reads.of_ok (number json))
      (Reads.bind (Reads.check (not_notStandard standard) _) (Reads.pure _))) ?_ ?_
    · rw [IsIntBetween, and_iff_right signed, true_and, and_true, Bool.and_eq_true,
        decide_eq_true_iff, decide_eq_true_iff]
    · simp only [and_false, or_false]
  · rw [if_neg signed]
    exact ⟨fun passes => absurd passes.1 signed,
      fun _ => ⟨thrown, rfl, notStandard_iff standard⟩, False.elim⟩

/-- **A signed integer is what is written** when the bounds are within the range of its bits. -/
theorem int_writes {bits : Nat} {low high : ℤ} (some_bits : 0 < bits)
    (above : -2 ^ (bits - 1) ≤ low) (below : high < 2 ^ (bits - 1))
    (passes : IsIntBetween low high json) :
    IsInteger json (BitVec.ofInt bits (number json)).toInt := by
  obtain ⟨signed, low, high⟩ := passes
  exact (signed_writes_iff some_bits (number_of_isInt signed).1).mpr ⟨above.trans low, by omega⟩

/-! ## Times -/

variable (library : Library D)

/-- A time. -/
def timeFromJson (thrown : Thrown) (json : Value D) : Except Thrown (BitVec 64) :=
  if json.isUInt64 then json.asUInt64.map (BitVec.ofInt 64)
  else
    match json with
    | .string text => datetimeToSinceEpoch library text
    | _ => .error thrown

/-- The time that is read. -/
def timeOf (json : Value D) : BitVec 64 :=
  BitVec.ofInt 64 (if json.isUInt64 then number json else datetimeOf library (textOf json))

/-- A number of 64 bits, or a date and time. -/
def IsTime (json : Value D) : Prop :=
  json.isUInt64 = true ∨ ∃ text, json = .string text ∧ HasDatetime library text

/-- The integer of a value of 64 bits. -/
theorem number_of_isUInt64 (unsigned : json.isUInt64 = true) :
    IsInteger json (number json) ∧ 0 ≤ number json ∧ number json < 2 ^ 64 := by
  obtain ⟨n, written, above, below⟩ := isIntegerIn_iff.mp unsigned
  rw [written.number_eq]
  exact ⟨written, above, by omega⟩

theorem timeFromJson_reads {thrown : Thrown} (standard : thrown.isStandard = true) :
    Reads NotStandard (timeFromJson library thrown json) (timeOf library json)
      (IsTime library json) False := by
  by_cases unsigned : json.isUInt64 = true
  · obtain ⟨written, above, below⟩ := number_of_isUInt64 unsigned
    refine ⟨fun _ => ?_, fun fails => absurd (.inl unsigned) fails, False.elim⟩
    unfold timeFromJson
    rw [if_pos unsigned, timeOf, if_pos unsigned, Value.asUInt64,
      asInteger_of_isInteger written above below.le]
    change Except.ok (BitVec.ofInt 64 (number json % 2 ^ 64)) = _
    rw [Int.emod_eq_of_lt above below]
  · unfold timeFromJson
    rw [if_neg unsigned, timeOf, if_neg unsigned]
    cases json with
    | string text =>
        refine (datetimeToSinceEpoch_reads library text).congr ?_ Iff.rfl
        rw [IsTime, or_iff_right unsigned]
        constructor
        · exact fun passes => ⟨text, rfl, passes⟩
        · rintro ⟨other, same, passes⟩
          cases same
          exact passes
    | null | int value | uint value | real value | boolean value | array items | object members =>
        refine ⟨fun passes => ?_, fun _ => ⟨thrown, rfl, notStandard_iff standard⟩, False.elim⟩
        obtain ⟨text, same, -⟩ := passes.resolve_left unsigned
        cases same

/-- A time is written. -/
def WritesTime (json : Value D) (timestamp : BitVec 64) : Prop :=
  IsInteger json timestamp.toNat ∨
    ∃ text, json = .string text ∧ WritesDatetime library text timestamp

/-- The text of a time fits. -/
def FitsTime (json : Value D) : Prop := ∀ text, json = .string text → FitsDatetime library text

/-- **A time is what is written** when it is a number, or its text fits. -/
theorem time_writes_iff (passes : IsTime library json) :
    WritesTime library json (timeOf library json) ↔ FitsTime library json := by
  by_cases unsigned : json.isUInt64 = true
  · obtain ⟨written, above, below⟩ := number_of_isUInt64 unsigned
    refine iff_of_true (.inl ?_) ?_
    · rw [timeOf, if_pos unsigned, isInteger_iff written]
      exact (toNat_ofInt_eq_iff above).mpr below
    · rintro text rfl
      cases unsigned
  · obtain ⟨text, rfl, known⟩ := passes.resolve_left unsigned
    have noInteger : ¬IsInteger (.string text : Value D)
        (timeOf library (.string text)).toNat := id
    rw [WritesTime, or_iff_right noInteger, timeOf, if_neg unsigned, textOf]
    constructor
    · rintro ⟨other, same, written⟩ again equal
      cases same
      cases equal
      exact (datetime_writes_iff library known).mp written
    · intro fits
      exact ⟨text, rfl, (datetime_writes_iff library known).mpr (fits text rfl)⟩

/-! ## Event types -/

/-- The number of an event type is in its range. -/
def inRange (type : BitVec 8) : Bool := BeforeRange.toNat < type.toNat && type.toNat < AfterRange.toNat

/-- An event type, before its range is checked. -/
def uncheckedType (thrown : Thrown) (json : Value D) : Except Thrown (BitVec 8) :=
  if json.isIntegral then json.asUInt.map (BitVec.ofInt 8)
  else
    match json with
    | .string text => .ok (eventTypeFromString text)
    | _ => .error thrown

/-- `EventType`, from a number or a name. -/
def eventTypeFromJson (thrown : Thrown) (json : Value D) : Except Thrown (BitVec 8) := do
  let type ← uncheckedType thrown json
  check (inRange type) thrown
  return type

/-- The event type that is read. -/
def eventTypeOf : Value D → BitVec 8 := enumValue (BitVec.ofInt 8) eventTypeFromString

/-- An unsigned number is an integer. -/
theorem isIntegral_of_isUInt (unsigned : json.isUInt = true) : json.isIntegral = true := by
  cases json with
  | int | uint => rfl
  | real value =>
      obtain ⟨n, written, above, below⟩ := isIntegerIn_iff.mp unsigned
      exact isIntegerIn_iff.mpr ⟨n, written, by omega, by omega⟩
  | null | string | boolean | array | object => cases unsigned

/-- An integer that is not unsigned, or too large, is not converted. -/
theorem asUInt_error (integral : json.isIntegral = true) (other : ¬json.isUInt = true) :
    ∃ thrown, json.asUInt = .error thrown ∧ thrown.isStandard = true := by
  cases json with
  | int value =>
      refine ⟨_, if_neg fun inside => other ?_, rfl⟩
      exact isIntegerIn_iff.mpr ⟨value, rfl, inside⟩
  | uint value =>
      refine ⟨_, if_neg fun inside => other ?_, rfl⟩
      exact isIntegerIn_iff.mpr ⟨value, rfl, inside⟩
  | real value =>
      have whole : (Value.real value).isIntegerIn (-2 ^ 63) (2 ^ 64 - 1) = true := integral
      obtain ⟨n, written, -⟩ := isIntegerIn_iff.mp whole
      have exact : Doubles.exact value = some (n : ℚ) := written
      rw [Value.asUInt, Value.asInteger, exact]
      refine ⟨_, if_neg fun inside => other ?_, rfl⟩
      exact isIntegerIn_iff.mpr ⟨n, written, by exact_mod_cast inside.1, by exact_mod_cast inside.2⟩
  | null | string | boolean | array | object => cases integral

theorem uncheckedType_reads {thrown : Thrown} (standard : thrown.isStandard = true) :
    Reads NotStandard (uncheckedType thrown json) (eventTypeOf json)
      (NumberOr (fun _ => true) json) False := by
  unfold uncheckedType
  by_cases unsigned : json.isUInt = true
  · obtain ⟨written, above, below⟩ := number_of_isUInt unsigned
    rw [if_pos (isIntegral_of_isUInt unsigned), eventTypeOf, enumValue, if_pos unsigned,
      Value.asUInt, asInteger_of_isInteger written above (by omega)]
    exact (Reads.of_ok _).congr (iff_of_true trivial (.inl unsigned)) Iff.rfl
  · by_cases integral : json.isIntegral = true
    · rw [if_pos integral]
      obtain ⟨other, result, fine⟩ := asUInt_error integral unsigned
      refine ⟨fun passes => ?_, fun _ => ⟨other, ?_, notStandard_iff fine⟩, False.elim⟩
      · obtain ⟨text, rfl, -⟩ := passes.resolve_left unsigned
        cases integral
      · rw [result]
        rfl
    · rw [if_neg integral, eventTypeOf, enumValue, if_neg unsigned]
      cases json with
      | string text =>
          exact (Reads.of_ok _).congr (iff_of_true trivial (.inr ⟨text, rfl, rfl⟩)) Iff.rfl
      | null | int value | uint value | real value | boolean value | array items
        | object members =>
          refine ⟨fun passes => ?_, fun _ => ⟨thrown, rfl, notStandard_iff standard⟩, False.elim⟩
          obtain ⟨text, same, -⟩ := passes.resolve_left unsigned
          cases same

theorem eventTypeFromJson_reads {thrown : Thrown} (standard : thrown.isStandard = true) :
    Reads NotStandard (eventTypeFromJson thrown json) (eventTypeOf json)
      (NumberOr (fun _ => true) json ∧ inRange (eventTypeOf json) = true) False := by
  unfold eventTypeFromJson
  refine Reads.congr (Reads.bind (uncheckedType_reads standard)
    (Reads.bind (Reads.check (not_notStandard standard) _) (Reads.pure _))) ?_ ?_
  · rw [and_true]
  · simp only [and_false, or_false]

/-- The number of an event type is written, or its name. -/
def WritesType (json : Value D) (type : BitVec 8) : Prop :=
  IsInteger json type.toNat ∨ json = .string (eventTypeToString type)

/-- A text is the name of the event type that is read, unless that is out of range. -/
theorem eventTypeToString_of_fromString {text : Bytes}
    (range : inRange (eventTypeFromString text) = true) :
    text = eventTypeToString (eventTypeFromString text) := by
  unfold eventTypeFromString at range ⊢
  cases found : ((List.range 45).map fun before => BitVec.ofNat 8 (before + 1)).find? fun type =>
      text = eventTypeToString type with
  | none =>
      rw [found] at range
      exact absurd range (by decide)
  | some type =>
      have named := List.find?_some found
      exact of_decide_eq_true named

/-- **An event type is what is written** when its number has eight bits. -/
theorem eventType_writes_iff (passes : NumberOr (fun _ => true) json)
    (range : inRange (eventTypeOf json) = true) :
    WritesType json (eventTypeOf json) ↔ FitsIn 8 json := by
  by_cases unsigned : json.isUInt = true
  · have noText : ¬json = .string (eventTypeToString (eventTypeOf json)) := by
      intro same
      rw [same] at unsigned
      cases unsigned
    rw [WritesType, or_iff_left noText, eventTypeOf, enumValue, if_pos unsigned,
      unsigned_writes_iff unsigned, FitsIn, forall_prop_of_true unsigned]
  · refine iff_of_true (.inr ?_) fun other => absurd other unsigned
    obtain ⟨text, rfl, -⟩ := passes.resolve_left unsigned
    rw [eventTypeOf, enumValue, if_neg unsigned] at range ⊢
    exact congrArg Value.string (eventTypeToString_of_fromString range)

/-- The type of an event is read back from its number. -/
theorem eventTypeOf_number (type : EventType) :
    (.int (Events.number type).toNat : Value D).isUInt = true ∧
      eventTypeOf (.int (Events.number type).toNat : Value D) = Events.number type := by
  have unsigned : (.int (Events.number type).toNat : Value D).isUInt = true := by
    refine isIntegerIn_iff.mpr ⟨_, rfl, Int.natCast_nonneg _, ?_⟩
    have := (Events.number type).isLt
    omega
  refine ⟨unsigned, ?_⟩
  rw [eventTypeOf, enumValue, if_pos unsigned, EventJSON.number, BitVec.ofInt_natCast,
    BitVec.ofNat_toNat, BitVec.setWidth_eq]

theorem inRange_number (type : EventType) : inRange (Events.number type) = true := by
  cases type <;> decide

/-! ## The quality of an event -/

/-- The low eight bits of a number. -/
def lowQuality (n : ℤ) : QualityFlags := (BitVec.ofInt 32 n &&& 0xFF#32).setWidth 16

theorem lowQuality_toNat (n : ℤ) : (lowQuality n).toNat = (BitVec.ofInt 8 n).toNat := by
  have low : (BitVec.ofInt 32 n &&& 0xFF#32).toNat = (BitVec.ofInt 32 n).toNat % 2 ^ 8 := by
    rw [BitVec.toNat_and]
    exact Nat.and_two_pow_sub_one_eq_mod _ 8
  rw [lowQuality, BitVec.toNat_setWidth, low, BitVec.toNat_ofInt, BitVec.toNat_ofInt]
  omega

/-- `QualityFlags` of an event, from a number or a text. -/
def eventQualityFromJson (thrown : Thrown) : Value D → Except Thrown QualityFlags :=
  enumFromJson lowQuality qualityFlagsFromString isQualityText thrown thrown

def eventQuality : Value D → QualityFlags := enumValue lowQuality qualityFlagsFromString

theorem eventQualityFromJson_reads {thrown : Thrown} (standard : thrown.isStandard = true) :
    Reads NotStandard (eventQualityFromJson thrown json) (eventQuality json)
      (NumberOr isQualityText json) False :=
  enumFromJson_reads ⟨standard, standard⟩

/-- **The quality of an event is what is written** when its number has eight bits. -/
theorem eventQuality_writes_iff (passes : NumberOr isQualityText json) :
    WritesQuality json (eventQuality json) ↔ FitsIn 8 json :=
  quality_writes_iff lowQuality_toNat passes

end Numbers

end OpenDataCon.EventJSON
