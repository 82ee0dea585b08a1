import Mathlib.Data.Rat.Floor
import OpenDataCon.FileTransfer.Events
import OpenDataCon.Foundations.Exceptions

/-!
# JSON values

The values that the JSON library reads a text into, with their conversions. A
conversion that a value does not have raises a logic error, which is no runtime
error; numbers are integers of two kinds, by their size, or doubles. Two values are
equal when they are of the same kind and have the same contents (`beq_iff_eq`).
-/

set_option autoImplicit false

namespace OpenDataCon.JSON

open Exceptions
open FileTransfer (Bytes ascii toDecimal)

/-! ## Doubles -/

/-- The double precision numbers, those that compare equal being one. -/
class Doubles (D : Type) where
  /-- The value of a finite number. -/
  exact : D → Option ℚ
  ofInt : Int → D
  /-- `valueToString`. -/
  toText : D → Bytes
  /-- `std::stod`, with what it throws. -/
  ofText : Bytes → Except Thrown D

/-- Rationals do for examples. -/
instance : Doubles ℚ where
  exact := some
  ofInt := fun value => value
  toText := fun _ => []
  ofText := fun _ => .error (.invalidArgument "stod")

/-! ## Values -/

/-- `Json::Value`: integers have 64 bits, and an object has its members in the order of their
names, each once. -/
inductive Value (D : Type) where
  | null
  | int (value : Int)
  | uint (value : Nat)
  | real (value : D)
  | string (text : Bytes)
  | boolean (value : Bool)
  | array (items : List (Value D))
  | object (members : List (Bytes × Value D))

namespace Value

section Equality

variable {D : Type} [DecidableEq D]

mutual

/-- `Value::operator==`. -/
def beq : Value D → Value D → Bool
  | .null, .null => true
  | .int value, .int other => value = other
  | .uint value, .uint other => value = other
  | .real value, .real other => value = other
  | .string text, .string other => text = other
  | .boolean value, .boolean other => value = other
  | .array items, .array others => beqItems items others
  | .object members, .object others => beqMembers members others
  | _, _ => false

def beqItems : List (Value D) → List (Value D) → Bool
  | [], [] => true
  | item :: items, other :: others => beq item other && beqItems items others
  | _, _ => false

def beqMembers : List (Bytes × Value D) → List (Bytes × Value D) → Bool
  | [], [] => true
  | (name, value) :: members, (other, second) :: others =>
    name = other && beq value second && beqMembers members others
  | _, _ => false

end

mutual

/-- **Values that compare equal are equal.** -/
theorem beq_iff_eq : ∀ value other : Value D, beq value other = true ↔ value = other
  | .null, other => by cases other <;> simp [beq]
  | .int _, other => by cases other <;> simp [beq]
  | .uint _, other => by cases other <;> simp [beq]
  | .real _, other => by cases other <;> simp [beq]
  | .string _, other => by cases other <;> simp [beq]
  | .boolean _, other => by cases other <;> simp [beq]
  | .array items, other => by
      cases other <;> simp [beq, beqItems_iff_eq items]
  | .object members, other => by
      cases other <;> simp [beq, beqMembers_iff_eq members]

theorem beqItems_iff_eq : ∀ items others : List (Value D),
    beqItems items others = true ↔ items = others
  | [], others => by cases others <;> simp [beqItems]
  | item :: items, others => by
      cases others <;> simp [beqItems, beq_iff_eq item, beqItems_iff_eq items]

theorem beqMembers_iff_eq : ∀ members others : List (Bytes × Value D),
    beqMembers members others = true ↔ members = others
  | [], others => by cases others <;> simp [beqMembers]
  | (name, value) :: members, others => by
      cases others <;>
        simp [beqMembers, beq_iff_eq value, beqMembers_iff_eq members, Prod.ext_iff]

end

instance : DecidableEq (Value D) := fun value other =>
  decidable_of_iff (beq value other = true) (beq_iff_eq value other)

end Equality

/-! ## Kinds of values -/

section Kinds

variable {D : Type}

def isNull : Value D → Bool
  | .null => true
  | _ => false

def isBool : Value D → Bool
  | .boolean _ => true
  | _ => false

def isNumeric : Value D → Bool
  | .int _ => true
  | .uint _ => true
  | .real _ => true
  | _ => false

def isString : Value D → Bool
  | .string _ => true
  | _ => false

def isObject : Value D → Bool
  | .object _ => true
  | _ => false

end Kinds

section Conversions

variable {D : Type} [Doubles D]

/-- An integer of two bounds. -/
def isIntegerIn (low high : Int) : Value D → Bool
  | .int value => low ≤ value && value ≤ high
  | .uint value => low ≤ value && (value : Int) ≤ high
  | .real value =>
    match Doubles.exact value with
    | some exact => low ≤ exact && exact ≤ high && exact.den = 1
    | none => false
  | _ => false

def isInt (value : Value D) : Bool := value.isIntegerIn (-2 ^ 31) (2 ^ 31 - 1)

def isUInt (value : Value D) : Bool := value.isIntegerIn 0 (2 ^ 32 - 1)

def isUInt64 (value : Value D) : Bool := value.isIntegerIn 0 (2 ^ 64 - 1)

def isIntegral : Value D → Bool
  | .int _ => true
  | .uint _ => true
  | value => value.isIntegerIn (-2 ^ 63) (2 ^ 64 - 1)

/-- A conversion to an integer: what is between the bounds loses its fraction. -/
def asInteger (target : String) (low high : Int) : Value D → Except Thrown Int
  | .int value =>
    if low ≤ value ∧ value ≤ high then .ok value
    else .error (.libraryLogicError s!"LargestInt out of {target} range")
  | .uint value =>
    if low ≤ value ∧ (value : Int) ≤ high then .ok value
    else .error (.libraryLogicError s!"LargestUInt out of {target} range")
  | .real value =>
    match Doubles.exact value with
    | some exact =>
      if low ≤ exact ∧ exact ≤ high then .ok (Int.tdiv exact.num exact.den)
      else .error (.libraryLogicError s!"double out of {target} range")
    | none => .error (.libraryLogicError s!"double out of {target} range")
  | .null => .ok 0
  | .boolean value => .ok (if value then 1 else 0)
  | _ => .error (.libraryLogicError s!"Value is not convertible to {target}.")

def asInt (value : Value D) : Except Thrown Int := value.asInteger "Int" (-2 ^ 31) (2 ^ 31 - 1)

def asUInt (value : Value D) : Except Thrown Int := value.asInteger "UInt" 0 (2 ^ 32 - 1)

/-- The bound is rounded up to a double, and `2 ^ 64` passes; it is converted to 0. -/
def asUInt64 (value : Value D) : Except Thrown Int :=
  (value.asInteger "UInt64" 0 (2 ^ 64)).map fun number => number % 2 ^ 64

def asDouble : Value D → Except Thrown D
  | .int value => .ok (Doubles.ofInt value)
  | .uint value => .ok (Doubles.ofInt value)
  | .real value => .ok value
  | .null => .ok (Doubles.ofInt 0)
  | .boolean value => .ok (Doubles.ofInt (if value then 1 else 0))
  | _ => .error (.libraryLogicError "Value is not convertible to double.")

def asBool : Value D → Except Thrown Bool
  | .boolean value => .ok value
  | .null => .ok false
  | .int value => .ok (value ≠ 0)
  | .uint value => .ok (value ≠ 0)
  | .real value => .ok (Doubles.exact value ≠ some 0)
  | _ => .error (.libraryLogicError "Value is not convertible to bool.")

def asString : Value D → Except Thrown Bytes
  | .null => .ok []
  | .string text => .ok text
  | .boolean value => .ok (ascii (if value then "true" else "false"))
  | .int value =>
    .ok (if 0 ≤ value then toDecimal value.toNat else ascii "-" ++ toDecimal (-value).toNat)
  | .uint value => .ok (toDecimal value)
  | .real value => .ok (Doubles.toText value)
  | _ => .error (.libraryLogicError "Type is not convertible to string")

end Conversions

/-! ## Members -/

section Members

variable {D : Type}

/-- `Value::find`. -/
def find (key : Bytes) : Value D → Except Thrown (Option (Value D))
  | .null => .ok none
  | .object members => .ok (members.lookup key)
  | _ => .error (.libraryLogicError
      "in Json::Value::find(key, end, found): requires objectValue or nullValue")

/-- `Value::operator[]` with a key, of a value that may be changed: a member that is missing is
added as null. -/
def member (key : Bytes) : Value D → Except Thrown (Value D)
  | .null => .ok .null
  | .object members => .ok ((members.lookup key).getD .null)
  | _ => .error (.libraryLogicError
      "in Json::Value::resolveReference(): requires objectValue")

/-- The elements that `Value::size` and `Value::operator[]` with an index give in a loop. -/
def elements : Value D → Except Thrown (List (Value D))
  | .array items => .ok items
  | .object (_ :: _) => .error (.libraryLogicError
      "in Json::Value::operator[](ArrayIndex)const: requires arrayValue")
  | _ => .ok []

/-- `Value::asCString`, which is read up to its first zero. -/
def asCString : Value D → Except Thrown Bytes
  | .string text => .ok (text.takeWhile (· ≠ 0))
  | _ => .error (.libraryLogicError "in Json::Value::asCString(): requires stringValue")

end Members

end Value

end OpenDataCon.JSON
